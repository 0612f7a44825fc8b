import Mathlib.Data.Prod.Lex
import Mathlib.Data.String.Basic
import MinimalRouter.Lib.Result
import MinimalRouter.Lib.Retention

namespace MinimalRouter.Config

open Lib Lib.Result

def auditRetention : Nat := 5000

def highVolumeAuditRetention : Nat := 1000

def highVolumeAuditEventTypes : List String :=
  ["access.trusted_network_rejected", "auth.unauthorized", "auth.login_rate_limited",
    "auth.cross_site_rejected", "auth.origin_rejected", "auth.csrf_rejected",
    "auth.read_only_rejected"]

def isHighVolumeAuditEvent (eventType : String) : Bool :=
  highVolumeAuditEventTypes.contains eventType

structure AuditEvent where
  (id eventType actor timestamp detailsJson : String)

namespace AuditEvent

def rank (e : AuditEvent) : String ×ₗ String := toLex (e.timestamp, e.id)

def highVolume (e : AuditEvent) : Bool := isHighVolumeAuditEvent e.eventType

theorem id_of_rank (a b : AuditEvent) (h : a.rank = b.rank) : a.id = b.id :=
  congrArg (fun r => (ofLex r).2) h

end AuditEvent

structure AuditLog where
  rows : List AuditEvent := []
  exportedAt : Option String := none
  nodup : (rows.map (·.id)).Nodup := by exact List.nodup_nil

/-- A call, with the encoding of its details, the random part of its identifier, the two readings of
the clock, and how the transaction ends. -/
structure AuditCall where
  (eventType actor : String)
  details : List (String × String)
  (detailsJson entropy : Except String String)
  (timestamp exportedAt : String)
  commit : Except String Unit := .ok ()

namespace AuditLog

variable {log log' : AuditLog} {c : AuditCall}

def pruneHighVolume (eventType : String) (events : List AuditEvent) : List AuditEvent :=
  if isHighVolumeAuditEvent eventType
    then retain AuditEvent.rank (·.id) AuditEvent.highVolume highVolumeAuditRetention events
    else events

def prune (eventType : String) (events : List AuditEvent) : List AuditEvent :=
  retain AuditEvent.rank (·.id) (fun _ => true) auditRetention (pruneHighVolume eventType events)

theorem pruneHighVolume_sublist : (pruneHighVolume eventType events).Sublist events := by
  unfold pruneHighVolume
  split
  · exact retain_sublist
  · exact .refl _

theorem prune_sublist : (prune eventType events).Sublist events :=
  retain_sublist.trans pruneHighVolume_sublist

def insert (log : AuditLog) (event : AuditEvent) (exportedAt : Option String) :
    Except String AuditLog :=
  if h : event.id ∈ log.rows.map (·.id) then .error "insert audit event"
  else .ok ⟨prune event.eventType (event :: log.rows), exportedAt,
    List.Nodup.sublist (prune_sublist.map _) (List.nodup_cons.mpr ⟨h, log.nodup⟩)⟩

def exported (log : AuditLog) (c : AuditCall) : Option String :=
  if c.eventType == "api.mutation" && c.details.lookup "path" == some "/api/v1/backup/export" &&
      (c.details.lookup "status").any (·.toList.head? == some '2')
    then some c.exportedAt else log.exportedAt

/-- The checks, which leave the encoded details. -/
def checked (c : AuditCall) : Except String String :=
  if c.eventType = "" ∨ 96 < c.eventType.utf8ByteSize ∨ c.actor = "" ∨ 255 < c.actor.utf8ByteSize
    then .error "invalid audit event metadata"
  else match c.detailsJson with
    | .ok json => if json.utf8ByteSize ≤ 4096 then .ok json else .error "invalid audit event details"
    | .error _ => .error "invalid audit event details"

def appendAuditEvent (log : AuditLog) (c : AuditCall) : Except String AuditLog := do
  let json ← checked c
  let token ← c.entropy.mapError ("generate audit event ID: " ++ ·)
  let log' ← log.insert ⟨"audit-" ++ token, c.eventType, c.actor, c.timestamp, json⟩ (log.exported c)
  c.commit
  return log'

def listAuditEvents (log : AuditLog) (limit : Int) : List AuditEvent :=
  top AuditEvent.rank (if limit ≤ 0 then 100 else min limit.toNat 500) log.rows

/-- A call that fails leaves the log as it was. -/
def after (log : AuditLog) (c : AuditCall) : AuditLog := (log.appendAuditEvent c).toOption.getD log

/-- What a call that succeeds records, and what that leaves of the log. -/
structure Records (log : AuditLog) (c : AuditCall) (event : AuditEvent) (log' : AuditLog) : Prop where
  id : c.entropy.map ("audit-" ++ ·) = .ok event.id
  eventType : event.eventType = c.eventType
  actor : event.actor = c.actor
  timestamp : event.timestamp = c.timestamp
  detailsJson : c.detailsJson = .ok event.detailsJson
  nodup : ((event :: log.rows).map (·.id)).Nodup
  rows : log'.rows = prune event.eventType (event :: log.rows)

theorem detailsJson_of_checked (h : checked c = .ok json) : c.detailsJson = .ok json := by
  unfold checked at h
  split at h
  · cases h
  split at h
  · next hjson =>
    split at h
    · cases h
      exact hjson
    · cases h
  · cases h

theorem records_of_append (h : log.appendAuditEvent c = .ok log') :
    ∃ event, log.Records c event log' := by
  obtain ⟨_, hjson, h⟩ := bind_eq_ok.mp h
  obtain ⟨token, htoken, h⟩ := bind_eq_ok.mp h
  obtain ⟨s, hinsert, h⟩ := bind_eq_ok.mp h
  obtain ⟨-, -, h⟩ := bind_eq_ok.mp h
  cases h
  unfold insert at hinsert
  split at hinsert
  · cases hinsert
  next hnew =>
    cases hinsert
    exact ⟨_, map_eq_ok.mpr ⟨token, mapError_eq_ok.mp htoken, rfl⟩, rfl, rfl, rfl,
      detailsJson_of_checked hjson, List.nodup_cons.mpr ⟨hnew, log.nodup⟩, rfl⟩

theorem records_after (log : AuditLog) (c : AuditCall) :
    log.after c = log ∨ ∃ event, log.Records c event (log.after c) := by
  rw [after]
  cases h : log.appendAuditEvent c with
  | error => exact .inl rfl
  | ok => exact .inr (records_of_append h)

/-- How many of the events above one are not rejections. -/
def others (log : AuditLog) (row : AuditEvent) : Nat :=
  log.rows.countP fun y => decide (row.rank < y.rank) && !y.highVolume

structure Bounded (log : AuditLog) : Prop where
  highVolume : log.rows.countP AuditEvent.highVolume ≤ highVolumeAuditRetention
  total : log.rows.length ≤ auditRetention

theorem Records.pool_le (h : log.Records c event log') (hb : log.Bounded) :
    (pruneHighVolume event.eventType (event :: log.rows)).countP AuditEvent.highVolume ≤
      highVolumeAuditRetention := by
  unfold pruneHighVolume
  split
  · exact countP_retain_le h.nodup
  · next hlow =>
    have hcount := List.countP_cons_of_neg (p := AuditEvent.highVolume) (l := log.rows) (a := event) hlow
    exact hcount ▸ hb.highVolume

theorem Records.nodup_pool (h : log.Records c event log') :
    ((pruneHighVolume event.eventType (event :: log.rows)).map (·.id)).Nodup :=
  h.nodup.sublist (pruneHighVolume_sublist.map _)

theorem Records.bounded (h : log.Records c event log') (hb : log.Bounded) : log'.Bounded := by
  have hrows := h.rows
  rw [prune] at hrows
  refine ⟨?_, ?_⟩
  · rw [hrows]
    exact (retain_sublist.countP_le).trans (h.pool_le hb)
  · have htotal := hrows ▸ countP_retain_le h.nodup_pool
    rwa [List.countP_true] at htotal

/-- Of the events above one that is dropped at most the pool of the rejections are rejections. -/
theorem Records.above_of_dropped (h : log.Records c event log') (hb : log.Bounded)
    (hrow : row ∈ log.rows) (hlow : row.highVolume = false) (hgone : row ∉ log'.rows) :
    4000 ≤ log'.others row := by
  have hmiddle : row ∈ pruneHighVolume event.eventType (event :: log.rows) := by
    unfold pruneHighVolume
    split
    · exact (mem_retain h.nodup AuditEvent.id_of_rank (List.mem_cons_of_mem _ hrow)).mpr (.inl hlow)
    · exact List.mem_cons_of_mem _ hrow
  have hrows := h.rows
  rw [prune] at hrows
  have habove := hrows ▸
    le_countP_retain h.nodup_pool AuditEvent.id_of_rank hmiddle (hrows ▸ hgone)
  simp only [Bool.and_true] at habove
  have hpool := (h.bounded hb).highVolume
  rw [List.countP_eq_countP_filter_add _ _ AuditEvent.highVolume, List.countP_filter,
    List.countP_filter] at habove
  have hle : log'.rows.countP (fun y => decide (row.rank < y.rank) && y.highVolume) ≤
      log'.rows.countP AuditEvent.highVolume :=
    List.countP_mono_left fun y _ hy => (Bool.and_eq_true_iff.mp hy).2
  unfold auditRetention at habove
  unfold highVolumeAuditRetention at hpool
  exact show 4000 ≤ log'.rows.countP _ by omega

theorem bounded_run (calls : List AuditCall) (hb : log.Bounded) :
    (calls.foldl after log).Bounded := by
  induction calls generalizing log with
  | nil => exact hb
  | cons c calls ih =>
    refine ih ?_
    rcases log.records_after c with h | ⟨_, h⟩
    · rwa [h]
    · exact h.bounded hb

theorem Records.others_le (h : log.Records c event log') (hhigh : event.highVolume = true)
    (row : AuditEvent) : log'.others row ≤ log.others row := by
  have hle := (h.rows ▸ prune_sublist : log'.rows.Sublist (event :: log.rows)).countP_le
    (p := fun y => decide (row.rank < y.rank) && !y.highVolume)
  rwa [List.countP_cons_of_neg (by simp [hhigh])] at hle

theorem mem_of_rejections (hb : log.Bounded) (hrow : row ∈ log.rows) (hlow : row.highVolume = false)
    (hothers : log.others row < 4000) (calls : List AuditCall)
    (hcalls : ∀ c ∈ calls, isHighVolumeAuditEvent c.eventType = true) :
    row ∈ (calls.foldl after log).rows := by
  induction calls generalizing log with
  | nil => exact hrow
  | cons c calls ih =>
    obtain ⟨hc, hcalls⟩ := List.forall_mem_cons.mp hcalls
    rcases log.records_after c with h | ⟨_, h⟩
    · rw [List.foldl_cons, h]
      exact ih hb hrow hothers hcalls
    have hle := h.others_le (by rw [AuditEvent.highVolume, h.eventType, hc]) row
    refine ih (h.bounded hb) ?_ (by omega) hcalls
    by_contra hgone
    have habove := h.above_of_dropped hb hrow hlow hgone
    omega

/-- After any calls: the limits of the log after another one, what it may drop that is not a
rejection, and that no number of rejections drops more. -/
theorem rejections_stay_in_pool (calls : List AuditCall)
    (h : (calls.foldl after {}).appendAuditEvent c = .ok log') :
    log'.rows.countP AuditEvent.highVolume ≤ 1000 ∧ log'.rows.length ≤ 5000 ∧
      (∀ row ∈ (calls.foldl after {}).rows, row.highVolume = false → row ∉ log'.rows →
        4000 ≤ log'.others row) ∧
      ∀ row ∈ log'.rows, row.highVolume = false → log'.others row < 4000 →
        ∀ rejections : List AuditCall,
          (∀ r ∈ rejections, isHighVolumeAuditEvent r.eventType = true) →
            row ∈ (rejections.foldl after log').rows := by
  have hb : Bounded (calls.foldl after {}) := bounded_run calls ⟨Nat.zero_le _, Nat.zero_le _⟩
  obtain ⟨_, hevent⟩ := records_of_append h
  have hb' := hevent.bounded hb
  exact ⟨hb'.highVolume, hb'.total, fun row => hevent.above_of_dropped hb,
    fun row hrow hlow hothers => mem_of_rejections hb' hrow hlow hothers⟩

/-- How many events rank above one. -/
def above (log : AuditLog) (event : AuditEvent) : Nat :=
  log.rows.countP fun y => decide (event.rank < y.rank)

def abovePool (log : AuditLog) (event : AuditEvent) : Nat :=
  log.rows.countP fun y => decide (event.rank < y.rank) && y.highVolume

theorem Records.mem_iff (h : log.Records c event log') : event ∈ log'.rows ↔
    (event.highVolume = true → log.abovePool event < highVolumeAuditRetention) ∧
      log.above event < auditRetention := by
  rw [h.rows, prune]
  have hpool : (event :: log.rows).countP
      (fun y => decide (event.rank < y.rank) && y.highVolume) = log.abovePool event :=
    List.countP_cons_of_neg (by simp)
  have hself : (event :: log.rows).countP (fun y => decide (event.rank < y.rank)) =
      log.above event := List.countP_cons_of_neg (by simp)
  have hmiddle : event ∈ pruneHighVolume event.eventType (event :: log.rows) ↔
      (event.highVolume = true → log.abovePool event < highVolumeAuditRetention) := by
    unfold pruneHighVolume
    split
    · next hhigh =>
      rw [mem_retain h.nodup AuditEvent.id_of_rank List.mem_cons_self, hpool]
      simp [show event.highVolume = true from hhigh]
    · next hlow => simp [show ¬event.highVolume = true from hlow]
  by_cases hin : event ∈ pruneHighVolume event.eventType (event :: log.rows)
  · have hcount : (pruneHighVolume event.eventType (event :: log.rows)).countP
        (fun y => decide (event.rank < y.rank)) = log.above event := by
      have hle := hmiddle.mp hin
      unfold pruneHighVolume
      split
      · next hhigh => rw [countP_retain h.nodup AuditEvent.id_of_rank (hpool ▸ hle hhigh), hself]
      · exact hself
    rw [mem_retain h.nodup_pool AuditEvent.id_of_rank hin, and_iff_right (hmiddle.mp hin)]
    simp [hcount]
  · exact iff_of_false (fun hmem => hin (retain_sublist.subset hmem)) fun hc => hin (hmiddle.mpr hc.1)

/-- The event of a call is stored and listed at its place exactly if fewer events than are kept, of
its pool and of all, have a later time stamp. -/
theorem recorded_iff (h : log.appendAuditEvent c = .ok log') : ∃ event, log.Records c event log' ∧
      ((event ∈ log'.rows ∧ ∀ limit : Int,
          log'.above event < (if limit ≤ 0 then 100 else min limit.toNat 500) →
            (log'.listAuditEvents limit)[log'.above event]? = some event) ↔
        (event.highVolume = true → log.abovePool event < 1000) ∧ log.above event < 5000) := by
  obtain ⟨event, hevent⟩ := records_of_append h
  refine ⟨event, hevent, (and_iff_left_of_imp fun hmem limit hlimit => ?_).trans hevent.mem_iff⟩
  exact getElem?_top (nodup_keys log'.nodup AuditEvent.id_of_rank) hmem hlimit

def entry (eventType timestamp token : String) : AuditCall :=
  ⟨eventType, "192.168.1.50", [], .ok "\x7b\x7d", .ok token, timestamp, timestamp, .ok ()⟩

abbrev rejection : String → String → AuditCall := entry "auth.unauthorized"

def token (n : Nat) : String := String.ofList (List.replicate n 'A')

theorem token_length (n : Nat) : ("audit-" ++ token n).length = n + 6 := by
  have : "audit-".length = 6 := by decide
  simp [token, this, Nat.add_comm]

def ahead : String := "2027-01-01 00:00:00 +0000 UTC"

def corrected : String := "2026-01-01 00:00:00 +0000 UTC"

/-- A login, and after it requests without a session. -/
def burst : Nat → List AuditCall
  | 0 => [entry "auth.login_succeeded" ahead (token 0)]
  | n + 1 => burst n ++ [rejection ahead (token (n + 1))]

theorem recorded_after_step_back : ∃ log' event,
    Records ((burst 3).foldl after {}) (rejection corrected (token 4)) event log' ∧
      event ∈ log'.rows ∧ (log'.listAuditEvents 100)[log'.above event]? = some event := by
  have h : ((burst 3).foldl after {}).appendAuditEvent (rejection corrected (token 4)) = .ok _ := rfl
  obtain ⟨event, hevent, hiff⟩ := recorded_iff h
  have hlength : ((burst 3).foldl after {}).rows.length = 4 := by decide +kernel
  have hpool : ((burst 3).foldl after {}).abovePool event ≤ 4 := hlength ▸ List.countP_le_length
  have habove : ((burst 3).foldl after {}).above event ≤ 4 := hlength ▸ List.countP_le_length
  obtain ⟨hmem, hlisted⟩ := hiff.mpr ⟨fun _ => by omega, by omega⟩
  refine ⟨_, event, hevent, hmem, hlisted 100 ?_⟩
  exact (List.countP_le_length.trans (by decide +kernel)).trans_lt (show 5 < 100 by decide)

theorem prune_eq_self (hid : (events.map AuditEvent.id).Nodup)
    (hpool : events.countP AuditEvent.highVolume ≤ 1000) (h : events.length ≤ 5000) :
    prune eventType events = events := by
  have hsame : pruneHighVolume eventType events = events := by
    unfold pruneHighVolume
    split
    · exact retain_eq_self hid AuditEvent.id_of_rank hpool
    · rfl
  rw [prune, hsame]
  exact retain_eq_self hid AuditEvent.id_of_rank (List.countP_le_length.trans h)

/-- The identifiers so far are shorter than the next. -/
theorem append_rejection (timestamp : String) (h : ∀ row ∈ log.rows, row.id.length < n + 6) :
    ∃ event log', log.appendAuditEvent (rejection timestamp (token n)) = .ok log' ∧
      log.Records (rejection timestamp (token n)) event log' ∧ event.highVolume = true ∧
      event.id = "audit-" ++ token n := by
  have hnew : "audit-" ++ token n ∉ log.rows.map (·.id) := by
    intro hmem
    obtain ⟨row, hrow, hid⟩ := List.mem_map.mp hmem
    exact absurd (h row hrow) (by rw [hid, token_length]; exact Nat.lt_irrefl _)
  have happend : ∃ log', log.appendAuditEvent (rejection timestamp (token n)) = .ok log' :=
    ⟨_, bind_eq_ok.mpr ⟨_, rfl, bind_eq_ok.mpr ⟨token n, rfl, bind_eq_ok.mpr ⟨_, dif_neg hnew, rfl⟩⟩⟩⟩
  obtain ⟨log', happend⟩ := happend
  obtain ⟨event, hevent⟩ := records_of_append happend
  refine ⟨event, log', happend, hevent, ?_, (Except.ok.inj hevent.id).symm⟩
  rw [AuditEvent.highVolume, hevent.eventType]
  exact show isHighVolumeAuditEvent "auth.unauthorized" = true by decide

def login : AuditEvent := ⟨"audit-", "auth.login_succeeded", "192.168.1.50", ahead, "\x7b\x7d"⟩

/-- The log after a burst that its pool has room for. -/
structure Burst (n : Nat) (log : AuditLog) : Prop where
  length : log.rows.length = n + 1
  rejected : log.rows.countP AuditEvent.highVolume = n
  login : login ∈ log.rows
  rows : ∀ row ∈ log.rows, row.timestamp = ahead ∧ row.id.length < n + 7

theorem burst_rows (hn : n ≤ 1000) : Burst n ((burst n).foldl after {}) := by
  induction n with
  | zero => exact ⟨rfl, rfl, List.mem_singleton.mpr rfl, by decide +kernel⟩
  | succ n ih =>
  obtain ⟨hlength, hrejected, hlogin, hrows⟩ := ih (by omega)
  obtain ⟨_, log', happend, hevent, hhigh, hid⟩ :=
    append_rejection ahead fun row hrow => (hrows row hrow).2
  have hlog' := hevent.rows
  rw [prune_eq_self hevent.nodup (by rw [List.countP_cons_of_pos hhigh]; omega)
    (by rw [List.length_cons]; omega)] at hlog'
  have hburst : (burst (n + 1)).foldl after {} = log' := by
    rw [burst, List.foldl_append, List.foldl_cons, List.foldl_nil, after, happend]
    rfl
  rw [hburst]
  refine ⟨?_, ?_, ?_, ?_⟩ <;> rw [hlog']
  · rw [List.length_cons, hlength]
  · rw [List.countP_cons_of_pos hhigh, hrejected]
  · exact List.mem_cons_of_mem _ hlogin
  · refine List.forall_mem_cons.mpr ⟨⟨hevent.timestamp, ?_⟩, fun row hrow => ⟨(hrows row hrow).1, ?_⟩⟩
    · rw [hid, token_length]
      omega
    · have := (hrows row hrow).2
      omega

theorem length_eq_add (events : List AuditEvent) : events.length =
    events.countP AuditEvent.highVolume + events.countP (fun row => !row.highVolume) := by
  simpa using events.length_eq_countP_add_countP AuditEvent.highVolume

/-- A burst longer than its pool drops rejections, and not the login before it. -/
theorem rejections_stay_in_pool_after_burst : ∃ log',
    ((burst 1000).foldl after {}).appendAuditEvent (rejection ahead (token 1001)) = .ok log' ∧
      log'.rows.length ≤ ((burst 1000).foldl after {}).rows.length ∧
      login ∈ log'.rows ∧ ∀ rejections : List AuditCall,
        (∀ r ∈ rejections, isHighVolumeAuditEvent r.eventType = true) →
          login ∈ (rejections.foldl after log').rows := by
  obtain ⟨_, _, hlogin, hrows⟩ := burst_rows (Nat.le_refl 1000)
  obtain ⟨event, log', happend, hevent, hhigh, -⟩ :=
    append_rejection ahead fun row hrow => (hrows row hrow).2
  obtain ⟨_, -, hdropped, hstays⟩ := rejections_stay_in_pool (burst 1000) happend
  have hlow : log'.rows.countP (fun row => !row.highVolume) ≤ 1 := by
    have hle := (hevent.rows ▸ prune_sublist : log'.rows.Sublist (event :: _)).countP_le
      (p := fun row => !row.highVolume)
    rw [List.countP_cons_of_neg (by simp [hhigh])] at hle
    have hsplit := length_eq_add ((burst 1000).foldl after {}).rows
    omega
  have hothers : ∀ row, log'.others row ≤ 1 := fun row =>
    (List.countP_mono_left fun y _ hy => (Bool.and_eq_true_iff.mp hy).2).trans hlow
  have hkept : login ∈ log'.rows := by
    by_contra hgone
    have hfull := hdropped login hlogin (by decide) hgone
    have hfew := hothers login
    omega
  refine ⟨log', happend, ?_, hkept,
    hstays login hkept (by decide) ((hothers login).trans_lt (by decide))⟩
  have hsplit := length_eq_add log'.rows
  omega

/-- The first rejection after the clock was corrected is dropped by the call that records it. -/
theorem rejection_lost_after_step_back : ∃ log' event,
    ((burst 1000).foldl after {}).appendAuditEvent (rejection corrected (token 1001)) = .ok log' ∧
      Records ((burst 1000).foldl after {}) (rejection corrected (token 1001)) event log' ∧
      event ∉ log'.rows := by
  obtain ⟨-, hrejected, -, hrows⟩ := burst_rows (Nat.le_refl 1000)
  obtain ⟨event, log', happend, hevent, hhigh, -⟩ :=
    append_rejection corrected fun row hrow => (hrows row hrow).2
  refine ⟨log', event, happend, hevent, fun hmem => ?_⟩
  have hlt := (hevent.mem_iff.mp hmem).1 hhigh
  have hall : ((burst 1000).foldl after {}).abovePool event = 1000 := by
    refine (List.countP_congr fun row hrow => ?_).trans hrejected
    have hrank : event.rank < row.rank := by
      refine Prod.Lex.toLex_lt_toLex.mpr (.inl ?_)
      rw [hevent.timestamp, (hrows row hrow).1]
      exact show corrected < ahead by decide +kernel
    rw [decide_eq_true hrank, Bool.true_and]
  exact absurd hlt (by rw [hall]; decide)

end AuditLog

end MinimalRouter.Config
