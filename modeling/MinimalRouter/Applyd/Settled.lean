import MinimalRouter.Applyd.ConfirmGate

namespace MinimalRouter.Applyd

open Goish Config Apply Lib

variable {F : Type} [DecidableEq F]

def commits (req : ApplyRequest) : Bool :=
  match req.op with
  | .commitConfirmed => true
  | .applyAll => !(req.requireConfirmation || req.deferLastGood)
  | .reconcile => !(req.requireConfirmation || req.deferLastGood)
  | _ => false

structure Holds (d : Disk F) (cfg : SystemConfig) : Prop where
  lastGood : d.lastGood.map marshal = some (marshal cfg)
  pending : d.pending = none

section Disk

omit [DecidableEq F]

variable {d : Disk F}

theorem Holds.of_eq (h : Holds d cfg) (hlastGood : d'.lastGood = d.lastGood)
    (hpending : d'.pending = d.pending ∨ d'.pending = none) : Holds d' cfg := by
  refine ⟨by rw [hlastGood, h.lastGood], ?_⟩
  rcases hpending with hpending | hpending
  · rw [hpending, h.pending]
  · exact hpending

theorem Holds.congr (h : Holds d cfg) (hcfg : marshal cfg = marshal cfg') : Holds d cfg' :=
  ⟨by rw [h.lastGood, hcfg], h.pending⟩

theorem holds_of_folds (hlastGood : es.foldl Effect.onLastGood d.lastGood = some cfg)
    (hpending : es.foldl Effect.onPending d.pending = none) : Holds (d.applyAll es) cfg :=
  ⟨by rw [Disk.lastGood_applyAll, hlastGood]; rfl, by rw [Disk.pending_applyAll, hpending]⟩

end Disk

section Run

variable {env : HelperEnv} {h : Helper F}

theorem commits_transactional (hcommits : commits req = true) : req.op.transactional = true := by
  cases hop : req.op <;> simp_all [commits, OperationType.transactional]

theorem commits_of_marshal_eq (hreq : req.op.transactional = true) (hq : commits q = true)
    (hsame : marshal q = marshal req) :
    commits req = true ∧ marshal q.config = marshal req.config := by
  obtain ⟨-, hop, hconfig, hconfirm, hdefer⟩ := ApplyRequest.sameContent_of_marshal_eq hsame
  have hop := OperationType.eq_of_asStr_eq (commits_transactional hq) hreq hop
  refine ⟨?_, hconfig⟩
  simp only [commits, ← hop, ← hconfirm, ← hdefer]
  exact hq

omit [DecidableEq F] in
theorem Applied.holds (hmode : (req.requireConfirmation || req.deferLastGood) = false)
    (hran : Applied a env.apply req h.disk h.runtime ran)
    (hr : ran.response.verifiedSuccess = true) : Holds (h.disk.applyAll ran.effects) req.config := by
  cases hran with
  | refused hrefused =>
    exact absurd hr (by simp [(admission_refusal _ hrefused).unverified])
  | undone hprep hwritten hundone => exact absurd hr (by simp [hundone.unverified])
  | pended hprep hactive hpended => exact absurd hpended (by simp [hmode])
  | committed =>
    apply holds_of_folds
    · rw [foldl_onLastGood_activation]
      rfl
    · rw [foldl_onPending_activation]
      rfl
  | uncleared => cases hr

theorem Executed.holds (hran : Executed a env req h ran) (hcommits : commits req = true)
    (hr : ran.response.verifiedSuccess = true) : Holds (h.disk.applyAll ran.effects) req.config := by
  cases hran with
  | confirmed hop => simp [commits, hop] at hcommits
  | committed hop hran =>
    cases hran with
    | refused hrefused => exact absurd hr (by simp [hrefused.unverified])
    | unsaved | uncleared => cases hr
    | committed => exact holds_of_folds rfl rfl
  | applied hconfirm hcommit hran =>
    refine hran.holds ?_ hr
    cases hop : req.op <;> simp_all [commits]

end Run

section Journal

variable (a : Appliance F)

def Settles (d : Disk F) (r : TransactionRecord F) : Prop :=
  r.response.verifiedSuccess = true → ∀ q, a.digest.hashRequest q = some r.configHash →
    commits q = true → Holds d q.config

/-- The journal, remembered and on file, agrees with the other files. -/
structure JournalSettled (h : Helper F) : Prop where
  memory : ∀ r, h.memory = some r → Settles a h.disk r
  file : ∀ r, h.disk.lastTransaction = some r → Settles a h.disk r

omit [DecidableEq F] in
theorem journalSettled_of_empty (hmemory : h.memory = none)
    (hfile : h.disk.lastTransaction = none) : JournalSettled a h :=
  ⟨fun r hr => by simp [hmemory] at hr, fun r hr => by simp [hfile] at hr⟩

variable {a} {h : Helper F}

section

omit [DecidableEq F]

theorem Settles.of_eq (hsettles : Settles a d r) (hlastGood : d'.lastGood = d.lastGood)
    (hpending : d'.pending = d.pending ∨ d'.pending = none) : Settles a d' r :=
  fun hr q hq hcommits => (hsettles hr q hq hcommits).of_eq hlastGood hpending

theorem Rebooted.files (hs : Rebooted h s) : s.helper.disk.lastGood = h.disk.lastGood ∧
      (s.helper.disk.pending = h.disk.pending ∨ s.helper.disk.pending = none) ∧
      s.helper.disk.lastTransaction = h.disk.lastTransaction := by
  have hjournal := lastTransaction_applyAll h.disk hs.privileged
  obtain ⟨_, _, heffects, harts, htail⟩ := hs.effects
  rw [← hs.disk] at hjournal
  refine ⟨?_, ?_, hjournal⟩
  · rw [hs.disk, Disk.lastGood_applyAll, heffects, List.foldl_append,
      foldl_onLastGood_artifacts _ harts]
    rcases htail with rfl | rfl <;> rfl
  rw [hs.disk, Disk.pending_applyAll, heffects, List.foldl_append,
    foldl_onPending_artifacts _ harts]
  rcases htail with rfl | rfl
  · exact .inl rfl
  · exact .inr rfl

theorem JournalSettled.restart (hsettled : JournalSettled a h) (env : StartupEnv) :
    JournalSettled a (reconcileStartup a env h).helper := by
  have hs := rebooted_reconcileStartup a env h
  obtain ⟨hlastGood, hpending, hjournal⟩ := hs.files
  refine ⟨fun r hr => ?_, fun r hr => ?_⟩
  · simp [hs.memory] at hr
  · exact (hsettled.file r (hjournal ▸ hr)).of_eq hlastGood hpending

theorem JournalSettled.forget (hsettled : JournalSettled a h) :
    JournalSettled a { h with memory := none } :=
  ⟨fun r hr => by simp at hr, hsettled.file⟩

theorem Settles.of_unverified (hr : r.response.verifiedSuccess = false) : Settles a d r :=
  fun htrue => absurd htrue (by simp [hr])

end

variable {req : ApplyRequest} {hash : F}

omit [DecidableEq F] in
theorem loadLastTransaction_found {read : CmdResult}
    (hload : loadLastTransaction read d = .found r) : d.lastTransaction = some r := by
  cases hd : d.lastTransaction with
  | none => cases read <;> simp [loadLastTransaction, loadFile, Loaded.validated, hd] at hload
  | some =>
    rcases loadLastTransaction_some read hd with hfound | ⟨e, hunreadable⟩
    · rw [hfound] at hload
      exact congrArg some (Loaded.found.inj hload)
    · rw [hunreadable] at hload
      cases hload

theorem found_of_replay
    (hreplay : replayTransactionResponse req.id hash loaded canonicalReconcile = some response)
    (hr : response.verifiedSuccess = true) :
    ∃ r, loaded = .found r ∧ r.id = req.id ∧ r.configHash = hash ∧ r.response = response := by
  unfold replayTransactionResponse at hreplay
  cases loaded with
  | notFound => cases hreplay
  | unreadable =>
    dsimp only at hreplay
    split at hreplay <;> cases hreplay
    cases hr
  | found r =>
  refine ⟨r, rfl, ?_⟩
  dsimp only at hreplay
  split at hreplay
  · split at hreplay <;> cases hreplay
    cases hr
  · next hid =>
    split at hreplay
    · cases hreplay
      cases hr
    · next hhash =>
      split at hreplay
      · cases hreplay
        cases hr
      · exact ⟨by simpa using hid, by simpa using hhash, Option.some.inj hreplay⟩

theorem record_of_consultJournal (hreplay : consultJournal env req h hash = some response)
    (hr : response.verifiedSuccess = true) :
    ∃ r, (h.memory = some r ∨ h.disk.lastTransaction = some r) ∧ r.id = req.id ∧
      r.configHash = hash ∧ r.response = response := by
  rcases Option.or_eq_some_iff.mp hreplay with hmemory | ⟨-, hfile⟩
  · cases hm : h.memory with
    | none => simp [hm] at hmemory
    | some m =>
      simp only [hm] at hmemory
      obtain ⟨r, hr', hfound⟩ := found_of_replay hmemory hr
      cases hr'
      exact ⟨m, .inl rfl, hfound⟩
  · obtain ⟨r, hload, hfound⟩ := found_of_replay hfile hr
    exact ⟨r, .inr (loadLastTransaction_found hload), hfound⟩

section

omit [DecidableEq F]

theorem Closed.holds {ran : Ran F} {record : TransactionRecord F}
    (hclosed : Closed env req hash ran.response record written)
    (hholds : Holds ((intended env h req hash).disk.applyAll ran.effects) cfg) :
    Holds (h.disk.applyAll
      (.journal (intentRecord env req hash) :: .operation req :: (ran.effects ++ written))) cfg := by
  have hdisk : h.disk.applyAll
      (.journal (intentRecord env req hash) :: .operation req :: (ran.effects ++ written)) =
        ((intended env h req hash).disk.applyAll ran.effects).applyAll written :=
    Disk.applyAll_append _ _ _
  rw [hdisk]
  refine hholds.of_eq ?_ (.inl ?_)
  · rw [Disk.lastGood_applyAll, (hclosed.foldl _ none).1]
  · rw [Disk.pending_applyAll, (hclosed.foldl none _).2]

theorem settles_of_run (hfree : a.digest.CollisionFree)
    (hhash : a.digest.hashRequest req = some hash) (hop : req.op.transactional = true)
    (hr : r.configHash = hash)
    (hholds : commits req = true → r.response.verifiedSuccess = true → Holds d req.config) :
    Settles a d r := by
  intro hverified q hq hcommits
  have hsame : marshal q = marshal req := hfree _ _ _ (hr ▸ hq) hhash
  obtain ⟨hcommits, hconfig⟩ := commits_of_marshal_eq hop hcommits hsame
  exact (hholds hcommits hverified).congr hconfig.symm

theorem Closed.lastTransaction {ran : Ran F} {record : TransactionRecord F}
    (hclosed : Closed env req hash ran.response record written)
    (hprivileged : ∀ e ∈ ran.effects, e.isPrivileged = true) :
    (h.disk.applyAll (.journal (intentRecord env req hash) :: .operation req ::
      (ran.effects ++ written))).lastTransaction = some (intentRecord env req hash).stored ∨
    (h.disk.applyAll (.journal (intentRecord env req hash) :: .operation req ::
      (ran.effects ++ written))).lastTransaction =
        some (outcomeRecord env req hash ran.response).stored := by
  rw [Disk.applyAll_cons, Disk.applyAll_cons, Disk.applyAll_append]
  cases hclosed with
  | saved => exact .inr rfl
  | unsaved hwritten =>
    rcases hwritten with rfl | ⟨rfl, -⟩
    · left
      rw [Disk.applyAll_nil, lastTransaction_applyAll _ hprivileged]
      rfl
    · exact .inr rfl

end

theorem JournalSettled.processRequest (hsettled : JournalSettled a h)
    (hfree : a.digest.CollisionFree) (env : HelperEnv) (payload : Payload) :
    JournalSettled a (processRequest a env h payload).helper := by
  have hhandled := handled_processRequest a env h payload
  generalize Applyd.processRequest a env h payload = p at hhandled ⊢
  cases hhandled with
  | unread | replayed => exact hsettled
  | unrecorded hhash hfresh hwritten =>
    rcases hwritten with rfl | ⟨rfl, -⟩
    · exact hsettled
    refine ⟨fun r hr => (hsettled.memory r hr).of_eq rfl (.inl rfl), fun r hr => ?_⟩
    cases hr
    exact .of_unverified rfl
  | ran hop hhash hfresh hran hclosed =>
    have hholds := fun hcommits hr => hclosed.holds (hran.holds hcommits hr)
    refine ⟨fun r hr => ?_, fun r hr => ?_⟩
    · cases hr
      cases hclosed with
      | saved => exact settles_of_run hfree hhash hop rfl hholds
      | unsaved => exact .of_unverified rfl
    rcases hclosed.lastTransaction hran.privileged with hfile | hfile
    · cases hfile.symm.trans hr
      exact .of_unverified rfl
    · cases hfile.symm.trans hr
      exact settles_of_run hfree hhash hop rfl hholds

theorem JournalSettled.holds (hsettled : JournalSettled a h) (env : HelperEnv)
    (hcommits : commits req = true)
    (hr : (Applyd.processRequest a env h (.request req)).response.verifiedSuccess = true) :
    Holds (Applyd.processRequest a env h (.request req)).helper.disk req.config := by
  have hhandled := handled_processRequest a env h (.request req)
  generalize Applyd.processRequest a env h (.request req) = p at hhandled hr ⊢
  cases hhandled with
  | unread hunread =>
    exact absurd hr (by simp [hunread req rfl (commits_transactional hcommits)])
  | replayed hhash hreplay =>
    obtain ⟨r, hrecord, -, hhash', rfl⟩ := record_of_consultJournal hreplay hr
    subst hhash'
    rcases hrecord with hrecord | hrecord
    · exact hsettled.memory r hrecord hr req hhash hcommits
    · exact hsettled.file r hrecord hr req hhash hcommits
  | unrecorded => cases hr
  | ran hop hhash hfresh hran hclosed =>
    cases hclosed with
    | saved => exact Closed.holds .saved (hran.holds hcommits hr)
    | unsaved => cases hr

end Journal

end MinimalRouter.Applyd
