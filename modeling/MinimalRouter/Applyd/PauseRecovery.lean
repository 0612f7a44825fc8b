import MinimalRouter.Applyd.Pauses
import MinimalRouter.Goish.AddressText
import MinimalRouter.Lib.Path

namespace MinimalRouter.Applyd.Pauses

open Goish Config Lib
open Apply (ActionFailure DevicePause actionFailed)

def Doc.pauses : Doc → Option (List DevicePause)
  | array pauses => some pauses
  | record r => some r.pauses
  | invalid => none

def World.durable (w : World) : Option (List DevicePause) :=
  match w.pending, w.state with
  | some doc, _ => doc.pauses
  | none, some doc => doc.pauses
  | none, none => some []

def World.chosen (w : World) : Option (List DevicePause) :=
  match w.uncertain with
  | some record => some record.pauses
  | none => w.durable

structure Settled (list : List DevicePause) (w : World) : Prop where
  uncertain : w.uncertain = none
  pending : w.pending = none
  durable : w.durable = some list

def loaded (now : Int) (pauses : List DevicePause) : List Element :=
  pauses.filterMap fun p =>
    if 0 < p.untilUnix then
      if p.untilUnix - now ≤ 0 then none else some ⟨p.ip, some (p.untilUnix - now)⟩
    else some ⟨p.ip, none⟩

def canonical (ip : String) : Bool := (parseIpv4 ip).any (octetsString · == ip)

def Canonical (pauses : List DevicePause) : Prop := ∀ p ∈ pauses, canonical p.ip = true

structure Within (S : List DevicePause → Prop) (w : World) : Prop where
  uncertain : ∀ r, w.uncertain = some r → S r.pauses ∧ Canonical r.pauses
  pending : ∀ doc list, w.pending = some doc → doc.pauses = some list → S list
  state : ∀ doc list, w.state = some doc → doc.pauses = some list → S list
  absent : w.state = none → S []

theorem parseIp_octetsString (x : BitVec 32) : parseIp (octetsString x) = some (.v4 x) := by
  have hpercent : (octetsString x).toList.contains '%' = false := by
    rw [List.contains_eq_mem, decide_eq_false_iff_not]
    exact fun hmem => absurd (octetsString_chars x _ hmem) (by decide)
  simp only [parseIp, hpercent, parseIpv4Strict_octetsString]
  rfl

theorem canonical_octetsString (x : BitVec 32) : canonical (octetsString x) = true := by
  simp [canonical, parseIpv4, parseIp_octetsString, IP.to4]

theorem exists_of_canonical (h : canonical ip = true) : ∃ x, ip = octetsString x := by
  unfold canonical at h
  rw [Option.any_eq_true] at h
  obtain ⟨x, -, hx⟩ := h
  exact ⟨x, (beq_iff_eq.mp hx).symm⟩

theorem trim_octetsString (x : BitVec 32) : trim (octetsString x) = octetsString x :=
  trim_eq_self fun c hc => not_isWhitespace_of_addressChar (.inl (octetsString_chars x c hc))

theorem validatePauseIp_eq_ok (h : validatePauseIpForConfig value cfg = .ok ip) :
    ∃ x, parseIpv4 (trim value) = some x ∧ ip = octetsString x := by
  unfold validatePauseIpForConfig at h
  split at h
  next => cases h
  next x hx =>
  split at h
  next => cases h
  next =>
  split at h
  next => cases h
  next =>
  split at h
  next => cases h
  next =>
    cases h
    exact ⟨x, hx, rfl⟩

theorem eq_of_validatePauseIp (hvalue : canonical value = true)
    (h : validatePauseIpForConfig value cfg = .ok ip) : ip = value := by
  obtain ⟨y, rfl⟩ := exists_of_canonical hvalue
  obtain ⟨x, hx, rfl⟩ := validatePauseIp_eq_ok h
  rw [trim_octetsString, parseIpv4, parseIp_octetsString] at hx
  cases hx
  rfl

theorem renderElements_eq_ok (hcanonical : Canonical pauses)
    (h : renderElements cfg now seen pauses = .ok elements) : elements = loaded now pauses := by
  induction pauses generalizing seen elements with
  | nil =>
    cases h
    rfl
  | cons p pauses ih =>
  have hp : canonical p.ip = true := hcanonical p (List.mem_cons_self ..)
  have hrest : Canonical pauses := fun q hq => hcanonical q (List.mem_cons_of_mem _ hq)
  rw [renderElements] at h
  split at h
  next => cases h
  next => cases h
  next ip hip =>
  obtain rfl := eq_of_validatePauseIp hp hip
  split at h
  next => cases h
  next =>
  split at h
  next hpos =>
    split at h
    next hover =>
      rw [ih hrest h]
      simp only [loaded, List.filterMap_cons, if_pos hpos, if_pos hover]
    next hleft =>
    obtain ⟨es, hes, rfl⟩ := Lib.Result.map_eq_ok.mp h
    rw [ih hrest hes]
    simp only [loaded, List.filterMap_cons, if_pos hpos, if_neg hleft]
  next hforever =>
  obtain ⟨es, hes, rfl⟩ := Lib.Result.map_eq_ok.mp h
  rw [ih hrest hes]
  simp [loaded, hforever]

theorem render_eq_ok (hcanonical : Canonical pauses)
    (h : renderDevicePauseFirewall cfg pauses now deleteTable = .ok batch) :
    batch.deleteTable = deleteTable ∧ batch.elements = loaded now pauses := by
  unfold renderDevicePauseFirewall at h
  split at h
  next => cases h
  next =>
  split at h
  next => cases h
  next =>
    obtain ⟨_, hes, rfl⟩ := Lib.Result.map_eq_ok.mp h
    exact ⟨rfl, renderElements_eq_ok hcanonical hes⟩

theorem mem_byAddress : p ∈ byAddress pauses ↔ p ∈ pauses := List.mem_insertionSort _

theorem Canonical.active (h : Canonical pauses) (now : Int) :
    Canonical (activePauses pauses now) := by
  intro p hp
  exact h p (List.mem_filter.mp (mem_byAddress.mp hp)).1

theorem forall_changed {P : String → Prop} (h : ∀ p ∈ pauses, P p.ip) (hip : P ip)
    (pause : Option Int) : ∀ p ∈ changed pauses ip pause, P p.ip := by
  intro p hp
  cases pause with
  | none => exact h p (List.mem_filter.mp (mem_byAddress.mp hp)).1
  | some =>
    rcases List.mem_append.mp (mem_byAddress.mp hp) with hp | hp
    · exact h p (List.mem_filter.mp hp).1
    · rw [List.mem_singleton.mp hp]
      exact hip

theorem Canonical.changed {pauses : List DevicePause} {ip : String} (h : Canonical pauses)
    (hip : canonical ip = true) (pause : Option Int) : Canonical (changed pauses ip pause) :=
  forall_changed (P := fun ip => canonical ip = true) h hip pause

section Specs

variable {ε : Type}

abbrev Ends (clock : Set Int) (C : World → Prop) {α : Type} (post : Except ε α → World → Prop)
    (x : PauseProg ε α) (w : World) : Prop := x.Ends (Handles clock) Interrupts C post w

theorem ends_ask_bind {f : q.Answer → PauseProg ε α} (hC : C w) (hK : ∀ t, ¬ Interrupts w q t)
    (h : ∀ r t, Handles clock w q r t → t = w ∧ Ends clock C post (f r) w) :
    Ends clock C post (ask q >>= f) w := by
  have hask : (ask q >>= f : PauseProg ε α) = Attempt.ask q f := rfl
  rw [Ends, hask]
  refine Attempt.Ends.ask hC (fun t ht => absurd ht (hK t)) fun r t ht => ?_
  obtain ⟨rfl, hf⟩ := h r t ht
  exact hf

theorem ends_call_bind {g : α → PauseProg String β} (hC : C w) (hK : ∀ t, ¬ Interrupts w q t)
    (hok : ∀ r t a, Handles clock w q r t → f r = .ok a → t = w ∧ Ends clock C post (g a) w)
    (herror : ∀ r t e, Handles clock w q r t → f r = .error e → t = w ∧ post (.error e) w) :
    Ends clock C post (call q f >>= g) w := by
  have hask : (call q f >>= g : PauseProg String β) =
      Attempt.ask q fun r => Attempt.ofExcept (f r) >>= g := rfl
  rw [Ends, hask]
  refine Attempt.Ends.ask hC (fun t ht => absurd ht (hK t)) fun r t ht => ?_
  have hC' : C t := by
    cases hf : f r with
    | ok a => exact (hok r t a ht hf).1 ▸ hC
    | error e => exact (herror r t e ht hf).1 ▸ hC
  refine Attempt.Ends.ofExcept_bind hC' (fun a ha => ?_) fun e he => ?_
  · obtain ⟨rfl, hg⟩ := hok r t a ht ha
    exact hg
  · obtain ⟨rfl, hpost⟩ := herror r t e ht he
    exact hpost

theorem ends_call_atomic (hC : C w) (hdone : C done) (hK : ∀ t, Interrupts w q t → t = done)
    (h : ∀ r t, Handles clock w q r t → Atomically w (f r) done t) :
    Ends clock C (fun r t => Atomically w r done t) (call q f) w := by
  refine Attempt.Ends.ask hC (fun t ht => hK t ht ▸ hdone) fun r t ht => ?_
  have hr := h r t ht
  refine Attempt.Ends.ofExcept ?_ hr
  rcases hr with rfl | ⟨-, rfl⟩
  · exact hdone
  · exact hC

theorem ends_applyDevicePauseFirewall (hcanonical : Canonical pauses)
    (hC : ∀ table, C { w with table }) : Ends clock C (fun r t => ∃ table, t = { w with table } ∧
      (r = .ok () → ∃ now ∈ clock, table = some (loaded now pauses)))
        (applyDevicePauseFirewall pauses) w := by
  have hfail : ∀ e, ∃ table, w = { w with table } ∧
      ((.error e : Except String Unit) = .ok () → ∃ now ∈ clock, table = some (loaded now pauses)) :=
    fun e => ⟨w.table, rfl, (nomatch ·)⟩
  refine ends_call_bind (hC w.table) (fun _ => id) (fun cfg t _ ht _ => ⟨ht, ?_⟩) fun _ t e ht _ =>
    ⟨ht, hfail e⟩
  refine ends_call_bind (hC w.table) (fun _ => id) (fun r t tableExists ht hr => ⟨ht.1, ?_⟩)
    fun _ t e ht _ => ⟨ht.1, hfail e⟩
  have hexists : tableExists = w.table.isSome := ht.2 _ hr
  refine ends_ask_bind (hC w.table) (fun _ => id) fun now t hnow => ⟨hnow.1, ?_⟩
  refine Attempt.Ends.ofExcept_bind (hC w.table) (fun batch hbatch => ?_) fun e _ => hfail e
  obtain ⟨hdelete, helements⟩ := render_eq_ok hcanonical hbatch
  refine ends_call_bind (hC w.table) (fun _ => id) (fun _ t _ ht _ => ⟨ht, ?_⟩) fun _ t e ht _ =>
    ⟨ht, hfail e⟩
  have hload : w.load batch = { w with table := some (loaded now pauses) } := by
    unfold World.load
    rw [hdelete, helements, hexists]
    cases w.table <;> rfl
  have hcheck : Ends clock C (fun r t => Atomically w r (w.load batch) t) (checkAndLoad batch) w := by
    refine ends_call_bind (hC w.table) (fun _ => id) (fun _ t _ ht _ => ⟨ht, ?_⟩) fun _ t e ht _ =>
      ⟨ht, .inr ⟨⟨e, rfl⟩, rfl⟩⟩
    exact ends_call_atomic (hC w.table) (hload ▸ hC _) (fun _ => id) fun _ _ => id
  refine Attempt.Ends.outcome_bind hcheck fun r t ht => ?_
  have ht' : ∃ table, t = { w with table } ∧
      (r = .ok () → ∃ now ∈ clock, table = some (loaded now pauses)) := by
    rcases ht with rfl | ⟨⟨e, rfl⟩, rfl⟩
    · exact ⟨_, hload, fun _ => ⟨now, hnow.2, rfl⟩⟩
    · exact hfail e
  obtain ⟨table, rfl, htable⟩ := ht'
  refine ends_ask_bind (hC table) (fun _ => id) fun _ t ht => ⟨ht, ?_⟩
  exact Attempt.Ends.ofExcept (hC table) ⟨table, rfl, htable⟩

theorem ends_persistPauseRecord (hC : C w) (hput : C (w.put record)) :
    Ends clock C (fun r t => Atomically w r (w.put record) t) (persistPauseRecord record) w :=
  ends_call_atomic hC hput (fun _ => id) fun _ _ => id

theorem ends_finishPauseRecord (hC : C w) (hput : C (w.put { record with phase := "applied" }))
    (hclear : C (w.put { record with phase := "applied" }).clear) :
    Ends clock C (fun r t => r = .ok () → t = (w.put { record with phase := "applied" }).clear)
      (finishPauseRecord record) w := by
  refine Attempt.Ends.bind (ends_persistPauseRecord hC hput) (fun _ t ht => ?_) fun e _ _ =>
    (nomatch ·)
  have ht' : t = w.put { record with phase := "applied" } := by
    rcases ht with rfl | ⟨⟨e, he⟩, -⟩
    · rfl
    · cases he
  subst ht'
  have hdone : Ends clock C _ (call .clearPending id) _ :=
    ends_call_atomic hput hclear (fun _ => id) fun _ _ => id
  refine hdone.mono fun r t _ ht hr => ?_
  rcases ht with rfl | ⟨⟨e, he⟩, -⟩
  · rfl
  · cases hr.symm.trans he

end Specs

namespace Within

theorem mono (h : Within S w) (hS : ∀ l, S l → S' l) : Within S' w where
  uncertain r hr := ⟨hS _ (h.uncertain r hr).1, (h.uncertain r hr).2⟩
  pending doc l hd hl := hS _ (h.pending doc l hd hl)
  state doc l hd hl := hS _ (h.state doc l hd hl)
  absent hs := hS _ (h.absent hs)

theorem table (h : Within S w) (table : Option (List Element)) : Within S { w with table } :=
  ⟨h.uncertain, h.pending, h.state, h.absent⟩

theorem clear (h : Within S w) : Within S w.clear :=
  ⟨h.uncertain, fun _ _ hd => (nomatch hd), h.state, h.absent⟩

theorem forget (h : Within S w) : Within S { w with uncertain := none } :=
  ⟨fun _ hr => (nomatch hr), h.pending, h.state, h.absent⟩

theorem remember (h : Within S w) (hS : S record.pauses) (hcanonical : Canonical record.pauses) :
    Within S { w with uncertain := some record } := by
  refine ⟨fun r hr => ?_, h.pending, h.state, h.absent⟩
  cases hr
  exact ⟨hS, hcanonical⟩

theorem put (h : Within S w) (hS : S record.pauses) : Within S (w.put record) := by
  have hdoc : ∀ doc l, some (Doc.record record) = some doc → doc.pauses = some l → S l := by
    intro doc l hd hl
    cases hd
    cases hl
    exact hS
  unfold World.put
  split
  · exact ⟨h.uncertain, h.pending, hdoc, (nomatch ·)⟩
  · exact ⟨h.uncertain, hdoc, h.state, h.absent⟩

theorem chosen (h : Within S w) (hlist : w.chosen = some list) : S list := by
  unfold World.chosen World.durable at hlist
  cases hu : w.uncertain with
  | some r =>
    rw [hu] at hlist
    cases hlist
    exact (h.uncertain r hu).1
  | none =>
    rw [hu] at hlist
    cases hp : w.pending with
    | some doc => exact h.pending doc list hp (by simpa only [hp] using hlist)
    | none =>
      cases hs : w.state with
      | some doc => exact h.state doc list hs (by simpa only [hp, hs] using hlist)
      | none =>
        simp only [hp, hs, Option.some.injEq] at hlist
        exact hlist ▸ h.absent hs

end Within

theorem Settled.within (h : Settled list w) : Within (· = list) w := by
  have hdurable := h.durable
  unfold World.durable at hdurable
  rw [h.pending] at hdurable
  refine ⟨fun r hr => ?_, fun _ _ hd => ?_, fun doc l hd hl => ?_, fun hs => ?_⟩
  · cases h.uncertain.symm.trans hr
  · cases h.pending.symm.trans hd
  · rw [hd] at hdurable
    exact Option.some.inj (hl.symm.trans hdurable)
  · rw [hs] at hdurable
    exact Option.some.inj hdurable

theorem settled_finished (w : World) (record : DevicePauseRecord) : Settled record.pauses
      { (w.put { record with phase := "applied" }).clear with uncertain := none } :=
  ⟨rfl, rfl, rfl⟩

theorem checkRecord_eq_ok (h : checkRecord journal record = .ok r) :
    r = record ∧ Canonical record.pauses ∧ (journal = true → record.phase ≠ "applied") := by
  unfold checkRecord at h
  split at h
  next => cases h
  next =>
  split at h
  next => cases h
  next =>
  split at h
  next => cases h
  next hjournal =>
  split at h
  next hvalid =>
    cases h
    refine ⟨rfl, fun p hp => ?_, fun hj hp => hjournal ⟨hj, hp⟩⟩
    have hp := List.all_eq_true.mp hvalid.1 p hp
    exact (Bool.and_eq_true_iff.mp hp).1
  next => cases h

theorem pauses_of_decode {doc : Doc} (h : doc.decode = .ok record) :
    doc.pauses = some record.pauses := by
  cases doc <;> cases h <;> rfl

/-- A record that is read is what the helper goes by; one that is applied has no journal. -/
structure Loads (w : World) (record : DevicePauseRecord) : Prop where
  chosen : w.chosen = some record.pauses
  canonical : Canonical record.pauses
  applied : w.uncertain = none → record.phase = "applied" →
    w.pending = none ∧ w.durable = some record.pauses

theorem ends_loadPauseRecord (hC : C w) (hw : Within S w) :
    Ends clock C (fun r t => t = w ∧ ∀ record, r = .ok record → Loads w record) loadPauseRecord w := by
  refine ends_ask_bind hC (fun _ => id) fun uncertain t ht => ⟨ht.1, ?_⟩
  obtain ⟨-, rfl⟩ := ht
  cases hu : w.uncertain with
  | some record =>
    refine Attempt.Ends.pure hC ⟨rfl, fun r hr => ?_⟩
    cases hr
    refine ⟨by simp [World.chosen, hu], (hw.uncertain record hu).2, fun hn => ?_⟩
    cases hn.symm.trans hu
  | none =>
  refine ends_call_bind hC (fun _ => id) (fun r t pending ht hr => ⟨ht.1, ?_⟩)
    fun _ t e ht _ => ⟨ht.1, rfl, fun _ h => nomatch h⟩
  obtain rfl : pending = w.pending := ht.2 _ hr
  cases hp : w.pending with
  | some =>
    refine Attempt.Ends.ofExcept hC ⟨rfl, fun record hrecord => ?_⟩
    obtain ⟨decoded, hdecode, hcheck⟩ := Lib.Result.bind_eq_ok.mp hrecord
    obtain ⟨rfl, hcanonical, hphase⟩ := checkRecord_eq_ok hcheck
    refine ⟨?_, hcanonical, fun _ happlied => absurd happlied (hphase rfl)⟩
    simp [World.chosen, hu, World.durable, hp, pauses_of_decode hdecode]
  | none =>
  refine ends_call_bind hC (fun _ => id) (fun r t state ht hr => ⟨ht.1, ?_⟩)
    fun _ t e ht _ => ⟨ht.1, rfl, fun _ h => nomatch h⟩
  obtain rfl : state = w.state := ht.2 _ hr
  cases hs : w.state with
  | some =>
    refine Attempt.Ends.ofExcept hC ⟨rfl, fun record hrecord => ?_⟩
    obtain ⟨decoded, hdecode, hcheck⟩ := Lib.Result.bind_eq_ok.mp hrecord
    obtain ⟨rfl, hcanonical, -⟩ := checkRecord_eq_ok hcheck
    have hdurable : w.durable = some record.pauses := by
      simp [World.durable, hp, hs, pauses_of_decode hdecode]
    exact ⟨by simp [World.chosen, hu, hdurable], hcanonical, fun _ _ => ⟨hp, hdurable⟩⟩
  | none =>
    refine Attempt.Ends.pure hC ⟨rfl, fun record hrecord => ?_⟩
    cases hrecord
    have hdurable : w.durable = some [] := by simp [World.durable, hp, hs]
    exact ⟨by simp [World.chosen, hu, hdurable], fun _ h => (nomatch h),
      fun _ _ => ⟨hp, hdurable⟩⟩

def Returns {α : Type} (ok : α → World → Prop) : Except ActionFailure α → World → Prop
  | .ok a, t => ok a t
  | .error e, _ => ∃ message, e = .action actionRecoveryRequired message

/-- The outcome of a reconciliation that returns: one of the lists is durable, and the set of the
kernel is what of it has not run out. -/
structure Reconciled (clock : Set Int) (w : World) (pauses list : List DevicePause) (w' : World) :
    Prop where
  chosen : w.chosen = some list
  canonical : Canonical pauses
  active : ∃ t ∈ clock, pauses = activePauses list t
  settled : Settled list w'
  table : ∃ now ∈ clock, w'.table = some (loaded now pauses)

theorem ends_orFail (hx : Ends clock C post x w) :
    Ends clock C (Returns fun a t => post (.ok a) t) (orFail actionRecoveryRequired message x) w := by
  refine Attempt.Ends.mapError (hx.mono fun r t _ hr => ?_)
  cases r with
  | ok => exact hr
  | error => exact ⟨message, rfl⟩

theorem ends_settleRecord (hw : Within S w) (hS : S record.pauses)
    (happlied : w.uncertain = none → record.phase = "applied" →
      w.pending = none ∧ w.durable = some record.pauses) :
    Ends clock (Within S) (Returns fun _ t => Settled record.pauses t ∧ t.table = w.table)
      (settleRecord record w.uncertain) w := by
  unfold settleRecord
  split
  next =>
    have hput : Within S (w.put { record with phase := "applied" }) := hw.put hS
    refine Attempt.Ends.bind (ends_orFail (ends_finishPauseRecord hw hput hput.clear))
      (fun _ t ht => ?_) fun e t => id
    obtain rfl := ht rfl
    refine Attempt.Ends.ask hput.clear (fun t ht => ?_) fun _ t ht => ?_
    · exact ht ▸ hput.clear.forget
    · obtain rfl : t = _ := ht
      exact Attempt.Ends.pure hput.clear.forget ⟨settled_finished w record, rfl⟩
  next hnot =>
  have huncertain : w.uncertain = none := by
    cases hu : w.uncertain with
    | none => rfl
    | some => exact absurd (.inr (by rw [hu]; rfl)) hnot
  have hphase : record.phase = "applied" := by
    by_contra hne
    exact hnot (.inl hne)
  obtain ⟨hpending, hdurable⟩ := happlied huncertain hphase
  exact Attempt.Ends.pure hw ⟨⟨huncertain, hpending, hdurable⟩, rfl⟩

theorem ends_devicesReconcile (hw : Within S w) :
    Ends clock (Within S) (Returns fun pauses t => ∃ list, Reconciled clock w pauses list t)
      devicesReconcile w := by
  refine Attempt.Ends.bind (ends_orFail (ends_loadPauseRecord hw hw)) (fun record t ht => ?_)
    fun e t => id
  obtain ⟨rfl, hloads⟩ := ht
  have hloads := hloads record rfl
  refine ends_ask_bind hw (fun _ => id) fun now t hnow => ⟨hnow.1, ?_⟩
  have hcanonical := hloads.canonical.active now
  refine Attempt.Ends.bind (ends_orFail (ends_applyDevicePauseFirewall hcanonical hw.table))
    (fun _ t ht => ?_) fun e t => id
  obtain ⟨table, rfl, htable⟩ := ht
  refine ends_ask_bind (hw.table table) (fun _ => id) fun uncertain t ht => ⟨ht.1, ?_⟩
  obtain ⟨-, rfl⟩ := ht
  refine Attempt.Ends.bind (ends_settleRecord (hw.table table) (hw.chosen hloads.chosen)
    hloads.applied) (fun _ t' ht' => ?_) fun e t => id
  obtain ⟨hsettled, htable'⟩ := ht'
  refine Attempt.Ends.pure (hsettled.within.mono fun l hl => hl ▸ hw.chosen hloads.chosen) ?_
  exact ⟨_, hloads.chosen, hcanonical, ⟨now, hnow.2, rfl⟩, hsettled, htable' ▸ htable rfl⟩

def Between (list previous next : List DevicePause) : List DevicePause → Prop :=
  fun l => l = list ∨ l = previous ∨ l = next

/-- The outcomes of a change: it is done, it is undone, or a recovery is required. -/
def Transitioned (clock : Set Int) (previous next : List DevicePause) :
    Except ActionFailure (List DevicePause) → World → Prop
  | .ok pauses, t => pauses = next ∧ Settled next t ∧ ∃ now ∈ clock, t.table = some (loaded now next)
  | .error e, t => (∃ message, e = .action actionRecoveryRequired message) ∨
      (∃ message, e = .action actionFailed message) ∧ Settled previous t ∧
        ∃ now ∈ clock, t.table = some (loaded now previous)

theorem ends_setUncertain {f : Unit → PauseProg ε α} (hC : C w)
    (hset : C { w with uncertain := record })
    (hf : Ends clock C post (f ()) { w with uncertain := record }) :
    Ends clock C post (ask (.setUncertain record) >>= f) w := by
  have hask : (ask (.setUncertain record) >>= f : PauseProg ε α) =
      Attempt.ask (.setUncertain record) f := rfl
  rw [Ends, hask]
  refine Attempt.Ends.ask hC (fun t ht => ?_) fun _ t ht => ?_
  · exact (show t = _ from ht) ▸ hset
  · exact (show t = _ from ht) ▸ hf

theorem ends_undoTransition (hw : Within S w) (hS : S previous) (hcanonical : Canonical previous) :
    Ends clock (Within S) (Transitioned clock previous next) (undoTransition previous) w := by
  refine Attempt.Ends.outcome_bind (ends_persistPauseRecord hw (hw.put hS)) fun intent t ht => ?_
  have hw' : Within S t := by
    rcases ht with rfl | ⟨-, rfl⟩
    · exact hw.put hS
    · exact hw
  refine Attempt.Ends.outcome_bind (ends_applyDevicePauseFirewall hcanonical hw'.table)
    fun rollback u hu => ?_
  obtain ⟨table, rfl, htable⟩ := hu
  have hw'' := hw'.table table
  refine Attempt.Ends.failIf_bind hw'' (fun _ => .inl ⟨_, rfl⟩) fun hok => ?_
  have hrollback : rollback = .ok () := by
    cases rollback with
    | ok => rfl
    | error => exact absurd (.inr rfl) hok
  have hput : Within S (World.put { t with table } { phase := "applied", pauses := previous }) :=
    hw''.put hS
  refine Attempt.Ends.bind (ends_orFail (ends_finishPauseRecord hw'' hput hput.clear))
    (fun _ u hu => ?_) fun e u => .inl
  obtain rfl := hu rfl
  refine ends_setUncertain hput.clear hput.clear.forget ?_
  refine Attempt.Ends.fail hput.clear.forget (.inr ⟨⟨_, rfl⟩, ?_, htable hrollback⟩)
  exact settled_finished _ ⟨1, _, previous⟩

theorem ends_applyAndFinish (hw : Within S w) (hS : S next) (hcanonical : Canonical next) :
    Ends clock (Within S) (fun r t => Within S t ∧ (r = .ok () →
      Settled next { t with uncertain := none } ∧ ∃ now ∈ clock, t.table = some (loaded now next)))
      (applyAndFinish next) w := by
  refine Attempt.Ends.bind (ends_applyDevicePauseFirewall hcanonical hw.table) (fun _ t ht => ?_)
    fun e t ht => ?_
  · obtain ⟨table, rfl, htable⟩ := ht
    have hput : Within S (World.put { w with table } { phase := "applied", pauses := next }) :=
      (hw.table table).put hS
    refine (ends_finishPauseRecord (hw.table table) hput hput.clear).mono fun r t hC hr =>
      ⟨hC, fun hok => ?_⟩
    obtain rfl := hr hok
    exact ⟨settled_finished _ ⟨1, _, next⟩, htable rfl⟩
  · obtain ⟨table, rfl, -⟩ := ht
    exact ⟨hw.table table, (nomatch ·)⟩

theorem ends_deviceTransition (hsettled : Settled list w) (hprevious : Canonical previous)
    (hnext : Canonical next) :
    Ends clock (Within (Between list previous next)) (Transitioned clock previous next)
      (deviceTransition previous next) w := by
  have hw : Within (Between list previous next) w := hsettled.within.mono fun _ hl => .inl hl
  have hS : Between list previous next previous := .inr (.inl rfl)
  have hS' : Between list previous next next := .inr (.inr rfl)
  have hundo : Within (Between list previous next)
      { w with uncertain := some { phase := "pending", pauses := previous } } :=
    hw.remember hS hprevious
  refine ends_setUncertain hw hundo ?_
  refine Attempt.Ends.bind (ends_orFail (ends_persistPauseRecord hundo (hundo.put hS)))
    (fun _ t ht => ?_) fun e t => .inl
  have ht' : Within (Between list previous next) t := by
    rcases ht with rfl | ⟨⟨e, he⟩, -⟩
    · exact hundo.put hS
    · cases he
  refine Attempt.Ends.outcome_bind (ends_applyAndFinish ht' hS' hnext) fun r u hu => ?_
  cases r with
  | ok =>
    obtain ⟨hwithin, hdone⟩ := hu
    obtain ⟨hsettled, htable⟩ := hdone rfl
    exact ends_setUncertain hwithin hwithin.forget
      (Attempt.Ends.pure hwithin.forget ⟨rfl, hsettled, htable⟩)
  | error => exact ends_undoTransition hu.1 hS hprevious

end MinimalRouter.Applyd.Pauses
