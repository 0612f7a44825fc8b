import MinimalRouter.Applyd.Settled
import MinimalRouter.System.Backend

namespace MinimalRouter.System

open Goish Config Apply Applyd Lib Lib.Prog

variable {F : Type} [DecidableEq F] {a : Appliance F} {p : Plane} {rules : Rules}

section Delivery

variable {req : ApplyRequest} {h h' : Helper F} {s s' : Backend F}

omit [DecidableEq F] in
theorem Restarts.settled (hrestart : Restarts a h h') (hsettled : JournalSettled a h) :
    JournalSettled a h' := by
  induction hrestart with
  | none => exact hsettled
  | reconciled env _ ih => exact ih (hsettled.restart env)
  | respawned _ ih => exact ih hsettled.forget

theorem Delivered.settled (hdelivered : Delivered a req h r h')
    (hfree : a.digest.CollisionFree) (hsettled : JournalSettled a h) : JournalSettled a h' := by
  obtain ⟨_, hrestart, hcontact⟩ := hdelivered
  have hstarted := hrestart.settled hsettled
  cases hcontact with
  | unsent => exact hstarted
  | lost env | answered env => exact hstarted.processRequest hfree env _

theorem Delivered.holds (hdelivered : Delivered a req h (.ok resp) h')
    (hsettled : JournalSettled a h) (hcommits : commits req = true)
    (hr : resp.verifiedSuccess = true) : Holds h'.disk req.config := by
  obtain ⟨_, hrestart, hcontact⟩ := hdelivered
  cases hcontact with
  | answered env => exact (hrestart.settled hsettled).holds env hcommits hr

theorem sent_settled (hfree : a.digest.CollisionFree) (hsent : Sent (backend a rules) P s s')
    (hsettled : JournalSettled a s.helper) : JournalSettled a s'.helper := by
  refine hsent.invariant (I := fun s => JournalSettled a s.helper) ?_ hsettled
  intro s req r s' _ hs hsend
  exact hsend.2.settled hfree hs

theorem exchanged_settled (hfree : a.digest.CollisionFree)
    (hx : Exchanged (backend a rules) req s r s') (hsettled : JournalSettled a s.helper) :
    JournalSettled a s'.helper :=
  sent_settled hfree (hx.sent (P := fun _ => True) trivial) hsettled

theorem exchanged_holds (hfree : a.digest.CollisionFree)
    (hx : Exchanged (backend a rules) req s (.ok resp) s') (hsettled : JournalSettled a s.helper)
    (hcommits : commits req = true) (hr : resp.verifiedSuccess = true) :
    Holds s'.helper.disk req.config := by
  generalize hresult : Except.ok resp = r at hx
  induction hx with
  | abandoned | invalid => cases hresult
  | answered hsend =>
    cases hresult
    exact hsend.2.holds hsettled hcommits hr
  | lost hsend _ ih => exact ih (hsend.2.settled hfree hsettled) hresult

theorem persisted_helper (hsave : Persisted (backend a rules) p initialSetup cfg s r s') :
    s'.helper = s.helper := by
  unfold Persisted at hsave
  split at hsave
  · exact hsave.1
  split at hsave
  · exact hsave.1
  · rw [hsave.2]

end Delivery

theorem commits_of_built {id : String} (h : Built id cfg req) :
    commits { req with op := .reconcile } = true := by
  simp [commits, h.unconfirmed, h.immediate]

section Call

variable {st : EngineState} {s s' : Backend F} {c : Called} {tx : Transaction} {txId : String}

omit [DecidableEq F] in
theorem committed_of_transacted {env : Surroundings σ} {s s' : σ} (hstore : p.hasStore = true)
    (h : Transacted env p st txId newCfg initialSetup s c s') (htx : c.tx = some tx)
    (hstate : tx.currentState = .committed) :
    ∃ request resp ack s₁ s₂, BasedOn newCfg c.engine.currentConfig ∧
      Exchanged env request s (.ok resp) s₁ ∧
      Persisted env p initialSetup c.engine.currentConfig s₁ (.ok ()) s₂ ∧
      ack.verifiedSuccess = true ∧ ∃ id,
        Exchanged env (commitRequest id c.engine.currentConfig) s₂ (.ok ack) s' := by
  cases h with
  | unplanned hunplanned =>
    cases htx
    rcases hunplanned.2 with h | h <;> rw [h] at hstate <;> cases hstate
  | unknown | awaiting | unacknowledged =>
    cases htx
    cases hstate
  | refused =>
    cases htx
    rcases refusedState_cases _ with h | h | h <;>
      cases (show refusedState _ = .committed from hstate).symm.trans h
  | uncommitted hverified hcommit hundo =>
    cases hundo with
    | restored | unrestored =>
      cases htx
      cases hstate
  | committed hverified hcommit hack =>
    rw [if_pos (deferLastGood_of_store hstore hverified.confirm)] at hack
    obtain ⟨ack, hacked, hack⟩ := hack
    exact ⟨_, _, ack, _, _, hverified.plan.config, hverified.exchange, hcommit, hacked, _, hack⟩

theorem holds_of_transacted (hfree : a.digest.CollisionFree) (hstore : p.hasStore = true)
    (h : Transacted (backend a rules) p st txId newCfg initialSetup s c s')
    (hsettled : JournalSettled a s.helper) (htx : c.tx = some tx)
    (hstate : tx.currentState = .committed) : Holds s'.helper.disk c.engine.currentConfig := by
  obtain ⟨_, _, _, _, _, -, hx, hcommit, hacked, _, hack⟩ :=
    committed_of_transacted hstore h htx hstate
  have hbefore := exchanged_settled hfree hx hsettled
  rw [← persisted_helper hcommit] at hbefore
  exact exchanged_holds hfree hack hbefore rfl hacked

end Call

section Run

variable {w w' : Site (Backend F)} {steps : List (SystemStep F)}

structure Agree (w : Site (Backend F)) : Prop where
  latest : w.around.archive.store.latest = some w.engine.currentConfig
  lastGood : w.around.helper.disk.lastGood.map marshal = some (marshal w.engine.currentConfig)
  pending : w.around.helper.disk.pending = none

/-- The first configuration is stored with a time stamp of its own, which is read for it. -/
def SetUpAt (rules : Rules) (now : Reading) (s : Archive) (cfg : SystemConfig)
    (r : Except String Unit) (s' : Archive) : Prop :=
  ∃ database, match s.store.commitInitialSetup rules database now cfg with
    | .ok t => r = .ok () ∧ s' = ⟨t, cfg :: s.saved⟩
    | .error e => r = .error e ∧ s' = s

/-- The readings of a clock from now on. -/
abbrev Clock := Nat → Reading

def Clock.later (clock : Clock) : Clock := fun n => clock (n + 1)

/-- The clock is read by the engine, and by the store for the first configuration. -/
def Reads (rules : Rules) (s : Archive × Clock) : (q : Query) → q.Answer → Archive × Clock → Prop
  | .now, reading, t => reading = s.2 0 ∧ t.2 = s.2.later
  | .commitInitialSetup cfg, r, t => SetUpAt rules (s.2 0) s.1 cfg r t.1 ∧ t.2 = s.2.later
  | _, _, t => t.2 = s.2

def timed (rules : Rules) : Handler Query Query.Answer (Archive × Clock) := fun s q r t =>
  (archive rules).handler s.1 q r t.1 ∧ Reads rules s q r t

/-- The backend with a clock whose readings are given. -/
def clocked (a : Appliance F) (rules : Rules) : Handler Query Query.Answer (Backend F × Clock) :=
  fun s q r t => (backend a rules).handler s.1 q r t.1 ∧
    Reads rules (s.1.archive, s.2) q r (t.1.archive, t.2)

theorem clocked_of_turns (h : Turns (backend a rules) p w turn w') (rest : Clock) :
    ∃ clock, Runs (clocked a rules) (perform p w.engine turn.call) (w.around, clock)
      ⟨w'.engine, turn.tx, turn.result⟩ (w'.around, rest) := by
  suffices hrun : ∀ {prog : Exchange Called} {s s' c}, Runs (backend a rules).handler prog s c s' →
      ∃ clock, Runs (clocked a rules) prog (s, clock) c (s', rest) from hrun h
  intro prog s s' c hrun
  induction hrun with
  | ret => exact ⟨rest, .ret⟩
  | @ask s q r s₁ k c s' hq _ ih =>
    obtain ⟨later, hrest⟩ := ih
    have hreads : ∃ clock, Reads rules (s.archive, clock) q r (s₁.archive, later) := by
      cases q with
      | now => exact ⟨fun n => n.casesOn r later, rfl, rfl⟩
      | commitInitialSetup =>
        obtain ⟨-, database, now, hsetup⟩ := hq
        exact ⟨fun n => n.casesOn now later, ⟨database, hsetup⟩, rfl⟩
      | _ => exact ⟨later, rfl⟩
    obtain ⟨clock, hread⟩ := hreads
    exact ⟨clock, .ask ⟨hq, hread⟩ hrest⟩

theorem latest_of_setUp (h : SetUpAt rules stored s cfg (.ok ()) s') :
    s'.store.latest = some { cfg with updatedAt := ⟨stored.wall, 0, none⟩ } := by
  obtain ⟨_, h⟩ := h
  split at h
  · next t hsetup =>
    obtain ⟨_, -, hsetup⟩ := Result.bind_eq_ok.mp hsetup
    cases hadmin : s.store.adminConfigured with
    | true =>
      rw [hadmin] at hsetup
      cases hsetup
    | false =>
    rw [hadmin] at hsetup
    cases hcurrent : s.store.latest with
    | none =>
      rw [hcurrent] at hsetup
      cases hsetup
    | some current =>
      rw [hcurrent] at hsetup
      by_cases hadvance : some cfg.revision = Store.checkedAdd current.revision
      · dsimp only at hsetup
        rw [if_neg Bool.false_ne_true, if_neg (not_not.mpr hadvance)] at hsetup
        obtain ⟨_, -, hsetup⟩ := Result.bind_eq_ok.mp hsetup
        rw [h.2, ← Except.ok.inj hsetup]
        rfl
      dsimp only at hsetup
      rw [if_neg Bool.false_ne_true, if_pos hadvance] at hsetup
      cases hsetup
  · cases h.1

section Timed

variable {s : Archive} {clock : Clock} {t : Archive × Clock}

theorem wp_applyPrivileged_timed {f : Except String ApplyResponse → Exchange Called}
    (h : ∀ r, (f r).wp (timed rules) post t) :
    ((applyPrivileged req).bind f).wp (timed rules) post t := by
  have hattempt : ∀ n last, (attempt req n last).wp (timed rules)
      (fun r t => (f r).wp (timed rules) post t) t := by
    intro n
    induction n with
    | zero => exact fun _ => h _
    | succ n ih =>
      rintro last expired ⟨_, _⟩ ⟨rfl, rfl⟩
      cases expired with
      | true => exact h _
      | false =>
        rintro r ⟨_, _⟩ ⟨rfl, rfl⟩
        cases r with
        | error => exact ih _
        | ok =>
          simp only
          split <;> exact h _
  exact (wp_bind f post).mpr (hattempt 2 none)

theorem wp_now_timed (h : (k (clock 0)).wp (timed rules) post (s, clock.later)) :
    (Prog.ask .now k).wp (timed rules) post (s, clock) := by
  rintro _ ⟨s', clock'⟩ ⟨hs, rfl, hclock⟩
  obtain rfl : s' = s := hs
  obtain rfl : clock' = clock.later := hclock
  exact h

def Stamped (planned stored : Reading) (c : Called) (t : Archive × Clock) : Prop :=
  ∀ tx, c.tx = some tx → tx.currentState = .committed →
    c.engine.currentConfig.updatedAt = planned.now ∧
    t.1.store.latest = some { c.engine.currentConfig with updatedAt := ⟨stored.wall, 0, none⟩ }

variable {tx : Transaction} {planned stored : Reading}

theorem stamped_ended (h : state ≠ .committed) :
    Stamped planned stored ⟨st, some (tx.ended state e), r⟩ t := by
  intro tx' htx hstate
  obtain rfl := Option.some.inj htx
  exact absurd hstate h

theorem stamped_undoCommit : (undoCommit p st tx e).wp (timed rules) (Stamped planned stored) t := by
  unfold undoCommit
  split
  · exact stamped_ended (by decide)
  refine wp_applyPrivileged_timed fun r => ?_
  cases r with
  | error => exact stamped_ended (by decide)
  | ok =>
    simp only
    split <;> exact stamped_ended (by decide)

theorem stamped_commitTransaction (hupdated : tx.config.updatedAt = planned.now) :
    (commitTransaction p st tx true).wp (timed rules) (Stamped planned (clock 0)) (s, clock) := by
  unfold commitTransaction
  rintro r ⟨s', _⟩ ⟨-, hsetup, rfl⟩
  cases r with
  | error => exact stamped_undoCommit
  | ok =>
    have hdone : Stamped planned (clock 0) ⟨{ st with currentConfig := tx.config },
        some { tx with currentState := .committed }, .ok ()⟩ (s', clock.later) :=
      fun _ _ _ => ⟨hupdated, latest_of_setUp hsetup⟩
    simp only [Prog.bind]
    split
    · refine wp_applyPrivileged_timed fun ack => ?_
      split
      · exact stamped_ended (by decide)
      · exact hdone
    · exact hdone

theorem stamped_applyTransaction (hupdated : tx.config.updatedAt = planned.now) :
    (applyTransaction p st tx request true).wp (timed rules) (Stamped planned (clock 1))
      (s, clock) := by
  refine wp_now_timed (wp_applyPrivileged_timed fun r => ?_)
  cases r with
  | error => exact stamped_ended (by decide)
  | ok =>
    simp only
    split
    · refine stamped_ended ?_
      unfold refusedState
      split
      · decide
      split <;> decide
    split
    · exact stamped_ended (by decide)
    exact stamped_commitTransaction hupdated

theorem stamped_process : (process p st txId newCfg true).wp (timed rules)
    (Stamped (clock 1) (clock 3)) (s, clock) := by
  refine wp_now_timed ?_
  unfold planTransaction
  cases hadmit : admitTransaction p st newCfg true with
  | error =>
    refine stamped_ended ?_
    rcases admitTransaction_eq_error hadmit with h | h <;> simp [h]
  | ok =>
  cases hnext : nextRevision st.currentConfig.revision with
  | none => exact stamped_ended (by decide)
  | some =>
    refine wp_now_timed ?_
    simp only
    split
    · exact stamped_ended (by decide)
    unfold createSnapshot
    split
    · rintro saved ⟨s', clock'⟩ ⟨hs, hclock⟩
      obtain rfl : s' = s := hs
      obtain rfl : clock' = clock.later.later := hclock
      cases saved with
      | error => exact stamped_ended (by decide)
      | ok => exact stamped_applyTransaction rfl
    · exact stamped_applyTransaction rfl

end Timed

theorem marshal_updatedAt (cfg : SystemConfig) (t t' : Time) :
    marshal { cfg with updatedAt := t } = marshal { cfg with updatedAt := t' } ↔
      t.wall = t'.wall ∧ t.offset = t'.offset := by
  constructor
  · intro h
    have htime := Option.some.inj (congrArg (Json.get "updated_at") h)
    injection htime with hwall hoffset
    exact ⟨hwall, hoffset⟩
  rintro ⟨hwall, hoffset⟩
  have htime : Json.field "updated_at" t = Json.field "updated_at" t' := by
    simp only [Json.field, marshal, hwall, hoffset]
  simp only [marshal, htime]

/-- The first configuration is stored with a time stamp of its own: the clock is read for the
transaction, its plan and its start, and then for the row. -/
theorem setup_agrees_iff {txId : String} {newCfg : SystemConfig} {tx : Transaction} {c : Called}
    {clock rest : Clock} {s s' : Backend F} {st : EngineState} (hfree : a.digest.CollisionFree)
    (hstore : p.hasStore = true)
    (h : Runs (clocked a p.rules) (perform p st (.processInitialSetup txId newCfg)) (s, clock) c
      (s', rest))
    (hsettled : JournalSettled a s.helper) (htx : c.tx = some tx)
    (hstate : tx.currentState = .committed) :
    ∃ row, s'.archive.store.latest = some row ∧ row = { newCfg with
        revision := newCfg.revision + 1, updatedAt := ⟨(clock 3).wall, 0, none⟩ } ∧
      c.engine.currentConfig = { newCfg with
        revision := newCfg.revision + 1, updatedAt := (clock 1).now } ∧
      ((marshal row = marshal c.engine.currentConfig ∧
          s'.helper.disk.lastGood.map marshal = some (marshal row)) ↔
        (clock 3).wall = (clock 1).wall ∧ (clock 1).offset = 0) := by
  have hturn : Turns (backend a p.rules) p ⟨st, s⟩ ⟨.processInitialSetup txId newCfg, c.tx, c.result⟩
      ⟨c.engine, s'⟩ := h.map (f := Prod.fst) fun _ _ _ _ hq => hq.1
  have hperformed := performed_of_turns hturn
  have hholds := (holds_of_transacted hfree hstore hperformed hsettled htx hstate).lastGood
  obtain ⟨_, _, _, _, _, ⟨updatedAt, hplanned⟩, -⟩ :=
    committed_of_transacted hstore hperformed htx hstate
  have htimed : Runs (timed p.rules) _ _ _ _ := h.map (f := fun s => (s.1.archive, s.2))
    fun s q r t hq => ⟨handler_canon s.1 q r t.1 hq.1, hq.2⟩
  obtain ⟨hupdated, hlatest⟩ := wp_sound stamped_process htimed tx htx hstate
  have hconfig : c.engine.currentConfig = { newCfg with
      revision := newCfg.revision + 1, updatedAt := (clock 1).now } := by
    rw [← hupdated]
    exact hplanned.trans (by rw [hplanned])
  rw [hconfig] at hlatest hholds ⊢
  refine ⟨_, hlatest, rfl, rfl, ?_⟩
  have htime := marshal_updatedAt { newCfg with revision := newCfg.revision + 1 }
    ⟨(clock 3).wall, 0, none⟩ (clock 1).now
  constructor
  · exact fun hsame => ⟨Int.ofNat.inj (htime.mp hsame.1).1, (htime.mp hsame.1).2.symm⟩
  rintro ⟨hwall, hoffset⟩
  have hsame := htime.mpr ⟨congrArg Int.ofNat hwall, hoffset.symm⟩
  exact ⟨hsame, hholds.trans (congrArg some hsame.symm)⟩

def unclaimed : Site (Backend Json) :=
  { newAppliance with around.archive.store.adminConfigured := false }

def ticking (s : Backend Json × Clock) : (q : Query) → q.Answer × (Backend Json × Clock)
  | .now => (s.2 0, (s.1, s.2.later))
  | .commitInitialSetup cfg =>
    match s.1.archive.store.commitInitialSetup Plane.plain.rules (.ok ()) (s.2 0) cfg with
    | .ok t => (.ok (), (⟨⟨t, cfg :: s.1.archive.saved⟩, s.1.helper⟩, s.2.later))
    | .error e => (.error e, (s.1, s.2.later))
  | q =>
    let answer := answering .plain Plane.plain.rules (fun _ => false) s.1 q
    (answer.1, (answer.2, s.2))

theorem clocked_ticking (s : Backend Json × Clock) (q : Query) :
    clocked .plain Plane.plain.rules s q (ticking s q).1 (ticking s q).2 := by
  cases q with
  | now => exact ⟨rfl, rfl, rfl⟩
  | commitInitialSetup =>
    refine ⟨⟨?_, .ok (), s.2 0, ?_⟩, ⟨.ok (), ?_⟩, ?_⟩ <;> simp only [ticking] <;> split <;> simp_all
  | _ => exact ⟨handler_steady _ _ _ _ (handler_answering .plain _ (fun _ => false) _ _), rfl⟩

def setupAt (clock : Clock) : Called × Backend Json × Clock :=
  (perform .plain unclaimed.engine (.processInitialSetup "tx-1" firstRevision)).exec ticking
    (unclaimed.around, clock)

theorem setup_agrees_at_once : (setupAt fun _ => ⟨1000000000, 0, 0⟩).1.tx.map (·.currentState) =
      some .committed ∧
    ∃ row, (setupAt fun _ => ⟨1000000000, 0, 0⟩).2.1.archive.store.latest = some row ∧
      marshal row = marshal (setupAt fun _ => ⟨1000000000, 0, 0⟩).1.engine.currentConfig ∧
      (setupAt fun _ => ⟨1000000000, 0, 0⟩).2.1.helper.disk.lastGood.map marshal =
        some (marshal row) := by
  have hstate : (setupAt fun _ => ⟨1000000000, 0, 0⟩).1.tx.map (·.currentState) =
    some .committed := by decide +kernel
  obtain ⟨tx, htx, hcommitted⟩ := Option.map_eq_some_iff.mp hstate
  have hfree : Appliance.plain.digest.CollisionFree :=
    fun x y f hx hy => Option.some.inj (hx.trans hy.symm)
  obtain ⟨row, hlatest, -, -, hagree⟩ := setup_agrees_iff hfree rfl
    (runs_exec clocked_ticking _ _) (journalSettled_of_empty _ rfl rfl) htx hcommitted
  exact ⟨hstate, row, hlatest, hagree.mpr ⟨rfl, rfl⟩⟩

theorem setup_stamped_twice : ∃ clock c s' rest, Runs (clocked .plain Plane.plain.rules)
        (perform .plain unclaimed.engine (.processInitialSetup "tx-1" firstRevision))
        (unclaimed.around, clock) c (s', rest) ∧
      (clock 1).wall = 1000000000 ∧ (clock 3).wall = 2000000000 ∧
      c.tx.map (·.currentState) = some .committed ∧
      s'.archive.store.latest.map marshal ≠ some (marshal c.engine.currentConfig) ∧
      s'.helper.disk.lastGood.map marshal = some (marshal c.engine.currentConfig) := by
  have hrun := runs_exec clocked_ticking
    (perform .plain unclaimed.engine (.processInitialSetup "tx-1" firstRevision))
    (unclaimed.around, fun | 3 => ⟨2000000000, 0, 0⟩ | _ => ⟨1000000000, 0, 0⟩)
  exact ⟨_, _, _, _, hrun, rfl, rfl, by decide +kernel, by decide +kernel, by decide +kernel⟩

end Run

end MinimalRouter.System
