import MinimalRouter.Apply.Ledger
import Mathlib.Data.Finset.Card

namespace MinimalRouter.Apply

open Goish Config Lib Lib.Prog PendingChange

/-- How far the change of a transaction has come: rolled back a number of times without success,
stored, or no longer pending. -/
inductive Phase
  | opened : Nat → Phase
  | stored | closed
  deriving DecidableEq

def PendingChange.phase (pending : PendingChange) (txId : String) : Phase :=
  if pending.tx.id ≠ txId then .closed
  else if pending.canonicalCommitted then .stored
  else .opened pending.rollbackAttempts

def EngineState.phase (st : EngineState) (txId : String) : Phase :=
  match st.pending with
  | none => .closed
  | some pending => pending.phase txId

def Operation.opens : Operation → Option String
  | call (.processTransaction txId _) => some txId
  | call (.processInitialSetup txId _) => some txId
  | _ => none

def Entry.isRollback (txId : String) (e : Entry) : Bool :=
  match e.op with
  | .call (.rollbackExpired id) => id == txId
  | _ => false

def Entry.rollbackRequests (txId : String) (e : Entry) : List ApplyRequest :=
  if e.isRollback txId then e.acts.filterMap Act.request else []

def rollbackRequests (txId : String) (past : History) : List ApplyRequest :=
  past.flatMap (·.label.rollbackRequests txId)

def Entry.Settles (txId : String) (e : Entry) : Prop :=
  (e.op = .call (.rollbackExpired txId) ∨ e.op = .call .reconcile) ∧
    ∃ a ∈ e.acts, ∃ req, a.Acknowledges req

section Phase

variable {st st' : EngineState} {pending : PendingChange}

theorem phase_of_none (h : st.pending = none) : st.phase txId = .closed := by
  simp [EngineState.phase, h]

theorem phase_of_some (h : st.pending = some pending) : st.phase txId = pending.phase txId := by
  simp [EngineState.phase, h]

theorem phase_of_pending (h : st'.pending = st.pending) : st'.phase txId = st.phase txId := by
  simp [EngineState.phase, h]

theorem PendingChange.phase_of_ne (h : pending.tx.id ≠ txId) : pending.phase txId = .closed := by
  simp [phase, h]

theorem PendingChange.phase_of_opened (hid : pending.tx.id = txId)
    (h : pending.canonicalCommitted = false) :
    pending.phase txId = .opened pending.rollbackAttempts := by
  simp [phase, hid, h]

theorem PendingChange.not_opened_of_stored (h : pending.canonicalCommitted = true) (k : Nat) :
    pending.phase txId ≠ .opened k := by
  unfold phase
  rw [if_pos h]
  split <;> nofun

end Phase

inductive Counted (before after : Phase) (requests : List ApplyRequest) : Prop
  | none (hnone : requests = []) (hsame : ∀ k, after = .opened k → before = .opened k)
  | one (hbefore : before = .opened attempts) (hmore : attempts < maximumRollbackAttempts)
      (hsame : ∀ r ∈ requests, r = req) (htwice : requests.length ≤ 2)
      (hafter : ∀ k, after = .opened k → k = attempts + 1)

/-- What an operation can do to the change of a transaction that it does not open. -/
structure Moves (txId : String) (before : Phase) (e : Entry) (after : Phase) : Prop where
  closed : before = .closed → after = .closed
  stored : before = .stored → ∀ k, after ≠ .opened k
  saved : ∀ cfg, .saved cfg (.ok ()) ∈ e.acts → ∀ k, after ≠ .opened k
  settled : e.Settles txId → after = .closed
  counted : Counted before after (e.rollbackRequests txId)

section Rollback

variable {p : Plane}

inductive RolledBack (txId : String) (st engine : EngineState) (acts : List Act) : Prop
  | idle (hphase : ∀ k, st.phase txId ≠ .opened k) (hsame : engine = st) (hacts : acts = [])
  | exhausted (hphase : st.phase txId = .opened attempts) (hfree : engine.pending = none)
      (hacts : acts = [])
  | unbuilt (hphase : st.phase txId = .opened attempts) (hmore : attempts < maximumRollbackAttempts)
      (hafter : engine.phase txId = .opened (attempts + 1)) (hacts : acts = [])
  | tried (hphase : st.phase txId = .opened attempts) (hmore : attempts < maximumRollbackAttempts)
      (hacts : Tried req 2 r acts) (hafter : if acknowledged r then engine.pending = none
        else engine.phase txId = .opened (attempts + 1))

theorem phase_retryRollback (hid : pending.tx.id = txId)
    (hcanon : pending.canonicalCommitted = false) (attempts : Nat) (message : String) :
    (retryRollback st pending attempts message).engine.phase txId = .opened attempts :=
  phase_of_opened hid hcanon

theorem rolledBack_rollBackPending (hpending : st.pending = some pending)
    (hid : pending.tx.id = txId) (hcanon : pending.canonicalCommitted = false) :
    (rollBackPending p st pending).wp ledger.handler (fun c => RolledBack txId st c.engine) [] := by
  have hphase : st.phase txId = .opened pending.rollbackAttempts := by
    rw [phase_of_some hpending, phase_of_opened hid hcanon]
  unfold rollBackPending
  dsimp only
  split
  · exact .exhausted hphase rfl rfl
  · next hmore =>
    have hmore : pending.rollbackAttempts < maximumRollbackAttempts := by omega
    split
    · exact .unbuilt hphase hmore (phase_retryRollback hid hcanon _ _) rfl
    refine wp_tried fun r more htried => ?_
    cases hack : acknowledged r with
    | true =>
      refine .tried hphase hmore htried ?_
      rw [if_pos hack]
    | false =>
      refine .tried hphase hmore htried ?_
      rw [if_neg (by simp [hack])]
      exact phase_retryRollback hid hcanon _ _

theorem rolledBack_rollbackExpired (txId : String) : (rollbackExpired p st txId).wp ledger.handler
      (fun c => RolledBack txId st c.engine) [] := by
  unfold rollbackExpired
  cases hpending : st.pending with
  | none =>
    refine .idle ?_ rfl rfl
    rw [phase_of_none hpending]
    nofun
  | some =>
  dsimp only
  split
  · next h =>
    refine .idle ?_ rfl rfl
    rw [phase_of_some hpending]
    simp only [Bool.or_eq_true, decide_eq_true_eq] at h
    rcases h with hid | hcanon
    · rw [phase_of_ne hid]
      nofun
    · exact not_opened_of_stored hcanon
  · next h =>
    simp only [Bool.or_eq_true, decide_eq_true_eq, not_or, ne_eq, not_not,
      Bool.not_eq_true] at h
    exact rolledBack_rollBackPending hpending h.1 h.2

end Rollback

section Moves

variable {st st' : EngineState} {id : String} {acts : List Act}

theorem not_saved_of_sent (h : ∀ a ∈ acts, IsSent R a) (cfg : SystemConfig)
    (r : Except String Unit) : Act.saved cfg r ∉ acts :=
  fun hmem => nomatch h _ hmem

theorem not_saved_of_adds (h : Adds (IsSent R) [] acts) (cfg : SystemConfig)
    (r : Except String Unit) : Act.saved cfg r ∉ acts :=
  not_saved_of_sent h.all cfg r

theorem Moves.of_other (hrollback : e.isRollback txId = false) (hsettle : ¬ e.Settles txId)
    (hclosed : before = .closed → after = .closed)
    (hsame : ∀ k, after = .opened k → before = .opened k)
    (hsaved : ∀ cfg, .saved cfg (.ok ()) ∈ e.acts → ∀ k, after ≠ .opened k) :
    Moves txId before e after where
  closed := hclosed
  stored h k hk := by
    rw [hsame k hk] at h
    cases h
  saved := hsaved
  settled h := absurd h hsettle
  counted := .none (by simp [Entry.rollbackRequests, hrollback]) hsame

theorem Moves.unchanged (hrollback : e.isRollback txId = false) (hsettle : ¬ e.Settles txId)
    (hsame : after = before) (hacts : ∀ cfg, .saved cfg (.ok ()) ∉ e.acts) :
    Moves txId before e after :=
  .of_other hrollback hsettle (fun h => hsame.trans h) (fun _ h => hsame.symm.trans h)
    fun cfg h => absurd h (hacts cfg)

theorem Moves.outside (hrollback : e.isRollback txId = false) (hsettle : ¬ e.Settles txId)
    (hafter : after = .closed) : Moves txId before e after := by
  subst hafter
  exact .of_other hrollback hsettle (fun _ => rfl) nofun fun _ _ => nofun

theorem phase_transacted (hother : id ≠ txId)
    (h : Transacted ledger p st id newCfg initialSetup [] c acts) :
    c.engine = st ∧ acts = [] ∨ c.engine.phase txId = .closed := by
  have hfailed : ∀ (st : EngineState) (tx : Transaction) (message e : String),
      st.pending = none → (failRecovery st tx message e).engine.phase txId = .closed :=
    fun st tx message e hfree => phase_of_none hfree
  cases h with
  | unplanned => exact .inl ⟨rfl, rfl⟩
  | unknown hplan => exact .inr (hfailed _ _ _ _ hplan.free)
  | refused hplan =>
    refine .inr (phase_of_none ?_)
    unfold refuseTransaction
    dsimp only
    split
    · exact hplan.free
    · exact hplan.free
  | awaiting hverified =>
    refine .inr (phase_of_ne ?_)
    exact fun h => hother (hverified.plan.id.symm.trans h)
  | uncommitted hverified hcommit hundo =>
    cases hundo with
    | restored => exact .inr (phase_of_none hverified.plan.free)
    | unrestored => exact .inr (hfailed _ _ _ _ hverified.plan.free)
  | unacknowledged hverified =>
    exact .inr (hfailed { st with currentConfig := _ } _ _ _ hverified.plan.free)
  | committed hverified => exact .inr (phase_of_none hverified.plan.free)

theorem moves_transacted (hrollback : e.isRollback txId = false) (hsettle : ¬ e.Settles txId)
    (h : st' = st ∧ e.acts = [] ∨ st'.phase txId = .closed) :
    Moves txId (st.phase txId) e (st'.phase txId) := by
  rcases h with ⟨hsame, hacts⟩ | hclosed
  · exact .unchanged hrollback hsettle (by rw [hsame]) (by simp [hacts])
  · exact .outside hrollback hsettle hclosed

/-- A confirmation refuses, keeps the change open without storing it, or stores it. -/
inductive Confirmed (st engine : EngineState) (acts : List Act) : Prop
  | refused (hsame : engine = st) (hacts : acts = [])
  | kept (hpending : st.pending = some pending) (hafter : engine.pending = some pending')
      (hid : pending'.tx.id = pending.tx.id)
      (hcanon : pending'.canonicalCommitted = pending.canonicalCommitted)
      (hattempts : pending'.rollbackAttempts = pending.rollbackAttempts)
      (hacts : ∀ cfg, Act.saved cfg (.ok ()) ∉ acts)
  | stored (hpending : st.pending = some pending) (hafter : engine.pending = some pending')
      (hid : pending'.tx.id = pending.tx.id) (hcanon : pending'.canonicalCommitted = true)
  | finished (hafter : engine.pending = none)

theorem confirmed_acknowledged {before : List Act} (hpending : st₀.pending = some pending₀)
    (hid : pending.tx.id = pending₀.tx.id) (hcanon : pending.canonicalCommitted = true)
    (h : Acknowledged ledger p st pending before c acts) : Confirmed st₀ c.engine acts := by
  cases h with
  | failed => exact .stored hpending rfl hid hcanon
  | finished => exact .finished rfl

theorem confirmed_concluded (h : Concluded ledger p st id [] c acts) :
    Confirmed st c.engine acts := by
  cases h with
  | notAwaiting => exact .refused rfl rfl
  | unverified hawaits hsent =>
    exact .kept hawaits.stored rfl rfl rfl rfl fun cfg => not_saved_of_adds (adds_of_sent hsent) cfg _
  | unsaved hawaits hsent hsave =>
    refine .kept hawaits.stored rfl rfl rfl rfl fun cfg hmem => ?_
    have hacts := acts_of_persisted hsave
    split at hacts
    · subst hacts
      rcases List.mem_append.mp hmem with hmem | hmem
      · exact not_saved_of_adds (adds_of_sent hsent) cfg _ hmem
      · simp at hmem
    · cases hacts.1
  | saved hawaits hsent hsave hack =>
    refine confirmed_acknowledged hawaits.stored ?_ ?_ hack <;> rfl
  | again hawaits hack => exact confirmed_acknowledged hawaits.stored rfl hawaits.canon hack

theorem moves_confirmed (hop : e.op = .call (.confirmTransaction id))
    (h : Confirmed st st' e.acts) : Moves txId (st.phase txId) e (st'.phase txId) := by
  have hrollback : e.isRollback txId = false := by simp [Entry.isRollback, hop]
  have hsettle : ¬ e.Settles txId := by
    rintro ⟨h | h, -⟩ <;> simp [hop] at h
  cases h with
  | refused hsame hacts => exact .unchanged hrollback hsettle (by rw [hsame]) (by simp [hacts])
  | kept hpending hafter hid hcanon hattempts hacts =>
    refine .unchanged hrollback hsettle ?_ hacts
    rw [phase_of_some hpending, phase_of_some hafter]
    simp only [phase, hid, hcanon, hattempts]
  | @stored pending pending' hpending hafter hid hcanon =>
    have hopened := @PendingChange.not_opened_of_stored pending' txId hcanon
    rw [phase_of_some hpending, phase_of_some hafter]
    refine .of_other hrollback hsettle (fun hclosed => ?_) (fun k hk => absurd hk (hopened k))
      fun cfg _ => hopened
    by_cases htx : pending.tx.id = txId
    · unfold phase at hclosed
      simp only [htx, ne_eq, not_true_eq_false, ↓reduceIte] at hclosed
      split at hclosed <;> cases hclosed
    · exact phase_of_ne (fun h => htx (hid.symm.trans h))
  | finished hafter => exact .outside hrollback hsettle (phase_of_none hafter)

theorem free_of_reconcile : (reconcile p st).wp ledger.handler
      (fun c acts => (∃ a ∈ acts, ∃ req, a.Acknowledges req) → c.engine.pending = none) [] := by
  rintro now _ rfl
  unfold reconcileAs
  dsimp only
  split
  · rintro ⟨a, ha, -⟩
    cases ha
  · next req hreq =>
    refine wp_tried fun r more htried => ?_
    have hheard : (∃ a ∈ [] ++ more, ∃ req, a.Acknowledges req) → acknowledged r = true := by
      rintro ⟨a, ha, _, hack⟩
      have hsame := htried.same a ha
      cases hsame with
      | mk hreq =>
        cases hack
        exact htried.heard _ ha (hreq ▸ .mk ‹_› ‹_›)
    cases r with
    | error => exact fun h => nomatch hheard h
    | ok resp =>
    have hvalid := htried.valid resp rfl
    dsimp only
    split
    · next hfailed =>
      intro h
      have hsuccess : resp.verifiedSuccess = true := hheard h
      rw [ApplyResponse.validate_eq_ok] at hvalid
      simp_all [ApplyResponse.verifiedSuccess]
    unfold settlePending
    cases hpending : st.pending with
    | none => exact fun _ => hpending
    | some =>
      dsimp only
      split
      · rintro now _ rfl _
        rfl
      · exact fun _ => rfl

theorem pending_reconciled (h : Reconciled ledger p st id [] c acts) :
    Adds (IsSent fun _ => True) [] acts ∧
      (c.engine.pending = none ∨ c.engine.pending = st.pending) := by
  cases h with
  | unbuilt => exact ⟨.none, .inr rfl⟩
  | failed hsent => exact ⟨adds_of_sent (hsent.mono fun _ _ => trivial), .inr rfl⟩
  | settled hreq hx hresp hpending => exact ⟨adds_of_exchanged hx trivial, .inl hpending⟩
  | closed hreq hx => exact ⟨adds_of_exchanged hx trivial, .inl rfl⟩

theorem moves_reconciled (hop : e.op = .call .reconcile) (h : Adds (IsSent fun _ => True) [] e.acts)
    (hcases : st'.pending = none ∨ st'.pending = st.pending)
    (hfree : (∃ a ∈ e.acts, ∃ req, a.Acknowledges req) → st'.pending = none) :
    Moves txId (st.phase txId) e (st'.phase txId) := by
  have hrollback : e.isRollback txId = false := by simp [Entry.isRollback, hop]
  have hsent := fun cfg => not_saved_of_adds h cfg (.ok ())
  have hcounted : Counted (st.phase txId) (st'.phase txId) (e.rollbackRequests txId) := by
    refine .none (by simp [Entry.rollbackRequests, hrollback]) fun k hk => ?_
    rcases hcases with hnone | hsame
    · rw [phase_of_none hnone] at hk
      cases hk
    · rw [← hk, phase_of_pending hsame]
  refine ⟨fun hclosed => ?_, fun hstored k => ?_, fun cfg hmem => absurd hmem (hsent cfg),
    fun hsettles => phase_of_none (hfree hsettles.2), hcounted⟩
  · rcases hcases with hnone | hsame
    · exact phase_of_none hnone
    · rw [phase_of_pending hsame, hclosed]
  rcases hcases with hnone | hsame
  · rw [phase_of_none hnone]
    nofun
  · rw [phase_of_pending hsame, hstored]
    nofun

theorem requests_of_tried (h : Tried req n r acts) :
    (∀ q ∈ acts.filterMap Act.request, q = req) ∧ (acts.filterMap Act.request).length ≤ n := by
  refine ⟨fun q hq => ?_, (List.length_filterMap_le _ _).trans h.bounded⟩
  obtain ⟨a, ha, hrequest⟩ := List.mem_filterMap.mp hq
  cases h.same a ha with
  | mk hreq =>
    cases hrequest
    exact hreq

theorem moves_rolledBack (hop : e.op = .call (.rollbackExpired txId))
    (h : RolledBack txId st st' e.acts) : Moves txId (st.phase txId) e (st'.phase txId) := by
  have hrequests : e.rollbackRequests txId = e.acts.filterMap Act.request := by
    simp [Entry.rollbackRequests, Entry.isRollback, hop]
  have hnothing : e.acts = [] → e.rollbackRequests txId = [] := by
    intro h
    rw [hrequests, h]
    rfl
  have hunsettled : e.acts = [] → ¬ e.Settles txId := by
    rintro hacts ⟨-, a, ha, -⟩
    rw [hacts] at ha
    cases ha
  cases h with
  | idle hphase hsame hacts =>
    rw [hsame]
    exact ⟨fun h => h, fun _ => hphase, fun _ _ => hphase, fun h => absurd h (hunsettled hacts),
      .none (hnothing hacts) fun _ h => h⟩
  | exhausted hphase hfree hacts =>
    rw [phase_of_none hfree]
    exact ⟨fun _ => rfl, fun _ => nofun, fun _ _ => nofun, fun _ => rfl,
      .none (hnothing hacts) nofun⟩
  | unbuilt hphase hmore hafter hacts =>
    rw [hphase, hafter]
    refine ⟨nofun, nofun, by simp [hacts], fun h => absurd h (hunsettled hacts), ?_⟩
    rw [hnothing hacts]
    exact @Counted.one _ _ _ _ {} rfl hmore (fun _ h => absurd h List.not_mem_nil) (Nat.zero_le _)
      fun k hk => (Phase.opened.inj hk).symm
  | tried hphase hmore htried hafter =>
  obtain ⟨hreq, htwice⟩ := requests_of_tried htried
  have hunsaved := fun cfg => not_saved_of_sent htried.same cfg (.ok ())
  rw [hphase]
  split at hafter
  · rw [phase_of_none hafter]
    refine ⟨nofun, nofun, fun _ _ => nofun, fun _ => rfl, ?_⟩
    rw [hrequests]
    exact .one rfl hmore hreq htwice nofun
  · next hack =>
    rw [hafter]
    refine ⟨nofun, nofun, fun cfg h => absurd h (hunsaved cfg), fun hsettles => ?_, ?_⟩
    · obtain ⟨-, a, ha, _, hacknowledges⟩ := hsettles
      refine absurd ?_ hack
      cases htried.same a ha with
      | mk heq =>
        cases hacknowledges
        exact htried.heard _ ha (heq ▸ .mk ‹_› ‹_›)
    · rw [hrequests]
      exact .one rfl hmore hreq htwice (by simp)

theorem phase_expired (hother : id ≠ txId) (h : Expired ledger p st id [] c acts) :
    c.engine.phase txId = st.phase txId ∧ Adds (IsSent fun _ => True) [] acts := by
  have hbefore : ∀ {pending : PendingChange}, Awaits st id false pending →
      st.phase txId = .closed := by
    intro pending hawaits
    rw [phase_of_some hawaits.stored]
    exact phase_of_ne fun h => hother (hawaits.id.symm.trans h)
  cases h with
  | idle => exact ⟨rfl, .none⟩
  | exhausted hawaits => exact ⟨(hbefore hawaits).symm, .none⟩
  | restored hawaits hreq hx =>
    exact ⟨(hbefore hawaits).symm, adds_of_exchanged hx trivial⟩
  | retried hawaits hsent =>
    rw [hbefore hawaits]
    refine ⟨phase_of_ne ?_, adds_of_sent (hsent.mono fun _ _ => trivial)⟩
    exact fun h => hother (hawaits.id.symm.trans h)

theorem phase_bypassed (h : Bypassed ledger p st [] c acts) :
    c.engine.phase txId = st.phase txId ∧ Adds (IsSent fun _ => True) [] acts := by
  cases h with
  | idle => exact ⟨rfl, .none⟩
  | restored hfree hsent
  | unrestored hfree hsent => exact ⟨rfl, adds_of_sent (hsent.mono fun _ _ => trivial)⟩

theorem acts_performAction (h : Runs errands (performAction st a) [] result acts) :
    ∀ act ∈ acts, ∃ request r, act = .action request r := by
  refine Runs.invariant (I := fun acts => ∀ act ∈ acts, ∃ request r, act = .action request r)
    (fun acts q r acts' hacts hq => ?_) h (by simp)
  cases q with
  | expired =>
    cases hq
    exact hacts
  | call request =>
    cases hq
    intro act hact
    rcases List.mem_append.mp hact with hact | hact
    · exact hacts act hact
    · exact ⟨request, r, List.mem_singleton.mp hact⟩

theorem moves_of_operates (h : Operates p st e st') (hother : e.op.opens ≠ some txId) :
    Moves txId (st.phase txId) e (st'.phase txId) := by
  cases h with
  | @action a acts result h =>
    refine .unchanged rfl (by rintro ⟨h | h, -⟩ <;> cases h) rfl fun cfg hmem => ?_
    obtain ⟨_, r, hact⟩ := acts_performAction h _ hmem
    cases hact
  | @call _ c acts tx result h =>
  have hperformed := performed_of_runs h
  cases c with
  | processTransaction | processInitialSetup =>
    have hphase := phase_transacted (fun h => hother (congrArg some h)) hperformed
    refine moves_transacted rfl ?_ hphase
    rintro ⟨h | h, -⟩ <;> cases h
  | confirmTransaction => exact moves_confirmed rfl (confirmed_concluded hperformed)
  | rollbackExpired id =>
    by_cases hid : id = txId
    · subst hid
      have hrolled := wp_sound (@rolledBack_rollbackExpired p st id) h
      exact moves_rolledBack rfl hrolled
    obtain ⟨hphase, hacts⟩ := phase_expired hid hperformed
    refine .unchanged (by simp [Entry.isRollback, hid]) ?_ hphase
      fun cfg => not_saved_of_adds hacts cfg _
    rintro ⟨h | h, -⟩
    · cases h
      exact hid rfl
    · cases h
  | reconcile =>
    obtain ⟨id, hreconciled⟩ := hperformed
    obtain ⟨hsent, hcases⟩ := pending_reconciled hreconciled
    have hfree : (∃ a ∈ acts, ∃ req, a.Acknowledges req) → st'.pending = none :=
      wp_sound free_of_reconcile h
    exact moves_reconciled rfl hsent hcases hfree
  | withQosBypassed =>
    obtain ⟨hphase, hacts⟩ := phase_bypassed hperformed
    exact .unchanged rfl (by rintro ⟨h | h, -⟩ <;> cases h) hphase
      fun cfg => not_saved_of_adds hacts cfg _

end Moves

section Run

variable {steps rest : History}

/-- The rollback requests of a run, counted by the attempts of the change. -/
structure Budget (txId : String) (past : History) (st : EngineState) : Prop where
  distinct : (rollbackRequests txId past).toFinset.card ≤ maximumRollbackAttempts
  sends : (rollbackRequests txId past).length ≤ 2 * maximumRollbackAttempts
  attempts : ∀ k, st.phase txId = .opened k →
    (rollbackRequests txId past).toFinset.card ≤ k ∧ (rollbackRequests txId past).length ≤ 2 * k

theorem card_append_le {requests more : List ApplyRequest} {req : ApplyRequest}
    (h : ∀ r ∈ more, r = req) : (requests ++ more).toFinset.card ≤ requests.toFinset.card + 1 := by
  have hsub : (requests ++ more).toFinset ⊆ insert req requests.toFinset := by
    intro r hr
    simp only [List.toFinset_append, Finset.mem_union, List.mem_toFinset, Finset.mem_insert] at *
    rcases hr with hr | hr
    · exact .inr hr
    · exact .inl (h r hr)
  exact (Finset.card_le_card hsub).trans (Finset.card_insert_le _ _)

theorem Budget.step {entry : Entry} (h : Budget txId past st)
    (hmoves : Moves txId (st.phase txId) entry (st'.phase txId)) :
    Budget txId (past ++ [⟨st, entry, st'⟩]) st' := by
  have happend : rollbackRequests txId (past ++ [⟨st, entry, st'⟩]) =
      rollbackRequests txId past ++ entry.rollbackRequests txId := by
    simp [rollbackRequests]
  cases hmoves.counted with
  | none hnone hsame =>
    rw [hnone, List.append_nil] at happend
    refine ⟨happend ▸ h.distinct, happend ▸ h.sends, fun k hk => ?_⟩
    rw [happend]
    exact h.attempts k (hsame k hk)
  | one hbefore hmore hsame htwice hafter =>
    obtain ⟨_, _⟩ := h.attempts _ hbefore
    have hcard := @card_append_le (rollbackRequests txId past) _ _ hsame
    have hlength : (rollbackRequests txId past ++ entry.rollbackRequests txId).length ≤
        (rollbackRequests txId past).length + 2 := by
      rw [List.length_append]
      omega
    refine ⟨happend ▸ by omega, happend ▸ by omega, fun k hk => ?_⟩
    rw [happend, hafter k hk]
    omega

theorem budget_path (hpath : Path (Operates p) st steps st')
    (hother : ∀ m ∈ steps, m.label.op.opens ≠ some txId) : Budget txId steps st' := by
  refine Path.invariant (K := fun _ e => e.label.op.opens ≠ some txId)
    (fun past t l u hI hK hstep => hI.step (moves_of_operates hstep hK)) ?_ hpath
    fun past e rest hsplit => hother e (by simp [hsplit])
  exact ⟨Nat.zero_le _, Nat.zero_le _, fun k _ => ⟨Nat.zero_le _, Nat.zero_le _⟩⟩

theorem stays_of_path {P : Phase → Prop} (hpath : Path (Operates p) st steps st')
    (hother : ∀ m ∈ steps, m.label.op.opens ≠ some txId)
    (hkeep : ∀ before entry after, Moves txId before entry after → P before → P after)
    (hsteps : steps = past ++ e :: rest) (he : P (e.after.phase txId)) {late : History}
    (hrest : rest = between ++ l :: late) : P (l.before.phase txId) := by
  have hsub : ∀ m ∈ between, m.label.op.opens ≠ some txId := by
    intro m hm
    exact hother m (by simp [hsteps, hrest, hm])
  obtain ⟨hbetween, -⟩ := (hpath.rest_of_split hsteps).split hrest
  exact Path.invariant (I := fun _ t => P (t.phase txId))
    (K := fun _ e => e.label.op.opens ≠ some txId)
    (fun past t l u hI hK hstep => hkeep _ _ _ (moves_of_operates hstep hK) hI) he hbetween
    fun past e rest hsplit => hsub e (by simp [hsplit])

theorem rollback_of_not_opened (h : Operates p st entry st')
    (hop : entry.op = .call (.rollbackExpired txId)) (hphase : ∀ k, st.phase txId ≠ .opened k) :
    entry.acts = [] ∧ st' = st := by
  cases h with
  | action => cases hop
  | call h =>
    cases hop
    cases wp_sound (rolledBack_rollbackExpired txId) h with
    | idle _ hsame hacts => exact ⟨hacts, hsame⟩
    | exhausted hopened _ _ | unbuilt hopened _ _ _
    | tried hopened _ _ _ => exact absurd hopened (hphase _)

theorem confirm_of_closed (h : Operates p st entry st')
    (hop : entry.op = .call (.confirmTransaction txId)) (hphase : st.phase txId = .closed) :
    entry.acts = [] ∧
      entry.outcome = .called none (.error "transaction is not awaiting confirmation") := by
  have hprogram : confirmTransaction p st txId = .ret (notAwaiting st) := by
    unfold confirmTransaction
    cases hpending : st.pending with
    | none => rfl
    | some pending =>
      rw [phase_of_some hpending] at hphase
      have hid : pending.tx.id ≠ txId := by
        intro hid
        unfold phase at hphase
        simp only [hid, ne_eq, not_true_eq_false, ↓reduceIte] at hphase
        split at hphase <;> cases hphase
      simp only [hid, ne_eq, not_false_eq_true, ↓reduceIte]
  cases h with
  | action => cases hop
  | call h =>
    cases hop
    simp only [perform, hprogram] at h
    cases h
    exact ⟨rfl, rfl⟩

/-- In every run that does not start the transaction anew, a stored change is never rolled back, an
acknowledged rollback or reconciliation leaves nothing to confirm, and the rollback is requested no
more often than allowed, each request being sent at most twice. -/
theorem confirm_and_timeout_exclude (hpath : Path (Operates p) st steps st')
    (hother : ∀ m ∈ steps, m.label.op.opens ≠ some txId) :
    (∀ (past : History) e (between : History) l (late : History) cfg,
      steps = past ++ e :: (between ++ l :: late) →
      .saved cfg (.ok ()) ∈ e.label.acts → l.label.op = .call (.rollbackExpired txId) →
      l.label.acts = [] ∧ l.after = l.before) ∧
    (∀ (past : History) e (between : History) l (late : History),
      steps = past ++ e :: (between ++ l :: late) →
      e.label.Settles txId → l.label.op = .call (.confirmTransaction txId) → l.label.acts = [] ∧
        l.label.outcome = .called none (.error "transaction is not awaiting confirmation")) ∧
    (rollbackRequests txId steps).toFinset.card ≤ maximumRollbackAttempts ∧
    (rollbackRequests txId steps).length ≤ 2 * maximumRollbackAttempts := by
  have hstep : ∀ {past e between l late}, steps = past ++ e :: (between ++ l :: late) →
      Moves txId (e.before.phase txId) e.label (e.after.phase txId) ∧
        Operates p l.before l.label l.after := by
    intro past e between l late hsteps
    refine ⟨moves_of_operates (hpath.split hsteps).2 (hother e (by simp [hsteps])), ?_⟩
    exact ((hpath.rest_of_split hsteps).split rfl).2
  refine ⟨fun past e between l late cfg hsteps hsaved hop => ?_,
    fun past e between l late hsteps hsettles hop => ?_, ?_⟩
  · obtain ⟨hmoves, hlate⟩ := hstep hsteps
    refine rollback_of_not_opened hlate hop ?_
    refine stays_of_path (P := fun phase => ∀ k, phase ≠ .opened k) hpath hother ?_ hsteps
      (hmoves.saved cfg hsaved) rfl
    intro before entry after hmoves hbefore k hafter
    cases before with
    | opened j => exact hbefore j rfl
    | stored => exact hmoves.stored rfl k hafter
    | closed => exact nomatch (hmoves.closed rfl).symm.trans hafter
  · obtain ⟨hmoves, hlate⟩ := hstep hsteps
    refine confirm_of_closed hlate hop ?_
    exact stays_of_path (P := (· = .closed)) hpath hother (fun _ _ _ h => h.closed) hsteps
      (hmoves.settled hsettles) rfl
  · have hbudget := budget_path hpath hother
    exact ⟨hbudget.distinct, hbudget.sends⟩

end Run

def lanMoved : Transition EngineState Entry :=
  operated willing { currentConfig := firstRevision } (.processTransaction "tx-1"
    { firstRevision with lan := { ipAddress := "192.168.1.2" } })

def lanConfirmed : Transition EngineState Entry :=
  operated willing lanMoved.after (.confirmTransaction "tx-1")

def lateTimer : Transition EngineState Entry :=
  operated willing lanConfirmed.after (.rollbackExpired "tx-1")

theorem confirm_and_timeout_exclude_at_lateTimer :
    lanMoved.after.phase "tx-1" = .opened 0 ∧ lateTimer.label.acts = [] ∧
      lateTimer.after = lateTimer.before := by
  have hpath : Path (Operates .plain) lanMoved.after [lanConfirmed, lateTimer] lateTimer.after :=
    .cons (operates_willing _ _) (.single (operates_willing _ _))
  have hother : ∀ m ∈ [lanConfirmed, lateTimer], m.label.op.opens ≠ some "tx-1" := by
    simp [lanConfirmed, lateTimer, operated, Operation.opens]
  have hsaved : .saved lanConfirmed.after.currentConfig (.ok ()) ∈ lanConfirmed.label.acts :=
    .head _
  refine ⟨by decide +kernel, ?_⟩
  exact (confirm_and_timeout_exclude hpath hother).1 [] lanConfirmed [] lateTimer [] _ rfl hsaved rfl

end MinimalRouter.Apply
