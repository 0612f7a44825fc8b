import MinimalRouter.Apply.Exclusion

namespace MinimalRouter.Apply

open Goish Config Lib Lib.Prog

def EngineState.blocked (st : EngineState) : Bool := st.recoveryRequired || st.pending.isSome

def PendingChange.movesLan (pending : PendingChange) : Bool :=
  pending.previous.lan.ipAddress ≠ pending.tx.config.lan.ipAddress ||
    pending.previous.lan.cidr ≠ pending.tx.config.lan.cidr

def Act.Confirms (a : Act) (op : OperationType) (cfg : SystemConfig) : Prop :=
  ∃ req, a.Acknowledges req ∧ req.op = op ∧ req.config = cfg

structure Withheld (e : Transition EngineState Entry) : Prop where
  transactions : e.label.op.opens.isSome → e.label.acts = []
  bypass : e.label.op = .call .withQosBypassed → e.label.acts = []
  actions : ∀ request r, Act.action request r ∉ e.label.acts
  rollback : ∀ req r, Act.sent req r ∈ e.label.acts → req.op = .applyAll →
    ∃ pending, e.before.pending = some pending ∧ req.config = pending.previous ∧
      e.label.op = .call (.rollbackExpired pending.tx.id)

inductive Cleared (p : Plane) (past : List Act) (e : Transition EngineState Entry) : Prop
  | reconciled (hop : e.label.op = .call .reconcile) (ha : a ∈ e.label.acts)
      (hack : a.Confirms .reconcile e.before.currentConfig)
  | rolledBack (hpending : e.before.pending = some pending)
      (hop : e.label.op = .call (.rollbackExpired pending.tx.id)) (ha : a ∈ e.label.acts)
      (hack : a.Confirms .applyAll pending.previous)
  | committed (hpending : e.before.pending = some pending)
      (hop : e.label.op = .call (.confirmTransaction pending.tx.id))
      (hacts : e.label.acts = ahead ++ a :: behind)
      (hack : a.Confirms .commitConfirmed pending.tx.config)
      (hstored : p.hasStore = true → .saved pending.tx.config (.ok ()) ∈ past ++ ahead)
      (hlan : pending.movesLan = true → ∃ b ∈ behind, b.Confirms .reconcile pending.tx.config)

def Completes (pending : PendingChange) (more : List Act) : Prop :=
  ∃ ahead a behind, more = ahead ++ a :: behind ∧ a.Confirms .commitConfirmed pending.tx.config ∧
    (pending.movesLan = true → ∃ b ∈ behind, b.Confirms .reconcile pending.tx.config)

theorem Tried.confirms (h : Tried req n r more) (hr : acknowledged r = true) :
    ∃ a ∈ more, a.Confirms req.op req.config := by
  obtain ⟨a, ha, hack⟩ := h.acknowledges hr
  exact ⟨a, ha, req, hack, rfl, rfl⟩

theorem acknowledged_of_shortfall (h : shortfall unknown failed r = none) :
    acknowledged r = true := by
  obtain ⟨_, rfl, hresp⟩ := verifiedSuccess_of_shortfall h
  exact hresp

theorem confirms_finalizeLan : (finalizeLan p st pending).wp ledger.handler (fun c acts' =>
      ∃ more, acts' = acts ++ more ∧ (c.engine.recoveryRequired = false →
        ∃ b ∈ more, b.Confirms .reconcile pending.tx.config)) acts := by
  unfold finalizeLan
  split
  · exact ⟨[], by simp, nofun⟩
  · next req hreq =>
    refine wp_tried fun r more htried => ?_
    split
    · exact ⟨more, rfl, nofun⟩
    · next hshort =>
      rintro now _ rfl
      refine ⟨more, rfl, fun _ => ?_⟩
      have hconfirms := htried.confirms (acknowledged_of_shortfall hshort)
      rwa [(built_of_build hreq).config] at hconfirms

theorem completes_acknowledgeCommit :
    (acknowledgeCommit p st pending).wp ledger.handler (fun c acts' =>
      ∃ more, acts' = acts ++ more ∧
        (c.engine.recoveryRequired = false → Completes pending more)) acts := by
  unfold acknowledgeCommit
  refine wp_tried fun r more htried => ?_
  split
  · exact ⟨more, rfl, nofun⟩
  · next hshort =>
    obtain ⟨a, ha, hconfirms⟩ := htried.confirms (acknowledged_of_shortfall hshort)
    obtain ⟨ahead, behind, rfl⟩ := List.append_of_mem ha
    split
    · refine wp_mono confirms_finalizeLan ?_
      rintro c _ ⟨last, rfl, hlast⟩
      refine ⟨ahead ++ a :: behind ++ last, by simp, fun h => ?_⟩
      obtain ⟨b, hb, hfinal⟩ := hlast h
      exact ⟨ahead, a, behind ++ last, by simp, hconfirms, fun _ =>
        ⟨b, List.mem_append_right _ hb, hfinal⟩⟩
    · next hlan =>
      rintro now _ rfl
      exact ⟨_, rfl, fun _ => ⟨ahead, a, behind, rfl, hconfirms, fun h => absurd h hlan⟩⟩

theorem completes_confirmTransaction (hrecovery : st.recoveryRequired = true) (txId : String) :
    (confirmTransaction p st txId).wp ledger.handler (fun c acts =>
      c.engine.recoveryRequired = false → ∃ pending stored more,
        st.pending = some pending ∧ pending.tx.id = txId ∧ acts = stored ++ more ∧
        Completes pending more ∧ (p.hasStore = true → pending.canonicalCommitted = false →
          .saved pending.tx.config (.ok ()) ∈ stored)) [] := by
  have hblocked : ∀ {st' : EngineState}, st'.recoveryRequired = st.recoveryRequired →
      st'.recoveryRequired ≠ false := by
    intro st' h
    simp [h, hrecovery]
  unfold confirmTransaction
  cases hpending : st.pending with
  | none => exact fun h => absurd h (hblocked rfl)
  | some pending =>
  dsimp only
  split
  · exact fun h => absurd h (hblocked rfl)
  · next hid =>
    simp only [ne_eq, not_not] at hid
    unfold confirmLocked
    split
    · next hcanon =>
      refine wp_mono completes_acknowledgeCommit ?_
      rintro c acts ⟨more, hacts, hmore⟩ h
      exact ⟨pending, [], more, rfl, hid, hacts, hmore h, fun _ hopen => by
        simp [hcanon] at hopen⟩
    refine wp_verifyTunnel fun verified s₁ hsent => ?_
    cases verified with
    | error => exact fun h => absurd h (hblocked rfl)
    | ok u =>
      refine wp_commitConfig p fun saved s₂ hsave => ?_
      cases saved with
      | error => exact fun h => absurd h (hblocked rfl)
      | ok =>
        refine wp_mono completes_acknowledgeCommit ?_
        rintro c _ ⟨more, rfl, hmore⟩ h
        refine ⟨pending, s₂, more, rfl, hid, rfl, hmore h, fun hstore _ => ?_⟩
        have hacts := acts_of_persisted hsave
        rw [if_pos hstore] at hacts
        simp [hacts]

def Stored (p : Plane) (past : List Act) (st : EngineState) : Prop :=
  ∀ pending, st.pending = some pending → pending.canonicalCommitted = true → p.hasStore = true →
    .saved pending.tx.config (.ok ()) ∈ past

theorem Stored.of_none (h : st.pending = none) : Stored p past st := by
  intro pending hpending
  rw [h] at hpending
  cases hpending

theorem Stored.of_pending (hpending : st.pending = some pending)
    (h : pending.canonicalCommitted = true → p.hasStore = true →
      .saved pending.tx.config (.ok ()) ∈ past) : Stored p past st := by
  intro pending' hpending'
  rw [hpending] at hpending'
  cases hpending'
  exact h

theorem Stored.of_open (hpending : st.pending = some pending)
    (h : pending.canonicalCommitted = false) : Stored p past st :=
  .of_pending hpending fun hcanon => by simp [h] at hcanon

theorem Stored.of_same (h : Stored p past st) (hsame : st'.pending = st.pending)
    (acts : List Act) : Stored p (past ++ acts) st' := by
  intro pending hpending hcanon hstore
  exact List.mem_append_left _ (h pending (hsame ▸ hpending) hcanon hstore)

theorem stored_transacted (hstored : Stored p past st)
    (h : Transacted ledger p st txId newCfg initialSetup [] c acts) :
    Stored p (past ++ acts) c.engine := by
  cases h with
  | unplanned | unknown | unacknowledged | committed => exact hstored.of_same rfl _
  | refused =>
    refine hstored.of_same ?_ _
    unfold refuseTransaction
    dsimp only
    split <;> rfl
  | awaiting => exact .of_open rfl rfl
  | uncommitted hverified hcommit hundo =>
    cases hundo with
    | restored | unrestored => exact hstored.of_same rfl _

theorem stored_acknowledged
    (hsaved : p.hasStore = true → .saved pending.tx.config (.ok ()) ∈ past ++ before)
    (h : Acknowledged ledger p st pending before c acts) : Stored p (past ++ acts) c.engine := by
  cases h with
  | failed hsent =>
    obtain ⟨_, rfl, -⟩ := adds_of_sent hsent
    refine .of_pending rfl fun _ hstore => ?_
    rw [← List.append_assoc]
    exact List.mem_append_left _ (hsaved hstore)
  | finished => exact .of_none rfl

theorem stored_concluded (hstored : Stored p past st) (h : Concluded ledger p st txId [] c acts) :
    Stored p (past ++ acts) c.engine := by
  cases h with
  | notAwaiting => exact hstored.of_same rfl _
  | unverified hawaits | unsaved hawaits => exact .of_open rfl hawaits.canon
  | saved hawaits hsent hsave hack =>
    refine stored_acknowledged (fun hstore => ?_) hack
    have hacts := acts_of_persisted hsave
    rw [if_pos hstore] at hacts
    simp [hacts]
  | again hawaits hack =>
    refine stored_acknowledged (fun hstore => ?_) hack
    simpa using hstored _ hawaits.stored hawaits.canon hstore

theorem stored_expired (hstored : Stored p past st) (h : Expired ledger p st txId [] c acts) :
    Stored p (past ++ acts) c.engine := by
  cases h with
  | idle => exact hstored.of_same rfl _
  | exhausted | restored => exact .of_none rfl
  | retried hawaits => exact .of_open rfl hawaits.canon

theorem stored_of_operates (hstored : Stored p past st) (h : Operates p st e st') :
    Stored p (past ++ e.acts) st' := by
  cases h with
  | action => exact hstored.of_same rfl _
  | @call _ c _ _ _ h =>
  have hperformed := performed_of_runs h
  cases c with
  | processTransaction | processInitialSetup => exact stored_transacted hstored hperformed
  | confirmTransaction => exact stored_concluded hstored hperformed
  | rollbackExpired => exact stored_expired hstored hperformed
  | reconcile =>
    obtain ⟨_, hreconciled⟩ := hperformed
    rcases (pending_reconciled hreconciled).2 with hnone | hsame
    · exact .of_none hnone
    · exact hstored.of_same hsame _
  | withQosBypassed =>
    cases hperformed with
    | idle | restored | unrestored => exact hstored.of_same rfl _

inductive Permitted (st : EngineState) (op : Operation) : Act → Prop
  | sent (hrollback : req.op = .applyAll → ∃ pending, st.pending = some pending ∧
        req.config = pending.previous ∧ op = .call (.rollbackExpired pending.tx.id)) :
      Permitted st op (.sent req r)
  | saved : Permitted st op (.saved cfg r)

theorem permitted_of_sent (h : Sent ledger R acts acts')
    (hR : ∀ req, R req → req.op = .applyAll → ∃ pending, st.pending = some pending ∧
      req.config = pending.previous ∧ op = .call (.rollbackExpired pending.tx.id)) :
    Adds (Permitted st op) acts acts' := by
  refine (adds_of_sent h).mono fun a ha => ?_
  cases ha with
  | mk hreq => exact .sent (hR _ hreq)

theorem permitted_of_persisted (h : Persisted ledger p false cfg acts r acts') :
    Adds (Permitted st op) acts acts' := by
  have hacts := acts_of_persisted h
  split at hacts
  · rw [hacts]
    exact .one .saved
  · rw [hacts.2]
    exact .none

theorem permitted_acknowledged (h : Acknowledged ledger p st' pending acts c acts') :
    Adds (Permitted st op) acts acts' := by
  have hkind : ∀ req, Acknowledging p pending req → req.op ≠ .applyAll := by
    intro req hreq
    cases hreq <;> nofun
  have hclosing : ∀ req, Closing p pending req → req.op ≠ .applyAll := by
    intro req hreq
    cases hreq <;> nofun
  cases h with
  | failed hsent => exact permitted_of_sent hsent fun req hreq h => absurd h (hkind req hreq)
  | finished hsent hreq hx =>
    refine (permitted_of_sent hsent fun req hreq h => absurd h (hkind req hreq)).trans ?_
    exact permitted_of_sent (hx.sent hreq) fun req hreq h => absurd h (hclosing req hreq)

theorem permitted_concluded (h : Concluded ledger p st txId [] c acts) :
    Adds (Permitted st op) [] acts := by
  have hstatus : ∀ {acts acts' : List Act}, Sent ledger (·.op = .wgTunnelStatus) acts acts' →
      Adds (Permitted st op) acts acts' := by
    intro acts acts' hsent
    exact permitted_of_sent hsent fun req hreq h => by simp [hreq] at h
  cases h with
  | notAwaiting => exact .none
  | unverified hawaits hsent => exact hstatus hsent
  | unsaved hawaits hsent hsave =>
    exact (hstatus hsent).trans (permitted_of_persisted hsave)
  | saved hawaits hsent hsave hack =>
    exact ((hstatus hsent).trans (permitted_of_persisted hsave)).trans (permitted_acknowledged hack)
  | again hawaits hack => exact permitted_acknowledged hack

theorem permitted_expired (h : Expired ledger p st txId [] c acts) :
    Adds (Permitted st (.call (.rollbackExpired txId))) [] acts := by
  have hprevious : ∀ {pending : PendingChange} {req : ApplyRequest}, Awaits st txId false pending →
      (∃ id, buildApplyRequest p.services id pending.previous = .ok req) →
      ∃ pending, st.pending = some pending ∧ req.config = pending.previous ∧
        Operation.call (.rollbackExpired txId) = .call (.rollbackExpired pending.tx.id) := by
    rintro pending req hawaits ⟨id, hreq⟩
    exact ⟨pending, hawaits.stored, (built_of_build hreq).config, by rw [hawaits.id]⟩
  cases h with
  | idle | exhausted => exact .none
  | restored hawaits hreq hx =>
    refine permitted_of_sent (R := fun req => ∃ id, buildApplyRequest p.services id _ = .ok req)
      (hx.sent ⟨_, hreq⟩) fun req hreq _ => hprevious hawaits hreq
  | retried hawaits hsent =>
    exact permitted_of_sent hsent fun req hreq _ => hprevious hawaits hreq

theorem permitted_reconciled {id : String} (h : Reconciled ledger p st id [] c acts) :
    Adds (Permitted st op) [] acts := by
  have hone : ∀ {req : ApplyRequest} {r : Except String ApplyResponse},
      Exchanged ledger { req with op := .reconcile } [] r acts →
      Adds (Permitted st op) [] acts := by
    intro req r hx
    exact permitted_of_sent (R := (·.op = .reconcile)) (hx.sent rfl)
      fun req hreq h => by simp [hreq] at h
  cases h with
  | unbuilt => exact .none
  | failed hsent =>
    refine permitted_of_sent hsent ?_
    rintro req ⟨_, rfl, -⟩ h
    cases h
  | settled hreq hx | closed hreq hx => exact hone hx

theorem nothing_transacted (hblocked : st.blocked = true)
    (h : Transacted ledger p st txId newCfg initialSetup [] c acts) :
    acts = [] ∧ c.engine = st := by
  have hplanned : ∀ {tx : Transaction} {request : ApplyRequest},
      ¬ Planned p st txId newCfg tx request := by
    intro tx request hplan
    simp [EngineState.blocked, hplan.unblocked, hplan.free] at hblocked
  cases h with
  | unplanned => exact ⟨rfl, rfl⟩
  | unknown hplan | refused hplan => exact absurd hplan hplanned
  | awaiting hverified | uncommitted hverified | unacknowledged hverified
  | committed hverified => exact absurd hverified.plan hplanned

theorem nothing_bypassed (hblocked : st.blocked = true)
    (h : Runs ledger.handler (withQosBypassed p st) [] c acts) : acts = [] ∧ c.engine = st := by
  have hmessage : ∃ message, bypassBlocked st = some message := by
    unfold bypassBlocked
    split
    · exact ⟨_, rfl⟩
    · next hrecovery =>
      rw [if_pos (by simpa [EngineState.blocked, hrecovery] using hblocked)]
      exact ⟨_, rfl⟩
  obtain ⟨message, hmessage⟩ := hmessage
  unfold withQosBypassed at h
  rw [hmessage] at h
  cases h
  exact ⟨rfl, rfl⟩

theorem nothing_performAction (hblocked : st.blocked = true)
    (h : Runs errands (performAction st a) [] result acts) : acts = [] := by
  have hforbidden : actionAllowed st ≠ true := by
    simp only [EngineState.blocked, Bool.or_eq_true] at hblocked
    cases hpending : st.pending <;> simp_all [actionAllowed]
  refine (guarded_performAction a).kept (I := fun s t => t = s) (K := fun _ _ _ => False)
    (fun s q r t hq hstep => ?_) nofun (fun _ => rfl) (fun _ _ _ h h' => h'.trans h) h.cut
  cases q with
  | expired => exact hstep
  | call => exact absurd (hq rfl) hforbidden

theorem Withheld.of_nothing (h : e.label.acts = []) : Withheld e :=
  ⟨fun _ => h, fun _ => h, by simp [h], by simp [h]⟩

theorem Withheld.of_permitted (hopens : e.label.op.opens = none)
    (hbypass : e.label.op ≠ .call .withQosBypassed)
    (h : ∀ a ∈ e.label.acts, Permitted e.before e.label.op a) : Withheld e where
  transactions hsome := by simp [hopens] at hsome
  bypass hop := absurd hop hbypass
  actions request r ha := nomatch h _ ha
  rollback req r ha hop := by
    cases h _ ha with
    | sent hrollback => exact hrollback hop

theorem withheld_of_operates (h : Operates p st e st') (hblocked : st.blocked = true) :
    Withheld ⟨st, e, st'⟩ := by
  cases h with
  | action h => exact .of_nothing (nothing_performAction hblocked h)
  | @call _ c _ _ _ h =>
    have hperformed := performed_of_runs h
    cases c with
    | processTransaction
    | processInitialSetup => exact .of_nothing (nothing_transacted hblocked hperformed).1
    | confirmTransaction =>
      exact .of_permitted rfl nofun (permitted_concluded hperformed).all
    | rollbackExpired => exact .of_permitted rfl nofun (permitted_expired hperformed).all
    | reconcile =>
      obtain ⟨_, hreconciled⟩ := hperformed
      exact .of_permitted rfl nofun (permitted_reconciled hreconciled).all
    | withQosBypassed => exact .of_nothing (nothing_bypassed hblocked h).1

theorem confirms_of_exchanged (h : Exchanged ledger req acts (.ok resp) acts')
    (hresp : resp.verifiedSuccess = true) : ∃ a ∈ acts', a.Confirms req.op req.config := by
  generalize hr : Except.ok resp = r at h
  induction h with
  | abandoned | invalid => cases hr
  | answered hsend hvalid =>
    cases hr
    cases hsend
    exact ⟨_, by simp, req, .mk hvalid hresp, rfl, rfl⟩
  | lost hsend hrest ih => exact ih hr

theorem cleared_expired (hop : e.op = .call (.rollbackExpired txId))
    (h : Expired ledger p st txId [] c e.acts) (hbefore : st.recoveryRequired = true)
    (hafter : c.engine.recoveryRequired = false) : Cleared p past ⟨st, e, c.engine⟩ := by
  have hsame : ∀ {st' : EngineState}, st'.recoveryRequired = st.recoveryRequired →
      st'.recoveryRequired ≠ false := fun h => by simp [h, hbefore]
  generalize hacts : e.acts = acts at h
  cases h with
  | idle | retried => exact absurd hafter (hsame rfl)
  | exhausted => cases hafter
  | restored hawaits hreq hx hresp =>
    obtain ⟨a, ha, hconfirms⟩ := confirms_of_exchanged hx hresp
    rw [(built_of_build hreq).op, (built_of_build hreq).config] at hconfirms
    exact .rolledBack hawaits.stored (hawaits.id ▸ hop) (hacts ▸ ha) hconfirms

theorem cleared_reconciled {id : String} (hop : e.op = .call .reconcile)
    (h : Reconciled ledger p st id [] c e.acts) (hbefore : st.recoveryRequired = true)
    (hafter : c.engine.recoveryRequired = false) : Cleared p past ⟨st, e, c.engine⟩ := by
  have hone : ∀ {req : ApplyRequest} {resp : ApplyResponse} {acts : List Act}, e.acts = acts →
      buildApplyRequest p.services id st.currentConfig = .ok req →
      Exchanged ledger { req with op := .reconcile } [] (.ok resp) acts →
      resp.verifiedSuccess = true → ∀ st', Cleared p past ⟨st, e, st'⟩ := by
    intro req resp acts hacts hreq hx hresp st'
    obtain ⟨a, ha, hconfirms⟩ := confirms_of_exchanged hx hresp
    rw [(built_of_build hreq).config] at hconfirms
    exact .reconciled hop (hacts ▸ ha) hconfirms
  generalize hacts : e.acts = acts at h
  cases h with
  | unbuilt => simp [hbefore] at hafter
  | failed => cases hafter
  | settled hreq hx hresp | closed hreq hx hresp => exact hone hacts hreq hx hresp _

theorem cleared_confirmed (hstored : Stored p past st)
    (h : Runs ledger.handler (confirmTransaction p st txId) [] ⟨st', tx, result⟩ acts)
    (hbefore : st.recoveryRequired = true) (hafter : st'.recoveryRequired = false) :
    Cleared p past ⟨st, ⟨.call (.confirmTransaction txId), acts, .called tx result⟩, st'⟩ := by
  obtain ⟨pending, _, _, hpending, rfl, rfl, hcompletes, hsaved⟩ :=
    wp_sound (completes_confirmTransaction hbefore txId) h hafter
  obtain ⟨_, a, _, rfl, hconfirms, hlan⟩ := hcompletes
  refine .committed hpending rfl (List.append_assoc ..).symm hconfirms (fun hstore => ?_) hlan
  cases hcanon : pending.canonicalCommitted with
  | true => exact List.mem_append_left _ (hstored pending hpending hcanon hstore)
  | false => simp [hsaved hstore hcanon]

theorem cleared_of_operates (hstored : Stored p past st) (h : Operates p st e st')
    (hbefore : st.recoveryRequired = true) (hafter : st'.recoveryRequired = false) :
    Cleared p past ⟨st, e, st'⟩ := by
  have hblocked : st.blocked = true := by simp [EngineState.blocked, hbefore]
  have hsame : st' ≠ st := by
    rintro rfl
    simp [hbefore] at hafter
  cases h with
  | action => exact absurd rfl hsame
  | @call _ c acts tx result h =>
    have hperformed := performed_of_runs h
    cases c with
    | processTransaction
    | processInitialSetup => exact absurd (nothing_transacted hblocked hperformed).2 hsame
    | confirmTransaction => exact cleared_confirmed hstored h hbefore hafter
    | rollbackExpired =>
      exact cleared_expired (c := ⟨st', tx, result⟩) (e := ⟨_, acts, _⟩) rfl hperformed hbefore hafter
    | reconcile =>
      obtain ⟨_, hreconciled⟩ := hperformed
      exact cleared_reconciled (c := ⟨st', tx, result⟩) (e := ⟨_, acts, _⟩) rfl hreconciled hbefore
        hafter
    | withQosBypassed => exact absurd (nothing_bypassed hblocked h).2 hsame

/-- In every run of a new engine: while recovery is required or a change is pending, nothing is sent
but the way back of that change and what completes it, and recovery ends only by an acknowledged
reconciliation, rollback or commit. -/
theorem recovery_blocks {cfg : SystemConfig} {steps : History}
    (hpath : Path (Operates p) { currentConfig := cfg } steps st') :
    ∀ past e rest, steps = past ++ e :: rest → (e.before.blocked = true → Withheld e) ∧
      (e.before.recoveryRequired = true → e.after.recoveryRequired = false →
        Cleared p (actsOf past) e) := by
  intro past e rest hsteps
  obtain ⟨hpast, hstep⟩ := hpath.split hsteps
  have hstored : Stored p (actsOf past) e.before := by
    refine Path.invariant (I := fun past st => Stored p (actsOf past) st) (K := fun _ _ => True)
      (fun past t l u hI _ hstep => ?_) (.of_none rfl) hpast fun _ _ _ _ => trivial
    rw [actsOf_snoc]
    exact stored_of_operates hI hstep
  exact ⟨withheld_of_operates hstep, cleared_of_operates hstored hstep⟩

def unfinished : Transition EngineState Entry :=
  operated unreachable lanMoved.after (.confirmTransaction "tx-1")

def finishedLater : Transition EngineState Entry :=
  operated willing unfinished.after (.confirmTransaction "tx-1")

theorem recovery_blocks_at_finishedLater :
    unfinished.after.recoveryRequired = true ∧ finishedLater.after.recoveryRequired = false ∧
      Withheld finishedLater ∧ Cleared .plain (actsOf [lanMoved, unfinished]) finishedLater := by
  have hpath : Path (Operates .plain) { currentConfig := firstRevision }
      [lanMoved, unfinished, finishedLater] finishedLater.after :=
    .cons (operates_willing _ _) (.cons (operates_unreachable _ _)
      (.single (operates_willing _ _)))
  obtain ⟨hwithheld, hcleared⟩ := recovery_blocks hpath [lanMoved, unfinished] finishedLater [] rfl
  have hbefore : finishedLater.before.recoveryRequired = true := by decide +kernel
  have hafter : finishedLater.after.recoveryRequired = false := by decide +kernel
  exact ⟨hbefore, hafter, hwithheld (by decide +kernel), hcleared hbefore hafter⟩

end MinimalRouter.Apply
