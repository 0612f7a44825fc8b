import MinimalRouter.Apply.EngineOutcome

namespace MinimalRouter.Apply

open Goish Config Lib Lib.Prog

namespace Query

def isCommit : Query → Bool
  | saveConfig _ => true
  | commitInitialSetup _ => true
  | _ => false

def plain : Query → Prop
  | send req => req.op = .reconcile → req.requireConfirmation = false ∧ req.deferLastGood = false
  | _ => True

end Query

def commitQuery : Bool → SystemConfig → Query
  | true, cfg => .commitInitialSetup cfg
  | false, cfg => .saveConfig cfg

abbrev Quiet {α : Type} (S : α → Prop) (prog : Exchange α) : Prop :=
  Asks (fun q => q.isCommit = false ∧ q.plain) S prog

abbrev CommitsOnce {α : Type} (initialSetup : Bool) (P : SystemConfig → Prop) (prog : Exchange α) :
    Prop :=
  AsksOnce (fun q => q.isCommit = false ∧ q.plain)
    (fun q => ∃ cfg, q = commitQuery initialSetup cfg ∧ P cfg) prog

abbrev Anything {α : Type} : α → Prop := fun _ => True

theorem plain_of_op (op : OperationType) (hop : req.op = op) (hother : op ≠ .reconcile) :
    (Query.send req).plain :=
  fun h => absurd (hop.symm.trans h) hother

theorem plain_of_build {id : String} (h : buildApplyRequest services id cfg = .ok req)
    (op : OperationType) : (Query.send { req with op }).plain :=
  fun _ => ⟨(built_of_build h).unconfirmed, (built_of_build h).immediate⟩

theorem quiet_ret (x : α) : Quiet Anything (.ret x : Exchange α) := .ret trivial

theorem quiet_attempt (hreq : (Query.send req).plain) (n : Nat) (last : Option String) :
    Quiet Anything (attempt req n last) := by
  induction n generalizing last with
  | zero => exact quiet_ret _
  | succ n ih =>
    refine .ask ⟨rfl, trivial⟩ fun expired => ?_
    split
    · exact quiet_ret _
    refine .ask ⟨rfl, hreq⟩ fun r => ?_
    cases r with
    | error => exact ih _
    | ok =>
      dsimp only
      split <;> exact quiet_ret _

theorem quiet_applyPrivileged {f : Except String ApplyResponse → Exchange α}
    (hreq : (Query.send req).plain) (h : ∀ r, Quiet Anything (f r)) :
    Quiet Anything ((applyPrivileged req).bind f) :=
  (quiet_attempt hreq 2 none).bind fun r _ => h r

theorem quiet_planTransaction (tx : Transaction) (initialSetup : Bool) :
    Quiet (fun r => ∀ tx' request, r = .ok (tx', request) →
        BasedOn newCfg tx'.config ∧ request.op = .applyAll)
      (planTransaction p st tx newCfg initialSetup) := by
  have hrefused : ∀ (e : Transaction × String) (tx' : Transaction) (request : ApplyRequest),
      Except.error e = Except.ok (tx', request) →
        BasedOn newCfg tx'.config ∧ request.op = .applyAll := by
    intro e tx' request h
    cases h
  unfold planTransaction
  cases hadmit : admitTransaction p st newCfg initialSetup with
  | error => exact .ret (hrefused _)
  | ok =>
  have hbase := (admitTransaction_eq_ok hadmit).2.2
  have hinspect : Quiet Anything (inspectTransaction p st newCfg initialSetup) := by
    unfold inspectTransaction
    split
    · exact quiet_ret _
    · refine .ask ⟨rfl, trivial⟩ fun r => ?_
      cases r <;> exact quiet_ret _
  refine hinspect.bind fun inspected _ => ?_
  cases inspected with
  | error => exact .ret (hrefused _)
  | ok =>
  cases hnext : nextRevision st.currentConfig.revision with
  | none => exact .ret (hrefused _)
  | some =>
  refine .ask ⟨rfl, trivial⟩ fun updatedAt => ?_
  dsimp only
  split
  · exact .ret (hrefused _)
  · next built hbuild =>
    have hsnapshot : Quiet Anything (createSnapshot p st) := by
      unfold createSnapshot
      split
      · exact .ask ⟨rfl, trivial⟩ fun r => quiet_ret r
      · exact quiet_ret _
    refine hsnapshot.bind fun saved _ => ?_
    cases saved with
    | error => exact .ret (hrefused _)
    | ok =>
      refine .ret fun tx' request h => ?_
      cases h
      refine ⟨⟨updatedAt.now, ?_⟩, (built_of_build hbuild).op⟩
      simp only [nextRevision_eq_some hnext, hbase]

theorem quiet_undoCommit (tx : Transaction) (e : String) : Quiet Anything (undoCommit p st tx e) := by
  unfold undoCommit
  dsimp only
  split
  · exact quiet_ret _
  · next req hbuild =>
    refine quiet_applyPrivileged (plain_of_build hbuild _) fun r => ?_
    cases r with
    | error => exact quiet_ret _
    | ok =>
      dsimp only
      split <;> exact quiet_ret _

theorem commitsOnce_commitConfig {f : Except String Unit → Exchange α} (hcfg : P cfg)
    (h : ∀ r, Quiet Anything (f r)) :
    CommitsOnce initialSetup P ((commitConfig p initialSetup cfg).bind f) := by
  unfold commitConfig
  cases initialSetup with
  | true => exact .once ⟨cfg, rfl, hcfg⟩ h
  | false =>
    simp only [Bool.false_eq_true, ↓reduceIte]
    split
    · exact .once ⟨cfg, rfl, hcfg⟩ h
    · exact (h _).once

theorem commitsOnce_process :
    CommitsOnce initialSetup (BasedOn newCfg) (process p st txId newCfg initialSetup) := by
  refine .ask ⟨rfl, trivial⟩ fun createdAt =>
    (quiet_planTransaction _ _).bind_once fun planned hplanned => ?_
  cases planned with
  | error => exact .ret
  | ok plan =>
  obtain ⟨tx, request⟩ := plan
  obtain ⟨hbase, hop⟩ := hplanned tx request rfl
  have hplain : (Query.send (candidateRequest p st request tx.config initialSetup)).plain :=
    plain_of_op .applyAll hop (by simp)
  refine .ask ⟨rfl, trivial⟩ fun notBefore => (quiet_attempt hplain _ _).bind_once fun r _ => ?_
  cases r with
  | error => exact .ret
  | ok =>
  dsimp only
  split
  · exact .ret
  split
  · exact .ret
  split
  · exact .ask ⟨rfl, trivial⟩ fun now => .ret
  refine commitsOnce_commitConfig hbase fun saved => ?_
  cases saved with
  | error e => exact quiet_undoCommit _ e
  | ok =>
    dsimp only
    split
    · refine quiet_applyPrivileged (plain_of_op .commitConfirmed rfl (by simp)) fun ack => ?_
      split <;> exact quiet_ret _
    · exact quiet_ret _

theorem quiet_finishConfirm (pending : PendingChange) : Quiet Anything (finishConfirm st pending) :=
  .ask ⟨rfl, trivial⟩ fun _ => quiet_ret _

theorem quiet_acknowledgeCommit (pending : PendingChange) :
    Quiet Anything (acknowledgeCommit p st pending) := by
  refine quiet_applyPrivileged (plain_of_op .commitConfirmed rfl (by simp)) fun commit => ?_
  split
  · exact quiet_ret _
  split
  · unfold finalizeLan
    split
    · exact quiet_ret _
    · next req hbuild =>
      refine quiet_applyPrivileged (plain_of_build hbuild _) fun result => ?_
      split
      · exact quiet_ret _
      · exact quiet_finishConfirm _
  · exact quiet_finishConfirm _

theorem quiet_verifyTunnel (pending : PendingChange) : Quiet Anything (verifyTunnel pending) := by
  unfold verifyTunnel
  dsimp only
  split
  · refine quiet_applyPrivileged (plain_of_op .wgTunnelStatus rfl (by simp)) fun r => ?_
    cases r with
    | error => exact quiet_ret _
    | ok =>
      dsimp only
      split
      · exact .ask ⟨rfl, trivial⟩ fun now => quiet_ret _
      · exact quiet_ret _
  · exact quiet_ret _

theorem commitsOnce_confirmTransaction :
    CommitsOnce false (fun cfg => ∃ pending, st.pending = some pending ∧ pending.tx.id = txId ∧
      pending.canonicalCommitted = false ∧ cfg = pending.tx.config)
      (confirmTransaction p st txId) := by
  unfold confirmTransaction
  split
  · exact .ret
  · next pending hpending =>
    split
    · exact .ret
    · next hid =>
      simp only [ne_eq, not_not] at hid
      unfold confirmLocked
      split
      · exact (quiet_acknowledgeCommit pending).once
      · next hcanon =>
        refine (quiet_verifyTunnel pending).bind_once fun verified _ => ?_
        cases verified with
        | error => exact .ret
        | ok =>
          refine commitsOnce_commitConfig
            ⟨pending, hpending, hid, Bool.eq_false_iff.mpr hcanon, rfl⟩ fun saved => ?_
          cases saved with
          | error => exact quiet_ret _
          | ok => exact quiet_acknowledgeCommit _

theorem quiet_rollbackExpired : Quiet Anything (rollbackExpired p st txId) := by
  unfold rollbackExpired
  split
  · exact quiet_ret _
  split
  · exact quiet_ret _
  unfold rollBackPending
  dsimp only
  split
  · exact quiet_ret _
  split
  · exact quiet_ret _
  · next req hbuild =>
    refine quiet_applyPrivileged (plain_of_build hbuild _) fun result => ?_
    split <;> exact quiet_ret _

theorem quiet_reconcile : Quiet Anything (reconcile p st) := by
  refine .ask ⟨rfl, trivial⟩ fun now => ?_
  unfold reconcileAs
  split
  · exact quiet_ret _
  · next req hbuild =>
    refine quiet_applyPrivileged (plain_of_build hbuild _) fun r => ?_
    cases r with
    | error => exact quiet_ret _
    | ok =>
      dsimp only
      split
      · exact quiet_ret _
      unfold settlePending
      split
      · exact quiet_ret _
      dsimp only
      split
      · exact .ask ⟨rfl, trivial⟩ fun now => quiet_ret _
      · exact quiet_ret _

theorem quiet_applyTemporaryRuntime {f : Except String Unit → Exchange α}
    (hreq : (Query.send req).plain) (h : ∀ r, Quiet Anything (f r)) :
    Quiet Anything ((applyTemporaryRuntime req).bind f) := by
  have htemporary : Quiet Anything (applyTemporaryRuntime req) := by
    refine quiet_applyPrivileged hreq fun r => ?_
    cases r <;> exact quiet_ret _
  exact htemporary.bind fun r _ => h r

theorem quiet_withQosBypassed : Quiet Anything (withQosBypassed p st) := by
  unfold withQosBypassed
  split
  · exact quiet_ret _
  dsimp only
  split
  · exact .ask ⟨rfl, trivial⟩ fun result => quiet_ret _
  refine .ask ⟨rfl, trivial⟩ fun now => ?_
  split
  · exact quiet_ret _
  · next req hbuild =>
    have hplain : (Query.send { req with deferLastGood := true }).plain :=
      plain_of_op .applyAll (built_of_build hbuild).op (by simp)
    have hbypassed : Quiet Anything (runBypassed { req with deferLastGood := true }) := by
      refine quiet_applyTemporaryRuntime hplain fun r => ?_
      cases r with
      | error => exact quiet_ret _
      | ok => exact .ask ⟨rfl, trivial⟩ fun result => quiet_ret _
    have hrestore : Quiet Anything (restoreCanonical p st) := by
      refine .ask ⟨rfl, trivial⟩ fun now => ?_
      split
      · exact quiet_ret _
      · next req hbuild =>
        exact quiet_applyTemporaryRuntime (plain_of_build hbuild _) fun r => quiet_ret _
    refine hbypassed.bind fun errors _ => hrestore.bind fun r _ => ?_
    cases r <;> exact quiet_ret _

theorem plain_perform (call : Call) : Asks (fun q => q.plain) Anything (perform p st call) := by
  have hcommit : ∀ (initialSetup : Bool) (P : SystemConfig → Prop) (q : Query),
      (∃ cfg, q = commitQuery initialSetup cfg ∧ P cfg) → q.plain := by
    rintro initialSetup P _ ⟨cfg, rfl, -⟩
    cases initialSetup <;> trivial
  cases call with
  | processTransaction =>
    exact commitsOnce_process.asks (fun _ hq => hq.2) (hcommit false _)
  | processInitialSetup =>
    exact commitsOnce_process.asks (fun _ hq => hq.2) (hcommit true _)
  | confirmTransaction =>
    exact commitsOnce_confirmTransaction.asks (fun _ hq => hq.2) (hcommit false _)
  | rollbackExpired => exact quiet_rollbackExpired.mono (fun _ hq => hq.2) fun _ => id
  | reconcile => exact quiet_reconcile.mono (fun _ hq => hq.2) fun _ => id
  | withQosBypassed => exact quiet_withQosBypassed.mono (fun _ hq => hq.2) fun _ => id

end MinimalRouter.Apply
