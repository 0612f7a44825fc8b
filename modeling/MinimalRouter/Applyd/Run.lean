import MinimalRouter.Applyd.Outcome
import MinimalRouter.Lib.Machine

namespace MinimalRouter.Applyd

open Goish Config Apply Lib Lib.Result

variable {F : Type} [DecidableEq F]

section Handled

variable (a : Appliance F) (env : HelperEnv) (h : Helper F)

inductive Closed (req : ApplyRequest) (hash : F) (response : ApplyResponse) :
    TransactionRecord F → List (Effect F) → Prop
  | saved : Closed req hash response (outcomeRecord env req hash response)
      [.journal (outcomeRecord env req hash response)]
  | unsaved (hwritten : written = [] ∨ written = [.journal (outcomeRecord env req hash response)] ∧
        env.outcomeWrite.atomic = false) : Closed req hash response
        { outcomeRecord env req hash response with
          response := journalPersistenceFailure req.id response } written

def intended (req : ApplyRequest) (hash : F) : Helper F :=
  { h with disk := h.disk.apply (.journal (intentRecord env req hash)) }

inductive Handled : Payload → Processed F → Prop
  | unread (hr : ∀ req, payload = .request req → req.op.transactional = true →
        response.verifiedSuccess = false) : Handled payload ⟨response, [], h⟩
  | replayed {req : ApplyRequest} {hash : F} {response : ApplyResponse}
      (hhash : a.digest.hashRequest req = some hash)
      (hreplay : consultJournal env req h hash = some response) :
      Handled (.request req) ⟨response, [], h⟩
  | unrecorded {req : ApplyRequest} {hash : F} {message : String} {written : List (Effect F)}
      (hhash : a.digest.hashRequest req = some hash) (hfresh : consultJournal env req h hash = none)
      (hwritten : written = [] ∨ written = [.journal (intentRecord env req hash)] ∧
        env.intentWrite.atomic = false) : Handled (.request req)
        ⟨refuse req message, written, { h with disk := h.disk.applyAll written }⟩
  | ran {req : ApplyRequest} {hash : F} {ran : Ran F} {record : TransactionRecord F}
      {written : List (Effect F)} (hop : req.op.transactional = true)
      (hhash : a.digest.hashRequest req = some hash) (hfresh : consultJournal env req h hash = none)
      (hran : Executed a env req (intended env h req hash) ran)
      (hclosed : Closed env req hash ran.response record written)
      (hexact : ran = execute a env req (intended env h req hash)) : Handled (.request req)
        ⟨record.response,
          .journal (intentRecord env req hash) :: .operation req :: (ran.effects ++ written),
          ⟨h.disk.applyAll
            (.journal (intentRecord env req hash) :: .operation req :: (ran.effects ++ written)),
            some record, ran.runtime⟩⟩

variable {env}

section

omit [DecidableEq F]

theorem Closed.not_mem {hash : F} (h : Closed env req hash response record written)
    (he : ∀ r, effect ≠ .journal r) : effect ∉ written := by
  cases h with
  | saved => simpa using he _
  | unsaved hwritten => rcases hwritten with rfl | ⟨rfl, -⟩ <;> simp [he]

theorem saveLastTransaction_ok {r : TransactionRecord F}
    (hs : (saveLastTransaction w r).1 = .ok ()) : (saveLastTransaction w r).2 = [.journal r] := by
  unfold saveLastTransaction at hs ⊢
  split
  · simp_all
  · simp_all [writeFile_ok]

theorem saveLastTransaction_error {w : WriteOutcome} {r : TransactionRecord F} {x : String}
    (hs : (saveLastTransaction w r).1 = .error x) : (saveLastTransaction w r).2 = [] ∨
      (saveLastTransaction w r).2 = [.journal r] ∧ w.atomic = false := by
  unfold saveLastTransaction at hs ⊢
  split
  · exact .inl rfl
  · simp_all [writeFile_error]

theorem closed_persistTransactionOutcome (req : ApplyRequest) (hash : F)
    (response : ApplyResponse) : Closed env req hash response
      (persistTransactionOutcome env (outcomeRecord env req hash response)).1
      (persistTransactionOutcome env (outcomeRecord env req hash response)).2 := by
  unfold persistTransactionOutcome
  cases hs : (saveLastTransaction env.outcomeWrite (outcomeRecord env req hash response)).1 with
  | ok =>
    simp only [hs, saveLastTransaction_ok hs]
    exact .saved
  | error =>
    simp only [hs]
    exact .unsaved (saveLastTransaction_error hs)

end

variable (env)

theorem handled_transact {req : ApplyRequest} (hop : req.op.transactional = true) :
    Handled a env h (.request req) (transact a env req h) := by
  unfold transact
  cases hhash : a.digest.hashRequest req with
  | none => exact .unread fun _ _ _ => rfl
  | some hash =>
  cases hc : consultJournal env req h hash with
  | some =>
    simp only [hc]
    exact .replayed hhash hc
  | none =>
  simp only [hc]
  cases hs : saveLastTransaction env.intentWrite (intentRecord env req hash) with
  | mk result =>
    have hsaved := congrArg Prod.snd hs
    cases result with
    | error =>
      have herror := saveLastTransaction_error (congrArg Prod.fst hs)
      rw [hsaved] at herror
      exact .unrecorded hhash hc herror
    | ok =>
      have hok := saveLastTransaction_ok (congrArg Prod.fst hs)
      rw [hsaved] at hok
      subst hok
      exact .ran hop hhash hc (executed_execute a env req (intended env h req hash))
        (closed_persistTransactionOutcome req hash _) rfl

theorem handled_processRequest (payload : Payload) :
    Handled a env h payload (processRequest a env h payload) := by
  unfold processRequest
  cases payload with
  | trailing | invalid => exact .unread (by simp)
  | request req =>
    simp only
    split
    · exact .unread fun _ _ _ => rfl
    split
    · exact .unread fun _ _ _ => rfl
    cases hop : req.op with
    | other => exact .unread fun _ _ _ => rfl
    | firewallCounters
    | wgTunnelStatus => exact .unread fun r hr ht => by simp_all [OperationType.transactional]
    | applyAll | confirm | commitConfirmed
    | reconcile => exact handled_transact a env h (by simp [hop, OperationType.transactional])

theorem processRequest_disk (payload : Payload) : (processRequest a env h payload).helper.disk =
      h.disk.applyAll (processRequest a env h payload).effects := by
  have hhandled := handled_processRequest a env h payload
  generalize processRequest a env h payload = p at hhandled ⊢
  cases hhandled <;> rfl

end Handled

section Startup

variable (a : Appliance F) (env : StartupEnv) (h : Helper F)

/-- A restart forgets the memory of the last transaction and touches only artifacts and the pending
record. -/
structure Rebooted (s : Started F) : Prop where
  memory : s.helper.memory = none
  disk : s.helper.disk = h.disk.applyAll s.effects
  effects : ∃ arts tail, s.effects = arts ++ tail ∧ (∀ e ∈ arts, e.isArtifact = true) ∧
    (tail = [] ∨ tail = [.clearPending])

variable {h} in
omit [DecidableEq F] in
theorem Rebooted.privileged (hs : Rebooted h s) : ∀ e ∈ s.effects, e.isPrivileged = true := by
  obtain ⟨_, _, heffects, harts, htail⟩ := hs.effects
  rw [heffects, List.forall_mem_append]
  refine ⟨fun e he => isPrivileged_of_isArtifact (harts e he), ?_⟩
  rcases htail with rfl | rfl <;> simp [Effect.isPrivileged]

omit [DecidableEq F]

theorem rebooted_finishStartup (label restore : String) (clear : Bool)
    (report : Script.Report Component (Option Active) ArtifactWrite String) :
    Rebooted h (finishStartup env h label restore clear report) := by
  have harts := isArtifact_artifactEffects (F := F) report.writes
  unfold finishStartup
  cases report.aborted with
  | some => exact ⟨rfl, rfl, _, [], (List.append_nil _).symm, harts, .inl rfl⟩
  | none =>
    cases clear with
    | false => exact ⟨rfl, rfl, _, [], (List.append_nil _).symm, harts, .inl rfl⟩
    | true =>
      refine ⟨rfl, rfl, _, (clearPendingConfirmation env.pendingClear).2, rfl, harts, ?_⟩
      simp only [clearPendingConfirmation, writeFile]
      split <;> simp

theorem rebooted_reconcileStartup : Rebooted h (reconcileStartup a env h) := by
  have hstop : ∀ e, Rebooted h ⟨.error e, [], { h with memory := none }⟩ :=
    fun e => ⟨rfl, rfl, [], [], rfl, by simp, .inl rfl⟩
  unfold reconcileStartup
  cases loadLastGood a.rules env.lastGoodRead h.disk with
  | unreadable => exact hstop _
  | notFound =>
    cases env.pendingInspect with
    | error => exact hstop _
    | ok => exact rebooted_finishStartup ..
  | found cfg =>
    simp only
    cases a.rules.validate cfg with
    | error => exact hstop _
    | ok =>
      cases a.rules.validateScenarioSafety cfg with
      | error => exact hstop _
      | ok => exact rebooted_finishStartup ..

end Startup

/-- What happens to the helper: a request is processed, the process dies in a request after some of
its durable steps, or it starts again. -/
inductive Input
  | request : HelperEnv → Payload → Input
  | crash : HelperEnv → Payload → Nat → Runtime → Input
  | restart : StartupEnv → Input

structure Output (F : Type) where
  response : Option ApplyResponse
  effects : List (Effect F)

def helper (a : Appliance F) : Machine (Helper F) Input (Output F) where
  respond
    | h, .request env data =>
      let p := processRequest a env h data
      (⟨some p.response, p.effects⟩, p.helper)
    | h, .crash env data done left =>
      let effects := (processRequest a env h data).effects.take done
      (⟨none, effects⟩, ⟨h.disk.applyAll effects, none, left⟩)
    | h, .restart env =>
      let s := reconcileStartup a env h
      (⟨none, s.effects⟩, s.helper)

abbrev Step (F : Type) := Machine.Step (Helper F) Input (Output F)

end MinimalRouter.Applyd
