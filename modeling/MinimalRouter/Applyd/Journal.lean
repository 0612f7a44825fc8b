import MinimalRouter.Applyd.Run

namespace MinimalRouter.Applyd

open Goish Config Apply Lib Lib.Machine

variable {F : Type} [DecidableEq F]

namespace Effect

def isOperation : Effect F → Bool
  | operation _ => true
  | _ => false

end Effect

def operations (effects : List (Effect F)) : Nat := effects.countP Effect.isOperation

section

omit [DecidableEq F]

theorem operations_of_privileged {es : List (Effect F)} (h : ∀ e ∈ es, e.isPrivileged = true) :
    operations es = 0 := by
  unfold operations
  rw [List.countP_eq_zero]
  intro e he
  have := h e he
  cases e <;> simp_all [Effect.isOperation, Effect.isPrivileged]

theorem operations_append (as bs : List (Effect F)) :
    operations (as ++ bs) = operations as + operations bs := List.countP_append

end

namespace TransactionRecord

structure Of (req : ApplyRequest) (hash : F) (r : TransactionRecord F) : Prop where
  id : r.id = req.id
  configHash : r.configHash = hash

def replay (r : TransactionRecord F) : ApplyResponse :=
  if r.completedAt.isZero then
    recoveryFailure r.id ("privileged transaction outcome is incomplete; " ++
      "canonical reconciliation is required")
  else r.response

end TransactionRecord

open TransactionRecord

section Consult

variable {hash : F} {r : TransactionRecord F}

theorem replay_of (hr : r.Of req hash) (canonicalReconcile : Bool) :
    replayTransactionResponse req.id hash (.found r) canonicalReconcile = some r.replay := by
  simp only [replayTransactionResponse, TransactionRecord.replay, hr.id, hr.configHash, ne_eq,
    not_true, ↓reduceIte]
  split <;> rfl

theorem consultJournal_of_memory (hm : h.memory = some m) (hof : m.Of req hash) :
    consultJournal env req h hash = some m.replay := by
  simp [consultJournal, hm, replay_of hof]

theorem consultJournal_of_file (hm : h.memory = none)
    (hload : loadLastTransaction env.journalRead h.disk = .found r) (hof : r.Of req hash) :
    consultJournal env req h hash = some r.replay := by
  simp [consultJournal, hm, hload, replay_of hof]

theorem consultJournal_of_unreadable (hm : h.memory = none)
    (hload : loadLastTransaction env.journalRead h.disk = .unreadable e) (hop : req.op ≠ .reconcile) :
    consultJournal env req h hash = some (recoveryFailure req.id
      "transaction journal could not be read; canonical reconciliation is required") := by
  simp [consultJournal, hm, hload, replayTransactionResponse, hop]

omit [DecidableEq F] in
theorem loadLastTransaction_some (read : CmdResult) (hd : d.lastTransaction = some r) :
    loadLastTransaction read d = .found r ∨ ∃ e, loadLastTransaction read d = .unreadable e := by
  unfold loadLastTransaction loadFile Loaded.validated
  cases read with
  | error e => exact .inr ⟨e, rfl⟩
  | ok =>
    rw [hd]
    cases hv : validateTransactionRecord r with
    | error e => exact .inr ⟨e, by simp [hv]⟩
    | ok => exact .inl (by simp [hv])

end Consult

section Recorded

variable (req : ApplyRequest) (hash : F)

def OnFile (d : Disk F) : Prop := ∃ r, d.lastTransaction = some r ∧ r.Of req hash

structure Recorded (h : Helper F) : Prop where
  file : OnFile req hash h.disk
  memory : ∀ m, h.memory = some m → m.Of req hash

variable {req hash}

omit [DecidableEq F]

theorem OnFile.apply (hd : OnFile req hash d) (he : ∀ r, e = .journal r → r.Of req hash) :
    OnFile req hash (d.apply e) := by
  cases e with
  | journal r => exact ⟨r.stored, rfl, ⟨(he r rfl).id, (he r rfl).configHash⟩⟩
  | operation | artifact | lastGood | pending | clearPending | handshake => exact hd

theorem OnFile.applyAll (hd : OnFile req hash d) (hes : ∀ r, .journal r ∈ es → r.Of req hash) :
    OnFile req hash (d.applyAll es) := by
  induction es generalizing d with
  | nil => exact hd
  | cons e es ih =>
    refine ih (hd.apply ?_) fun r hr => hes r (.tail e hr)
    rintro r rfl
    exact hes r (.head es)

theorem lastTransaction_applyAll (d : Disk F) (hes : ∀ e ∈ es, e.isPrivileged = true) :
    (d.applyAll es).lastTransaction = d.lastTransaction := by
  induction es generalizing d with
  | nil => rfl
  | cons e es ih =>
    rw [Disk.applyAll_cons, ih _ fun e' he => hes e' (.tail e he)]
    have := hes e (.head es)
    cases e <;> simp_all [Effect.isPrivileged, Disk.apply]

theorem Closed.of {response : ApplyResponse}
    (hclosed : Closed env req hash response record written) :
    record.Of req hash ∧ (∀ r, .journal r ∈ written → r.Of req hash) ∧ operations written = 0 := by
  cases hclosed with
  | saved => exact ⟨⟨rfl, rfl⟩, by simp; exact ⟨rfl, rfl⟩, rfl⟩
  | unsaved hwritten =>
    rcases hwritten with rfl | ⟨rfl, -⟩
    · exact ⟨⟨rfl, rfl⟩, by simp, rfl⟩
    · exact ⟨⟨rfl, rfl⟩, by simp; exact ⟨rfl, rfl⟩, rfl⟩

end Recorded

section Accept

variable (a : Appliance F) (env : HelperEnv) (h : Helper F)

structure Acceptable (req : ApplyRequest) : Prop where
  version : req.version = 1
  id : transactionIdPattern req.id = true
  op : req.op.transactional = true

theorem processRequest_of_acceptable (hreq : Acceptable req) :
    processRequest a env h (.request req) = transact a env req h := by
  obtain ⟨hversion, hid, hop⟩ := hreq
  cases hcase : req.op <;>
    simp_all [processRequest, OperationType.transactional]

variable {a env h}

theorem processRequest_replayed {hash : F} {response : ApplyResponse} (hreq : Acceptable req)
    (hhash : a.digest.hashRequest req = some hash)
    (hreplay : consultJournal env req h hash = some response) :
    processRequest a env h (.request req) = ⟨response, [], h⟩ := by
  rw [processRequest_of_acceptable a env h hreq]
  simp only [transact, hhash, hreplay]

/-- Of the ways to handle a request only the last runs its operation. -/
theorem exists_ran (hran : operations (processRequest a env h (.request req)).effects ≠ 0) :
    ∃ hash ran record written, a.digest.hashRequest req = some hash ∧
      consultJournal env req h hash = none ∧ Executed a env req (intended env h req hash) ran ∧
      Closed env req hash ran.response record written ∧
      ran = execute a env req (intended env h req hash) ∧
      processRequest a env h (.request req) = ⟨record.response,
        .journal (intentRecord env req hash) :: .operation req :: (ran.effects ++ written),
        ⟨h.disk.applyAll (.journal (intentRecord env req hash) :: .operation req ::
          (ran.effects ++ written)), some record, ran.runtime⟩⟩ := by
  have hhandled := handled_processRequest a env h (.request req)
  generalize processRequest a env h (.request req) = p at hhandled hran ⊢
  cases hhandled with
  | unread | replayed => exact absurd rfl hran
  | unrecorded hhash hfresh hwritten =>
    rcases hwritten with rfl | ⟨rfl, -⟩ <;> exact absurd rfl hran
  | ran hop hhash hfresh hexec hclosed hexact =>
    exact ⟨_, _, _, _, hhash, hfresh, hexec, hclosed, hexact, rfl⟩

end Accept

namespace Input

def IsCopy (req : ApplyRequest) : Input → Prop
  | request _ data => data = .request req
  | crash _ data _ _ => data = .request req
  | restart _ => True

def isRequest : Input → Bool
  | request _ _ => true
  | _ => false

def journal (h : Helper F) : Input → Loaded (TransactionRecord F)
  | request env _ => loadLastTransaction env.journalRead h.disk
  | crash env _ _ _ => loadLastTransaction env.journalRead h.disk
  | restart _ => .notFound

end Input

namespace Loaded

def readable {α : Type} : Loaded α → Bool
  | unreadable _ => false
  | _ => true

end Loaded

section Copies

variable {hash : F} {h : Helper F}

/-- A reconciliation is only answered from a journal that is remembered or can be read. -/
def Answerable (req : ApplyRequest) (e : Step F) : Prop :=
  req.op = .reconcile → e.before.memory = none → (e.input.journal e.before).readable = true

theorem Recorded.consulted (hrec : Recorded req hash h) (env : HelperEnv)
    (hread : req.op = .reconcile → h.memory = none →
      (loadLastTransaction env.journalRead h.disk).readable = true) :
    ∃ B, consultJournal env req h hash = some B ∧
      ((∃ m, h.memory = some m ∧ B = m.replay) ∨ h.memory = none ∧
        ∃ r, h.disk.lastTransaction = some r ∧ (B = r.replay ∨ B.recoveryRequired = true ∧
          (loadLastTransaction env.journalRead h.disk).readable = false)) := by
  obtain ⟨⟨r, hr, hof⟩, hmemory⟩ := hrec
  cases hm : h.memory with
  | some m => exact ⟨_, consultJournal_of_memory hm (hmemory m hm), .inl ⟨m, rfl, rfl⟩⟩
  | none =>
    rcases loadLastTransaction_some env.journalRead hr with hload | ⟨e, hload⟩
    · exact ⟨_, consultJournal_of_file hm hload hof, .inr ⟨rfl, r, hr, .inl rfl⟩⟩
    have hunread : (loadLastTransaction env.journalRead h.disk).readable = false := by
      rw [hload]
      rfl
    refine ⟨_, consultJournal_of_unreadable hm hload fun hop => ?_,
      .inr ⟨rfl, r, hr, .inr ⟨rfl, hunread⟩⟩⟩
    exact absurd (hunread.symm.trans (hread hop hm)) (by simp)

/-- What a further copy of the recorded request can change: at most the memory is lost. -/
structure Kept (h : Helper F) (i : Input) (e : Step F) : Prop where
  operations : operations e.output.effects = 0
  file : e.after.disk.lastTransaction = h.disk.lastTransaction
  memory : e.after.memory = h.memory ∨ i.isRequest = false ∧ e.after.memory = none

theorem Recorded.kept (hreq : Acceptable req) (hhash : a.digest.hashRequest req = some hash)
    (hrec : Recorded req hash h) (hcopy : i.IsCopy req)
    (hread : Answerable req ((helper a).step h i)) : Kept h i ((helper a).step h i) := by
  cases i with
  | request env =>
    cases hcopy
    obtain ⟨response, hc, -⟩ := hrec.consulted env hread
    have hp := processRequest_replayed hreq hhash hc
    refine ⟨?_, ?_, .inl ?_⟩ <;> simp only [Machine.step, helper, hp]
    rfl
  | crash env =>
    cases hcopy
    obtain ⟨response, hc, -⟩ := hrec.consulted env hread
    have hp := processRequest_replayed hreq hhash hc
    refine ⟨?_, ?_, .inr ⟨rfl, rfl⟩⟩ <;> simp only [Machine.step, helper, hp, List.take_nil]
    · rfl
    · rfl
  | restart env =>
    have hboot := rebooted_reconcileStartup a env h
    refine ⟨operations_of_privileged hboot.privileged, ?_, .inr ⟨rfl, hboot.memory⟩⟩
    change (reconcileStartup a env h).helper.disk.lastTransaction = _
    rw [hboot.disk, lastTransaction_applyAll _ hboot.privileged]

section

omit [DecidableEq F]

theorem Kept.recorded (hkept : Kept h i e) (hrec : Recorded req hash h) :
    Recorded req hash e.after := by
  obtain ⟨⟨r, hr, hof⟩, hmemory⟩ := hrec
  refine ⟨⟨r, hkept.file.trans hr, hof⟩, fun m hm => ?_⟩
  rcases hkept.memory with hsame | ⟨-, hnone⟩
  · exact hmemory m (hsame ▸ hm)
  · rw [hnone] at hm
    cases hm

end

def allEffects (t : List (Step F)) : List (Effect F) := t.flatMap (·.output.effects)

omit [DecidableEq F] in
theorem operations_allEffects_cons (e : Step F) (t : List (Step F)) :
    operations (allEffects (e :: t)) = operations e.output.effects + operations (allEffects t) := by
  rw [← operations_append]
  rfl

theorem Recorded.run (hreq : Acceptable req) (hhash : a.digest.hashRequest req = some hash)
    (hrec : Recorded req hash h) (hcopy : ∀ i ∈ inputs, i.IsCopy req)
    (hread : ∀ e ∈ (helper a).trace h inputs, Answerable req e) :
    operations (allEffects ((helper a).trace h inputs)) = 0 ∧
      Recorded req hash ((helper a).final h inputs) ∧
      ((helper a).final h inputs).disk.lastTransaction = h.disk.lastTransaction ∧
      (((helper a).final h inputs).memory = h.memory ∨
        ((helper a).final h inputs).memory = none ∧ ∃ i ∈ inputs, i.isRequest = false) := by
  induction inputs generalizing h with
  | nil => exact ⟨rfl, hrec, rfl, .inl rfl⟩
  | cons i inputs ih =>
    simp only [trace, List.forall_mem_cons] at hcopy hread
    have hkept := hrec.kept hreq hhash hcopy.1 hread.1
    obtain ⟨hzero, hfinal, hfile, hmemory⟩ := ih (hkept.recorded hrec) hcopy.2 hread.2
    refine ⟨?_, hfinal, hfile.trans hkept.file, ?_⟩
    · rw [trace, operations_allEffects_cons, hkept.operations]
      exact (Nat.zero_add _).trans hzero
    rcases hmemory with hsame | ⟨hnone, j, hj, hlost⟩
    · rcases hkept.memory with hm | ⟨hlost, hnone⟩
      · exact .inl (hsame.trans hm)
      · exact .inr ⟨hsame.trans hnone, i, .head _, hlost⟩
    · exact .inr ⟨hnone, j, .tail i hj, hlost⟩

end Copies

section Answers

variable {h : Helper F}

/-- How the answer to a copy relates to the answer of the completed run before it. -/
structure Agrees (e : Step F) (mid : List (Step F)) (e' : Step F) (A B : ApplyResponse) : Prop where
  remembered : (∀ m ∈ mid, m.input.isRequest = true) → B = A
  reread : ∀ r, e.after.disk.lastTransaction = some r → r.replay = A →
    (e'.input.journal e'.before).readable = true → B = A
  otherwise : B = A ∨ B.recoveryRequired = true ∨ A.recoveryRequired = true ∧
    (∃ r, e.after.disk.lastTransaction = some r ∧ r.completedAt.isZero = false ∧ B = r.response) ∧
    ∃ env data, e.input = .request env data ∧ env.outcomeWrite.atomic = false

end Answers

section Gate

variable {h : Helper F} {req : ApplyRequest} {hash : F}

structure Passed (env : HelperEnv) (req : ApplyRequest) (h : Helper F) : Prop where
  memory : ∀ m, h.memory = some m → m.id ≠ req.id ∧ (m.unresolved = true → req.op = .reconcile)
  file : ∀ r, h.disk.lastTransaction = some r →
    r.id ≠ req.id ∧ (r.unresolved = true → req.op = .reconcile) ∨
      req.op = .reconcile ∧ (loadLastTransaction env.journalRead h.disk).readable = false

theorem replay_eq_none
    (hr : replayTransactionResponse req.id hash (.found r) (req.op = .reconcile) = none) :
    r.id ≠ req.id ∧ (r.unresolved = true → req.op = .reconcile) := by
  unfold replayTransactionResponse at hr
  simp only at hr
  split at hr
  · rename_i hid
    refine ⟨hid, fun hunresolved => ?_⟩
    by_contra hop
    simp [hunresolved, hop] at hr
  split at hr
  · cases hr
  · split at hr <;> cases hr

theorem replay_unreadable_eq_none {id e : String}
    (hr : replayTransactionResponse id hash (.unreadable e) canonicalReconcile = none) :
    canonicalReconcile = true := by
  cases canonicalReconcile with
  | true => rfl
  | false => cases hr

theorem passed_of_consultJournal (hc : consultJournal env req h hash = none) : Passed env req h := by
  unfold consultJournal at hc
  rw [Option.or_eq_none_iff] at hc
  refine ⟨fun m hm => ?_, fun r hr => ?_⟩
  · rw [hm] at hc
    exact replay_eq_none hc.1
  rcases loadLastTransaction_some env.journalRead hr with hload | ⟨e, hload⟩
  · rw [hload] at hc
    exact .inl (replay_eq_none hc.2)
  · rw [hload] at hc
    exact .inr ⟨of_decide_eq_true (replay_unreadable_eq_none hc.2), by rw [hload]; rfl⟩

def Input.delivery : Input → Option (HelperEnv × ApplyRequest)
  | .request env (.request req) => some (env, req)
  | .crash env (.request req) _ _ => some (env, req)
  | _ => none

end Gate

section Guarantee

variable (a : Appliance F) (h : Helper F) (inputs : List Input)

end Guarantee

end MinimalRouter.Applyd
