import MinimalRouter.Applyd.Runtime

/-! Durable helper state: last-good configuration, pending confirmation and the single-transaction
idempotency journal. -/

namespace MinimalRouter.Applyd

open Goish Config Apply

variable {F : Type} [DecidableEq F]

def transactionIdPattern (id : String) : Bool :=
  match id.toList with
  | [] => false
  | c :: cs => c.isAlphanum && decide (cs.length ≤ 127) &&
      cs.all fun c => c.isAlphanum || c == '.' || c == '_' || c == ':' || c == '-'

structure TransactionRecord (F : Type) where
  id : String
  configHash : F
  response : ApplyResponse := {}
  startedAt : Time
  completedAt : Time := Time.zero
  deriving DecidableEq

structure PendingConfirmation (F : Type) where
  configHash : F
  config : SystemConfig
  handshakeNotBefore : Int
  wgClientChanged : Bool
  deriving DecidableEq

def failure (id message : String) (rolledBack : Bool) : ApplyResponse :=
  { id, rolledBack, error := message }

def recoveryFailure (id message : String) : ApplyResponse :=
  { id, recoveryRequired := true, error := message }

namespace TransactionRecord

def unresolved (r : TransactionRecord F) : Bool :=
  r.completedAt.isZero || r.response.recoveryRequired

def stored (r : TransactionRecord F) : TransactionRecord F :=
  { r with startedAt := r.startedAt.stored, completedAt := r.completedAt.stored }

end TransactionRecord

def blankResponse (r : ApplyResponse) : Bool :=
  r.id.isEmpty && !r.success && !r.verified && !r.rolledBack && !r.recoveryRequired &&
    r.error.isEmpty

def validateTransactionRecord (r : TransactionRecord F) : CmdResult :=
  if !transactionIdPattern r.id then .error "transaction record has an invalid ID"
  else if r.startedAt.isZero then .error "transaction record has no start time"
  else if r.completedAt.isZero then
    if blankResponse r.response then .ok ()
    else .error "incomplete transaction record contains a final response"
  else if r.completedAt.before r.startedAt then
    .error "transaction record completion precedes start"
  else if r.response.id ≠ r.id then .error "transaction record response ID does not match"
  else wrapf "transaction record response is invalid" r.response.validate

def validatePendingConfirmation (a : Appliance F) (p : PendingConfirmation F) : CmdResult := do
  if p.handshakeNotBefore ≤ 0 then
    .error "pending configuration activation timestamp is missing"
  wrapf "pending configuration is invalid" (a.rules.validate p.config)
  match a.digest.hashConfig p.config with
  | none => .error "could not fingerprint configuration"
  | some expected =>
    if p.configHash ≠ expected then
      .error "pending configuration fingerprint does not match"

def journalPersistenceFailure (id : String) (previous : ApplyResponse) : ApplyResponse :=
  recoveryFailure id
    (if previous.rolledBack && !previous.recoveryRequired then
      "transaction result could not be persisted; previous runtime was restored but durable " ++
        "idempotency is unavailable and canonical reconciliation is required"
    else
      "transaction result could not be persisted; durable idempotency is unavailable and " ++
        "canonical reconciliation is required")

/-- What reading a file gives: its contents, that there is none, or an error. -/
inductive Loaded (α : Type)
  | found : α → Loaded α
  | notFound
  | unreadable : String → Loaded α

namespace Loaded

def validated {α : Type} (check : α → CmdResult) : Loaded α → Loaded α
  | found a =>
    match check a with
    | .ok _ => found a
    | .error e => unreadable e
  | l => l

end Loaded

/-- Decides whether a request is answered from the journal instead of run. -/
def replayTransactionResponse (id : String) (configHash : F) (loaded : Loaded (TransactionRecord F))
    (canonicalReconcile : Bool) : Option ApplyResponse :=
  match loaded with
  | .notFound => none
  | .unreadable _ =>
    if canonicalReconcile then none
    else some (recoveryFailure id
      "transaction journal could not be read; canonical reconciliation is required")
  | .found previous =>
    if previous.id ≠ id then
      if previous.unresolved && !canonicalReconcile then
        some (recoveryFailure id ("a previous privileged transaction remains unresolved; " ++
          "canonical reconciliation is required"))
      else none
    else if previous.configHash ≠ configHash then
      some (failure id "transaction ID was already used for different content" false)
    else if previous.completedAt.isZero then
      some (recoveryFailure id ("privileged transaction outcome is incomplete; " ++
        "canonical reconciliation is required"))
    else some previous.response

structure Disk (F : Type) where
  lastGood : Option SystemConfig := none
  lastTransaction : Option (TransactionRecord F) := none
  pending : Option (PendingConfirmation F) := none
  artifacts : ArtifactName → Option String := fun _ => none

/-- The durable steps of the helper in the order it makes them, with the points at which a
privileged operation starts and a tunnel handshake is accepted. -/
inductive Effect (F : Type)
  | journal : TransactionRecord F → Effect F
  | operation : ApplyRequest → Effect F
  | artifact : ArtifactName → Option String → Effect F
  | lastGood : SystemConfig → Effect F
  | pending : PendingConfirmation F → Effect F
  | clearPending
  | handshake : SystemConfig → Option Int → Int → Effect F

namespace Disk

def apply (d : Disk F) : Effect F → Disk F
  | .journal r => { d with lastTransaction := some r.stored }
  | .operation _ => d
  | .artifact n data => { d with artifacts := Function.update d.artifacts n data }
  | .lastGood cfg => { d with lastGood := some cfg }
  | .pending p => { d with pending := some p }
  | .clearPending => { d with pending := none }
  | .handshake _ _ _ => d

def applyAll (d : Disk F) (effects : List (Effect F)) : Disk F := effects.foldl apply d

omit [DecidableEq F]

@[simp] theorem applyAll_nil (d : Disk F) : d.applyAll [] = d := rfl

@[simp] theorem applyAll_cons (d : Disk F) (e : Effect F) (es : List (Effect F)) :
    d.applyAll (e :: es) = (d.apply e).applyAll es := rfl

@[simp] theorem applyAll_append (d : Disk F) (as bs : List (Effect F)) :
    d.applyAll (as ++ bs) = (d.applyAll as).applyAll bs := List.foldl_append

end Disk

namespace Effect

def onLastGood : Option SystemConfig → Effect F → Option SystemConfig
  | _, lastGood cfg => some cfg
  | c, _ => c

def onPending : Option (PendingConfirmation F) → Effect F → Option (PendingConfirmation F)
  | _, pending p => some p
  | _, clearPending => none
  | p, _ => p

end Effect

namespace Disk

omit [DecidableEq F]

theorem lastGood_applyAll (d : Disk F) (es : List (Effect F)) :
    (d.applyAll es).lastGood = es.foldl Effect.onLastGood d.lastGood := by
  induction es generalizing d with
  | nil => rfl
  | cons e es ih =>
    rw [applyAll_cons, ih, List.foldl_cons]
    cases e <;> rfl

theorem pending_applyAll (d : Disk F) (es : List (Effect F)) :
    (d.applyAll es).pending = es.foldl Effect.onPending d.pending := by
  induction es generalizing d with
  | nil => rfl
  | cons e es ih =>
    rw [applyAll_cons, ih, List.foldl_cons]
    cases e <;> rfl

end Disk

def writeFile (w : WriteOutcome) (e : Effect F) : CmdResult × List (Effect F) :=
  (w.result, if w.done then [e] else [])

def saveLastTransaction (w : WriteOutcome) (r : TransactionRecord F) :
    CmdResult × List (Effect F) :=
  match validateTransactionRecord r with
  | .error e => (.error e, [])
  | .ok _ => writeFile w (.journal r)

def saveLastGood (rules : Rules) (w : WriteOutcome) (cfg : SystemConfig) :
    CmdResult × List (Effect F) :=
  match rules.validate cfg with
  | .error e => (.error ("invalid last-good configuration: " ++ e), [])
  | .ok _ => writeFile w (.lastGood cfg)

def savePendingConfirmation (a : Appliance F) (w : WriteOutcome) (p : PendingConfirmation F) :
    CmdResult × List (Effect F) :=
  match validatePendingConfirmation a p with
  | .error e => (.error e, [])
  | .ok _ => writeFile w (.pending p)

def clearPendingConfirmation (w : WriteOutcome) : CmdResult × List (Effect F) :=
  writeFile w .clearPending

def loadFile {α : Type} (read : CmdResult) (file : Option α) : Loaded α :=
  match read, file with
  | .error e, _ => .unreadable e
  | .ok _, none => .notFound
  | .ok _, some a => .found a

def loadLastTransaction (read : CmdResult) (d : Disk F) : Loaded (TransactionRecord F) :=
  (loadFile read d.lastTransaction).validated validateTransactionRecord

def loadPendingConfirmation (a : Appliance F) (read : CmdResult) (d : Disk F) :
    Loaded (PendingConfirmation F) :=
  (loadFile read d.pending).validated (validatePendingConfirmation a)

def loadLastGoodRaw (rules : Rules) (read : CmdResult) (d : Disk F) : Loaded SystemConfig :=
  loadFile read (d.lastGood.map rules.migrateLegacyFields)

def pendingLoadFailure (id : String) : Loaded (PendingConfirmation F) → ApplyResponse
  | .notFound => failure id "no configuration is awaiting confirmation" false
  | _ => recoveryFailure id ("pending confirmation state could not be read; " ++
      "canonical reconciliation is required")

end MinimalRouter.Applyd
