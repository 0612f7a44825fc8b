import MinimalRouter.Applyd.State

/-! The privileged operations of router-applyd and the processing of one request.  Every function
is given the outcomes of the external steps it depends on, and returns the durable effects it had
in their order. -/

namespace MinimalRouter.Applyd

open Goish Config Apply Lib

variable {F : Type} [DecidableEq F]

structure ApplyEnv where
  lastGoodRead : CmdResult := .ok ()
  bcrypt : Except String String := .ok ""
  (candidateDir writeCandidates : CmdResult := .ok ())
  preflight : PreflightEnv := {}
  capture : CmdResult := .ok ()
  now : Reading := ⟨1000000000, 0, 0⟩
  activate : ActivateEnv := {}
  verify : VerifyEnv := {}
  (functionalDns ddnsUpdate : CmdResult := .ok ())
  rollback : RollbackEnv := {}
  (rollbackClear pendingWrite lastGoodWrite pendingClear : WriteOutcome := .ok)

structure ConfirmEnv where
  (pendingRead lan : CmdResult := .ok ())
  left : Option Active := none
  verify : VerifyEnv := {}
  lastHandshake : Except String Int := .ok 0
  now : Reading := ⟨1000000000, 0, 0⟩

structure CommitEnv where
  pendingRead : CmdResult := .ok ()
  verify : VerifyEnv := {}
  (lastGoodWrite pendingClear : WriteOutcome := .ok)

structure Ran (F : Type) where
  response : ApplyResponse
  effects : List (Effect F)
  runtime : Runtime

/-- Confirmation mode is limited to changes that can affect the administrator's path back, with the
previous LAN interface still present. -/
def confirmationModeAllowed (previous : Option SystemConfig) (candidate : SystemConfig) : Bool :=
  match previous with
  | some p => p.lan.interface = candidate.lan.interface && requiresConfirmation p candidate
  | none => false

/-- An ordinary apply cannot suppress a required confirmation by omitting the flag. -/
def validateConfirmationRequest (req : ApplyRequest) (previous : Option SystemConfig) : CmdResult :=
  if req.requireConfirmation then
    if req.op ≠ .applyAll || req.deferLastGood || !confirmationModeAllowed previous req.config then
      .error "confirmation mode is invalid for this change"
    else .ok ()
  else if req.op = .applyAll && previous.any (requiresConfirmation · req.config) then
    .error "this change requires confirmation"
  else .ok ()

/-- No last-good file is the first run; anything else that cannot be read is an error. -/
def normalizeLastGood : Loaded SystemConfig → Except String (Option SystemConfig)
  | .found cfg => .ok (some cfg)
  | .notFound => .ok none
  | .unreadable e => .error ("read last-good configuration: " ++ e)

section ApplyAll

variable (a : Appliance F) (env : ApplyEnv) (req : ApplyRequest) (d : Disk F)

structure Prepared where
  previous : Option SystemConfig
  generated : Artifacts
  plan : VerificationPlan
  files : ArtifactName → Option String

def refuse (message : String) : ApplyResponse := failure req.id message false

def admission : Except ApplyResponse Prepared := do
  let previous ← (normalizeLastGood (loadLastGoodRaw a.rules env.lastGoodRead d)).mapError fun _ =>
    recoveryFailure req.id ("last-good configuration could not be read; " ++
      "canonical reconciliation is required")
  (validateLiveCandidate a.rules req.config previous).mapError fun _ =>
    refuse req "privileged validation rejected configuration"
  (validateConfirmationRequest req previous).mapError (refuse req)
  let generated ← (generateArtifacts a.services req.config env.bcrypt).mapError fun _ =>
    refuse req "configuration generation failed"
  (compareGenerated req generated).mapError fun _ =>
    refuse req "candidate mismatch across trust boundary"
  (rejectUnimplementedFeatures req.config).mapError (refuse req)
  env.candidateDir.mapError fun _ => refuse req "could not create private candidate directory"
  env.writeCandidates.mapError fun _ => refuse req "could not write candidate files"
  let plan := verificationPlan req.op previous req.config
  (preflight env.preflight req.config plan).mapError fun e =>
    refuse req ("component preflight failed: " ++ safeError e)
  env.capture.mapError fun _ => refuse req "could not capture previous artifacts"
  return ⟨previous, generated, plan, d.artifacts⟩

def artifactEffects (writes : List ArtifactWrite) : List (Effect F) :=
  writes.map fun w => .artifact w.1 w.2

variable (prep : Prepared)

def rollback (rt : Runtime) : Runtime × List (Effect F) × CmdResult :=
  let (rt', writes, result) :=
    rollbackRuntime env.rollback prep.previous req.config prep.files a.services rt
  match result with
  | .error e => (rt', artifactEffects writes, .error e)
  | .ok _ =>
    let (cleared, effects) := clearPendingConfirmation env.rollbackClear
    (rt', artifactEffects writes ++ effects,
      wrapf "clear pending state after verified rollback" cleared)

def rollBackWith (effects : List (Effect F)) (rt : Runtime) (unverified restored : String) : Ran F :=
  let (rt', undone, result) := rollback a env req prep rt
  match result with
  | .error _ => ⟨recoveryFailure req.id unverified, effects ++ undone, rt'⟩
  | .ok _ => ⟨failure req.id restored true, effects ++ undone, rt'⟩

def rollBackStage (effects : List (Effect F)) (rt : Runtime) (stage e : String) : Ran F :=
  rollBackWith a env req prep effects rt
    (stage ++ " failed and rollback could not be verified")
    (stage ++ " failed; previous configuration restored: " ++ safeError e)

def verifyCandidate : Except (String × String) Unit := do
  (verifyActive env.verify req.config prep.plan).mapError fun e => ("verification", e)
  if requiresFunctionalDnsVerification prep.previous req.config then
    env.functionalDns.mapError fun e => ("functional DNS verification", e)
  if requiresDdnsVerification prep.previous req.config then
    env.ddnsUpdate.mapError fun e => ("dynamic DNS verification", e)

def succeed (logs : String) : ApplyResponse :=
  { id := req.id, success := true, verified := true, logs }

def pendingRecord (hash : F) : PendingConfirmation F where
  configHash := hash
  config := req.config
  handshakeNotBefore := env.now.now.unix
  wgClientChanged :=
    match prep.previous with
    | none => true
    | some p => p.wgClient ≠ req.config.wgClient

def savePending : CmdResult × List (Effect F) :=
  match a.digest.hashConfig req.config with
  | none => (.error "could not fingerprint configuration", [])
  | some hash => savePendingConfirmation a env.pendingWrite (pendingRecord env req prep hash)

def persistPending (effects : List (Effect F)) (rt : Runtime) : Ran F :=
  let (saved, written) := savePending a env req prep
  match saved with
  | .error _ => rollBackWith a env req prep (effects ++ written) rt
      "could not persist pending state and rollback failed"
      "could not persist pending confirmation state"
  | .ok _ => ⟨succeed req "validated, preflighted, applied, and verified", effects ++ written, rt⟩

def persistLastGood (effects : List (Effect F)) (rt : Runtime) : Ran F :=
  let (saved, written) := saveLastGood a.rules env.lastGoodWrite req.config
  match saved with
  | .error _ => rollBackWith a env req prep (effects ++ written) rt
      "could not persist last-good state and rollback failed"
      "could not persist last-good state; previous configuration restored"
  | .ok _ =>
    let (cleared, removed) := clearPendingConfirmation env.pendingClear
    match cleared with
    | .error _ => ⟨recoveryFailure req.id ("last-good saved but pending state could not be " ++
        "cleared; canonical reconciliation is required"), effects ++ written ++ removed, rt⟩
    | .ok _ => ⟨succeed req "validated, preflighted, applied, and verified",
        effects ++ written ++ removed, rt⟩

def activate (rt : Runtime) : Ran F :=
  let report := installAndActivate env.activate req.config prep.generated prep.previous a.services
    req.requireConfirmation rt
  let installed := artifactEffects report.writes
  match report.aborted with
  | some e => rollBackStage a env req prep installed report.state "apply" e
  | none =>
    match verifyCandidate env req prep with
    | .error (stage, e) => rollBackStage a env req prep installed report.state stage e
    | .ok _ =>
      if req.requireConfirmation || req.deferLastGood then
        persistPending a env req prep installed report.state
      else persistLastGood a env req prep installed report.state

def applyAll (rt : Runtime) : Ran F :=
  match admission a env req d with
  | .error response => ⟨response, [], rt⟩
  | .ok prep => activate a env req prep rt

end ApplyAll

section Confirm

variable (a : Appliance F) (req : ApplyRequest) (d : Disk F) (rt : Runtime)

/-- The pending record of exactly the configuration in the request, or the answer without one. -/
def matchPending (read : CmdResult) (invalid mismatch : String) :
    Except ApplyResponse (PendingConfirmation F) := do
  (a.rules.validate req.config).mapError fun _ => refuse req invalid
  match loadPendingConfirmation a read d with
  | .found pending =>
    if a.digest.hashConfig req.config = some pending.configHash then return pending
    else throw (refuse req mismatch)
  | loaded => throw (pendingLoadFailure req.id loaded)

def confirmTunnel (env : ConfirmEnv) (pending : PendingConfirmation F) :
    Except String (List (Effect F)) :=
  if req.config.wgClient.enabled then do
    let notBefore := if pending.wgClientChanged then some pending.handshakeNotBefore else none
    let last ← env.lastHandshake.mapError ("WireGuard client interface unavailable: " ++ ·)
    verifyWgClientHandshake last req.config.wgClient.persistentKeepalive notBefore env.now.now.unix
    return [.handshake req.config notBefore last]
  else .ok []

def confirmApply (env : ConfirmEnv) : Ran F :=
  match matchPending a req d env.pendingRead "confirmation configuration is invalid"
      "confirmation does not match pending configuration" with
  | .error response => ⟨response, [], rt⟩
  | .ok pending =>
    match env.lan with
    | .error _ => ⟨recoveryFailure req.id
        "could not finalize LAN address; verified rollback is required", [],
        Function.update rt .lan env.left⟩
    | .ok _ =>
      let rt' := Function.update rt .lan (some ⟨req.config, d.artifacts⟩)
      match verifyActive env.verify req.config (verificationPlan .confirm none req.config) with
      | .error _ => ⟨recoveryFailure req.id
          "confirmed runtime verification failed; verified rollback is required", [], rt'⟩
      | .ok _ =>
        match confirmTunnel req env pending with
        | .error e => ⟨recoveryFailure req.id ("confirmed WireGuard client tunnel is not " ++
            "functional: " ++ safeError e ++ "; verified rollback is required"), [], rt'⟩
        | .ok read => ⟨succeed req "runtime confirmation verified; canonical commit pending", read,
            rt'⟩

def commitConfirmedApply (env : CommitEnv) : Ran F :=
  match matchPending a req d env.pendingRead "confirmed commit configuration is invalid"
      "confirmed commit does not match pending configuration" with
  | .error response => ⟨response, [], rt⟩
  | .ok _ =>
    match verifyActive env.verify req.config
        (verificationPlan .commitConfirmed none req.config) with
    | .error _ => ⟨recoveryFailure req.id
        "confirmed runtime is no longer active; canonical reconciliation is required", [], rt⟩
    | .ok _ =>
      let (saved, written) := saveLastGood a.rules env.lastGoodWrite req.config
      match saved with
      | .error _ => ⟨recoveryFailure req.id
          "could not persist canonical last-good configuration", written, rt⟩
      | .ok _ =>
        let (cleared, removed) := clearPendingConfirmation env.pendingClear
        match cleared with
        | .error _ => ⟨recoveryFailure req.id ("could not clear pending confirmation; " ++
            "canonical reconciliation is required"), written ++ removed, rt⟩
        | .ok _ => ⟨succeed req "confirmed configuration committed as canonical last-good",
            written ++ removed, rt⟩

end Confirm

structure Helper (F : Type) where
  disk : Disk F := {}
  memory : Option (TransactionRecord F) := none
  runtime : Runtime := fun _ => none

structure HelperEnv where
  journalRead : CmdResult := .ok ()
  startedAt : Reading := ⟨0, 0, 0⟩
  intentWrite : WriteOutcome := .ok
  apply : ApplyEnv := {}
  confirm : ConfirmEnv := {}
  commit : CommitEnv := {}
  completedAt : Reading := ⟨0, 0, 0⟩
  outcomeWrite : WriteOutcome := .ok
  telemetry : ApplyResponse := {}

structure Processed (F : Type) where
  response : ApplyResponse
  effects : List (Effect F)
  helper : Helper F

section Process

variable (a : Appliance F) (env : HelperEnv) (req : ApplyRequest) (h : Helper F)

def execute : Ran F :=
  match req.op with
  | .confirm => confirmApply a req h.disk h.runtime env.confirm
  | .commitConfirmed => commitConfirmedApply a req h.disk h.runtime env.commit
  | _ => applyAll a env.apply req h.disk h.runtime

def consultJournal (hash : F) : Option ApplyResponse :=
  let canonicalReconcile := req.op = .reconcile
  let remembered :=
    match h.memory with
    | some m => replayTransactionResponse req.id hash (.found m) canonicalReconcile
    | none => none
  remembered.or
    (replayTransactionResponse req.id hash (loadLastTransaction env.journalRead h.disk)
      canonicalReconcile)

def intentRecord (hash : F) : TransactionRecord F :=
  { id := req.id, configHash := hash, startedAt := env.startedAt.now }

def outcomeRecord (hash : F) (response : ApplyResponse) : TransactionRecord F :=
  { intentRecord env req hash with response, completedAt := env.completedAt.now }

def persistTransactionOutcome (record : TransactionRecord F) :
    TransactionRecord F × List (Effect F) :=
  let (saved, written) := saveLastTransaction env.outcomeWrite record
  match saved with
  | .ok _ => (record, written)
  | .error _ =>
    ({ record with response := journalPersistenceFailure record.id record.response }, written)

def runRecorded (hash : F) (intended : List (Effect F)) : Processed F :=
  let started := { h with disk := h.disk.applyAll intended }
  let ran := execute a env req started
  let (record, written) := persistTransactionOutcome env (outcomeRecord env req hash ran.response)
  let effects := .operation req :: (ran.effects ++ written)
  { response := record.response
    effects := intended ++ effects
    helper := ⟨started.disk.applyAll effects, some record, ran.runtime⟩ }

def transact : Processed F :=
  match a.digest.hashRequest req with
  | none => ⟨refuse req "could not fingerprint request", [], h⟩
  | some hash =>
    match consultJournal env req h hash with
    | some response => ⟨response, [], h⟩
    | none =>
      match saveLastTransaction env.intentWrite (intentRecord env req hash) with
      | (.error _, written) =>
        ⟨refuse req "privileged transaction intent could not be persisted", written,
          { h with disk := h.disk.applyAll written }⟩
      | (.ok _, written) => runRecorded a env req h hash written

inductive Payload
  | trailing | invalid
  | request : ApplyRequest → Payload

def processRequest (data : Payload) : Processed F :=
  match data with
  | .trailing => ⟨failure "" "RPC request must contain exactly one object" false, [], h⟩
  | .invalid => ⟨failure "" "invalid or oversized RPC request" false, [], h⟩
  | .request req =>
    if req.version ≠ 1 then ⟨refuse req "unsupported RPC protocol version", [], h⟩
    else if !transactionIdPattern req.id then ⟨refuse req "invalid transaction ID", [], h⟩
    else
      match req.op with
      | .other _ => ⟨refuse req "operation is not allowlisted", [], h⟩
      -- Telemetry queries are read-only and non-transactional.
      | .firewallCounters => ⟨env.telemetry, [], h⟩
      | .wgTunnelStatus => ⟨env.telemetry, [], h⟩
      | _ => transact a env req h

end Process

end MinimalRouter.Applyd
