import Mathlib.Data.List.Sort
import MinimalRouter.Apply.Actions
import MinimalRouter.Config.Patterns
import MinimalRouter.Lib.Attempt

namespace MinimalRouter.Applyd.Pauses

open Goish Config Lib
open Apply (ActionFailure DevicePause maxDevicePauses actionInvalid actionConflict actionUnavailable
  actionFailed)

def actionRecoveryRequired : String := "recovery_required"

structure DevicePauseRecord where
  version : Int := 1
  phase : String := "applied"
  pauses : List DevicePause := []
  deriving DecidableEq

/-- The content of a file: the old array of pauses, a record, or what is neither or too large. -/
inductive Doc
  | array : List DevicePause → Doc
  | record : DevicePauseRecord → Doc
  | invalid
  deriving DecidableEq

structure Element where
  ip : String
  timeout : Option Int := none
  deriving DecidableEq

structure Batch where
  deleteTable : Bool
  elements : List Element
  wanInterface : String
  deriving DecidableEq

inductive Query
  | now | lastGood | readPending | readState
  | persist : DevicePauseRecord → Query
  | clearPending | tableExists
  | writeBatch : Batch → Query
  | checkBatch : Batch → Query
  | loadBatch : Batch → Query
  | removeBatch | uncertain
  | setUncertain : Option DevicePauseRecord → Query

abbrev Query.Answer : Query → Type
  | now => Int
  | lastGood => Except String SystemConfig
  | readPending => Except String (Option Doc)
  | readState => Except String (Option Doc)
  | tableExists => Except String Bool
  | removeBatch => Unit
  | uncertain => Option DevicePauseRecord
  | setUncertain _ => Unit
  | _ => Except String Unit

abbrev PauseProg (ε α : Type) := Attempt Query Query.Answer ε α

def ask {ε : Type} (q : Query) : PauseProg ε q.Answer := Attempt.ask q fun r => pure r

def call {α : Type} (q : Query) (f : q.Answer → Except String α) : PauseProg String α :=
  Attempt.ask q fun r => Attempt.ofExcept (f r)

def pauseError (code message : String) : ActionFailure := .action code message

def validatePauseIpForConfig (value : String) (cfg : SystemConfig) : Except ActionFailure String :=
  match parseIpv4 (trim value) with
  | none => .error (pauseError actionInvalid "device address must be IPv4")
  | some ip =>
    match (parseCidr cfg.lan.cidr).filter (·.2.ip.to4.isSome) with
    | none => .error (pauseError actionUnavailable "trusted LAN range is unavailable")
    | some (_, lan) =>
      if !lan.contains (.v4 ip) then
        .error (pauseError actionInvalid "device address is outside the trusted LAN")
      else if parseIp cfg.lan.ipAddress = some (.v4 ip) then
        .error (pauseError actionInvalid "router LAN address cannot be paused")
      else .ok (octetsString ip)

def Doc.decode : Doc → Except String DevicePauseRecord
  | array pauses => .ok { pauses }
  | record r => .ok r
  | invalid => .error "invalid device pause state"

/-- The checks of a record that was read, from the journal or from the committed file. -/
def checkRecord (journal : Bool) (record : DevicePauseRecord) :
    Except String DevicePauseRecord :=
  if record.version ≠ 1 ∨ record.phase ∉ ["applied", "pending", "recovery_required"] then
    .error "invalid device pause transaction state"
  else if record.pauses.length > maxDevicePauses then
    .error "device pause state exceeds count limit"
  else if journal ∧ record.phase = "applied" then .error "invalid device pause journal"
  else if record.pauses.all DevicePause.valid ∧ (record.pauses.map (·.ip)).Nodup then .ok record
  else .error "invalid device pause record"

def loadPauseRecord : PauseProg String DevicePauseRecord := do
  match ← ask .uncertain with
  | some record => pure record
  | none =>
    match ← call .readPending id with
    | some doc => Attempt.ofExcept (doc.decode.bind (checkRecord true))
    | none =>
      match ← call .readState id with
      | some doc => Attempt.ofExcept (doc.decode.bind (checkRecord false))
      | none => pure {}

def persistPauseRecord (record : DevicePauseRecord) : PauseProg String Unit :=
  call (.persist record) id

def finishPauseRecord (record : DevicePauseRecord) : PauseProg String Unit := do
  persistPauseRecord { record with phase := "applied" }
  call .clearPending id

def renderElements (cfg : SystemConfig) (now : Int) :
    List String → List DevicePause → Except String (List Element)
  | _, [] => .ok []
  | seen, pause :: pauses =>
    match validatePauseIpForConfig pause.ip cfg with
    | .error (.action _ message) => .error message
    | .error (.other message) => .error message
    | .ok ip =>
      if pause.untilUnix < 0 ∨ ip ∈ seen then .error "invalid pause expiry or duplicate address"
      else if 0 < pause.untilUnix then
        if pause.untilUnix - now ≤ 0 then renderElements cfg now (ip :: seen) pauses
        else (renderElements cfg now (ip :: seen) pauses).map
          (⟨ip, some (pause.untilUnix - now)⟩ :: ·)
      else (renderElements cfg now (ip :: seen) pauses).map (⟨ip, none⟩ :: ·)

def renderDevicePauseFirewall (cfg : SystemConfig) (pauses : List DevicePause) (now : Int)
    (deleteTable : Bool) : Except String Batch :=
  if pauses.length > maxDevicePauses then .error "device pause limit exceeded"
  else if !cfg.wan.interface.isEmpty && !interfaceNamePattern cfg.wan.interface then
    .error "invalid WAN interface"
  else (renderElements cfg now [] pauses).map (⟨deleteTable, ·, cfg.wan.interface⟩)

def checkAndLoad (batch : Batch) : PauseProg String Unit := do
  call (.checkBatch batch) id
  call (.loadBatch batch) id

def applyDevicePauseFirewall (pauses : List DevicePause) : PauseProg String Unit := do
  let cfg ← call .lastGood id
  let tableExists ← call .tableExists id
  let now ← ask .now
  let batch ← Attempt.ofExcept (renderDevicePauseFirewall cfg pauses now tableExists)
  call (.writeBatch batch) id
  let result ← (checkAndLoad batch).outcome
  ask .removeBatch
  Attempt.ofExcept result

def byAddress (pauses : List DevicePause) : List DevicePause :=
  pauses.insertionSort fun a b => a.ip ≤ b.ip

def activePauses (pauses : List DevicePause) (now : Int) : List DevicePause :=
  byAddress (pauses.filter fun p => p.untilUnix = 0 ∨ p.untilUnix > now)

def orFail {α : Type} (code message : String) (x : PauseProg String α) : PauseProg ActionFailure α :=
  x.mapError fun _ => pauseError code message

def settleRecord (record : DevicePauseRecord) (uncertain : Option DevicePauseRecord) :
    PauseProg ActionFailure Unit :=
  if record.phase ≠ "applied" ∨ uncertain.isSome then do
    orFail actionRecoveryRequired "device pause recovery outcome could not be persisted"
      (finishPauseRecord record)
    ask (.setUncertain none)
  else pure ()

def devicesReconcile : PauseProg ActionFailure (List DevicePause) := do
  let record ← orFail actionRecoveryRequired
    "device pause state is unreadable; recovery required" loadPauseRecord
  let now ← ask .now
  let pauses := activePauses record.pauses now
  orFail actionRecoveryRequired "device pause firewall restore failed; recovery required"
    (applyDevicePauseFirewall pauses)
  let uncertain ← ask .uncertain
  settleRecord record uncertain
  pure pauses

def applyAndFinish (next : List DevicePause) : PauseProg String Unit := do
  applyDevicePauseFirewall next
  finishPauseRecord { pauses := next }

def undoTransition (previous : List DevicePause) : PauseProg ActionFailure (List DevicePause) := do
  let undo : DevicePauseRecord := { phase := "recovery_required", pauses := previous }
  let intent ← (persistPauseRecord undo).outcome
  let rollback ← (applyDevicePauseFirewall previous).outcome
  .failIf (intent.isOk = false ∨ rollback.isOk = false) (pauseError actionRecoveryRequired
    "device pause rollback could not be completed; recovery required")
  orFail actionRecoveryRequired "device pause rollback outcome could not be persisted"
    (finishPauseRecord undo)
  ask (.setUncertain none)
  .fail (pauseError actionFailed "device pause action failed; previous pause state restored")

def deviceTransition (previous next : List DevicePause) :
    PauseProg ActionFailure (List DevicePause) := do
  let undo : DevicePauseRecord := { phase := "pending", pauses := previous }
  ask (.setUncertain (some undo))
  orFail actionRecoveryRequired
    "device pause intent could not be persisted; refresh status for recovery"
    (persistPauseRecord undo)
  match ← (applyAndFinish next).outcome with
  | .ok _ =>
    ask (.setUncertain none)
    pure next
  | .error _ => undoTransition previous

def changed (previous : List DevicePause) (ip : String) (pause : Option Int) : List DevicePause :=
  let others := previous.filter (·.ip ≠ ip)
  match pause with
  | none => byAddress others
  | some untilUnix => byAddress (others ++ [⟨ip, untilUnix⟩])

/-- The request is checked against the last good configuration before anything else. -/
def changeRequest (value : String) (seconds : Int) : PauseProg ActionFailure String := do
  .failIf (seconds ∉ [0, 900, 3600]) (pauseError actionInvalid "unsupported pause duration")
  let cfg ← orFail actionUnavailable "trusted last-good configuration unavailable"
    (call .lastGood id)
  Attempt.ofExcept (validatePauseIpForConfig value cfg)

def changeFrom (previous : List DevicePause) (ip : String) (seconds : Int) (resume : Bool) :
    PauseProg ActionFailure (List DevicePause) :=
  if resume then deviceTransition previous (changed previous ip none)
  else do
    .failIf ((previous.filter (·.ip ≠ ip)).length ≥ maxDevicePauses)
      (pauseError actionConflict "device pause limit reached")
    if seconds > 0 then do
      let now ← ask .now
      deviceTransition previous (changed previous ip (some (now + seconds)))
    else deviceTransition previous (changed previous ip (some 0))

def deviceChange (value : String) (seconds : Int) (resume : Bool) :
    PauseProg ActionFailure (List DevicePause) := do
  let ip ← changeRequest value seconds
  let previous ← devicesReconcile
  changeFrom previous ip seconds resume

/-- What the helper remembers, its two files, and the table of the kernel. -/
structure World where
  uncertain : Option DevicePauseRecord := none
  (pending state : Option Doc := none)
  table : Option (List Element) := none
  deriving DecidableEq

namespace World

def put (w : World) (record : DevicePauseRecord) : World :=
  if record.phase = "applied" then { w with state := some (.record record) }
  else { w with pending := some (.record record) }

def clear (w : World) : World := { w with pending := none }

def load (w : World) (batch : Batch) : World :=
  { w with table := some (if batch.deleteTable then batch.elements
      else w.table.getD [] ++ batch.elements) }

def restart (w : World) : World := { w with uncertain := none }

end World

/-- A call that is done as a whole or not at all; when it fails it may have been done. -/
def Atomically (w : World) (r : Except String Unit) (done w' : World) : Prop :=
  w' = done ∨ (∃ e, r = .error e) ∧ w' = w

/-- The clock gives one of the readings that are given. -/
def Handles (clock : Set Int) : Prog.Handler Query Query.Answer World := fun w q r w' =>
  match q, r with
  | .now, t => w' = w ∧ t ∈ clock
  | .readPending, r => w' = w ∧ ∀ doc, r = .ok doc → doc = w.pending
  | .readState, r => w' = w ∧ ∀ doc, r = .ok doc → doc = w.state
  | .persist record, r => Atomically w r (w.put record) w'
  | .clearPending, r => Atomically w r w.clear w'
  | .tableExists, r => w' = w ∧ ∀ b, r = .ok b → b = w.table.isSome
  | .loadBatch batch, r => Atomically w r (w.load batch) w'
  | .uncertain, r => w' = w ∧ r = w.uncertain
  | .setUncertain record, _ => w' = { w with uncertain := record }
  | _, _ => w' = w

/-- Where a crash can find a call that has been done and not been answered. -/
def Interrupts (w : World) (q : Query) (w' : World) : Prop :=
  match q with
  | .persist record => w' = w.put record
  | .clearPending => w' = w.clear
  | .loadBatch batch => w' = w.load batch
  | .setUncertain record => w' = { w with uncertain := record }
  | _ => False

end MinimalRouter.Applyd.Pauses
