import MinimalRouter.Slots.Manifest

namespace MinimalRouter.Slots

open Goish Lib Attempt
open Firmware (SlotState)

inductive FloorError
  | unknownInstalledVersion
  | other : String → FloorError
  deriving DecidableEq

def FloorError.text : FloorError → String
  | unknownInstalledVersion => "installed bootstrap version is unknown; use a verified full " ++
      "distribution installation to establish the version floor"
  | other e => e

def isBootstrap (version : String) : Bool :=
  "0.0.0+bootstrap.".toList.isPrefixOf (withoutV version.toList)

def highest (a b : String) : Except String String :=
  (compareReleaseVersions b a).map fun c => if c = .gt then b else a

/-- The lowest version that is trusted, which is kept apart from the current slot. -/
def upgradeFloor (state : SlotState) : Except FloorError String :=
  let floor := state.minimumVersion
  match if floor = "" then .ok () else (parseReleaseVersion floor).map fun _ => () with
  | .error e => .error (.other e)
  | .ok _ =>
    if isBootstrap state.current then
      if floor = "" then .error .unknownInstalledVersion else .ok floor
    else if state.current = "" then .ok floor
    else if floor = "" then
      ((parseReleaseVersion state.current).map fun _ => state.current).mapError .other
    else (highest floor state.current).mapError .other

def knownFloor (state : SlotState) : Except String String :=
  match upgradeFloor state with
  | .ok floor => .ok floor
  | .error .unknownInstalledVersion => .ok ""
  | .error (.other e) => .error e

def atLeast (version floor lowered : String) : Except String Unit :=
  if floor = "" then .ok ()
  else
    match compareReleaseVersions version floor with
    | .error e => .error e
    | .ok c => if c = .lt then .error lowered else .ok ()

def installationMinimum (state : SlotState) (proposed : String) : Except String String :=
  match knownFloor state with
  | .error e => .error e
  | .ok floor =>
    if proposed = "" then
      if floor = "" then .ok ""
      else .error "full installation cannot erase a recorded version floor; repeat preflight"
    else
      match parseReleaseVersion proposed with
      | .error e => .error e
      | .ok _ => (atLeast proposed floor
          "full installation cannot lower the recorded version floor").map fun _ => proposed

structure SlotManager where
  root : String
  trustedKey : List UInt8

namespace SlotManager

variable (m : SlotManager)

def ensureRoot : SlotProg Unit :=
  if trim m.root = "" then .fail "update root is required" else ask .ensureRoot ofExcept

def withLock {α : Type} (run : SlotProg α) : SlotProg α := do
  m.ensureRoot
  ask .lock ofExcept
  run

def syncRoot : SlotProg Unit := ask .syncRoot ofExcept

def writeAtomicJson (d : Document) : SlotProg Unit := do
  m.ensureRoot
  ask (.createTemp d) ofExcept
  ask (.rename d) ofExcept
  syncRoot

def saveState (state : SlotState) : SlotProg Unit := m.writeAtomicJson (.state state)

def requireSlot (version : String) : SlotProg Unit :=
  if ¬releaseVersionPattern version then .fail "invalid release version"
  else ask (.slotIsDir version) fun
    | true => pure ()
    | false => .fail "release slot is not staged"

def linkTarget (version : String) : String := "slots/" ++ version

def swapLink (l : Link) (version : String) : SlotProg Unit := do
  requireSlot version
  ask (.symlink l (linkTarget version)) ofExcept
  ask (.renameLink l (linkTarget version)) ofExcept
  syncRoot

def removeLink (l : Link) : SlotProg Unit := do
  ask (.removeLink l) ofExcept
  syncRoot

def restoreLink (l : Link) (version : String) : SlotProg Unit :=
  if version = "" then removeLink l else swapLink l version

def joinErrors : List String → Except String Unit
  | [] => .ok ()
  | errors => .error ("\n".intercalate errors)

def errorOf : Except String Unit → List String
  | .ok _ => []
  | .error e => [e]

def restoreLinks (state : SlotState) : SlotProg Unit := do
  let current ← (restoreLink .current state.current).result
  let previous ← (restoreLink .previous state.previous).result
  ofExcept (joinErrors (errorOf current ++ errorOf previous))

def targetVersion (l : Link) (target : String) : Except String String :=
  let clean := clean target.toList
  if isAbs clean ∨ dir clean ≠ "slots".toList then .error ("unsafe " ++ l.name ++ " slot pointer")
  else
    let version := String.ofList (base clean)
    if ¬releaseVersionPattern version then .error ("invalid " ++ l.name ++ " slot pointer")
    else .ok version

def linkVersion (l : Link) : SlotProg (Option String) := do
  match ← (ask (.readLink l) ofExcept : SlotProg (Option String)) with
  | none => return none
  | some target =>
    let version ← ofExcept (targetVersion l target)
    (requireSlot version).mapError ((l.name ++ " slot pointer is broken: ") ++ ·)
    return some version

def withIntent (intent : SlotState) (state : SlotState) : Except String SlotState :=
  let state := { state with installationPending := true }
  if intent.minimumVersion = "" then .ok state
  else
    match parseReleaseVersion intent.minimumVersion with
    | .error e => .error e
    | .ok _ =>
      if state.minimumVersion = "" then .ok { state with minimumVersion := intent.minimumVersion }
      else (highest state.minimumVersion intent.minimumVersion).map fun minimum =>
        { state with minimumVersion := minimum }

def applyInstallationFloor (state : SlotState) : SlotProg SlotState := do
  match ← (ask .readInstallation ofExcept : SlotProg (Option SlotState)) with
  | none => return { state with installationPending := false }
  | some intent => ofExcept (withIntent intent state)

def withLinks (state : SlotState) (current previous : Option String) : SlotState :=
  let state :=
    match current with
    | some version =>
      { state with
        pending := if state.pending = version then "" else state.pending, current := version }
    | none => state
  match previous with
  | some version => { state with previous := version }
  | none => state

def stateWithoutOperation : SlotProg SlotState := do
  let state ← (ask .readState ofExcept : SlotProg (Option SlotState))
  let current ← linkVersion .current
  let previous ← linkVersion .previous
  applyInstallationFloor (withLinks (state.getD {}) current previous)

def operationJournalVersion : Int := 1

def requireJournalSlot (version : String) : SlotProg Unit :=
  if version = "" then pure ()
  else if ¬releaseVersionPattern version then .fail "journal contains an invalid release version"
  else (requireSlot version).mapError fun _ =>
    "journal references an unavailable slot " ++ debugText version

def validateJournalState (state : SlotState) : SlotProg Unit := do
  ofExcept (if state.minimumVersion = "" then .ok ()
    else (parseReleaseVersion state.minimumVersion).map fun _ => ())
  each requireJournalSlot [state.current, state.previous, state.pending]
  failIf (state.current ≠ "" ∧ state.current = state.previous)
    "current and previous journal slots must differ"

def validateTransition (o : SlotOperation) : Except String Unit :=
  if o.kind = "install" then
    if o.next.current = "" ∨ o.next.previous ≠ "" then .error "invalid full installation journal"
    else .ok ()
  else if o.kind = "activate" then
    if o.next.current = "" ∨ o.next.current = o.old.current ∨ o.next.previous ≠ o.old.current then
      .error "invalid activation slot operation journal"
    else .ok ()
  else if o.kind = "rollback" then
    if o.old.previous = "" ∨ o.next.current ≠ o.old.previous ∨ o.next.previous ≠ o.old.current then
      .error "invalid rollback slot operation journal"
    else .ok ()
  else .error "unknown slot operation journal kind"

def oldFloor (o : SlotOperation) : Except String String :=
  if o.kind = "install" then knownFloor o.old else (upgradeFloor o.old).mapError FloorError.text

/-- A journal cannot lower the floor, nor turn an activation into a downgrade. -/
def validateFloor (o : SlotOperation) : Except String Unit :=
  let lowered := "slot operation journal cannot lower or erase the recorded version floor"
  match oldFloor o with
  | .error e => .error e
  | .ok floor =>
    if floor ≠ "" ∧ o.next.minimumVersion = "" then .error lowered
    else
      match atLeast o.next.minimumVersion floor lowered with
      | .error e => .error e
      | .ok _ =>
        if o.kind = "activate" then validateForwardUpgrade o.next.current floor else .ok ()

def validateOperation (o : SlotOperation) : SlotProg Unit := do
  failIf (o.version ≠ operationJournalVersion) "unsupported slot operation journal"
  wrapf "invalid old slot operation state" (validateJournalState o.old)
  wrapf "invalid next slot operation state" (validateJournalState o.next)
  failIf (o.next.pending ≠ "") "completed slot operation state cannot remain pending"
  ofExcept (validateTransition o)
  ofExcept (validateFloor o)

def beginOperation (o : SlotOperation) : SlotProg Unit := do
  validateOperation o
  m.writeAtomicJson (.operation o)

def readOperation : SlotProg (Option SlotOperation) := do
  match ← (ask .readOperation ofExcept : SlotProg (Option SlotOperation)) with
  | none => return none
  | some o =>
    validateOperation o
    return some o

def clearOperation : SlotProg Unit := do
  ask .removeOperation ofExcept
  syncRoot

def projected (o : SlotOperation) (current : Option String) : Except String SlotState :=
  match current with
  | some c =>
    if c = o.next.current then .ok o.next
    else if c = o.old.current then .ok o.old
    else .error "slot operation journal does not match the current runtime pointer"
  | none =>
    if o.old.current = "" then .ok o.old
    else if o.next.current = "" then .ok o.next
    else .error "slot operation journal does not match the current runtime pointer"

def projectOperationState (o : SlotOperation) : SlotProg SlotState := do
  validateOperation o
  let current ← linkVersion .current
  ofExcept (projected o current)

def recoverOperation : SlotProg Unit := do
  match ← readOperation with
  | none => return
  | some o =>
    let target ← projectOperationState o
    wrapf "recover slot pointers" (restoreLinks target)
    wrapf "recover slot state" (m.saveState target)
    wrapf "clear recovered slot operation journal" clearOperation

def abortOperation (old : SlotState) (primary : String) : SlotProg Unit := do
  ((restoreLinks old).mapError ((primary ++ "\nrestore slot pointers: ") ++ ·))
  ((m.saveState old).mapError ((primary ++ "\nrestore slot state: ") ++ ·))
  (clearOperation.mapError ((primary ++ "\nclear aborted slot operation journal: ") ++ ·))
  fail primary

def commitOperation (kind : String) (old next : SlotState) (mutate : SlotProg Unit) :
    SlotProg Unit := do
  wrapf "persist slot operation journal"
    (m.beginOperation { version := operationJournalVersion, kind, old, next })
  match ← mutate.result with
  | .error e => m.abortOperation old e
  | .ok _ =>
    match ← (m.saveState next).result with
    | .error e => m.abortOperation old ("persist slot state: " ++ e)
    | .ok _ => wrapf "clear completed slot operation journal" clearOperation

def state : SlotProg SlotState := do
  match ← readOperation with
  | some o => applyInstallationFloor (← projectOperationState o)
  | none => stateWithoutOperation

section Operations

def checkInstallation : SlotProg Unit := do
  let pending ← (ask .installationExists ofExcept : SlotProg Bool)
  failIf pending ("full installation is incomplete; finish the full installer before " ++
    "update or rollback")

def floorOf (state : SlotState) : SlotProg String :=
  ofExcept ((upgradeFloor state).mapError FloorError.text)

def recoverFirst : SlotProg Unit := do
  checkInstallation
  wrapf "recover interrupted slot operation" m.recoverOperation

def activatePointers (old : SlotState) (version : String) : SlotProg Unit := do
  (if old.current ≠ "" then wrapf "prepare previous slot pointer" (swapLink .previous old.current)
    else removeLink .previous)
  wrapf "activate slot pointer" (swapLink .current version)

def activate (version : String) : SlotProg Unit := m.withLock do
  m.recoverFirst
  failIf (¬releaseVersionPattern version) "invalid release version"
  requireSlot version
  let state ← stateWithoutOperation
  if state.current = version then m.saveState { state with pending := "" }
  else
    let floor ← floorOf state
    ofExcept (validateForwardUpgrade version floor)
    m.commitOperation "activate" state
      { state with
        previous := state.current, current := version, pending := "", minimumVersion := version }
      (activatePointers state version)

def rollbackPointers (next : SlotState) : SlotProg Unit := do
  wrapf "restore current slot pointer" (swapLink .current next.current)
  if next.previous ≠ "" then wrapf "preserve rollback slot pointer" (swapLink .previous next.previous)
  else removeLink .previous

def rolledBack (state : SlotState) (floor : String) : SlotState :=
  { state with
    current := state.previous, previous := state.current, pending := "", minimumVersion := floor }

def rollback : SlotProg Unit := m.withLock do
  m.recoverFirst
  let state ← stateWithoutOperation
  failIf (state.previous = "") "no previous release slot is available"
  (requireSlot state.previous).mapError fun _ => "previous release slot is missing"
  let floor ← floorOf state
  let next := rolledBack state floor
  m.commitOperation "rollback" state next (rollbackPointers next)

def parentDirs (path : String) : List String := go path.length path.toList
where
  go : Nat → List Char → List String
  | 0, _ => []
  | n + 1, path =>
    let parent := dir path
    if parent = ['.'] then [] else String.ofList parent :: go n parent

def normalizeCopiedFile (slot relative : String) : SlotProg Unit := do
  ask (.chmodFile slot relative (applianceFileMode relative)) ofExcept
  each (fun parent => ask (.chmodDir slot parent 0o755) ofExcept) (parentDirs relative)

def copyFile (temp relative : String) : SlotProg Unit := do
  ask (.copy temp relative) ofExcept
  normalizeCopiedFile temp relative

def removeSlot (name : String) : SlotProg Unit := ask (.removeSlot name) ofExcept

def syncSlots : SlotProg Unit := ask .syncSlots ofExcept

variable (crypto : Crypto) (arch : String)

/-- The copy in a private directory is verified again before it gets its name. -/
def copyRelease (manifest : FirmwareManifest) (temp : String) : SlotProg Unit := do
  ask (.chmodDir temp "" 0o755) ofExcept
  each (fun relative => copyFile temp (cleanPath relative)) manifest.paths
  wrapf "verify copied release slot"
    (validateReleaseCandidate crypto arch (.slot temp) manifest m.trustedKey)
  wrapf "sync staged slot" (ask (.syncTree temp) ofExcept)
  wrapf "commit staged slot" (ask (.renameSlot temp manifest.version) ofExcept)

def commitRelease (state : SlotState) (version : String) : SlotProg Unit := do
  match ← syncSlots.result with
  | .error e =>
    let _ ← (removeSlot version).result
    fail ("sync committed slot: " ++ e)
  | .ok _ =>
    match ← (m.saveState { state with pending := version }).result with
    | .ok _ => return
    | .error e =>
      let removed ← (removeSlot version).result
      let _ ← syncSlots.result
      match removed with
      | .error removeError => fail (e ++ "\nremove uncommitted slot: " ++ removeError)
      | .ok _ => fail e

def stage (manifest : Option FirmwareManifest) : SlotProg Unit := m.withLock do
  m.recoverFirst
  match manifest.filter (releaseVersionPattern ·.version) with
  | none => fail "release version is not a safe semantic version"
  | some manifest =>
    failIf (m.trustedKey.length ≠ 32) errInvalidPublicKey
    wrapf "verify release source"
      (validateReleaseCandidate crypto arch .source manifest m.trustedKey)
    let state ← stateWithoutOperation
    let floor ← floorOf state
    ofExcept (validateForwardUpgrade manifest.version floor)
    let staged ← (ask (.slotExists manifest.version) ofExcept : SlotProg Bool)
    failIf staged "release version is already staged"
    let temp ← (ask (.mkdirTemp ".staging-") ofExcept : SlotProg String)
    (do
      m.copyRelease crypto arch manifest temp
      m.commitRelease state manifest.version : SlotProg Unit).andFinally (removeSlot temp)

def beginInstallation (minimum : String) : SlotProg Unit := m.withLock do
  m.recoverOperation
  let state ← stateWithoutOperation
  let minimum ← ofExcept (installationMinimum state minimum)
  m.writeAtomicJson (.installation { minimumVersion := minimum })

def hexByte (b : UInt8) : List Char := hexPadded 2 b.toNat

def hexEncode (bytes : List UInt8) : String := String.ofList (bytes.flatMap hexByte)

def hashFiles (loc : Location) : List String → SlotProg (List (String × String))
  | [] => pure []
  | path :: paths => do
    let digest ← (ask (.sha256 loc path) ofExcept : SlotProg (List UInt8))
    return (path, hexEncode digest) :: (← hashFiles loc paths)

def inspectLocalPayload (loc : Location) : SlotProg (List (String × String)) := do
  let paths ← (ask (.walk loc) ofExcept : SlotProg (List String))
  let files ← hashFiles loc paths
  validateApplianceFileModes loc (files.map Prod.fst)
  return files

def copyInventory (inventory : FirmwareManifest) (temp : String) : SlotProg Unit := do
  ask (.chmodDir temp "" 0o755) ofExcept
  each (fun relative =>
    if ¬isLocal relative.toList ∨ cleanPath relative ≠ relative then
      fail ("unsafe installer path: " ++ relative)
    else copyFile temp relative) inventory.paths
  let copied ← inspectLocalPayload (.slot temp)
  match inventory.entries.find? fun e => !copied.contains e with
  | some e => fail ("installer payload changed during copy: " ++ e.1)
  | none => wrapf "persist complete baseline" (ask (.syncTree temp) ofExcept)

def checkExisting (inventory : FirmwareManifest) (version : String) : SlotProg Unit := do
  let existing ← inspectLocalPayload (.slot version)
  failIf (existing.length ≠ inventory.entries.length)
    "existing baseline contains a different file inventory"
  failIf (inventory.entries.any fun e => !existing.contains e)
    "existing baseline contents differ"
  ask (.syncTree version) ofExcept

def placeBaseline (inventory : FirmwareManifest) (temp version : String) : SlotProg Unit := do
  let staged ← (ask (.slotExists version) ofExcept : SlotProg Bool)
  (if staged then checkExisting inventory version
    else ask (.renameSlot temp version) ofExcept)
  syncSlots

def baselineVersion (inventory : FirmwareManifest) : String :=
  "0.0.0+bootstrap." ++ hexEncode ((crypto.digestJson inventory.signedPayload).take 16)

def installBaseline (inventory : FirmwareManifest) (minimum : String) : SlotProg Unit :=
  m.withLock do
  m.recoverOperation
  let installed ← stateWithoutOperation
  let minimum ← ofExcept (installationMinimum installed minimum)
  let version := baselineVersion crypto inventory
  let temp ← (ask (.mkdirTemp ".install-") ofExcept : SlotProg String)
  (do
    copyInventory inventory temp
    placeBaseline inventory temp version
    let old ← stateWithoutOperation
    m.commitOperation "install" old { current := version, minimumVersion := minimum } (do
      removeLink .previous
      swapLink .current version)
    ask .removeInstallation ofExcept
    syncRoot : SlotProg Unit).andFinally (removeSlot temp)

end Operations

end SlotManager

end MinimalRouter.Slots
