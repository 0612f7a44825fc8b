import MinimalRouter.Slots.Store
import MinimalRouter.Slots.Version

namespace MinimalRouter.Slots

open Goish Lib

structure FileMap where
  entries : List (String × String)
  nodup : (entries.map Prod.fst).Nodup

structure FirmwareManifest where
  version : String
  (buildDate gitCommit : String := "")
  files : Option FileMap
  (signature publicKey : String := "")

namespace FirmwareManifest

variable (manifest : FirmwareManifest)

def entries : List (String × String) := (manifest.files.map FileMap.entries).getD []

def paths : List String := manifest.entries.map Prod.fst

def signedPayload : Json :=
  .object [Json.field "version" manifest.version, Json.field "build_date" manifest.buildDate,
    Json.field "git_commit" manifest.gitCommit,
    some ("files", (manifest.files.map fun files =>
      Json.object (files.entries.map fun e => Json.field e.1 e.2)).getD .null)]

end FirmwareManifest

structure Crypto where
  digest : List UInt8 → List UInt8
  digestJson : Json → List UInt8
  verify : List UInt8 → Json → List UInt8 → Bool

def hexDecode (value : String) : Option (List UInt8) :=
  pairs value.toList
where
  pairs : List Char → Option (List UInt8)
  | [] => some []
  | [_] => none
  | a :: b :: cs => do
    let high ← toDigit 16 a
    let low ← toDigit 16 b
    return UInt8.ofNat (high * 16 + low) :: (← pairs cs)

def errInvalidPublicKey : String := "invalid trusted public key (must be 32 bytes Ed25519)"

def errUntrustedPublicKey : String := "manifest signer does not match the pinned firmware key"

def errInvalidSignatureFormat : String := "invalid signature format (must be 64 bytes Ed25519)"

def errInvalidSignature : String := "invalid firmware signature"

def wrapf {α : Type} (message : String) (x : SlotProg α) : SlotProg α :=
  x.mapError (message ++ ": " ++ ·)

def verifyManifest (crypto : Crypto) (manifest : FirmwareManifest) (trustedKey : List UInt8) :
    Except String Unit :=
  if trustedKey.length ≠ 32 then .error errInvalidPublicKey
  else if manifest.version = "" ∨ manifest.entries = [] then .error "incomplete firmware manifest"
  else if manifest.publicKey ≠ "" ∧ hexDecode manifest.publicKey ≠ some trustedKey then
    .error errUntrustedPublicKey
  else
    match (hexDecode manifest.signature).filter (·.length = 64) with
    | none => .error errInvalidSignatureFormat
    | some signature =>
      if crypto.verify trustedKey manifest.signedPayload signature then .ok ()
      else .error errInvalidSignature

structure ApplianceFileRole where
  path : String → String
  mode : Nat
  architectureBinary : Bool
  required : Bool := true

def fixedRole (path : String) (mode : Nat) : ApplianceFileRole := ⟨fun _ => path, mode, false, true⟩

def binaryRole (path : String) (mode : Nat) : ApplianceFileRole :=
  ⟨fun arch => path ++ arch, mode, true, true⟩

def supportedArchitectures : List String := ["amd64", "arm64"]

def applianceFileRoles : List ApplianceFileRole :=
  [fixedRole "web/dist/index.html" 0o644, fixedRole "compatibility.json" 0o644,
    fixedRole "slot-exec" 0o755, fixedRole "firstboot" 0o755,
    fixedRole "init.d/minimalrouter-firstboot" 0o755, fixedRole "firstboot-ready" 0o755,
    fixedRole "install.sh" 0o755, fixedRole "install-core.sh" 0o755,
    fixedRole "init.d/routerd" 0o755, fixedRole "init.d/router-applyd" 0o755,
    fixedRole "init.d/pppoe-wan" 0o755, fixedRole "sysctl/99-minimalrouter.conf" 0o644,
    fixedRole "modules/minimalrouter.conf" 0o644, fixedRole "logrotate/minimalrouter" 0o644,
    fixedRole "ip-up.d-minimalrouter-qos" 0o755,
    binaryRole "bin/routerd-" 0o755, binaryRole "bin/router-applyd-" 0o755,
    binaryRole "bin/router-recovery-" 0o755, binaryRole "bin/router-update-" 0o750,
    binaryRole "bin/router-setup-" 0o755]

def requiredBinaries (arch : String) : List String :=
  (applianceFileRoles.filter fun r => r.required && r.architectureBinary).map (·.path arch)

/-- One complete set of binaries, besides the files that do not depend on the architecture. -/
def validateAppliancePayload (paths : List String) : Except String Unit :=
  match (applianceFileRoles.filter fun r => r.required && !r.architectureBinary).find? fun r =>
      !paths.contains (r.path "") with
  | some role => .error ("incomplete appliance payload: missing " ++ role.path "")
  | none =>
    if supportedArchitectures.any fun arch => (requiredBinaries arch).any paths.contains &&
        !(requiredBinaries arch).all paths.contains then
      .error "incomplete appliance payload: architecture binary set is partial"
    else if (supportedArchitectures.countP fun arch =>
        (requiredBinaries arch).all paths.contains) ≠ 1 then
      .error ("incomplete appliance payload: exactly one supported architecture binary set is " ++
        "required")
    else .ok ()

def validateApplianceArchitecture (manifest : FirmwareManifest) (arch : String) :
    Except String Unit :=
  if arch ≠ "amd64" ∧ arch ≠ "arm64" then
    .error ("unsupported update architecture \"" ++ arch ++ "\"")
  else if (requiredBinaries arch).all manifest.paths.contains then .ok ()
  else .error ("signed appliance is not built for " ++ arch)

/-- The installed role contract, independent of archive ownership and umask. -/
def applianceFileMode (path : String) : Nat :=
  match supportedArchitectures.findSome? fun arch =>
      applianceFileRoles.find? fun r => path == r.path arch with
  | some role => role.mode
  | none =>
    if dir path.toList = "bin".toList ∨ "init.d/".toList.isPrefixOf path.toList then 0o755 else 0o644

def safeMode (path : String) (mode : Nat) : Bool :=
  let required := applianceFileMode path &&& 0o555
  (mode &&& 0o777 &&& required) == required && (mode &&& 0o022) == 0 && (mode &&& 0o7000) == 0

def cleanPath (path : String) : String := String.ofList (clean path.toList)

def debugText (value : String) : String :=
  "\"" ++ String.ofList (value.toList.flatMap fun c =>
    if c = '"' then ['\\', '"'] else if c = '\\' then ['\\', '\\']
    else if c = '\n' then ['\\', 'n'] else if c = '\r' then ['\\', 'r']
    else if c = '\t' then ['\\', 't'] else if c = '\x00' then ['\\', '0'] else [c]) ++ "\""

def safePath (relative : String) : Bool :=
  let clean := cleanPath relative
  !(clean == "." || isAbs clean.toList || clean != relative || "../".toList.isPrefixOf clean.toList)

def verifyFile (loc : Location) (entry : String × String) : SlotProg Unit :=
  let (relative, expectedHash) := entry
  let clean := cleanPath relative
  if ¬safePath relative then .fail ("unsafe firmware path: " ++ debugText relative)
  else
    match (hexDecode expectedHash).filter (·.length = 32) with
    | none => .fail ("invalid hash for " ++ relative)
    | some expected =>
      .ask (.lstat loc clean) fun
        | none => .fail ("file missing or unsafe: " ++ relative)
        | some _ => .ask (.sha256 loc clean) fun
          | .error _ => .fail ("file missing: " ++ relative)
          | .ok actual => .failIf (actual ≠ expected) ("hash mismatch for " ++ relative)

def verifyFirmware (crypto : Crypto) (loc : Location) (manifest : FirmwareManifest)
    (trustedKey : List UInt8) : SlotProg Unit := do
  Attempt.ofExcept (verifyManifest crypto manifest trustedKey)
  Attempt.each (verifyFile loc) manifest.entries

def validateFileMode (loc : Location) (relative : String) : SlotProg Unit :=
  .ask (.lstat loc relative) fun
    | none => .fail ("appliance executable is missing or unsafe: " ++ relative)
    | some mode => .failIf (¬safeMode relative mode)
        ("appliance file has unsafe runtime permissions: " ++ relative)

def validateApplianceFileModes (loc : Location) (paths : List String) : SlotProg Unit := do
  Attempt.ofExcept (validateAppliancePayload paths)
  Attempt.each (validateFileMode loc) paths

/-- The single boundary before a release is staged: signed paths and contents first, then the
layout and the architecture of the host. -/
def validateReleaseCandidate (crypto : Crypto) (arch : String) (loc : Location)
    (manifest : FirmwareManifest) (trustedKey : List UInt8) : SlotProg Unit := do
  wrapf "verify signed release" (verifyFirmware crypto loc manifest trustedKey)
  wrapf "validate appliance layout" (validateApplianceFileModes loc manifest.paths)
  wrapf "validate appliance architecture"
    (Attempt.ofExcept (validateApplianceArchitecture manifest arch))

end MinimalRouter.Slots
