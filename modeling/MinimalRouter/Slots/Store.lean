import MinimalRouter.Firmware.Activation
import MinimalRouter.Goish.Json
import MinimalRouter.Lib.Attempt
import MinimalRouter.Lib.Directory

namespace MinimalRouter.Slots

open Goish Lib
open Firmware (SlotState)

structure SlotOperation where
  version : Int := 0
  kind : String := ""
  (old next : SlotState := {})
  deriving DecidableEq

inductive Link
  | current | previous
  deriving DecidableEq

def Link.name : Link → String
  | current => "current"
  | previous => "previous"

/-- The files of the root that are replaced as a whole, with their contents. -/
inductive Document
  | state : SlotState → Document
  | operation : SlotOperation → Document
  | installation : SlotState → Document
  deriving DecidableEq

def Document.name : Document → String
  | state _ => "state.json"
  | operation _ => "operation.json"
  | installation _ => "installation.json"

def Document.pattern : Document → String
  | state _ => ".state-"
  | operation _ => ".operation-"
  | installation _ => ".install-intent-"

structure FileEntry where
  content : List UInt8
  mode : Nat
  deriving DecidableEq

abbrev Tree := String → Option FileEntry

/-- Where a payload is read: the directory of the release, which others may change at any time, or
a directory under slots. -/
inductive Location
  | source
  | slot : String → Location
  deriving DecidableEq

inductive Place
  | root | lock
  | file : String → Place
  | temporary : String → Place
  | link : Link → Place
  | temporaryLink : Link → Place
  | slots
  | slot : String → String → Place
  deriving DecidableEq

inductive Query
  | ensureRoot | lock | installationExists | readState | readOperation | readInstallation
  | createTemp : Document → Query
  | rename : Document → Query
  | removeOperation | removeInstallation | syncRoot
  | readLink : Link → Query
  | symlink : Link → String → Query
  | renameLink : Link → String → Query
  | removeLink : Link → Query
  | slotIsDir : String → Query
  | slotExists : String → Query
  | mkdirTemp : String → Query
  | chmodDir : String → String → Nat → Query
  | lstat : Location → String → Query
  | sha256 : Location → String → Query
  | walk : Location → Query
  | copy : String → String → Query
  | chmodFile : String → String → Nat → Query
  | syncTree : String → Query
  | renameSlot : String → String → Query
  | syncSlots
  | removeSlot : String → Query

abbrev Query.Answer : Query → Type
  | installationExists => Except String Bool
  | readState => Except String (Option SlotState)
  | readOperation => Except String (Option SlotOperation)
  | readInstallation => Except String (Option SlotState)
  | readLink _ => Except String (Option String)
  | slotIsDir _ => Bool
  | slotExists _ => Except String Bool
  | mkdirTemp _ => Except String String
  | lstat _ _ => Option Nat
  | sha256 _ _ => Except String (List UInt8)
  | walk _ => Except String (List String)
  | _ => Except String Unit

def Query.writes : Query → List Place
  | ensureRoot => [.root, .slots]
  | lock => [.lock]
  | createTemp d => [.temporary d.pattern]
  | rename d => [.temporary d.pattern, .file d.name]
  | removeOperation => [.file "operation.json"]
  | removeInstallation => [.file "installation.json"]
  | symlink l _ => [.temporaryLink l]
  | renameLink l _ => [.temporaryLink l, .link l]
  | removeLink l => [.link l]
  | mkdirTemp _ => [.slots]
  | chmodDir slot path _ => [.slot slot path]
  | copy slot path => [.slot slot path]
  | chmodFile slot path _ => [.slot slot path]
  | renameSlot _ _ => [.slots]
  | removeSlot _ => [.slots]
  | _ => []

structure Root where
  (current previous : Option String := none)
  state : Option SlotState := none
  operation : Option SlotOperation := none
  installation : Option SlotState := none
  deriving DecidableEq

def Root.link (r : Root) : Link → Option String
  | .current => r.current
  | .previous => r.previous

def Root.setLink (r : Root) (l : Link) (target : Option String) : Root :=
  match l with
  | .current => { r with current := target }
  | .previous => { r with previous := target }

def Root.put (r : Root) : Document → Root
  | .state s => { r with state := some s }
  | .operation o => { r with operation := some o }
  | .installation s => { r with installation := some s }

structure Store where
  root : Directory Root := ⟨{}, []⟩
  slots : Directory (String → Option Tree) := ⟨fun _ => none, []⟩
  written : List Place := []

namespace Store

def log (s : Store) (q : Query) : Store := { s with written := s.written ++ q.writes }

def changeRoot (s : Store) (r : Root) : Store := { s with root := s.root.change r }

def changeSlots (s : Store) (f : String → Option Tree) : Store :=
  { s with slots := s.slots.change f }

def setSlot (s : Store) (name : String) (tree : Option Tree) : Store :=
  s.changeSlots (Function.update s.slots.now name tree)

structure Crash (s t : Store) : Prop where
  root : Directory.Crash s.root t.root
  slots : Directory.Crash s.slots t.slots

end Store

section FileSystem

def Changes (s t : Store) (r : Except String Unit) (done : Store) : Prop :=
  match r with
  | .ok _ => t = done
  | .error _ => t = s

def Remains (tree' tree : Tree) : Prop := ∀ path, tree' path = none ∨ tree' path = tree path

def PartlyRemoved (s : Store) (name : String) (t : Store) : Prop :=
  t = s ∨ ∃ tree tree', s.slots.now name = some tree ∧ Remains tree' tree ∧
    t = s.setSlot name (some tree')

def Writing (s : Store) (name path : String) (t : Store) : Prop :=
  t = s ∨ ∃ tree file, s.slots.now name = some tree ∧ tree path = none ∧
    t = s.setSlot name (some (Function.update tree path (some file)))

variable (digest : List UInt8 → List UInt8)

def Handles : Prog.Handler Query Query.Answer Store := fun s q r t =>
  let s := s.log q
  match q, r with
  | .installationExists, r => t = s ∧ ∀ b, r = .ok b → b = s.root.now.installation.isSome
  | .readState, r => t = s ∧ ∀ v, r = .ok v → v = s.root.now.state
  | .readOperation, r => t = s ∧ ∀ v, r = .ok v → v = s.root.now.operation
  | .readInstallation, r => t = s ∧ ∀ v, r = .ok v → v = s.root.now.installation
  | .rename d, r => Changes s t r (s.changeRoot (s.root.now.put d))
  | .removeOperation, r => Changes s t r (s.changeRoot { s.root.now with operation := none })
  | .removeInstallation, r => Changes s t r (s.changeRoot { s.root.now with installation := none })
  | .syncRoot, r => Changes s t r { s with root := s.root.sync }
  | .readLink l, r => t = s ∧ ∀ v, r = .ok v → v = s.root.now.link l
  | .renameLink l target, r => Changes s t r (s.changeRoot (s.root.now.setLink l (some target)))
  | .removeLink l, r => Changes s t r (s.changeRoot (s.root.now.setLink l none))
  | .slotIsDir name, r => t = s ∧ (r = true → (s.slots.now name).isSome)
  | .slotExists name, r => t = s ∧ ∀ b, r = .ok b → b = (s.slots.now name).isSome
  | .mkdirTemp pattern, r =>
    match r with
    | .ok name => (∃ suffix, name = pattern ++ suffix) ∧ s.slots.now name = none ∧
        t = s.setSlot name (some fun _ => none)
    | .error _ => t = s
  | .lstat .source path, r => t = s ∧ (path = ".." → r = none)
  | .lstat (.slot name) path, r => t = s ∧ ∀ mode, r = some mode →
      ∃ tree file, s.slots.now name = some tree ∧ tree path = some file ∧ mode = file.mode
  | .sha256 .source _, _ => t = s
  | .sha256 (.slot name) path, r => t = s ∧ ∀ d, r = .ok d →
      ∃ tree file, s.slots.now name = some tree ∧ tree path = some file ∧ d = digest file.content
  | .walk .source, _ => t = s
  | .walk (.slot name), r => t = s ∧ ∀ paths, r = .ok paths →
      ∃ tree, s.slots.now name = some tree ∧ ∀ path, path ∈ paths ↔ (tree path).isSome
  | .copy name path, r =>
    match r with
    | .ok _ => ∃ tree file, s.slots.now name = some tree ∧ tree path = none ∧
        t = s.setSlot name (some (Function.update tree path (some file)))
    | .error _ => Writing s name path t
  | .chmodFile name path mode, r =>
    match r with
    | .ok _ => ∃ tree file, s.slots.now name = some tree ∧ tree path = some file ∧
        t = s.setSlot name (some (Function.update tree path (some { file with mode })))
    | .error _ => t = s
  | .renameSlot temp final, r =>
    match r with
    | .ok _ => s.slots.now final = none ∧ ∃ tree, s.slots.now temp = some tree ∧
        t = s.changeSlots (Function.update (Function.update s.slots.now temp none) final (some tree))
    | .error _ => t = s
  | .syncSlots, r => Changes s t r { s with slots := s.slots.sync }
  | .removeSlot name, r =>
    match r with
    | .ok _ => t = s.setSlot name none
    | .error _ => PartlyRemoved s name t
  | _, _ => t = s

def Interrupts : Store → Query → Store → Prop := fun s q t =>
  match q with
  | .removeSlot name => PartlyRemoved s name t
  | .copy name path => Writing s name path t
  | _ => False

end FileSystem

abbrev SlotProg := Attempt Query Query.Answer String

end MinimalRouter.Slots
