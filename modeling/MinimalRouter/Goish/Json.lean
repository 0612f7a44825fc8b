import Mathlib.Algebra.Group.Int.Defs
import Mathlib.Algebra.Group.Nat.Defs

/-! JSON encoding compatible with Go's encoding/json.  The encoder is modelled up to the text of
its tokens: two values have the same bytes exactly when they have the same document. -/

universe u

namespace MinimalRouter.Goish

/-- A Go slice: nil encodes as null, an empty slice as an empty array. -/
inductive GoList (α : Type u) : Type u
  | nil
  | of : List α → GoList α
  deriving DecidableEq

namespace GoList

variable {α : Type u}

def items : GoList α → List α
  | nil => []
  | of xs => xs

def isEmpty (l : GoList α) : Bool := l.items.isEmpty

def map {β : Type u} (f : α → β) : GoList α → GoList β
  | nil => nil
  | of xs => of (xs.map f)

def mapIdx {β : Type u} (f : Nat → α → β) : GoList α → GoList β
  | nil => nil
  | of xs => of (xs.mapIdx f)

theorem items_map {β : Type u} (f : α → β) (l : GoList α) : (l.map f).items = l.items.map f := by
  cases l <;> rfl

theorem map_eq_mapIdx {β : Type u} {f : α → β} {g : Nat → α → β} {l : GoList α}
    (h : ∀ i a, l.items[i]? = some a → f a = g i a) : l.map f = l.mapIdx g := by
  cases l with
  | nil => rfl
  | of xs =>
    refine congrArg of (List.ext_getElem? fun i => ?_)
    rw [List.getElem?_map, List.getElem?_mapIdx]
    cases hi : xs[i]? with
    | none => rfl
    | some a => exact congrArg some (h i a hi)

theorem map_map {β γ : Type u} (g : β → γ) (f : α → β) (l : GoList α) :
    (l.map f).map g = l.map fun a => g (f a) := by
  cases l with
  | nil => rfl
  | of => exact congrArg of (List.map_map ..)

theorem map_mapIdx {β γ : Type u} (g : β → γ) (f : Nat → α → β) (l : GoList α) :
    (l.mapIdx f).map g = l.mapIdx fun i a => g (f i a) := by
  cases l with
  | nil => rfl
  | of =>
    refine congrArg of (List.ext_getElem? fun i => ?_)
    rw [List.getElem?_map, List.getElem?_mapIdx, List.getElem?_mapIdx, Option.map_map]
    rfl

theorem map_eq_self {f : α → α} {l : GoList α} : l.map f = l ↔ ∀ a ∈ l.items, f a = a := by
  cases l with
  | nil => simp [map, items]
  | of xs =>
    have hmap : xs.map f = xs.map id ↔ ∀ a ∈ xs, f a = id a := List.map_inj_left
    simpa [map, items] using hmap

end GoList

/-- A document.  Arrays and objects are written out as chains of their elements and members. -/
inductive Json
  | null
  | bool : Bool → Json
  | num : Int → Json
  | str : String → Json
  | time : Int → Int → Json
  | emptyArray
  | element : Json → Json → Json
  | emptyObject
  | member : String → Json → Json → Json
  deriving DecidableEq

class Marshal (α : Type u) where
  marshal : α → Json

export Marshal (marshal)

namespace Json

def array : List Json → Json
  | [] => .emptyArray
  | x :: xs => .element x (array xs)

def object : List (Option (String × Json)) → Json
  | [] => .emptyObject
  | none :: fields => object fields
  | some (name, value) :: fields => .member name value (object fields)

def field {α : Type u} [Marshal α] (name : String) (value : α) : Option (String × Json) :=
  some (name, marshal value)

def fieldUnless {α : Type u} [Marshal α] (skip : α → Bool) (name : String) (value : α) :
    Option (String × Json) :=
  if skip value then none else field name value

def get (name : String) : Json → Option Json
  | .member key value rest => if key = name then some value else get name rest
  | _ => none

section Get

variable {α : Type u} [Marshal α] (name key : String) (value : α)
  (fields : List (Option (String × Json)))

theorem get_field : get name (object (field name value :: fields)) = some (marshal value) := by
  simp [field, object, get]

theorem get_field_of_ne (h : key ≠ name) :
    get name (object (field key value :: fields)) = get name (object fields) := by
  simp [field, object, get, h]

theorem get_fieldUnless_of_ne (skip : α → Bool) (h : key ≠ name) :
    get name (object (fieldUnless skip key value :: fields)) = get name (object fields) := by
  unfold fieldUnless
  split
  · rfl
  · exact get_field_of_ne name key value fields h

end Get

end Json

instance : Marshal Bool := ⟨.bool⟩
instance : Marshal Int := ⟨.num⟩
instance : Marshal Nat := ⟨fun n => .num n⟩
instance : Marshal String := ⟨.str⟩

instance {α : Type u} [Marshal α] : Marshal (GoList α) where
  marshal
    | .nil => .null
    | .of xs => .array (xs.map marshal)

def isFalse (b : Bool) : Bool := !b

def isZero (n : Int) : Bool := n == 0

def equalJson {α β : Type u} [Marshal α] [Marshal β] (a : α) (b : β) : Bool :=
  marshal a == marshal b

end MinimalRouter.Goish
