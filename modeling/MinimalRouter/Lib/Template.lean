import Mathlib.Data.List.Basic

namespace MinimalRouter.Lib

inductive Piece
  | own : String → Piece
  | given : String → Piece

abbrev Template := List Piece

namespace Template

def chars (t : Template) : List Char :=
  t.flatMap fun
    | .own s => s.toList
    | .given s => s.toList

def text (t : Template) : String := String.ofList t.chars

def givens (t : Template) : List String :=
  t.filterMap fun
    | .own _ => none
    | .given s => some s

def skeleton (t : Template) : List Char :=
  t.flatMap fun
    | .own s => s.toList
    | .given _ => []

def join (sep : String) (ts : List Template) : Template := [Piece.own sep].intercalate ts

def lines (ts : List Template) : Template := ts.flatMap fun t => t ++ [.own "\n"]

@[simp] theorem toList_text (t : Template) : t.text.toList = t.chars := String.toList_ofList

@[simp] theorem chars_nil : chars [] = [] := rfl

@[simp] theorem chars_own (s : String) (t : Template) : chars (.own s :: t) = s.toList ++ chars t := rfl

@[simp] theorem chars_given (s : String) (t : Template) :
    chars (.given s :: t) = s.toList ++ chars t := rfl

@[simp] theorem chars_append (t t' : Template) : chars (t ++ t') = chars t ++ chars t' :=
  List.flatMap_append

@[simp] theorem givens_nil : givens [] = [] := rfl

@[simp] theorem givens_own (s : String) (t : Template) : givens (.own s :: t) = givens t := rfl

@[simp] theorem givens_given (s : String) (t : Template) : givens (.given s :: t) = s :: givens t :=
  rfl

@[simp] theorem givens_append (t t' : Template) : givens (t ++ t') = givens t ++ givens t' :=
  List.filterMap_append

@[simp] theorem skeleton_nil : skeleton [] = [] := rfl

@[simp] theorem skeleton_own (s : String) (t : Template) :
    skeleton (.own s :: t) = s.toList ++ skeleton t := rfl

@[simp] theorem skeleton_given (s : String) (t : Template) : skeleton (.given s :: t) = skeleton t :=
  rfl

theorem chars_join (sep : String) (ts : List Template) :
    chars (join sep ts) = sep.toList.intercalate (ts.map chars) := by
  cases ts with
  | nil => rfl
  | cons t ts =>
    induction ts generalizing t with
    | nil => simp [join]
    | cons t' ts ih =>
      have hrest := ih t'
      rw [List.map_cons] at hrest
      rw [List.map_cons, List.map_cons, List.intercalate_cons_cons, ← hrest, join,
        List.intercalate_cons_cons, chars_append, chars_append]
      simp [join]

@[simp] theorem givens_join (sep : String) (ts : List Template) :
    givens (join sep ts) = ts.flatMap givens := by
  cases ts with
  | nil => rfl
  | cons t ts =>
    induction ts generalizing t with
    | nil => simp [join]
    | cons t' ts ih =>
      rw [List.flatMap_cons, ← ih t', join, List.intercalate_cons_cons, givens_append, givens_append]
      simp [join]

theorem chars_lines (ts : List Template) : chars (lines ts) = ts.flatMap fun t => chars t ++ ['\n'] := by
  unfold lines
  induction ts with
  | nil => rfl
  | cons t ts ih =>
    rw [List.flatMap_cons, chars_append, chars_append, ih]
    rfl

theorem filter_chars (h : ∀ s ∈ givens t, ∀ c ∈ s.toList, p c = false) :
    (chars t).filter p = (skeleton t).filter p := by
  induction t with
  | nil => rfl
  | cons piece t ih =>
    cases piece with
    | own s =>
      have hrest := ih fun s' hs' => h s' hs'
      change (s.toList ++ chars t).filter p = (s.toList ++ skeleton t).filter p
      rw [List.filter_append, List.filter_append, hrest]
    | given s =>
      have hrest := ih fun s' hs' => h s' (List.mem_cons_of_mem s hs')
      have hs : s.toList.filter p = [] :=
        List.filter_eq_nil_iff.mpr fun c hc => Bool.eq_false_iff.mp (h s List.mem_cons_self c hc)
      change (s.toList ++ chars t).filter p = (skeleton t).filter p
      rw [List.filter_append, hs, hrest, List.nil_append]

/-- What was given to a template is made of characters of one kind, so that all others in its text
are the writer's. -/
structure Confined (kind : Char → Bool) (t : Template) : Prop where
  givens : ∀ s ∈ t.givens, ∀ c ∈ s.toList, kind c = true
  others : (chars t).filter (fun c => !kind c) = (skeleton t).filter fun c => !kind c

theorem confined_iff : Confined kind t ↔ ∀ s ∈ t.givens, ∀ c ∈ s.toList, kind c = true := by
  refine ⟨Confined.givens, fun h => ⟨h, filter_chars fun s hs c hc => ?_⟩⟩
  rw [h s hs c hc]
  rfl

end Template

end MinimalRouter.Lib
