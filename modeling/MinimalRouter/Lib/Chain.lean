import Mathlib.Data.List.Basic

universe u v w

namespace MinimalRouter.Lib

/-- Every element has a property. The lemmas take apart a list that is written in sections, so that
what is proved of it does not depend on their order. -/
def Every {α : Type u} (P : α → Prop) (xs : List α) : Prop := ∀ x ∈ xs, P x

section Every

variable {α : Type u} {β : Type v} {P Q : α → Prop} {xs ys : List α}

@[simp] theorem every_nil : Every P [] := List.forall_mem_nil _

@[simp] theorem every_cons : Every P (x :: xs) ↔ P x ∧ Every P xs := List.forall_mem_cons

@[simp] theorem every_append : Every P (xs ++ ys) ↔ Every P xs ∧ Every P ys :=
  List.forall_mem_append

@[simp] theorem every_map {zs : List β} {f : β → α} : Every P (zs.map f) ↔ ∀ z ∈ zs, P (f z) :=
  List.forall_mem_map

@[simp] theorem every_flatMap {zs : List β} {f : β → List α} :
    Every P (zs.flatMap f) ↔ ∀ z ∈ zs, Every P (f z) :=
  List.forall_mem_flatMap

@[simp] theorem every_ite [Decidable p] :
    Every P (if p then xs else ys) ↔ (p → Every P xs) ∧ (¬p → Every P ys) := by
  split <;> simp_all

theorem Every.mono (h : Every P xs) (hPQ : ∀ x, P x → Q x) : Every Q xs := fun x hx => hPQ x (h x hx)

end Every

end MinimalRouter.Lib

namespace MinimalRouter.Lib.Chain

variable {R : Type u} {V : Type v} {J : Type w}

inductive Action (V : Type v) (J : Type w)
  | pass
  | settle : V → Action V J
  | ret
  | jump : J → Action V J

/-- How far a list of rules has come: on to what follows it, back to the caller, or to an end. -/
inductive Outcome (V : Type v)
  | next | returned
  | settled : V → Outcome V
  deriving DecidableEq

namespace Outcome

def andThen : Outcome V → Outcome V → Outcome V
  | next, o => o
  | returned, _ => returned
  | settled v, _ => settled v

@[simp] theorem next_andThen (o : Outcome V) : next.andThen o = o := rfl

@[simp] theorem returned_andThen (o : Outcome V) : returned.andThen o = returned := rfl

@[simp] theorem settled_andThen (v : V) (o : Outcome V) : (settled v).andThen o = settled v := rfl

@[simp] theorem andThen_next (o : Outcome V) : o.andThen next = o := by
  cases o <;> rfl

theorem andThen_assoc (a b c : Outcome V) : (a.andThen b).andThen c = a.andThen (b.andThen c) := by
  cases a <;> rfl

theorem andThen_eq_settled {a : Outcome V} (h : a.andThen b = settled v) :
    a = settled v ∨ a = next ∧ b = settled v := by
  cases a with
  | next => exact .inr ⟨rfl, h⟩
  | returned => cases h
  | settled => exact .inl h

/-- The verdict, if there is one: a caller goes on after a return as after the last rule. -/
def verdict : Outcome V → Option V
  | settled v => some v
  | _ => none

theorem verdict_eq_some {o : Outcome V} : o.verdict = some v ↔ o = settled v := by
  cases o <;> simp [verdict]

end Outcome

/-- What one rule gives. The verdict of a chain that is jumped to is the verdict of the jump. -/
def perform (sub : J → Option V) : Action V J → Outcome V
  | .pass => .next
  | .settle v => .settled v
  | .ret => .returned
  | .jump j => (sub j).elim .next .settled

def run (step : R → Outcome V) : List R → Outcome V
  | [] => .next
  | r :: rs => (step r).andThen (run step rs)

section Run

variable {step : R → Outcome V}

@[simp] theorem run_nil : run step [] = .next := rfl

@[simp] theorem run_cons : run step (r :: rs) = (step r).andThen (run step rs) := rfl

@[simp] theorem run_append : run step (as ++ bs) = (run step as).andThen (run step bs) := by
  induction as with
  | nil => rfl
  | cons r rs ih => rw [List.cons_append, run_cons, run_cons, ih, Outcome.andThen_assoc]

theorem run_eq_next (h : ∀ r ∈ rs, step r = .next) : run step rs = .next := by
  induction rs with
  | nil => rfl
  | cons r rs ih =>
    rw [run_cons, h r List.mem_cons_self, ih fun s hs => h s (List.mem_cons_of_mem r hs)]
    rfl

theorem exists_of_run_eq_settled (h : run step rs = .settled v) : ∃ r ∈ rs, step r = .settled v := by
  induction rs with
  | nil => cases h
  | cons r rs ih =>
    rcases Outcome.andThen_eq_settled h with hr | ⟨-, hrs⟩
    · exact ⟨r, List.mem_cons_self, hr⟩
    · obtain ⟨s, hs, hstep⟩ := ih hrs
      exact ⟨s, List.mem_cons_of_mem r hs, hstep⟩

theorem run_append_eq_settled (h : run step (as ++ bs) = .settled v) :
    run step as = .settled v ∨ run step as = .next ∧ run step bs = .settled v :=
  Outcome.andThen_eq_settled (run_append ▸ h)

end Run

section Blocks

variable {α : Type u} {step : R → Outcome V} {xs : List α}

theorem exists_of_run_flatMap_eq_settled (h : run step (xs.flatMap f) = .settled v) :
    ∃ x ∈ xs, run step (f x) = .settled v := by
  induction xs with
  | nil => cases h
  | cons x xs ih =>
    rw [List.flatMap_cons] at h
    rcases run_append_eq_settled h with hx | ⟨-, hxs⟩
    · exact ⟨x, List.mem_cons_self, hx⟩
    · obtain ⟨y, hy, hrun⟩ := ih hxs
      exact ⟨y, List.mem_cons_of_mem x hy, hrun⟩

end Blocks

end MinimalRouter.Lib.Chain
