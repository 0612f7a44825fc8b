import Mathlib.Data.List.Basic

namespace MinimalRouter.Lib.Checks

universe u v w

variable {E : Type u} {α : Type v} {σ : Type w}

def failIf (p : Prop) [Decidable p] (e : E) : List E := if p then [e] else []

@[simp] theorem failIf_eq_nil [Decidable p] : failIf p e = [] ↔ ¬p := by
  unfold failIf
  split <;> simp_all

def each (check : Nat → α → List E) (xs : List α) : List E :=
  xs.zipIdx.flatMap fun x => check x.2 x.1

theorem each_eq_nil {check : Nat → α → List E} (h : each check xs = []) (hx : x ∈ xs) :
    ∃ i, check i x = [] := by
  obtain ⟨i, hi, rfl⟩ := List.mem_iff_getElem.mp hx
  have hmem : (xs[i], i) ∈ xs.zipIdx := List.mem_zipIdx_iff_getElem?.mpr (List.getElem?_eq_getElem hi)
  exact ⟨i, List.flatMap_eq_nil_iff.mp h _ hmem⟩

/-- A check of every item, with its position and what the items before it left behind. -/
def eachFrom (check : σ → Nat → α → σ × List E) : σ → Nat → List α → List E
  | _, _, [] => []
  | s, i, x :: xs => (check s i x).2 ++ eachFrom check (check s i x).1 (i + 1) xs

theorem eachFrom_eq_nil {check : σ → Nat → α → σ × List E} (h : eachFrom check s i xs = [])
    (hx : x ∈ xs) : ∃ s i, (check s i x).2 = [] := by
  induction xs generalizing s i with
  | nil => cases hx
  | cons y ys ih =>
    obtain ⟨hy, hys⟩ := List.append_eq_nil_iff.mp h
    rcases List.mem_cons.mp hx with rfl | hx
    · exact ⟨s, i, hy⟩
    · exact ih hys hx

theorem pairwise_of_eachFrom {check : σ → Nat → α → σ × List E} {K : α → σ → Prop}
    (hkeep : ∀ s i x y, K y s → K y (check s i x).1)
    (hadd : ∀ s i x, (check s i x).2 = [] → K x (check s i x).1)
    (hcheck : ∀ s i x, (check s i x).2 = [] → ∀ y, K y s → R y x) (h : eachFrom check s i xs = []) :
    xs.Pairwise R ∧ ∀ y, K y s → ∀ x ∈ xs, R y x := by
  induction xs generalizing s i with
  | nil => exact ⟨.nil, fun _ _ _ hx => by cases hx⟩
  | cons x xs ih =>
    obtain ⟨hx, hxs⟩ := List.append_eq_nil_iff.mp h
    obtain ⟨hpairs, hrest⟩ := ih hxs
    refine ⟨.cons (hrest x (hadd s i x hx)) hpairs, fun y hy z hz => ?_⟩
    rcases List.mem_cons.mp hz with rfl | hz
    · exact hcheck s i z hx y hy
    · exact hrest y (hkeep s i x y hy) z hz

end MinimalRouter.Lib.Checks
