import Mathlib.Data.List.Basic

universe u v w

namespace MinimalRouter.Lib

variable {σ : Type u} {κ : Type v}

structure Transition (σ : Type u) (κ : Type v) where
  before : σ
  label : κ
  after : σ

def Transition.map {τ : Type w} (f : σ → τ) (e : Transition σ κ) : Transition τ κ :=
  ⟨f e.before, e.label, f e.after⟩

/-- The run of a machine that completes each label by its answer. -/
def transitions (next : σ → κ → κ × σ) (s : σ) : List κ → List (Transition σ κ)
  | [] => []
  | l :: ls => ⟨s, (next s l).1, (next s l).2⟩ :: transitions next (next s l).2 ls

inductive Path (T : σ → κ → σ → Prop) (s : σ) : List (Transition σ κ) → σ → Prop
  | nil : Path T s [] s
  | snoc {past : List (Transition σ κ)} {t u : σ} {l : κ} (h : Path T s past t)
      (hstep : T t l u) : Path T s (past ++ [⟨t, l, u⟩]) u

namespace Path

variable {T : σ → κ → σ → Prop}

theorem single (h : T s l t) : Path T s [⟨s, l, t⟩] t := .snoc .nil h

theorem cons (hstep : T s l t) (h : Path T t steps u) : Path T s (⟨s, l, t⟩ :: steps) u := by
  induction h with
  | nil => exact .single hstep
  | snoc _ hlast ih => exact .snoc ih hlast

theorem of_transitions {G : σ → κ → Prop} {next : σ → κ → κ × σ}
    (hstep : ∀ s l, G s (next s l).1 → T s (next s l).1 (next s l).2)
    (h : ∀ e ∈ transitions next s ls, G e.before e.label) : ∃ t, Path T s (transitions next s ls) t := by
  induction ls generalizing s with
  | nil => exact ⟨s, .nil⟩
  | cons l ls ih =>
    obtain ⟨hfirst, hrest⟩ := List.forall_mem_cons.mp h
    obtain ⟨t, ht⟩ := ih hrest
    exact ⟨t, .cons (hstep s l hfirst) ht⟩

theorem append (h : Path T s steps t) (h' : Path T t more u) : Path T s (steps ++ more) u := by
  induction h' with
  | nil => simpa using h
  | snoc _ hstep ih =>
    rw [← List.append_assoc]
    exact .snoc ih hstep

theorem split_rest (h : Path T s steps t) (hsteps : steps = past ++ e :: rest) :
    (Path T s past e.before ∧ T e.before e.label e.after) ∧ Path T e.after rest t := by
  induction h generalizing rest with
  | nil => simp at hsteps
  | snoc hpath hstep ih =>
    rcases List.eq_nil_or_concat' rest with rfl | ⟨rest, _, rfl⟩
    · obtain ⟨rfl, he⟩ := List.append_inj' hsteps rfl
      cases he
      exact ⟨⟨hpath, hstep⟩, .nil⟩
    rw [← List.cons_append, ← List.append_assoc] at hsteps
    obtain ⟨hpast, hlast⟩ := List.append_inj' hsteps rfl
    cases hlast
    exact ⟨(ih hpast).1, .snoc (ih hpast).2 hstep⟩

theorem split (h : Path T s steps t) (hsteps : steps = past ++ e :: rest) :
    Path T s past e.before ∧ T e.before e.label e.after := (h.split_rest hsteps).1

theorem rest_of_split (h : Path T s steps t) (hsteps : steps = past ++ e :: rest) :
    Path T e.after rest t := (h.split_rest hsteps).2

theorem map {τ : Type w} {T' : τ → κ → τ → Prop} {f : σ → τ}
    (hf : ∀ s l t, T s l t → T' (f s) l (f t)) (h : Path T s steps t) :
    Path T' (f s) (steps.map (Transition.map f)) (f t) := by
  induction h with
  | nil => exact .nil
  | snoc _ hstep ih =>
    rw [List.map_append]
    exact .snoc ih (hf _ _ _ hstep)

section Invariant

variable {I : List (Transition σ κ) → σ → Prop} {K : List (Transition σ κ) → Transition σ κ → Prop}

/-- An invariant of the state and its history, kept by every step that meets a condition, holds at
the end of every run whose steps all meet the condition. -/
theorem invariant
    (hkeep : ∀ past t l u, I past t → K past ⟨t, l, u⟩ → T t l u → I (past ++ [⟨t, l, u⟩]) u)
    (hI : I [] s) (h : Path T s steps t)
    (hok : ∀ past e rest, steps = past ++ e :: rest → K past e) : I steps t := by
  induction h with
  | nil => exact hI
  | @snoc past t u l hpath hstep ih =>
    refine hkeep past t l u (ih fun before e rest hbefore => ?_) (hok past _ [] rfl) hstep
    exact hok before e (rest ++ [⟨t, l, u⟩]) (by simp [hbefore])

/-- Where each step has a property exactly when it meets a condition that keeps an invariant, so has
every run. -/
theorem forall_iff {I : σ → Prop} {P K : Transition σ κ → Prop}
    (hstep : ∀ t l u, I t → T t l u → (P ⟨t, l, u⟩ ↔ K ⟨t, l, u⟩))
    (hkeep : ∀ t l u, I t → T t l u → K ⟨t, l, u⟩ → I u) (hI : I s) (h : Path T s steps t) :
    (∀ e ∈ steps, P e) ↔ ∀ e ∈ steps, K e := by
  have hend : ((∀ e ∈ steps, P e) ↔ ∀ e ∈ steps, K e) ∧ ((∀ e ∈ steps, K e) → I t) := by
    induction h with
    | nil => exact ⟨by simp, fun _ => hI⟩
    | snoc hpath hlast ih =>
      obtain ⟨hiff, hpast⟩ := ih
      simp only [List.forall_mem_append, List.forall_mem_singleton, hiff]
      refine ⟨and_congr_right fun hk => hstep _ _ _ (hpast hk) hlast, ?_⟩
      rintro ⟨hk, hl⟩
      exact hkeep _ _ _ (hpast hk) hlast hl
  exact hend.1

end Invariant

end Path

end MinimalRouter.Lib
