import Mathlib.Data.List.Basic

/-! Deterministic machines that answer one input after the other, and properties of their runs that
may speak of the past. -/

universe u v w

namespace MinimalRouter.Lib

structure Machine (σ : Type u) (ι : Type v) (ω : Type w) where
  respond : σ → ι → ω × σ

namespace Machine

variable {σ : Type u} {ι : Type v} {ω : Type w}

structure Step (σ : Type u) (ι : Type v) (ω : Type w) where
  before : σ
  input : ι
  output : ω
  after : σ

def step (m : Machine σ ι ω) (s : σ) (i : ι) : Step σ ι ω :=
  ⟨s, i, (m.respond s i).1, (m.respond s i).2⟩

def trace (m : Machine σ ι ω) : σ → List ι → List (Step σ ι ω)
  | _, [] => []
  | s, i :: is => m.step s i :: m.trace (m.respond s i).2 is

def final (m : Machine σ ι ω) : σ → List ι → σ
  | s, [] => s
  | s, i :: is => m.final (m.respond s i).2 is

variable (m : Machine σ ι ω)

variable {m}

theorem trace_split (h : m.trace s is = past ++ e :: rest) :
    ∃ before i after, is = before ++ i :: after ∧ past = m.trace s before ∧
      e = m.step (m.final s before) i ∧
      rest = m.trace (m.respond (m.final s before) i).2 after := by
  induction past generalizing s is with
  | nil =>
    cases is with
    | nil => cases h
    | cons i is =>
      injection h with he hrest
      exact ⟨[], i, is, rfl, rfl, he.symm, hrest.symm⟩
  | cons p past ih =>
    cases is with
    | nil => cases h
    | cons i =>
      injection h with hp hrest
      obtain ⟨before, j, after, rfl, hpast, he, hr⟩ := ih hrest
      exact ⟨i :: before, j, after, rfl, by rw [hpast, ← hp]; rfl, he, hr⟩

section Invariant

variable {I : List (Step σ ι ω) → σ → Prop} {K P : List (Step σ ι ω) → Step σ ι ω → Prop}

theorem trace_invariant_from (hkeep : ∀ past t i, I past t → K past (m.step t i) →
      P past (m.step t i) ∧ I (past ++ [m.step t i]) (m.respond t i).2) (hI : I history s)
    (hok : ∀ past e rest, m.trace s is = past ++ e :: rest → K (history ++ past) e)
    (h : m.trace s is = past ++ e :: rest) : P (history ++ past) e := by
  induction is generalizing history s past with
  | nil => simp [trace] at h
  | cons i is ih =>
    have hhere := hkeep history s i hI (by simpa using hok [] _ _ rfl)
    cases past with
    | nil =>
      injection h with he hrest
      subst he
      simpa using hhere.1
    | cons p past =>
      injection h with hp hrest
      subst hp
      have hnext := ih hhere.2 (fun past e rest htail => by
        simpa using hok (m.step s i :: past) e rest (congrArg _ htail)) hrest
      simpa using hnext

/-- An invariant of the state and its history, kept by every step that meets a condition, gives a
property of every step of the runs whose steps all meet the condition. -/
theorem trace_invariant (hkeep : ∀ past t i, I past t → K past (m.step t i) →
      P past (m.step t i) ∧ I (past ++ [m.step t i]) (m.respond t i).2)
    (hI : I [] s) (hok : ∀ past e rest, m.trace s is = past ++ e :: rest → K past e)
    (h : m.trace s is = past ++ e :: rest) : P past e :=
  trace_invariant_from hkeep hI hok h

end Invariant

end Machine

end MinimalRouter.Lib
