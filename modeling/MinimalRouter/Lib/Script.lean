import Mathlib.Data.List.Basic

/-! Scripts of external commands over a machine with one state per component.  A command has an
outcome, a reaction to its failure, and what it did to its component and to durable storage. -/

universe u v w x

namespace MinimalRouter.Lib.Script

inductive OnError
  | abort | collect | ignore
  deriving DecidableEq

structure Command (κ : Type u) (V : Type v) (W : Type w) (E : Type x) where
  onError : OnError
  outcome : Except E Unit
  sets : Option (κ × V) := none
  writes : List W := []

structure Report (κ : Type u) (V : Type v) (W : Type w) (E : Type x) where
  state : κ → V
  writes : List W
  errors : List E
  aborted : Option E

variable {κ : Type u} {V : Type v} {W : Type w} {E : Type x} [DecidableEq κ]

namespace Command

def apply (c : Command κ V W E) (m : κ → V) : κ → V :=
  match c.sets with
  | none => m
  | some (k, v) => Function.update m k v

end Command

def run : List (Command κ V W E) → (κ → V) → Report κ V W E
  | [], m => ⟨m, [], [], none⟩
  | c :: cs, m =>
    match c.outcome, c.onError with
    | .error e, .abort => ⟨c.apply m, c.writes, [], some e⟩
    | .error e, .collect =>
      let r := run cs (c.apply m)
      { r with writes := c.writes ++ r.writes, errors := e :: r.errors }
    | _, _ =>
      let r := run cs (c.apply m)
      { r with writes := c.writes ++ r.writes }

section Completed

variable {cs : List (Command κ V W E)}

theorem run_cons_of_completed (h : (run (c :: cs) m).aborted = none) :
    (run cs (c.apply m)).aborted = none ∧ (run (c :: cs) m).state = (run cs (c.apply m)).state ∧
      (run (c :: cs) m).writes = c.writes ++ (run cs (c.apply m)).writes ∧
      (c.onError = .abort → c.outcome = .ok ()) := by
  cases ho : c.outcome with
  | ok => simp_all [run]
  | error => cases hp : c.onError <;> simp_all [run]

theorem run_writes_of_completed (h : (run cs m).aborted = none) :
    (run cs m).writes = cs.flatMap Command.writes := by
  induction cs generalizing m with
  | nil => rfl
  | cons c cs ih =>
    obtain ⟨hcs, -, hwrites, -⟩ := run_cons_of_completed h
    rw [hwrites, ih hcs, List.flatMap_cons]

theorem outcome_of_completed (h : (run cs m).aborted = none) (hc : c ∈ cs)
    (ha : c.onError = .abort) : c.outcome = .ok () := by
  induction cs generalizing m with
  | nil => cases hc
  | cons d ds ih =>
    obtain ⟨hds, -, -, hd⟩ := run_cons_of_completed h
    rcases List.mem_cons.mp hc with rfl | hc
    · exact hd ha
    · exact ih hds hc

end Completed

end MinimalRouter.Lib.Script
