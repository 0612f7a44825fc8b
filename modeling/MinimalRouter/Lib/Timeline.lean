import Mathlib.Algebra.Ring.Periodic
import Mathlib.Data.Int.LeastGreatest

namespace MinimalRouter.Lib.Timeline

universe u

variable {β : Type u} {f : Int → β}

def changes (f : Int → β) (now : Int) : Set Int := {t | now < t ∧ f t ≠ f now}

theorem mem_changes : t ∈ changes f now ↔ now < t ∧ f t ≠ f now := Iff.rfl

theorem exists_isLeast_changes (h : t ∈ changes f now) :
    ∃ first, IsLeast (changes f now) first ∧ f (first - 1) ≠ f first := by
  obtain ⟨first, hfirst, hleast⟩ :=
    Int.exists_least_of_bdd (P := (· ∈ changes f now)) ⟨now, fun _ hs => hs.1.le⟩ ⟨t, h⟩
  refine ⟨first, ⟨hfirst, hleast⟩, fun heq => ?_⟩
  obtain ⟨_, hne⟩ := hfirst
  rw [← heq] at hne
  have hbefore : now < first - 1 := by
    refine lt_of_le_of_ne (by omega) fun hnow => ?_
    rw [← hnow] at hne
    exact hne rfl
  have := hleast (first - 1) ⟨hbefore, hne⟩
  omega

theorem exists_changes_within (hperiod : Function.Periodic f period) (hpos : 0 < period)
    (h : t ∈ changes f now) : ∃ s ∈ changes f now, s ≤ now + period := by
  obtain ⟨hlt, hne⟩ := h
  have hrest := Int.emod_nonneg (t - now - 1) hpos.ne'
  have hless := Int.emod_lt_of_pos (t - now - 1) hpos
  refine ⟨now + 1 + (t - now - 1) % period, ⟨by omega, ?_⟩, by omega⟩
  have hshift : now + 1 + (t - now - 1) % period + (t - now - 1) / period * period = t := by
    have hsum := Int.emod_add_mul_ediv (t - now - 1) period
    rw [mul_comm] at hsum
    omega
  have hsame := hperiod.int_mul ((t - now - 1) / period) (now + 1 + (t - now - 1) % period)
  rw [Int.cast_id, hshift] at hsame
  rwa [← hsame]

section Search

variable [DecidableEq β]

instance : Decidable (t ∈ changes f now) := inferInstanceAs (Decidable (now < t ∧ f t ≠ f now))

def firstChange (f : Int → β) (now : Int) (moments : List Int) : Option Int :=
  moments.find? fun t => decide (t ∈ changes f now)

theorem mem_changes_of_firstChange (h : firstChange f now moments = some t) : t ∈ changes f now :=
  of_decide_eq_true (List.find?_some (p := fun t => decide (t ∈ changes f now)) h)

theorem isLeast_firstChange (hperiod : Function.Periodic f period) (hpos : 0 < period)
    (hsorted : moments.Pairwise (· ≤ ·))
    (hlisted : ∀ s, now < s → s ≤ now + period → f (s - 1) ≠ f s → s ∈ moments)
    (h : firstChange f now moments = some t) : IsLeast (changes f now) t := by
  have ht := mem_changes_of_firstChange h
  obtain ⟨s, hs, hwithin⟩ := exists_changes_within hperiod hpos ht
  obtain ⟨first, hfirst, hstep⟩ := exists_isLeast_changes ht
  have hmem := hlisted first hfirst.1.1 ((hfirst.2 hs).trans hwithin) hstep
  suffices ht' : t ≤ first from ⟨ht, fun s hs => ht'.trans (hfirst.2 hs)⟩
  obtain ⟨-, _, _, rfl, hbefore⟩ := List.find?_eq_some_iff_append.mp h
  rcases List.mem_append.mp hmem with hearly | hlate
  · exact absurd hfirst.1 (by simpa using hbefore first hearly)
  obtain rfl | hlate := List.mem_cons.mp hlate
  · exact le_rfl
  · exact List.rel_of_pairwise_cons (List.pairwise_append.mp hsorted).2.1 hlate

theorem firstChange_eq_none (hperiod : Function.Periodic f period) (hpos : 0 < period)
    (hlisted : ∀ s, now < s → s ≤ now + period → f (s - 1) ≠ f s → s ∈ moments) :
    firstChange f now moments = none ↔ changes f now = ∅ := by
  refine ⟨fun h => Set.eq_empty_of_forall_notMem fun t ht => ?_, fun h => ?_⟩
  · obtain ⟨s, hs, hwithin⟩ := exists_changes_within hperiod hpos ht
    obtain ⟨first, hfirst, hstep⟩ := exists_isLeast_changes ht
    have hmem := hlisted first hfirst.1.1 ((hfirst.2 hs).trans hwithin) hstep
    exact List.find?_eq_none.mp h first hmem (decide_eq_true hfirst.1)
  refine List.find?_eq_none.mpr fun s _ hs => ?_
  have hmem : s ∈ changes f now := of_decide_eq_true hs
  rw [h] at hmem
  exact hmem

end Search

end MinimalRouter.Lib.Timeline
