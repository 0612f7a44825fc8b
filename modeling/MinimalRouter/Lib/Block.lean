import Mathlib.Algebra.Group.Nat.Defs
import Mathlib.Data.List.Perm.Subperm
import Mathlib.Data.Nat.Basic

namespace MinimalRouter.Lib

structure Block (w : Nat) where
  base : BitVec w
  ones : Nat
  deriving DecidableEq

namespace Block

def agree (ones : Nat) (x y : BitVec w) : Bool := x >>> (w - ones) == y >>> (w - ones)

def contains (b : Block w) (x : BitVec w) : Bool := agree b.ones b.base x

def mask (ones : Nat) (x : BitVec w) : BitVec w := (x >>> (w - ones)) <<< (w - ones)

def last (b : Block w) : BitVec w := b.base ||| ~~~(mask b.ones (BitVec.allOnes w))

variable {a b zone : Block w} {y : BitVec w}

theorem agree_iff : agree n x y = true ↔ x >>> (w - n) = y >>> (w - n) := by
  simp [agree]

@[simp] theorem agree_refl (n : Nat) (x : BitVec w) : agree n x x = true := by
  simp [agree]

theorem agree_symm (h : agree n x y = true) : agree n y x = true := by
  rw [agree_iff] at *
  exact h.symm

theorem agree_trans (h : agree n x y = true) (h' : agree n y z = true) : agree n x z = true := by
  rw [agree_iff] at *
  exact h.trans h'

theorem agree_mono (hle : m ≤ n) (h : agree n x y = true) : agree m x y = true := by
  rw [agree_iff] at *
  obtain ⟨k, hk⟩ : ∃ k, w - m = (w - n) + k := ⟨(w - m) - (w - n), by omega⟩
  rw [hk, BitVec.shiftRight_add, BitVec.shiftRight_add, h]

theorem agree_mask (n : Nat) (x : BitVec w) : agree n (mask n x) x = true := by
  rw [agree_iff]
  ext i hi
  simp only [mask, BitVec.getElem_ushiftRight, BitVec.getLsbD_shiftLeft]
  by_cases hlt : w - n + i < w
  · simp [hlt]
  · simp [hlt, BitVec.getLsbD_of_ge x (w - n + i) (by omega)]

@[simp] theorem mask_width (x : BitVec w) : mask w x = x := by
  simp [mask]

@[simp] theorem contains_base (b : Block w) : b.contains b.base = true := agree_refl _ _

@[simp] theorem contains_host (x y : BitVec w) : (Block.mk x w).contains y = (x == y) := by
  simp [contains, agree]

theorem contains_of_sub (hbase : zone.contains b.base = true) (hones : zone.ones ≤ b.ones)
    (h : b.contains x = true) : zone.contains x = true :=
  agree_trans hbase (agree_mono hones h)

/-- Of two blocks with an address in common, one lies in the other. -/
theorem nested (ha : a.contains x = true) (hb : b.contains x = true) :
    (∀ y, b.contains y = true → a.contains y = true) ∨
      ∀ y, a.contains y = true → b.contains y = true := by
  rcases Nat.le_total a.ones b.ones with hle | hle
  · exact .inl fun y hy => agree_trans ha (agree_mono hle (agree_trans (agree_symm hb) hy))
  · exact .inr fun y hy => agree_trans hb (agree_mono hle (agree_trans (agree_symm ha) hy))

theorem contains_of_common (ha : a.contains x = true) (hb : b.contains x = true)
    (hy : a.contains y = true) (hz : b.contains z = true) :
    a.contains z = true ∨ b.contains y = true :=
  (nested ha hb).imp (fun h => h z hz) fun h => h y hy

theorem toNat_mask (n : Nat) (x : BitVec w) :
    (mask n x).toNat = 2 ^ (w - n) * (x.toNat / 2 ^ (w - n)) := by
  have hle : 2 ^ (w - n) * (x.toNat / 2 ^ (w - n)) ≤ x.toNat := Nat.mul_div_le _ _
  rw [mask, BitVec.toNat_shiftLeft, BitVec.toNat_ushiftRight, Nat.shiftRight_eq_div_pow,
    Nat.shiftLeft_eq, Nat.mul_comm, Nat.mod_eq_of_lt (Nat.lt_of_le_of_lt hle x.isLt)]

theorem agree_iff_div : agree n x y = true ↔ x.toNat / 2 ^ (w - n) = y.toNat / 2 ^ (w - n) := by
  rw [agree_iff, ← BitVec.toNat_inj, BitVec.toNat_ushiftRight, BitVec.toNat_ushiftRight,
    Nat.shiftRight_eq_div_pow, Nat.shiftRight_eq_div_pow]

@[simp] theorem mask_mask (n : Nat) (x : BitVec w) : mask n (mask n x) = mask n x := by
  have hagree := agree_iff.mp (agree_mask n x)
  rw [mask, hagree]
  rfl

theorem getLsbD_mask (n i : Nat) (x : BitVec w) :
    (mask n x).getLsbD i = (decide (w - n ≤ i) && x.getLsbD i) := by
  rw [mask, BitVec.getLsbD_shiftLeft, BitVec.getLsbD_ushiftRight]
  by_cases hle : w - n ≤ i
  · by_cases hlt : i < w
    · simp [hle, hlt, Nat.not_lt.mpr hle]
    · simp [hlt, BitVec.getLsbD_of_ge x i (by omega)]
  · simp [hle, Nat.not_le.mp hle]

def Aligned (b : Block w) : Prop := mask b.ones b.base = b.base

theorem aligned_mask (n : Nat) (x : BitVec w) : (Block.mk (mask n x) n).Aligned := mask_mask n x

theorem Aligned.toNat_base (h : b.Aligned) :
    b.base.toNat = 2 ^ (w - b.ones) * (b.base.toNat / 2 ^ (w - b.ones)) := by
  have hmask := toNat_mask b.ones b.base
  rwa [h] at hmask

theorem Aligned.contains_iff (h : b.Aligned) : b.contains x = true ↔
    b.base.toNat ≤ x.toNat ∧ x.toNat < b.base.toNat + 2 ^ (w - b.ones) := by
  have hbase := h.toNat_base
  have hpos : 0 < 2 ^ (w - b.ones) := Nat.two_pow_pos _
  rw [contains, agree_iff_div]
  generalize 2 ^ (w - b.ones) = size at *
  constructor
  · intro heq
    rw [heq] at hbase
    have hdiv := Nat.div_add_mod x.toNat size
    have hmod := Nat.mod_lt x.toNat hpos
    omega
  rintro ⟨hle, hlt⟩
  refine (Nat.div_eq_of_lt_le ?_ ?_).symm
  · rwa [Nat.mul_comm, ← hbase]
  · rwa [Nat.add_mul, Nat.one_mul, Nat.mul_comm, ← hbase]

theorem Aligned.toNat_last (h : b.Aligned) (hones : b.ones ≤ w) :
    b.last.toNat = b.base.toNat + 2 ^ (w - b.ones) - 1 := by
  have hpos : 0 < 2 ^ (w - b.ones) := Nat.two_pow_pos _
  have hsplit : 2 ^ w = 2 ^ (w - b.ones) * 2 ^ b.ones := by
    rw [← Nat.pow_add, Nat.sub_add_cancel hones]
  have hmask : (mask b.ones (BitVec.allOnes w)).toNat = 2 ^ w - 2 ^ (w - b.ones) := by
    have hdiv : (2 ^ w - 1) / 2 ^ (w - b.ones) = 2 ^ b.ones - 1 := by
      refine Nat.div_eq_of_lt_le ?_ ?_
      · rw [Nat.sub_one_mul, Nat.mul_comm, ← hsplit]
        omega
      · rw [Nat.sub_add_cancel Nat.one_le_two_pow, Nat.mul_comm, ← hsplit]
        exact Nat.sub_lt (Nat.two_pow_pos w) Nat.one_pos
    rw [toNat_mask, BitVec.toNat_allOnes, hdiv, Nat.mul_sub_one, ← hsplit]
  have hnot : (~~~(mask b.ones (BitVec.allOnes w))).toNat = 2 ^ (w - b.ones) - 1 := by
    rw [BitVec.toNat_not, hmask]
    have hle : 2 ^ (w - b.ones) ≤ 2 ^ w := Nat.pow_le_pow_right (by decide) (Nat.sub_le _ _)
    omega
  rw [last, BitVec.toNat_or, hnot, h.toNat_base, ← Nat.two_pow_add_eq_or_of_lt (by omega)]
  omega

theorem Aligned.contains_last (h : b.Aligned) (hones : b.ones ≤ w) : b.contains b.last = true := by
  have hpos : 0 < 2 ^ (w - b.ones) := Nat.two_pow_pos _
  rw [h.contains_iff, h.toNat_last hones]
  omega

theorem Aligned.ones_le (ha : a.Aligned) (hzone : zone.Aligned) (hones : a.ones ≤ w)
    (h : ∀ x, a.contains x = true → zone.contains x = true) (hle : zone.ones ≤ w) :
    zone.ones ≤ a.ones := by
  by_contra hlt
  have hfirst := hzone.contains_iff.mp (h a.base a.contains_base)
  have hlast := hzone.contains_iff.mp (h a.last (ha.contains_last hones))
  rw [ha.toNat_last hones] at hlast
  have hsize : 2 ^ (w - zone.ones) < 2 ^ (w - a.ones) :=
    Nat.pow_lt_pow_right (by decide) (by omega)
  omega

theorem Aligned.length_le (h : b.Aligned) {xs : List (BitVec w)} (hnodup : xs.Nodup)
    (hxs : ∀ x ∈ xs, b.contains x = true) : xs.length ≤ 2 ^ (w - b.ones) := by
  have hnumbers : (xs.map BitVec.toNat).Nodup := by
    refine List.Pairwise.map _ (fun x y hne heq => ?_) hnodup
    exact hne (BitVec.eq_of_toNat_eq heq)
  have hsub : xs.map BitVec.toNat ⊆ List.range' b.base.toNat (2 ^ (w - b.ones)) := by
    intro k hk
    obtain ⟨x, hx, rfl⟩ := List.mem_map.mp hk
    exact List.mem_range'_1.mpr (h.contains_iff.mp (hxs x hx))
  have hlength := (List.subperm_of_subset hnumbers hsub).length_le
  rwa [List.length_map, List.length_range'] at hlength

end Block

end MinimalRouter.Lib
