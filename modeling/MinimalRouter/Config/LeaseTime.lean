import Mathlib.Algebra.Order.BigOperators.Group.List
import Mathlib.Algebra.Order.Ring.Nat
import Mathlib.Data.List.TakeWhile
import MinimalRouter.Config.Facts

namespace MinimalRouter.Config

open Goish Lib.Checks

inductive DurationUnit
  | ns | us | ms | s | m | h

namespace DurationUnit

def text : DurationUnit → List Char
  | ns => "ns".toList
  | us => "us".toList
  | ms => "ms".toList
  | s => "s".toList
  | m => "m".toList
  | h => "h".toList

def factor : DurationUnit → Nat
  | ns => 1
  | us => 1000
  | ms => 1000000
  | s => 1000000000
  | m => 60 * 1000000000
  | h => 3600 * 1000000000

theorem spec (u : DurationUnit) : (unitOf u.text = some u.factor ∧ 0 < u.factor) ∧
    u.text ≠ [] ∧ u.text.all (fun c => c != '.' && !isAsciiDigit c) = true := by
  cases u <;> exact ⟨⟨rfl, by decide⟩, nofun, rfl⟩

end DurationUnit

inductive Sign
  | none | plus | minus

namespace Sign

def text : Sign → List Char
  | none => []
  | plus => ['+']
  | minus => ['-']

def apply : Sign → Nat → Int
  | minus, n => -n
  | _, n => n

end Sign

/-- A number of one or more digits with its unit, without a fraction. -/
structure DurationTerm where
  digits : List Char
  unit : DurationUnit
  nonempty : digits ≠ []
  decimal : ∀ c ∈ digits, isAsciiDigit c = true

namespace DurationTerm

def text (t : DurationTerm) : List Char := t.digits ++ t.unit.text

def value (t : DurationTerm) : Nat := decimalValue t.digits * t.unit.factor

theorem text_eq (t : DurationTerm) : ∃ d cs, t.text = d :: cs ∧ isAsciiDigit d = true ∧ cs ≠ [] := by
  obtain ⟨d, ds, hdigits⟩ := List.exists_cons_of_ne_nil t.nonempty
  refine ⟨d, ds ++ t.unit.text, by simp [text, hdigits], t.decimal d (by simp [hdigits]), ?_⟩
  exact List.append_ne_nil_of_right_ne_nil ds t.unit.spec.2.1

end DurationTerm

def sumOf (ts : List DurationTerm) : Nat := (ts.map DurationTerm.value).sum

def durationText (sign : Sign) (ts : List DurationTerm) : String :=
  String.ofList (sign.text ++ ts.flatMap DurationTerm.text)

theorem readTerm_text (t : DurationTerm) (hrest : ∀ c, rest.head? = some c → isAsciiDigit c = true) :
    readTerm scaled (t.text ++ rest) = if 2 ^ 63 < t.value then none else some (t.value, rest) := by
  obtain ⟨⟨hunit, hpos⟩, hne, hletters⟩ := t.unit.spec
  obtain ⟨c, _, hcs⟩ := List.exists_cons_of_ne_nil hne
  rw [List.all_eq_true] at hletters
  obtain ⟨hdot, hdigit⟩ : c ≠ '.' ∧ isAsciiDigit c = false := by
    simpa using hletters c (by simp [hcs])
  have hwhole : (t.text ++ rest).takeWhile isAsciiDigit = t.digits ∧
      (t.text ++ rest).dropWhile isAsciiDigit = t.unit.text ++ rest := by
    rw [DurationTerm.text, List.append_assoc, List.takeWhile_append_of_pos t.decimal,
      List.dropWhile_append_of_pos t.decimal, hcs]
    simp [hdigit]
  have hstop : rest.takeWhile (fun c => c != '.' && !isAsciiDigit c) = [] ∧
      rest.dropWhile (fun c => c != '.' && !isAsciiDigit c) = rest := by
    cases rest with
    | nil => exact ⟨rfl, rfl⟩
    | cons d => simp [hrest d rfl]
  have hdotted : ((t.unit.text ++ rest).head? == some '.') = false := by simp [hcs, hdot]
  have hlarge : 2 ^ 63 < decimalValue t.digits → 2 ^ 63 < t.value := fun h =>
    h.trans_le (Nat.le_mul_of_pos_right _ hpos)
  simp only [readTerm, hwhole, hdotted, Bool.false_eq_true, if_false, fractionValue, List.foldl_nil,
    List.isEmpty_eq_false_iff.mpr t.nonempty, Bool.false_and, List.takeWhile_append_of_pos hletters,
    List.dropWhile_append_of_pos hletters, hstop, List.append_nil, hunit, Option.bind_eq_bind,
    Option.bind_some, gt_iff_lt, Nat.div_lt_iff_lt_mul hpos, lt_irrefl, false_and, Nat.add_zero]
  split
  next h => rw [if_pos (hlarge h)]
  next => rfl

theorem sumOf_le (h : us <+: ts) : sumOf us ≤ sumOf ts := by
  obtain ⟨_, rfl⟩ := h
  simp [sumOf]

-- the sum is taken on 64 bits, with a bound on every term and on the sum after every term
theorem readTerms_flatMap (hfuel : ts.length ≤ fuel) (htotal : total ≤ 2 ^ 63) :
    readTerms scaled fuel total (ts.flatMap DurationTerm.text) = some n ↔
      (∀ u ∈ ts, u.value ≤ 2 ^ 63) ∧ (∀ us, us <+: ts → (total + sumOf us) % 2 ^ 64 ≤ 2 ^ 63) ∧
      n = (total + sumOf ts) % 2 ^ 64 := by
  have hnil : sumOf [] = 0 := rfl
  have hcons (t : DurationTerm) (ts : List DurationTerm) : sumOf (t :: ts) = t.value + sumOf ts := rfl
  induction ts generalizing fuel total with
  | nil =>
    have hread : readTerms scaled fuel total [] = some total := by cases fuel <;> rfl
    simp only [List.flatMap_nil, hread, Option.some.injEq, List.prefix_nil, forall_eq, hnil]
    simp
    omega
  | cons t ts ih =>
  obtain ⟨d, cs, htext, -, -⟩ := t.text_eq
  have hrest : ∀ c, (ts.flatMap DurationTerm.text).head? = some c → isAsciiDigit c = true := by
    intro c hc
    cases ts with
    | nil => cases hc
    | cons u us =>
      obtain ⟨d, cs, htext, hd, -⟩ := u.text_eq
      simp only [List.flatMap_cons, htext, List.cons_append, List.head?_cons, Option.some.injEq] at hc
      exact hc ▸ hd
  have hmod (m : Nat) : ((total + t.value) % 2 ^ 64 + m) % 2 ^ 64 =
      (total + (t.value + m)) % 2 ^ 64 := by omega
  cases fuel with
  | zero => cases hfuel
  | succ fuel =>
  rw [List.flatMap_cons, readTerms, readTerm_text t hrest]
  · simp only [List.forall_mem_cons]
    split
    next hlarge =>
      refine iff_of_false nofun fun h => ?_
      exact absurd h.1.1 (Nat.not_le.mpr hlarge)
    next hterm =>
    simp only [Option.bind_eq_bind, Option.bind_some]
    split
    next hlarge =>
      refine iff_of_false nofun fun h => ?_
      exact absurd (h.2.1 [t] (List.prefix_append [t] ts)) (Nat.not_le.mpr hlarge)
    next hsum =>
    refine (ih (Nat.le_of_succ_le_succ hfuel) (Nat.le_of_not_lt hsum)).trans ?_
    simp only [hmod, hcons]
    constructor
    · rintro ⟨hvalues, hsums, hn⟩
      refine ⟨⟨Nat.le_of_not_lt hterm, hvalues⟩, fun us hus => ?_, hn⟩
      rcases List.prefix_cons_iff.mp hus with rfl | ⟨us, rfl, htail⟩
      · rw [hnil]
        omega
      · exact hsums us htail
    · rintro ⟨⟨-, hvalues⟩, hsums, hn⟩
      exact ⟨hvalues, fun us hus => hsums (t :: us) ((List.prefix_cons_inj t).mpr hus), hn⟩
  · simp [htext]

theorem parseDuration_text (sign : Sign) (t : DurationTerm) (ts : List DurationTerm) :
    parseDuration scaled (durationText sign (t :: ts)) = some d ↔
      (∀ u ∈ t :: ts, u.value ≤ 2 ^ 63) ∧ (∀ us, us <+: t :: ts → sumOf us % 2 ^ 64 ≤ 2 ^ 63) ∧
      sign.apply (sumOf (t :: ts) % 2 ^ 64) < 2 ^ 63 ∧
      d = sign.apply (sumOf (t :: ts) % 2 ^ 64) := by
  have hfuel : (t :: ts).length ≤ ((t :: ts).flatMap DurationTerm.text).length := by
    rw [List.length_flatMap, ← List.length_map (fun u : DurationTerm => u.text.length)]
    refine List.length_le_sum_of_one_le _ (List.forall_mem_map.mpr fun u _ => ?_)
    exact List.length_pos_of_ne_nil (List.append_ne_nil_of_left_ne_nil u.nonempty _)
  obtain ⟨c, _, htext, hdigit, hcs⟩ := t.text_eq
  have hsign : c ≠ '-' ∧ c ≠ '+' := by
    constructor <;> (rintro rfl; exact absurd hdigit (by decide))
  have hlow (n : Nat) : -(n : Int) < 9223372036854775808 := by omega
  have hparse : parseDuration scaled (durationText sign (t :: ts)) =
      (readTerms scaled ((t :: ts).flatMap DurationTerm.text).length 0
        ((t :: ts).flatMap DurationTerm.text)).bind fun n =>
          if sign.apply n < 2 ^ 63 then some (sign.apply n) else none := by
    cases sign with
    | minus => simp [parseDuration, durationText, Sign.text, Sign.apply, htext, hcs, hlow]
    | none | plus =>
      simp [parseDuration, durationText, Sign.text, Sign.apply, htext, hcs, hsign]
      refine Option.bind_congr fun n _ => ?_
      split
      next h => exact (if_neg (by omega)).symm
      next h => exact (if_pos (by omega)).symm
  simp only [hparse, Option.bind_eq_some_iff, readTerms_flatMap hfuel (Nat.zero_le _), Nat.zero_add,
    Option.ite_none_right_eq_some, Option.some.injEq]
  constructor
  · rintro ⟨_, ⟨hvalues, hsums, rfl⟩, hlt, rfl⟩
    exact ⟨hvalues, hsums, hlt, rfl⟩
  · rintro ⟨hvalues, hsums, hlt, rfl⟩
    exact ⟨_, ⟨hvalues, hsums, rfl⟩, hlt, rfl⟩

def Fits (d : Int) : Prop := -2 ^ 63 ≤ d ∧ d < 2 ^ 63

def ExactSum (sign : Sign) (ts : List DurationTerm) (d : Int) : Prop :=
  (∀ t ∈ ts, Fits (sign.apply t.value)) ∧ Fits (sign.apply (sumOf ts)) ∧ d = sign.apply (sumOf ts)

/-- The text is read as its exact sum or refused, and the lease time check sees that sum. -/
def ReadExactly (env : Platform) (sign : Sign) (ts : List DurationTerm) : Prop :=
  (∀ d, parseDuration env.scaled (durationText sign ts) = some d ↔ ExactSum sign ts d) ∧
  ∀ c : SystemConfig, c.dhcp.leaseTime = durationText sign ts →
    ⟨"dhcp.lease_time", "must be a duration between 1m and 168h"⟩ ∉ validateDhcp env c →
      60 * 1000000000 ≤ sign.apply (sumOf ts) ∧
        sign.apply (sumOf ts) ≤ 7 * 24 * 3600 * 1000000000

theorem leaseTime_checked
    (h : ⟨"dhcp.lease_time", "must be a duration between 1m and 168h"⟩ ∉ validateDhcp env c) :
    ∃ lease, parseDuration env.scaled c.dhcp.leaseTime = some lease ∧
      60 * 1000000000 ≤ lease ∧ lease ≤ 7 * 24 * 3600 * 1000000000 := by
  have hany : (parseDuration env.scaled c.dhcp.leaseTime).any (fun lease =>
      60 * 1000000000 ≤ lease && lease ≤ 7 * 24 * 3600 * 1000000000) = true := by
    by_contra hnone
    refine h (List.mem_append_left _ (List.mem_append_right _ ?_))
    rw [failIf, if_pos hnone]
    exact List.mem_singleton_self _
  simpa [Option.any_eq_true] using hany

/-- A text is read exactly unless its terms and the sums after them all stay in bounds on 64 bits
while the sum itself does not. -/
theorem duration_exact_iff (env : Platform) (sign : Sign) (t : DurationTerm)
    (ts : List DurationTerm) : ReadExactly env sign (t :: ts) ↔
      sumOf (t :: ts) < 2 ^ 64 ∨ (∃ u ∈ t :: ts, 2 ^ 63 < u.value) ∨
      (∃ us, us <+: t :: ts ∧ 2 ^ 63 < sumOf us % 2 ^ 64) ∨
      ¬sign.apply (sumOf (t :: ts) % 2 ^ 64) < 2 ^ 63 := by
  have hfits (n : Nat) : Fits (sign.apply n) ↔ n ≤ 2 ^ 63 ∧ sign.apply n < 2 ^ 63 := by
    cases sign <;> simp only [Fits, Sign.apply] <;> omega
  constructor
  · rintro ⟨hread, -⟩
    by_contra hwrapped
    push Not at hwrapped
    obtain ⟨hsum, hvalues, hsums, hlt⟩ := hwrapped
    obtain ⟨-, hexact, -⟩ := (hread _).mp
      ((parseDuration_text sign t ts).mpr ⟨hvalues, hsums, hlt, rfl⟩)
    have hle := ((hfits _).mp hexact).1
    omega
  intro h
  have hread (d : Int) : parseDuration env.scaled (durationText sign (t :: ts)) = some d ↔
      ExactSum sign (t :: ts) d := by
    simp only [parseDuration_text, ExactSum, hfits]
    constructor
    · rintro ⟨hvalues, hsums, hlt, rfl⟩
      have hsmall : sumOf (t :: ts) < 2 ^ 64 := by
        rcases h with h | ⟨u, hu, h⟩ | ⟨us, hus, h⟩ | h
        · exact h
        · exact absurd (hvalues u hu) (Nat.not_le.mpr h)
        · exact absurd (hsums us hus) (Nat.not_le.mpr h)
        · exact absurd hlt h
      have hsum := hsums _ List.prefix_rfl
      rw [Nat.mod_eq_of_lt hsmall] at hlt hsum ⊢
      refine ⟨fun u hu => ⟨hvalues u hu, ?_⟩, ⟨hsum, hlt⟩, rfl⟩
      have hle : u.value ≤ sumOf (t :: ts) :=
        List.single_le_sum (by simp) _ (List.mem_map_of_mem hu)
      cases sign <;> simp only [Sign.apply] at hlt ⊢ <;> omega
    rintro ⟨hvalues, ⟨hsum, hlt⟩, rfl⟩
    have hsmall : sumOf (t :: ts) % 2 ^ 64 = sumOf (t :: ts) := by omega
    rw [hsmall]
    refine ⟨fun u hu => (hvalues u hu).1, fun us hus => ?_, hlt, rfl⟩
    exact (Nat.mod_le _ _).trans ((sumOf_le hus).trans hsum)
  refine ⟨hread, fun c hc hchecked => ?_⟩
  obtain ⟨lease, hlease, hbounds⟩ := leaseTime_checked hchecked
  rw [hc] at hlease
  rwa [((hread lease).mp hlease).2.2] at hbounds

def halfRange : DurationTerm :=
  ⟨"9223372036854775808".toList, .ns, by decide, List.all_eq_true.mp rfl⟩

def anHour : DurationTerm := ⟨['1'], .h, by decide, List.all_eq_true.mp rfl⟩

theorem wrapped_duration_accepted : durationText .none [halfRange, halfRange, anHour] =
      "9223372036854775808ns9223372036854775808ns1h" ∧
    parseDuration samplePlatform.scaled (durationText .none [halfRange, halfRange, anHour]) =
      some (3600 * 1000000000) ∧
    ¬ReadExactly samplePlatform .none [halfRange, halfRange, anHour] := by
  have hread : parseDuration samplePlatform.scaled
      (durationText .none [halfRange, halfRange, anHour]) = some (3600 * 1000000000) := by
    decide +kernel
  refine ⟨by decide +kernel, hread, fun h => ?_⟩
  obtain ⟨-, hfits, -⟩ := (h.1 _).mp hread
  exact absurd hfits.2 (by decide +kernel)

end MinimalRouter.Config
