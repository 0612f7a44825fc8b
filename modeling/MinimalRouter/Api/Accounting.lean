import Mathlib.Data.String.Basic

namespace MinimalRouter.Api

def isLeap (year : Int) : Bool := year % 4 == 0 && (year % 100 != 0 || year % 400 == 0)

/-- Months are counted from January of the year 0. -/
def daysInMonth (month : Int) : Nat :=
  if month % 12 = 1 then if isLeap (month / 12) then 29 else 28
  else if month % 12 ∈ [3, 5, 8, 10] then 30
  else 31

theorem daysInMonth_le (month : Int) : daysInMonth month ≤ 31 := by
  unfold daysInMonth
  split_ifs <;> decide

structure Date where
  month : Int
  day : Nat
  day_pos : 0 < day
  day_le : day ≤ daysInMonth month

/-- The year is cast to 32 bits, and a year the calendar does not have becomes the epoch. -/
def monthFrom (total : Int) : Int :=
  let year := (total / 12).bmod (2 ^ 32)
  if -262143 ≤ year ∧ year ≤ 262142 then year * 12 + total % 12 else 1970 * 12

/-- Month and day of the date.  No day is above 31 and every month has 28 days, so that a day the
month does not have is one of the next month. -/
def normalizedDate (total : Int) (day : Nat) : Int × Nat :=
  let start := monthFrom total
  if day ≤ daysInMonth start then (start, day) else (start + 1, day - daysInMonth start)

def Date.addMonths (d : Date) (months : Int) : Int × Nat := normalizedDate (d.month + months) d.day

def fourDigits (n : Nat) : List Char :=
  [n / 1000, n / 100 % 10, n / 10 % 10, n % 10].map Nat.digitChar

/-- Years outside of four digits are written with a sign. -/
def yearText (year : Int) : List Char :=
  let digits := if year.natAbs ≤ 9999 then fourDigits year.natAbs else Nat.toDigits 10 year.natAbs
  if year < 0 then '-' :: digits else if 9999 < year then '+' :: digits else digits

def monthText (number : Nat) : List Char :=
  ['-', (number / 10).digitChar, (number % 10).digitChar]

def monthKey (month : Int) : String :=
  String.ofList (yearText (month / 12) ++ monthText ((month % 12).toNat + 1))

structure DeviceMonth where
  (address month : String)
  (rxBytes txBytes : Nat)
  lastSeen : Int
  deriving DecidableEq

def defaultRetentionMonths : Int := 13

/-- The age-based deletion of a collection round on the given day. -/
def pruneHistory (now : Date) (retentionMonths : Int) (rows : List DeviceMonth) :
    List DeviceMonth :=
  let retentionMonths := if retentionMonths ≤ 0 then defaultRetentionMonths else retentionMonths
  let cutoff := monthKey (now.addMonths (-retentionMonths)).1
  rows.filter fun row => !decide (row.month < cutoff)

/-- The months of the years that are written with four digits. -/
def InEra (month : Int) : Prop := 0 ≤ month ∧ month < 120000

theorem digitChar_lt_iff : ∀ a < 10, ∀ b < 10, Nat.digitChar a < Nat.digitChar b ↔ a < b := by
  decide

theorem digitChar_inj : ∀ a < 10, ∀ b < 10, Nat.digitChar a = Nat.digitChar b ↔ a = b := by
  decide

theorem fourDigits_lt_iff (hm : m < 10000) (hn : n < 10000) (u v : List Char) :
    fourDigits m ++ u < fourDigits n ++ v ↔ m < n ∨ m = n ∧ u < v := by
  simp (disch := omega) only [fourDigits, List.map_cons, List.map_nil, List.cons_append,
    List.nil_append, List.cons_lt_cons_iff, digitChar_lt_iff, digitChar_inj]
  generalize (u < v) = rest
  by_cases h : rest <;> simp only [h, and_true, and_false, or_false] <;> omega

theorem monthText_lt_iff : ∀ m < 12, ∀ n < 12, monthText (m + 1) < monthText (n + 1) ↔ m < n := by
  decide

theorem yearText_of_inEra (h : InEra month) :
    yearText (month / 12) = fourDigits (month / 12).toNat := by
  obtain ⟨h0, h1⟩ := h
  have : (month / 12).natAbs = (month / 12).toNat := by omega
  rw [yearText, if_neg (by omega), if_neg (by omega), if_pos (by omega), this]

theorem monthKey_lt_iff (ha : InEra a) (hb : InEra b) : monthKey a < monthKey b ↔ a < b := by
  rw [String.lt_iff_toList_lt, monthKey, monthKey, String.toList_ofList, String.toList_ofList,
    yearText_of_inEra ha, yearText_of_inEra hb]
  obtain ⟨ha0, ha1⟩ := ha
  obtain ⟨hb0, hb1⟩ := hb
  rw [fourDigits_lt_iff (by omega) (by omega), monthText_lt_iff _ (by omega) _ (by omega)]
  omega

/-- A sign comes before every digit. -/
theorem not_monthKey_lt (ha : InEra a) (hb : ¬InEra b) : ¬monthKey a < monthKey b := by
  obtain ⟨d, ds, hd, hkey⟩ : ∃ d ds, d < 10 ∧ (monthKey a).toList = Nat.digitChar d :: ds := by
    rw [monthKey, String.toList_ofList, yearText_of_inEra ha]
    obtain ⟨ha0, ha1⟩ := ha
    exact ⟨_, _, by omega, rfl⟩
  obtain ⟨c, cs, hc, hkey'⟩ : ∃ c cs, (c = '-' ∨ c = '+') ∧ (monthKey b).toList = c :: cs := by
    rw [monthKey, String.toList_ofList, yearText]
    by_cases hneg : b / 12 < 0
    · exact ⟨_, _, .inl rfl, by rw [if_pos hneg]; rfl⟩
    have hlarge : 9999 < b / 12 := by
      by_contra hsmall
      exact hb ⟨by omega, by omega⟩
    exact ⟨_, _, .inr rfl, by rw [if_neg hneg, if_pos hlarge]; rfl⟩
  have hsign : ∀ d < 10, '-' < Nat.digitChar d ∧ '+' < Nat.digitChar d := by decide
  have hlt : c < Nat.digitChar d := by
    rcases hc with rfl | rfl
    · exact (hsign d hd).1
    · exact (hsign d hd).2
  rw [String.lt_iff_toList_lt, hkey, hkey', List.cons_lt_cons_iff]
  rintro (h | ⟨rfl, -⟩)
  · exact lt_asymm h hlt
  · exact lt_irrefl _ hlt

/-- The month is not before the one that the cutoff starts from, and if it is that month it has the
day of the call. -/
def Reached (now : Date) (retentionMonths month : Int) : Prop :=
  let start := monthFrom (now.month - retentionMonths)
  InEra start → start ≤ month ∧ (month = start → now.day ≤ daysInMonth start)

theorem mem_pruneHistory {now : Date} (hretention : 1 ≤ retentionMonths) (hera : InEra k)
    (hrow : row ∈ rows) (hmonth : row.month = monthKey k) :
    row ∈ pruneHistory now retentionMonths rows ↔ Reached now retentionMonths k := by
  have hday := now.day_le.trans (daysInMonth_le now.month)
  rw [pruneHistory, List.mem_filter, if_neg (by omega), hmonth, Date.addMonths, normalizedDate,
    Reached, ← Int.sub_eq_add_neg]
  generalize monthFrom (now.month - retentionMonths) = start
  have hdec : start % 12 = 11 → daysInMonth start = 31 := fun h => by simp [daysInMonth, h]
  simp only [hrow, true_and, Bool.not_eq_true', decide_eq_false_iff_not]
  by_cases hstart : InEra start
  · obtain ⟨h0, h1⟩ := id hstart
    split
    · rw [monthKey_lt_iff hera hstart]
      grind
    · rw [monthKey_lt_iff hera ⟨by omega, by omega⟩]
      grind
  refine iff_of_true (not_monthKey_lt hera ?_) fun h => absurd h hstart
  rw [InEra] at *
  split <;> omega

/-- The month that many months ago is the one the cutoff starts from, as long as its year is. -/
theorem monthFrom_of_inEra (h : InEra month) : monthFrom month = month := by
  obtain ⟨h0, h1⟩ := h
  have hyear : (month / 12).bmod (2 ^ 32) = month / 12 := by
    rw [Int.bmod_eq_of_le_mul_two] <;> omega
  rw [monthFrom, hyear, if_pos (by omega)]
  omega

/-- Of the rows of the current month and the months before it, those of the last
`retentionMonths` months and the current one stay, and no others. -/
def KeepsMonths (now : Date) (retentionMonths : Int) (rows : List DeviceMonth) : Prop :=
  ∀ row ∈ rows, ∀ k, InEra k → k ≤ now.month → row.month = monthKey k →
    (row ∈ pruneHistory now retentionMonths rows ↔ now.month - retentionMonths ≤ k)

theorem keepsMonths_iff (hnow : InEra now.month) (hretention : 1 ≤ retentionMonths)
    (rows : List DeviceMonth) : KeepsMonths now retentionMonths rows ↔
      ∀ row ∈ rows, ∀ k, InEra k → k ≤ now.month → row.month = monthKey k →
        now.month - retentionMonths ≤ k → Reached now retentionMonths k := by
  refine forall₂_congr fun row hrow => forall₂_congr fun k hk => forall₂_congr fun hle hkey => ?_
  rw [mem_pruneHistory hretention hk hrow hkey]
  refine ⟨Iff.mpr, fun h => ⟨fun hreached => ?_, h⟩⟩
  by_contra hold
  obtain ⟨_, -⟩ := hk
  obtain ⟨-, _⟩ := hnow
  have hstart : InEra (now.month - retentionMonths) := ⟨by omega, by omega⟩
  rw [Reached, monthFrom_of_inEra hstart] at hreached
  exact hold (hreached hstart).1

def sampleDay : Date := ⟨2026 * 12 + 2, 31, by decide, by decide⟩

def sampleRow (month : String) : DeviceMonth := ⟨"192.168.1.10", month, 10, 5, 1769000000⟩

theorem keepsMonths_january : KeepsMonths sampleDay 2 [sampleRow "2026-01"] :=
  (keepsMonths_iff ⟨by decide, by decide⟩ (by decide) _).mpr fun _ _ _ _ _ _ hle _ =>
    ⟨hle, fun _ => by decide⟩

theorem not_keepsMonths_february : ¬KeepsMonths sampleDay 1 [sampleRow "2026-02"] := by
  intro h
  have hkept := (h _ List.mem_cons_self (2026 * 12 + 1) ⟨by decide, by decide⟩ (by decide)
    (by decide +kernel)).mpr (by decide)
  revert hkept
  decide +kernel

end MinimalRouter.Api
