import MinimalRouter.Goish.Strings

namespace MinimalRouter.Goish

def getnum (fixed : Bool) : List Char → Option (Nat × List Char)
  | [] => none
  | a :: rest =>
    if !isAsciiDigit a then none
    else
      match rest with
      | b :: tail =>
        if isAsciiDigit b then some (decimalValue [a, b], tail)
        else if fixed then none else some (decimalValue [a], rest)
      | [] => if fixed then none else some (decimalValue [a], [])

def parseClock (value : String) : Option (Nat × Nat) := do
  let (hour, rest) ← getnum false value.toList
  if hour ≥ 24 then none
  else
    let rest ← stripStart [':'] rest
    let (minute, rest) ← getnum true rest
    if minute ≥ 60 || !rest.isEmpty then none else some (hour, minute)

theorem getnum_eq_some (h : getnum fixed cs = some (n, rest)) :
    ∃ digits, cs = digits ++ rest ∧ digits ≠ [] ∧
      (∀ c ∈ digits, isAsciiDigit c = true) ∧ n = decimalValue digits := by
  unfold getnum at h
  split at h
  next => cases h
  next a tail =>
  split at h
  next => cases h
  next ha =>
  have ha : isAsciiDigit a = true := by simpa using ha
  have hone : ∀ c ∈ [a], isAsciiDigit c = true := List.forall_mem_singleton.mpr ha
  split at h
  next b tail =>
    split at h
    next hb =>
      cases h
      exact ⟨[a, b], rfl, List.cons_ne_nil _ _,
        List.forall_mem_cons.mpr ⟨ha, List.forall_mem_singleton.mpr hb⟩, rfl⟩
    next =>
    split at h
    next => cases h
    next =>
      cases h
      exact ⟨[a], rfl, List.cons_ne_nil _ _, hone, rfl⟩
  next =>
  split at h
  next => cases h
  next =>
    cases h
    exact ⟨[a], rfl, List.cons_ne_nil _ _, hone, rfl⟩

theorem parseClock_eq_some (h : parseClock s = some (hour, minute)) : ∃ hs ms,
    s.toList = hs ++ ':' :: ms ∧ (hs ≠ [] ∧ ms ≠ []) ∧ (∀ c ∈ hs ++ ms, isAsciiDigit c = true) ∧
      (hour = decimalValue hs ∧ minute = decimalValue ms) ∧ hour < 24 ∧ minute < 60 := by
  unfold parseClock at h
  simp only [Option.bind_eq_bind, Option.bind_eq_some_iff, Prod.exists] at h
  obtain ⟨_, rest, hhour, h⟩ := h
  split at h
  next => cases h
  next hday =>
  simp only [Option.bind_eq_some_iff, Prod.exists] at h
  obtain ⟨_, htail, _, _, hminute, h⟩ := h
  split at h
  next => cases h
  next hend =>
  simp only [Bool.or_eq_true, decide_eq_true_eq, Bool.not_eq_true', not_or, Bool.not_eq_false,
    List.isEmpty_iff] at hend
  obtain ⟨_, rfl⟩ := hend
  cases h
  obtain ⟨hs, hcs, hne, hdigits, rfl⟩ := getnum_eq_some hhour
  obtain ⟨ms, rfl, hne', hdigits', rfl⟩ := getnum_eq_some hminute
  have hrest : rest = ':' :: (ms ++ []) := by
    unfold stripStart at htail
    split at htail
    next hcolon =>
      obtain ⟨_, rfl⟩ := List.isPrefixOf_iff_prefix.mp hcolon
      cases htail
      rfl
    next => cases htail
  rw [hrest, List.append_nil] at hcs
  exact ⟨hs, ms, hcs, ⟨hne, hne'⟩, List.forall_mem_append.mpr ⟨hdigits, hdigits'⟩, ⟨rfl, rfl⟩,
    by omega, by omega⟩

section Duration

def unitOf (unit : List Char) : Option Nat :=
  if unit = "ns".toList then some 1
  else if unit = "us".toList ∨ unit = "µs".toList ∨ unit = "μs".toList then some 1000
  else if unit = "ms".toList then some 1000000
  else if unit = "s".toList then some 1000000000
  else if unit = "m".toList then some (60 * 1000000000)
  else if unit = "h".toList then some (3600 * 1000000000)
  else none

def fractionValue (digits : List Char) : Nat × Nat :=
  let step (acc : Nat × Nat × Bool) (c : Char) :=
    let y := acc.1 * 10 + (c.toNat - '0'.toNat)
    if acc.2.2 ∨ acc.1 > 2 ^ 63 / 10 ∨ y > 2 ^ 63 then (acc.1, acc.2.1, true)
    else (y, acc.2.1 + 1, false)
  let (f, places, _) := digits.foldl step (0, 0, false)
  (f, places)

variable (scaled : Nat → Nat → Nat → Nat)

def readTerm (cs : List Char) : Option (Nat × List Char) :=
  let whole := cs.takeWhile isAsciiDigit
  let rest := cs.dropWhile isAsciiDigit
  let dotted := rest.head? == some '.'
  let fraction := if dotted then rest.tail.takeWhile isAsciiDigit else []
  let rest := if dotted then rest.tail.dropWhile isAsciiDigit else rest
  let isUnit (c : Char) := c != '.' && !isAsciiDigit c
  let (f, places) := fractionValue fraction
  if whole.isEmpty && fraction.isEmpty then none
  else if decimalValue whole > 2 ^ 63 then none
  else do
    let unit ← unitOf (rest.takeWhile isUnit)
    if decimalValue whole > 2 ^ 63 / unit then none
    else
      let v := decimalValue whole * unit + if f > 0 then scaled f unit places else 0
      if f > 0 ∧ v > 2 ^ 63 then none else some (v, rest.dropWhile isUnit)

def readTerms : Nat → Nat → List Char → Option Nat
  | _, total, [] => some total
  | 0, _, _ => none
  | fuel + 1, total, cs => do
    let (v, rest) ← readTerm scaled cs
    let total := (total + v) % 2 ^ 64
    if total > 2 ^ 63 then none else readTerms fuel total rest

def parseDuration (input : String) : Option Int :=
  let cs := input.toList
  let neg := cs.head? == some '-'
  let cs := if neg || cs.head? == some '+' then cs.tail else cs
  if cs = ['0'] then some 0
  else if cs.isEmpty then none
  else do
    let total ← readTerms scaled cs.length 0 cs
    if neg then some (-total) else if total > 2 ^ 63 - 1 then none else some total

end Duration

end MinimalRouter.Goish
