import Mathlib.Algebra.Group.Int.Defs
import Mathlib.Algebra.Group.Nat.Defs
import MinimalRouter.Lib.Utf8

namespace MinimalRouter.Goish

def trim (s : String) : String := String.ofList (Lib.Utf8.trim s.toList)

def isAsciiDigit (c : Char) : Bool := '0' ≤ c && c ≤ '9'

def decimalValue (cs : List Char) : Nat := cs.foldl (fun n c => n * 10 + (c.toNat - '0'.toNat)) 0

def toDigit (radix : Nat) (c : Char) : Option Nat :=
  let digit :=
    if isAsciiDigit c then some (c.toNat - '0'.toNat)
    else if 'a' ≤ c && c ≤ 'z' then some (c.toNat - 'a'.toNat + 10)
    else if 'A' ≤ c && c ≤ 'Z' then some (c.toNat - 'A'.toNat + 10)
    else none
  digit.filter (· < radix)

def isDigitOf (radix : Nat) (c : Char) : Bool := (toDigit radix c).isSome

def withoutSign (cs : List Char) : List Char :=
  if cs.head? == some '+' && 1 < cs.length then cs.tail else cs

/-- An unsigned integer below a bound as the standard library reads it, with an optional sign. -/
def parseUnsigned (radix bound : Nat) (cs : List Char) : Option Nat :=
  let digits := withoutSign cs
  if digits.isEmpty || !digits.all (isDigitOf radix) then none
  else (some (digits.foldl (fun n c => n * radix + (toDigit radix c).getD 0) 0)).filter (· < bound)

theorem isAsciiDigit_iff : isAsciiDigit c = true ↔ 48 ≤ c.toNat ∧ c.toNat ≤ 57 := by
  rw [isAsciiDigit, Bool.and_eq_true, decide_eq_true_eq, decide_eq_true_eq, Char.le_def, Char.le_def,
    UInt32.le_iff_toNat_le, UInt32.le_iff_toNat_le]
  rfl

theorem isDigitOf_ten (c : Char) : isDigitOf 10 c = isAsciiDigit c := by
  unfold isDigitOf toDigit
  dsimp only
  split
  · next hdigit =>
    have hbounds := isAsciiDigit_iff.mp hdigit
    have hlt : c.toNat - 48 < 10 := by omega
    simp [hdigit, hlt]
  · next hdigit =>
    split
    · simp [hdigit]
    split
    · simp [hdigit]
    · simp [hdigit]

theorem toNat_le_of_isDigitOf (h : isDigitOf radix c = true) : c.toNat ≤ 122 := by
  have hle : ∀ d : Char, c ≤ d → c.toNat ≤ d.toNat := fun _ h => h
  unfold isDigitOf toDigit at h
  dsimp only at h
  split at h
  · next hdigit => exact Nat.le_trans (isAsciiDigit_iff.mp hdigit).2 (by decide)
  split at h
  · next hlower =>
    rw [Bool.and_eq_true, decide_eq_true_eq, decide_eq_true_eq] at hlower
    exact hle 'z' hlower.2
  split at h
  · next hupper =>
    rw [Bool.and_eq_true, decide_eq_true_eq, decide_eq_true_eq] at hupper
    exact Nat.le_trans (hle 'Z' hupper.2) (by decide)
  · cases h

theorem le_toNat_of_isDigitOf (h : isDigitOf radix c = true) : 48 ≤ c.toNat := by
  have hle : ∀ d : Char, d ≤ c → d.toNat ≤ c.toNat := fun _ h => h
  unfold isDigitOf toDigit at h
  dsimp only at h
  split at h
  · next hdigit => exact (isAsciiDigit_iff.mp hdigit).1
  split at h
  · next hlower =>
    rw [Bool.and_eq_true, decide_eq_true_eq, decide_eq_true_eq] at hlower
    exact Nat.le_trans (by decide) (hle 'a' hlower.1)
  split at h
  · next hupper =>
    rw [Bool.and_eq_true, decide_eq_true_eq, decide_eq_true_eq] at hupper
    exact Nat.le_trans (by decide) (hle 'A' hupper.1)
  · cases h

theorem not_isDigitOf_plus (radix : Nat) : isDigitOf radix '+' = false := rfl

theorem digits_of_parseUnsigned (h : (parseUnsigned radix bound cs).isSome = true) :
    cs.all (isDigitOf radix) = true ∨ ∃ ds, cs = '+' :: ds ∧ ds.all (isDigitOf radix) = true := by
  unfold parseUnsigned at h
  dsimp only at h
  split at h
  · cases h
  next hnumber =>
  have hdigits : (withoutSign cs).all (isDigitOf radix) = true := by
    rw [Bool.or_eq_true, not_or] at hnumber
    simpa using hnumber.2
  unfold withoutSign at hdigits
  split at hdigits
  · next hsign =>
    cases cs with
    | nil => simp at hsign
    | cons c cs =>
      have hc : c = '+' := by
        rw [Bool.and_eq_true] at hsign
        simpa using hsign.1
      exact .inr ⟨cs, by rw [hc], hdigits⟩
  · exact .inl hdigits

theorem all_digits_iff (h : (parseUnsigned radix bound cs).isSome = true) :
    cs.all (isDigitOf radix) = true ↔ cs.head? ≠ some '+' := by
  constructor
  · intro hdigits hsign
    obtain ⟨ds, rfl⟩ := List.head?_eq_some_iff.mp hsign
    rw [List.all_cons, not_isDigitOf_plus] at hdigits
    cases hdigits
  intro hsign
  rcases digits_of_parseUnsigned h with hdigits | ⟨ds, rfl, -⟩
  · exact hdigits
  · exact absurd rfl hsign

def asciiLower (c : Char) : Char := if 'A' ≤ c && c ≤ 'Z' then Char.ofNat (c.toNat + 32) else c

def asciiUpper (c : Char) : Char := if 'a' ≤ c && c ≤ 'z' then Char.ofNat (c.toNat - 32) else c

def eqIgnoreAsciiCase (as bs : List Char) : Bool := as.map asciiLower == bs.map asciiLower

def isAsciiAlphanumeric (c : Char) : Bool :=
  isAsciiDigit c || ('a' ≤ c && c ≤ 'z') || ('A' ≤ c && c ≤ 'Z')

def stripStart (start cs : List Char) : Option (List Char) :=
  if start.isPrefixOf cs then some (cs.drop start.length) else none

def containsText (part cs : List Char) : Bool := cs.tails.any (part.isPrefixOf ·)

def trimMatches (p : Char → Bool) (cs : List Char) : List Char :=
  ((cs.dropWhile p).reverse.dropWhile p).reverse

def split (sep : Char) (s : String) : List String := (s.toList.splitOn sep).map String.ofList

def splitOnce (sep : Char) : List Char → Option (List Char × List Char)
  | [] => none
  | c :: cs => if c = sep then some ([], cs) else (splitOnce sep cs).map fun p => (c :: p.1, p.2)

theorem splitOnce_append (h : sep ∉ before) :
    splitOnce sep (before ++ sep :: after) = some (before, after) := by
  induction before with
  | nil => simp [splitOnce]
  | cons c before ih =>
    rw [List.mem_cons, not_or] at h
    simp [splitOnce, Ne.symm h.1, ih h.2]

theorem splitOnce_eq_some (h : splitOnce sep cs = some (before, after)) :
    cs = before ++ sep :: after ∧ sep ∉ before := by
  induction cs generalizing before with
  | nil => cases h
  | cons c cs ih =>
    unfold splitOnce at h
    split at h
    · next hc =>
      cases h
      exact ⟨by rw [hc]; rfl, List.not_mem_nil⟩
    · next hc =>
      obtain ⟨⟨before, after⟩, hrest, heq⟩ := Option.map_eq_some_iff.mp h
      cases heq
      obtain ⟨hcs, hmem⟩ := ih hrest
      refine ⟨by rw [hcs]; rfl, ?_⟩
      simp only [List.mem_cons, not_or]
      exact ⟨fun h => hc h.symm, hmem⟩

def splitOnText (sep : List Char) : List Char → Option (List Char × List Char)
  | [] => if sep.isEmpty then some ([], []) else none
  | c :: cs =>
    if sep.isPrefixOf (c :: cs) then some ([], (c :: cs).drop sep.length)
    else (splitOnText sep cs).map fun p => (c :: p.1, p.2)

theorem splitOnText_eq_some (h : splitOnText sep cs = some (before, after)) :
    cs = before ++ sep ++ after := by
  induction cs generalizing before with
  | nil =>
    unfold splitOnText at h
    split at h
    · next hsep =>
      cases h
      simpa using hsep
    · cases h
  | cons c cs ih =>
    unfold splitOnText at h
    split at h
    · next hsep =>
      cases h
      obtain ⟨_, hrest⟩ := List.isPrefixOf_iff_prefix.mp hsep
      rw [← hrest, List.drop_left]
      rfl
    obtain ⟨⟨before, after⟩, hrest, heq⟩ := Option.map_eq_some_iff.mp h
    cases heq
    rw [ih hrest]
    rfl

def rsplitOnce (sep : Char) (cs : List Char) : Option (List Char × List Char) :=
  (splitOnce sep cs.reverse).map fun p => (p.2.reverse, p.1.reverse)

/-- The tables that the text helpers consult for the characters beyond ASCII. -/
structure Unicode where
  (letter number : Char → Bool)
  lower : Char → Char

namespace Unicode

variable (u : Unicode)

def isLetter (c : Char) : Bool :=
  if Lib.Utf8.isAscii c then ('a' ≤ c && c ≤ 'z') || ('A' ≤ c && c ≤ 'Z') else u.letter c

def isNumber (c : Char) : Bool := if Lib.Utf8.isAscii c then isAsciiDigit c else u.number c

def lowerChar (c : Char) : Char := if Lib.Utf8.isAscii c then asciiLower c else u.lower c

def toLower (s : String) : String := String.ofList (s.toList.map u.lowerChar)

end Unicode

def isControl (c : Char) : Bool := c.toNat < 0x20 || (0x7f ≤ c.toNat && c.toNat < 0xa0)

def hasControl (s : String) : Bool := s.toList.any isControl

def goAtoi (text : String) : Option Int :=
  let cs := text.toList
  let signed := cs.head? == some '+' || cs.head? == some '-'
  let digits := if signed then cs.tail else cs
  let value := if cs.head? == some '-' then -(decimalValue digits : Int) else decimalValue digits
  if digits.isEmpty || !digits.all isAsciiDigit then none
  else if value < -2 ^ 63 || 2 ^ 63 ≤ value then none
  else some value

def cleanElement (rooted : Bool) (done : List (List Char)) (element : List Char) :
    List (List Char) :=
  if element = [] ∨ element = ['.'] then done
  else if element = ['.', '.'] then
    match done with
    | last :: rest => if last = ['.', '.'] then element :: done else rest
    | [] => if rooted then [] else [element]
  else element :: done

/-- A path without empty and dot elements, and without those that an element of two dots undoes. -/
def clean (path : List Char) : List Char :=
  let rooted := path.head? == some '/'
  let elements := ((path.splitOn '/').foldl (cleanElement rooted) []).reverse
  if rooted then '/' :: ['/'].intercalate elements
  else if elements.isEmpty then ['.'] else ['/'].intercalate elements

def isAbs (path : List Char) : Bool := path.head? == some '/'

def isLocal (path : List Char) : Bool :=
  if isAbs path || path.isEmpty then false
  else
    let dotted := (path.splitOn '/').any fun part => part == ['.'] || part == ['.', '.']
    let path := if dotted then clean path else path
    !(path == ['.', '.'] || ['.', '.', '/'].isPrefixOf path)

def dir (path : List Char) : List Char :=
  match rsplitOnce '/' path with
  | some (before, _) => clean (before ++ ['/'])
  | none => ['.']

def base (path : List Char) : List Char :=
  if path.isEmpty then ['.']
  else
    let trimmed := (path.reverse.dropWhile (· == '/')).reverse
    if trimmed.isEmpty then ['/'] else (trimmed.splitOn '/').getLastD trimmed

def hexPadded (width n : Nat) : List Char :=
  let digits := Nat.toDigits 16 n
  List.replicate (width - digits.length) '0' ++ digits

def quoteChar (c : Char) : List Char :=
  if c = '"' then ['\\', '"']
  else if c = '\\' then ['\\', '\\']
  else if c = '\n' then ['\\', 'n']
  else if c = '\r' then ['\\', 'r']
  else if c = '\t' then ['\\', 't']
  else if c.toNat = 0x07 then ['\\', 'a']
  else if c.toNat = 0x08 then ['\\', 'b']
  else if c.toNat = 0x0c then ['\\', 'f']
  else if c.toNat = 0x0b then ['\\', 'v']
  else if c.toNat < 0x20 ∨ c.toNat = 0x7f then ['\\', 'x'] ++ hexPadded 2 c.toNat
  else if isControl c then
    if c.toNat < 0x10000 then ['\\', 'u'] ++ hexPadded 4 c.toNat
    else ['\\', 'U'] ++ hexPadded 8 c.toNat
  else [c]

def quote (value : String) : String :=
  String.ofList (['"'] ++ value.toList.flatMap quoteChar ++ ['"'])

end MinimalRouter.Goish
