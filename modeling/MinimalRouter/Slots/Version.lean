import Mathlib.Data.List.TakeWhile
import Mathlib.Order.Compare
import MinimalRouter.Goish.Strings
import MinimalRouter.Lib.Result
import MinimalRouter.Lib.Segments

namespace MinimalRouter.Slots

open Goish Lib

def dropDigits (cs : List Char) : Option (List Char) :=
  if cs.takeWhile isAsciiDigit = [] then none else some (cs.dropWhile isAsciiDigit)

def dropDot : List Char → Option (List Char)
  | '.' :: cs => some cs
  | _ => none

def withoutV : List Char → List Char
  | 'v' :: cs => cs
  | cs => cs

def isVersionSuffix : List Char → Bool
  | [] => true
  | c :: cs => (c == '-' || c == '+') && !cs.isEmpty &&
      cs.all fun c => isAsciiAlphanumeric c || c == '.' || c == '-'

def releaseVersionPattern (value : String) : Bool :=
  (do
    let cs ← dropDigits (withoutV value.toList)
    let cs ← dropDot cs
    let cs ← dropDigits cs
    let cs ← dropDot cs
    dropDigits cs : Option (List Char)).any isVersionSuffix

structure ParsedReleaseVersion where
  core : List Char × List Char × List Char
  prerelease : List (List Char)
  deriving DecidableEq

def cutAt (c : Char) (cs : List Char) : List Char × Option (List Char) :=
  match splitOnce c cs with
  | some (before, after) => (before, some after)
  | none => (cs, none)

def parseReleaseVersion (value : String) : Except String ParsedReleaseVersion :=
  if ¬releaseVersionPattern value then .error "invalid release version"
  else
    let (value, _) := cutAt '+' (withoutV value.toList)
    let (value, pre) := cutAt '-' value
    match value.splitOn '.' with
    | [major, minor, patch] =>
      .ok ⟨(major, minor, patch), if pre.getD [] = [] then [] else (pre.getD []).splitOn '.'⟩
    | _ => .error "invalid release version"

def numericIdentifier (value : List Char) : Bool := !value.isEmpty && value.all isAsciiDigit

def withoutZeros (value : List Char) : List Char :=
  match value.dropWhile (· == '0') with
  | [] => ['0']
  | cs => cs

def compareNumericStrings (left right : List Char) : Ordering :=
  let left := withoutZeros left
  let right := withoutZeros right
  (compare left.length right.length).then (compare left right)

def compareIdentifier (left right : List Char) : Ordering :=
  match numericIdentifier left, numericIdentifier right with
  | true, true => compareNumericStrings left right
  | true, false => .lt
  | false, true => .gt
  | false, false => compare left right

def comparePrerelease (left right : List (List Char)) : Ordering :=
  match left.isEmpty, right.isEmpty with
  | true, true => .eq
  | true, false => .gt
  | false, true => .lt
  | false, false => left.compareLex compareIdentifier right

def ParsedReleaseVersion.compare (a b : ParsedReleaseVersion) : Ordering :=
  (compareNumericStrings a.core.1 b.core.1).then <|
  (compareNumericStrings a.core.2.1 b.core.2.1).then <|
  (compareNumericStrings a.core.2.2 b.core.2.2).then <|
  comparePrerelease a.prerelease b.prerelease

def compareReleaseVersions (left right : String) : Except String Ordering := do
  let a ← parseReleaseVersion left
  let b ← parseReleaseVersion right
  return a.compare b

theorem compareVersions_eq_ok :
    compareReleaseVersions left right = .ok o ↔ ∃ a, parseReleaseVersion left = .ok a ∧
      ∃ b, parseReleaseVersion right = .ok b ∧ a.compare b = o := by
  simp [compareReleaseVersions, Result.bind_eq_ok, pure, Except.pure]

def refusingNonForward : String :=
  "refusing non-forward update; use the explicit rollback command to return to the previous release"

def validateForwardUpgrade (candidate current : String) : Except String Unit :=
  if current = "" then .ok ()
  else
    match compareReleaseVersions candidate current with
    | .error e => .error e
    | .ok c => if c = .gt then .ok () else .error refusingNonForward

theorem transCmp_on {α β : Type} (cmp : β → β → Ordering) [Std.TransCmp cmp] (f : α → β) :
    Std.TransCmp fun a b => cmp (f a) (f b) where
  eq_swap := Std.OrientedCmp.eq_swap
  isLE_trans := Std.TransCmp.isLE_trans

instance : Std.TransCmp compareNumericStrings :=
  transCmp_on (compareLex (compareOn List.length) compare) withoutZeros

theorem compareIdentifier_eq : compareIdentifier = compareLex (compareOn fun i => !numericIdentifier i)
    (compareLex (compareOn fun i => if numericIdentifier i then (withoutZeros i).length else 0)
      (compareOn fun i => if numericIdentifier i then withoutZeros i else i)) := by
  funext left right
  unfold compareIdentifier compareLex compareOn
  dsimp only
  cases numericIdentifier left <;> cases numericIdentifier right <;> rfl

instance : Std.TransCmp compareIdentifier := by
  rw [compareIdentifier_eq]
  infer_instance

theorem comparePrerelease_eq : comparePrerelease = compareLex (compareOn List.isEmpty)
    (List.compareLex compareIdentifier) := by
  funext left right
  unfold comparePrerelease compareLex compareOn
  cases left <;> cases right <;> rfl

instance : Std.TransCmp comparePrerelease := by
  rw [comparePrerelease_eq]
  infer_instance

instance : Std.TransCmp ParsedReleaseVersion.compare :=
  have := transCmp_on compareNumericStrings fun v : ParsedReleaseVersion => v.core.1
  have := transCmp_on compareNumericStrings fun v : ParsedReleaseVersion => v.core.2.1
  have := transCmp_on compareNumericStrings fun v : ParsedReleaseVersion => v.core.2.2
  have := transCmp_on comparePrerelease ParsedReleaseVersion.prerelease
  inferInstanceAs (Std.TransCmp (compareLex
    (fun a b : ParsedReleaseVersion => compareNumericStrings a.core.1 b.core.1)
    (compareLex (fun a b => compareNumericStrings a.core.2.1 b.core.2.1)
      (compareLex (fun a b => compareNumericStrings a.core.2.2 b.core.2.2)
        fun a b => comparePrerelease a.prerelease b.prerelease))))

theorem dropDigits_eq_some (h : dropDigits cs = some rest) :
    ∃ d digits, cs = (d :: digits) ++ rest ∧ ∀ c ∈ d :: digits, isAsciiDigit c = true := by
  unfold dropDigits at h
  split at h
  · cases h
  · next hdigits =>
    obtain ⟨d, digits, htake⟩ := List.exists_cons_of_ne_nil hdigits
    cases h
    refine ⟨d, digits, ?_, fun c hc => ?_⟩
    · rw [← htake, List.takeWhile_append_dropWhile]
    · rw [← htake] at hc
      exact List.mem_takeWhile_imp hc

theorem dropDot_eq_some (h : dropDot cs = some rest) : cs = '.' :: rest := by
  unfold dropDot at h
  split at h
  · cases h
    rfl
  · cases h

def versionChar (c : Char) : Bool := isAsciiAlphanumeric c || c == '.' || c == '-' || c == '+'

theorem versionChar_of_digit (h : isAsciiDigit c = true) : versionChar c = true := by
  simp [versionChar, isAsciiAlphanumeric, h]

theorem versionChar_of_suffix (h : isVersionSuffix cs = true) : ∀ c ∈ cs, versionChar c = true := by
  cases cs with
  | nil => nofun
  | cons =>
    simp only [isVersionSuffix, Bool.and_eq_true, Bool.or_eq_true, beq_iff_eq, List.all_eq_true] at h
    obtain ⟨⟨hd, -⟩, hcs⟩ := h
    refine List.forall_mem_cons.mpr ⟨?_, fun c hc => ?_⟩
    · rcases hd with rfl | rfl <;> decide
    rcases hcs c hc with (hc | rfl) | rfl
    · simp [versionChar, hc]
    · decide
    · decide

theorem withoutV_cases (cs : List Char) : cs = withoutV cs ∨ cs = 'v' :: withoutV cs := by
  unfold withoutV
  split
  · exact .inr rfl
  · exact .inl rfl

theorem parts_of_pattern (h : releaseVersionPattern version = true) : ∃ d major minor patch suffix,
      withoutV version.toList = (d :: major) ++ '.' :: (minor ++ '.' :: (patch ++ suffix)) ∧
      (∀ c ∈ d :: major, isAsciiDigit c = true) ∧ (∀ c ∈ minor, isAsciiDigit c = true) ∧
      (∀ c ∈ patch, isAsciiDigit c = true) ∧ isVersionSuffix suffix = true := by
  unfold releaseVersionPattern at h
  obtain ⟨suffix, hparts, hsuffix⟩ := (Option.any_eq_true _ _).mp h
  simp only [Option.bind_eq_bind, Option.bind_eq_some_iff] at hparts
  obtain ⟨_, h1, _, h2, _, h3, _, h4, h5⟩ := hparts
  obtain ⟨d, digits, heq, hdigits⟩ := dropDigits_eq_some h1
  obtain ⟨d', digits', rfl, hdigits'⟩ := dropDigits_eq_some h3
  obtain ⟨d'', digits'', rfl, hdigits''⟩ := dropDigits_eq_some h5
  obtain rfl := dropDot_eq_some h4
  obtain rfl := dropDot_eq_some h2
  exact ⟨d, digits, d' :: digits', d'' :: digits'', suffix, heq, hdigits, hdigits', hdigits'', hsuffix⟩

theorem chars_of_pattern (h : releaseVersionPattern version = true) :
    ∃ c cs, version.toList = c :: cs ∧ c ≠ '.' ∧ ∀ d ∈ version.toList, versionChar d = true := by
  obtain ⟨d, _, _, _, _, heq, hmajor, hminor, hpatch, hsuffix⟩ := parts_of_pattern h
  have hchars : ∀ c ∈ withoutV version.toList, versionChar c = true := by
    intro c hc
    rw [heq] at hc
    simp only [List.mem_append, List.mem_cons] at hc hmajor
    rcases hc with hc | rfl | hc | rfl | hc | hc
    · exact versionChar_of_digit (hmajor c hc)
    · decide
    · exact versionChar_of_digit (hminor c hc)
    · decide
    · exact versionChar_of_digit (hpatch c hc)
    · exact versionChar_of_suffix hsuffix c hc
  have hdot : isAsciiDigit '.' ≠ true := by decide
  rcases withoutV_cases version.toList with hv | hv
  · refine ⟨d, _, hv.trans heq, ?_, hv ▸ hchars⟩
    rintro rfl
    exact hdot (hmajor '.' List.mem_cons_self)
  · rw [hv]
    exact ⟨'v', _, rfl, by decide, List.forall_mem_cons.mpr ⟨by decide, hchars⟩⟩

theorem cutAt_append (h : c ∉ before) : cutAt c (before ++ c :: after) = (before, some after) := by
  unfold cutAt
  rw [splitOnce_append h]

theorem cutAt_of_not_mem (h : c ∉ cs) : cutAt c cs = (cs, none) := by
  have hsplit : splitOnce c cs = none := by
    induction cs with
    | nil => rfl
    | cons a cs ih =>
      simp only [List.mem_cons, not_or] at h
      simp [splitOnce, Ne.symm h.1, ih h.2]
  unfold cutAt
  rw [hsplit]

theorem cutAt_suffix (hplus : '+' ∉ core) (hdash : '-' ∉ core) (h : isVersionSuffix suffix = true) :
    ∃ rest, cutAt '-' (cutAt '+' (core ++ suffix)).1 = (core, rest) := by
  cases suffix with
  | nil =>
    rw [List.append_nil, cutAt_of_not_mem hplus]
    exact ⟨none, cutAt_of_not_mem hdash⟩
  | cons c cs =>
    simp only [isVersionSuffix, Bool.and_eq_true, Bool.or_eq_true, beq_iff_eq, List.all_eq_true] at h
    obtain ⟨⟨hc, -⟩, hcs⟩ := h
    rcases hc with rfl | rfl
    · have hno : '+' ∉ core ++ '-' :: cs := by
        simp only [List.mem_append, List.mem_cons, not_or]
        exact ⟨hplus, by decide, fun hmem => absurd (hcs '+' hmem) (by decide)⟩
      rw [cutAt_of_not_mem hno]
      exact ⟨some cs, cutAt_append hdash⟩
    · rw [cutAt_append hplus]
      exact ⟨none, cutAt_of_not_mem hdash⟩

theorem parse_of_pattern (h : releaseVersionPattern version = true) :
    ∃ parsed, parseReleaseVersion version = .ok parsed ∧
      (∀ c ∈ parsed.core.1, isAsciiDigit c = true) ∧ (∀ c ∈ parsed.core.2.1, isAsciiDigit c = true) ∧
      ∀ c ∈ parsed.core.2.2, isAsciiDigit c = true := by
  obtain ⟨d, major, minor, patch, suffix, heq, hmajor, hminor, hpatch, hsuffix⟩ := parts_of_pattern h
  have hnot : ∀ {c : Char}, isAsciiDigit c = false →
      c ∉ d :: major ∧ c ∉ minor ∧ c ∉ patch := by
    intro c hc
    refine ⟨fun hmem => ?_, fun hmem => ?_, fun hmem => ?_⟩
    · exact absurd (hmajor c hmem) (by simp [hc])
    · exact absurd (hminor c hmem) (by simp [hc])
    · exact absurd (hpatch c hmem) (by simp [hc])
  have hcore : ∀ {c : Char}, isAsciiDigit c = false → c ≠ '.' →
      c ∉ (d :: major) ++ '.' :: (minor ++ '.' :: patch) := by
    intro c hc hdot
    obtain ⟨h1, h2, h3⟩ := hnot hc
    simp only [List.mem_append, List.mem_cons, not_or] at h1 ⊢
    exact ⟨h1, hdot, h2, hdot, h3⟩
  obtain ⟨_, hcut⟩ := cutAt_suffix (hcore rfl (by decide)) (hcore rfl (by decide)) hsuffix
  obtain ⟨hdot1, hdot2, hdot3⟩ := hnot (c := '.') rfl
  have hsplit : ((d :: major) ++ '.' :: (minor ++ '.' :: patch)).splitOn '.' =
      [d :: major, minor, patch] := by
    rw [Segments.splitOn_append, Segments.splitOn_append, Segments.splitOn_of_not_mem hdot1,
      Segments.splitOn_of_not_mem hdot2, Segments.splitOn_of_not_mem hdot3]
    rfl
  have heq' : withoutV version.toList =
      (d :: major) ++ '.' :: (minor ++ '.' :: patch) ++ suffix := by simp [heq]
  unfold parseReleaseVersion
  rw [if_neg (by simp [h]), heq']
  generalize hplus : cutAt '+' ((d :: major) ++ '.' :: (minor ++ '.' :: patch) ++ suffix) = first at hcut
  dsimp only at hcut ⊢
  rw [hcut]
  dsimp only
  rw [hsplit]
  exact ⟨_, rfl, hmajor, hminor, hpatch⟩

theorem pattern_of_parse (h : parseReleaseVersion version = .ok parsed) :
    releaseVersionPattern version = true := by
  unfold parseReleaseVersion at h
  split at h
  · cases h
  · next hpattern => exact not_not.mp hpattern

end MinimalRouter.Slots
