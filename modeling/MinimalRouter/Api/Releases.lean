import Mathlib.Data.Nat.Digits.Defs
import MinimalRouter.Lib.Retention
import MinimalRouter.Slots.Version

namespace MinimalRouter.Api

open Goish Lib Slots

def number (digits : List Char) : Nat :=
  Nat.ofDigits 10 (digits.reverse.map fun c => c.toNat - '0'.toNat)

theorem number_cons (c : Char) (cs : List Char) :
    number (c :: cs) = number cs + 10 ^ cs.length * (c.toNat - '0'.toNat) := by
  simp [number, Nat.ofDigits_append]

theorem digit_lt (h : isAsciiDigit c = true) : c.toNat - '0'.toNat < 10 := by
  have hbounds := isAsciiDigit_iff.mp h
  change c.toNat - 48 < 10
  omega

theorem number_lt (h : ∀ c ∈ cs, isAsciiDigit c = true) : number cs < 10 ^ cs.length := by
  have hlt := Nat.ofDigits_lt_base_pow_length (b := 10) (by decide)
    (l := cs.reverse.map fun c => c.toNat - '0'.toNat)
    (by simpa using fun c hc => digit_lt (h c hc))
  simpa [number] using hlt

theorem number_withoutZeros (cs : List Char) : number (withoutZeros cs) = number cs := by
  induction cs with
  | nil => rfl
  | cons c cs ih =>
    by_cases hc : c = '0'
    · subst hc
      rw [number_cons, Nat.sub_self, Nat.mul_zero, Nat.add_zero, ← ih]
      rfl
    · unfold withoutZeros
      rw [List.dropWhile_cons_of_neg (by simpa using hc)]

theorem withoutZeros_cases (cs : List Char) :
    withoutZeros cs = ['0'] ∨ ∃ c rest, withoutZeros cs = c :: rest ∧ c ≠ '0' := by
  unfold withoutZeros
  cases h : cs.dropWhile (· == '0') with
  | nil => exact .inl rfl
  | cons c rest =>
    have hhead := List.head?_dropWhile_not (· == '0') cs
    exact .inr ⟨c, rest, rfl, by simpa [h] using hhead⟩

theorem digits_withoutZeros (h : ∀ c ∈ cs, isAsciiDigit c = true) :
    ∀ c ∈ withoutZeros cs, isAsciiDigit c = true := by
  unfold withoutZeros
  split
  · exact List.forall_mem_singleton.mpr rfl
  · exact fun c hc => h c ((List.dropWhile_sublist _).subset hc)

theorem compare_toNat (c d : Char) : compare c d = compare c.toNat d.toNat := by
  change compareOfLessAndEq c d = compareOfLessAndEq c.toNat d.toNat
  simp only [compareOfLessAndEq, Char.toNat_inj]
  rfl

theorem compare_carry {x : Nat} (hm : m < p) (hn : n < p) :
    compare (m + p * x) (n + p * y) = (compare x y).then (compare m n) := by
  rcases lt_trichotomy x y with h | rfl | h
  · have hle := Nat.mul_le_mul_left p h
    rw [Nat.compare_eq_lt.mpr h, Ordering.lt_then, Nat.compare_eq_lt]
    rw [Nat.mul_succ] at hle
    omega
  · rw [Nat.compare_eq_eq.mpr rfl, Ordering.eq_then, Nat.compare_eq_ite_lt, Nat.compare_eq_ite_lt]
    simp
  have hle := Nat.mul_le_mul_left p h
  rw [Nat.compare_eq_gt.mpr h, Ordering.gt_then, Nat.compare_eq_gt]
  rw [Nat.mul_succ] at hle
  omega

theorem compare_of_length_eq (hcs : ∀ c ∈ cs, isAsciiDigit c = true)
    (hds : ∀ c ∈ ds, isAsciiDigit c = true) (h : cs.length = ds.length) :
    compare cs ds = compare (number cs) (number ds) := by
  induction cs generalizing ds with
  | nil =>
    cases List.length_eq_zero_iff.mp h.symm
    rfl
  | cons c cs ih =>
  obtain ⟨d, ds, rfl⟩ := List.exists_cons_of_length_eq_add_one h.symm
  obtain ⟨hc, hcs⟩ := List.forall_mem_cons.mp hcs
  obtain ⟨hd, hds⟩ := List.forall_mem_cons.mp hds
  have hlength : cs.length = ds.length := Nat.succ.inj h
  have hlt := number_lt hcs
  have hlt' := number_lt hds
  have hdigit : compare c.toNat d.toNat = compare (c.toNat - '0'.toNat) (d.toNat - '0'.toNat) := by
    obtain ⟨x, hx⟩ := Nat.exists_eq_add_of_le (isAsciiDigit_iff.mp hc).1
    obtain ⟨y, hy⟩ := Nat.exists_eq_add_of_le (isAsciiDigit_iff.mp hd).1
    rw [hx, hy]
    simp [Nat.compare_eq_ite_lt]
  rw [hlength] at hlt
  rw [List.compare_cons_cons, compare_toNat, hdigit, ih hcs hds hlength, number_cons, number_cons,
    hlength, compare_carry hlt hlt']

theorem number_lt_of_length_lt (hcs : ∀ c ∈ cs, isAsciiDigit c = true)
    (hds : ∀ c ∈ ds, isAsciiDigit c = true)
    (h : (withoutZeros cs).length < (withoutZeros ds).length) : number cs < number ds := by
  rw [← number_withoutZeros cs, ← number_withoutZeros ds]
  have hne : (withoutZeros cs).length ≠ 0 := by
    rcases withoutZeros_cases cs with hzero | ⟨c, rest, hrest, -⟩ <;> simp [*]
  rcases withoutZeros_cases ds with hzero | ⟨d, rest, hrest, hd⟩
  · simp only [hzero, List.length_singleton] at h
    omega
  have hdigit := (isAsciiDigit_iff.mp (digits_withoutZeros hds d (by simp [hrest]))).1
  have hpositive : 1 ≤ d.toNat - '0'.toNat := by
    have hne : d.toNat ≠ 48 := fun heq => hd (Char.toNat_inj.mp heq)
    change 1 ≤ d.toNat - 48
    omega
  rw [hrest, List.length_cons] at h
  calc number (withoutZeros cs)
    _ < 10 ^ (withoutZeros cs).length := number_lt (digits_withoutZeros hcs)
    _ ≤ 10 ^ rest.length := Nat.pow_le_pow_right (by decide) (Nat.le_of_lt_succ h)
    _ ≤ 10 ^ rest.length * (d.toNat - '0'.toNat) := Nat.le_mul_of_pos_right _ hpositive
    _ ≤ number (withoutZeros ds) := by
      rw [hrest, number_cons]
      exact Nat.le_add_left _ _

theorem compareNumericStrings_eq (hcs : ∀ c ∈ cs, isAsciiDigit c = true)
    (hds : ∀ c ∈ ds, isAsciiDigit c = true) :
    compareNumericStrings cs ds = compare (number cs) (number ds) := by
  unfold compareNumericStrings
  dsimp only
  rcases lt_trichotomy (withoutZeros cs).length (withoutZeros ds).length with h | h | h
  · rw [Nat.compare_eq_lt.mpr h, Nat.compare_eq_lt.mpr (number_lt_of_length_lt hcs hds h),
      Ordering.lt_then]
  · rw [Nat.compare_eq_eq.mpr h, Ordering.eq_then,
      compare_of_length_eq (digits_withoutZeros hcs) (digits_withoutZeros hds) h,
      number_withoutZeros, number_withoutZeros]
  · rw [Nat.compare_eq_gt.mpr h, Nat.compare_eq_gt.mpr (number_lt_of_length_lt hds hcs h),
      Ordering.gt_then]

structure Release where
  version : String
  prerelease : Bool
  assets : String → Option String

inductive Channel
  | stable | beta
  deriving DecidableEq

def Channel.includes (channel : Channel) (published : Release) : Bool :=
  channel == .beta || !published.prerelease

def payloadAssetNames (arch : String) : String × String :=
  ("minimalrouter-linux-" ++ arch ++ ".tar.gz", "minimalrouter-linux-" ++ arch ++ ".manifest.json")

def Release.hasPayload (r : Release) (arch : String) : Bool :=
  let (archive, manifest) := payloadAssetNames arch
  (r.assets archive).any (!·.isEmpty) && (r.assets manifest).any (!·.isEmpty)

def isNewer (candidate current : String) : Bool :=
  releaseVersionPattern candidate && releaseVersionPattern current &&
    (compareReleaseVersions candidate current).toOption == some .gt

def selectFrom (arch : String) (selected : Option Release × Option Release) (item : Release) :
    Option Release × Option Release :=
  (if selected.1.all fun n => isNewer item.version n.version then some item else selected.1,
    if item.hasPayload arch && selected.2.all fun c => isNewer item.version c.version then some item
    else selected.2)

def selectNewest (releases : List Release) (channel : Channel) (arch : String) :
    Option Release × Option Release :=
  (releases.filter channel.includes).foldl (selectFrom arch) (none, none)

theorem isNewer_iff : isNewer x y = true ↔ compareReleaseVersions x y = .ok .gt := by
  unfold isNewer
  cases h : compareReleaseVersions x y with
  | error => simp [Except.toOption]
  | ok =>
    obtain ⟨a, ha, b, hb, -⟩ := compareVersions_eq_ok.mp h
    simp [Except.toOption, pattern_of_parse ha, pattern_of_parse hb]

theorem compare_self (a : ParsedReleaseVersion) : a.compare a = .eq := Std.ReflCmp.compare_self

theorem isNewer_self (x : String) : isNewer x x = false := by
  rw [Bool.eq_false_iff, Ne, isNewer_iff, compareVersions_eq_ok]
  rintro ⟨a, ha, b, hb, hgt⟩
  cases ha.symm.trans hb
  cases (compare_self a).symm.trans hgt

theorem isNewer_keeps (hxy : isNewer x y = true) (hzy : isNewer z y = false) :
    isNewer z x = false := by
  rw [isNewer_iff, compareVersions_eq_ok] at hxy
  rw [Bool.eq_false_iff, Ne, isNewer_iff, compareVersions_eq_ok] at hzy ⊢
  obtain ⟨a, ha, b, hb, hab⟩ := hxy
  rintro ⟨c, hc, _, ha', hca⟩
  cases ha.symm.trans ha'
  exact hzy ⟨c, hc, b, hb, Std.TransCmp.gt_trans hca hab⟩

def newer (a b : Release) : Bool := isNewer a.version b.version

theorem isBest_newer (l : List Release) : IsBest newer l (best newer l) := by
  refine isBest_best (fun a => ?_) (fun a b c hab hcb => ?_) l
  · exact isNewer_self a.version
  · exact isNewer_keeps (x := a.version) hab hcb

theorem foldl_selectFrom (arch : String) (l : List Release) (newest candidate : Option Release) :
    l.foldl (selectFrom arch) (newest, candidate) =
      (l.foldl (keep newer) newest, (l.filter (·.hasPayload arch)).foldl (keep newer) candidate) := by
  induction l generalizing newest candidate with
  | nil => rfl
  | cons r l ih =>
    rw [List.foldl_cons, selectFrom, ih, List.filter_cons]
    cases r.hasPayload arch <;> rfl

def compareCore (a b : ParsedReleaseVersion) : Ordering :=
  (compare (number a.core.1) (number b.core.1)).then <|
  (compare (number a.core.2.1) (number b.core.2.1)).then <|
  compare (number a.core.2.2) (number b.core.2.2)

theorem compare_numbers (hx : parseReleaseVersion x = .ok a) (hy : parseReleaseVersion y = .ok b) :
    compareReleaseVersions x y =
      .ok ((compareCore a b).then (comparePrerelease a.prerelease b.prerelease)) := by
  refine compareVersions_eq_ok.mpr ⟨a, hx, b, hy, ?_⟩
  obtain ⟨_, ha, h1, h2, h3⟩ := parse_of_pattern (pattern_of_parse hx)
  obtain ⟨_, hb, h1', h2', h3'⟩ := parse_of_pattern (pattern_of_parse hy)
  cases hx.symm.trans ha
  cases hy.symm.trans hb
  rw [ParsedReleaseVersion.compare, compareNumericStrings_eq h1 h1', compareNumericStrings_eq h2 h2',
    compareNumericStrings_eq h3 h3', compareCore, Ordering.then_assoc, Ordering.then_assoc]

theorem parse_congr (hx : releaseVersionPattern x = true) (hy : releaseVersionPattern y = true)
    (h : (cutAt '+' (withoutV x.toList)).1 = (cutAt '+' (withoutV y.toList)).1) :
    parseReleaseVersion x = parseReleaseVersion y := by
  unfold parseReleaseVersion
  rw [if_neg (by simp [hx]), if_neg (by simp [hy])]
  dsimp only
  rw [h]

/-- Versions are ordered by their numbers, whatever leads or follows them, and a release is the
newest when none of the channel exceeds it. -/
theorem releases_ordered :
    (∀ x, releaseVersionPattern x = true → compareReleaseVersions x x = .ok .eq) ∧
    (∀ x y, releaseVersionPattern x = true → releaseVersionPattern y = true →
      ∃ o, compareReleaseVersions x y = .ok o ∧ compareReleaseVersions y x = .ok o.swap) ∧
    (∀ x y z o o', compareReleaseVersions x y = .ok o → compareReleaseVersions y z = .ok o' →
      o.isLE = true → o'.isLE = true →
      ∃ o'', compareReleaseVersions x z = .ok o'' ∧ o''.isLE = true) ∧
    (∀ x y a b, parseReleaseVersion x = .ok a → parseReleaseVersion y = .ok b →
      compareReleaseVersions x y =
        .ok ((compareCore a b).then (comparePrerelease a.prerelease b.prerelease))) ∧
    (∀ l r, numericIdentifier l = true → numericIdentifier r = true →
      compareIdentifier l r = compare (number l) (number r)) ∧
    (∀ x x' y, releaseVersionPattern x = true → releaseVersionPattern x' = true →
      (cutAt '+' (withoutV x.toList)).1 = (cutAt '+' (withoutV x'.toList)).1 →
      compareReleaseVersions x y = compareReleaseVersions x' y ∧
        compareReleaseVersions y x = compareReleaseVersions y x') ∧
    (∀ x y a b, parseReleaseVersion x = .ok a → parseReleaseVersion y = .ok b →
      compareCore a b = .eq → a.prerelease = [] → b.prerelease ≠ [] →
      compareReleaseVersions x y = .ok .gt) ∧ ∀ releases channel arch,
      IsBest newer (releases.filter (Channel.includes channel))
        (selectNewest releases channel arch).1 ∧
      IsBest newer ((releases.filter (Channel.includes channel)).filter (·.hasPayload arch))
        (selectNewest releases channel arch).2 := by
  refine ⟨fun x hx => ?_, fun x y hx hy => ?_, fun x y z o o' hxy hyz ho ho' => ?_,
    fun _ _ _ _ => compare_numbers, fun l r hl hr => ?_, fun x x' y hx hx' h => ?_,
    fun x y a b hx hy hcore hstable hpre => ?_, fun releases channel arch => ?_⟩
  · obtain ⟨a, ha, -⟩ := parse_of_pattern hx
    exact compareVersions_eq_ok.mpr ⟨a, ha, a, ha, compare_self a⟩
  · obtain ⟨a, ha, -⟩ := parse_of_pattern hx
    obtain ⟨b, hb, -⟩ := parse_of_pattern hy
    exact ⟨a.compare b, compareVersions_eq_ok.mpr ⟨a, ha, b, hb, rfl⟩,
      compareVersions_eq_ok.mpr ⟨b, hb, a, ha, Std.OrientedCmp.eq_swap⟩⟩
  · obtain ⟨a, ha, b, hb, rfl⟩ := compareVersions_eq_ok.mp hxy
    obtain ⟨_, hb', c, hc, rfl⟩ := compareVersions_eq_ok.mp hyz
    cases hb.symm.trans hb'
    exact ⟨_, compareVersions_eq_ok.mpr ⟨a, ha, c, hc, rfl⟩, Std.TransCmp.isLE_trans ho ho'⟩
  · simp only [compareIdentifier, hl, hr]
    simp only [numericIdentifier, Bool.and_eq_true, List.all_eq_true] at hl hr
    exact compareNumericStrings_eq hl.2 hr.2
  · rw [compareReleaseVersions, compareReleaseVersions, compareReleaseVersions,
      compareReleaseVersions, parse_congr hx hx' h]
    exact ⟨rfl, rfl⟩
  · rw [compare_numbers hx hy, hcore, hstable]
    cases hb : b.prerelease with
    | nil => exact absurd hb hpre
    | cons => rfl
  · rw [selectNewest, foldl_selectFrom]
    exact ⟨isBest_newer _, isBest_newer _⟩

end MinimalRouter.Api
