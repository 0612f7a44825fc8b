import MinimalRouter.Config.Disjoint

namespace MinimalRouter.Config

open Goish Lib Lib.Checks

/-- The characters that stand for nothing but themselves in the generated files. -/
def plainChar (c : Char) : Bool := alphanumericOr ['.', ':', '/', '-', '_', '+'] c

def Plain (s : String) : Prop := ∀ c ∈ s.toList, plainChar c = true

instance (s : String) : Decidable (Plain s) :=
  decidable_of_iff (s.toList.all plainChar = true) List.all_eq_true

def printableChar (c : Char) : Bool := 0x20 ≤ c.toNat

def Printable (s : String) : Prop := ∀ c ∈ s.toList, printableChar c = true

instance (s : String) : Decidable (Printable s) :=
  decidable_of_iff (s.toList.all printableChar = true) List.all_eq_true

theorem plain_literal (h : cs.all plainChar = true) : Plain (String.ofList cs) := by
  intro c hc
  rw [String.toList_ofList] at hc
  exact List.all_eq_true.mp h c hc

theorem printable_literal (h : cs.all printableChar = true) : Printable (String.ofList cs) := by
  intro c hc
  rw [String.toList_ofList] at hc
  exact List.all_eq_true.mp h c hc

theorem plainChar_of_alphanumeric (h : isAsciiAlphanumeric c = true) : plainChar c = true := by
  rw [plainChar, alphanumericOr, h, Bool.true_or]

theorem plainChar_of_digit (h : isAsciiDigit c = true) : plainChar c = true := by
  refine plainChar_of_alphanumeric ?_
  rw [isAsciiAlphanumeric, h, Bool.true_or, Bool.true_or]

theorem isAsciiAlphanumeric_of_isDigitOf (h : isDigitOf radix c = true) :
    isAsciiAlphanumeric c = true := by
  unfold isDigitOf toDigit at h
  unfold isAsciiAlphanumeric
  dsimp only at h
  split at h
  next hdigit => simp [hdigit]
  split at h
  next hlower => simp only [hlower, Bool.or_true, Bool.true_or]
  split at h
  next hupper => simp only [hupper, Bool.or_true]
  · cases h

theorem plainChar_of_addressChar (h : addressChar c = true ∨ c = '/') : plainChar c = true := by
  rcases h with h | rfl
  · simp only [addressChar, Bool.or_eq_true, beq_iff_eq] at h
    rcases h with (h | rfl) | rfl
    · exact plainChar_of_alphanumeric (isAsciiAlphanumeric_of_isDigitOf h)
    · decide
    · decide
  · decide

theorem toNat_of_plainChar (h : plainChar c = true) : 0x20 ≤ c.toNat ∧ c.toNat < 0x80 := by
  have hle : ∀ d e : Char, (decide (d ≤ c) && decide (c ≤ e)) = true →
      d.toNat ≤ c.toNat ∧ c.toNat ≤ e.toNat := by
    intro d e hde
    rw [Bool.and_eq_true, decide_eq_true_eq, decide_eq_true_eq] at hde
    exact hde
  simp only [plainChar, alphanumericOr, isAsciiAlphanumeric, Bool.or_eq_true] at h
  rcases h with ((hdigit | hlower) | hupper) | hother
  · have := isAsciiDigit_iff.mp hdigit
    omega
  · have := hle 'a' 'z' hlower
    have : 'a'.toNat = 97 ∧ 'z'.toNat = 122 := by decide
    omega
  · have := hle 'A' 'Z' hupper
    have : 'A'.toNat = 65 ∧ 'Z'.toNat = 90 := by decide
    omega
  have hother : c ∈ ['.', ':', '/', '-', '_', '+'] := by simpa using hother
  simp only [List.mem_cons, List.not_mem_nil, or_false] at hother
  rcases hother with rfl | rfl | rfl | rfl | rfl | rfl <;> decide

theorem Plain.printable (h : Plain s) : Printable s :=
  fun c hc => decide_eq_true (toNat_of_plainChar (h c hc)).1

theorem printable_of_not_hasUnsafeControl (h : hasUnsafeControl s = false) : Printable s := by
  intro c hc
  have hcontrol := List.any_eq_false.mp h c hc
  simp only [isControl, Bool.or_eq_true, decide_eq_true_eq, not_or, Nat.not_lt] at hcontrol
  exact decide_eq_true hcontrol.1

theorem plain_of_startsThen (hfirst : ∀ c, first c = true → plainChar c = true)
    (hrest : ∀ c, rest c = true → plainChar c = true) (h : startsThen first rest most s = true) :
    Plain s := by
  intro c hc
  unfold startsThen at h
  split at h
  next => cases h
  next d ds hds =>
  simp only [Bool.and_eq_true, List.all_eq_true] at h
  rw [hds] at hc
  rcases List.mem_cons.mp hc with rfl | hc
  · exact hfirst c h.1.1
  · exact hrest c (h.1.2 c hc)

theorem plain_of_startsEnds (hfirst : ∀ c, first c = true → plainChar c = true)
    (hrest : ∀ c, rest c = true → plainChar c = true) (h : startsEnds first rest most s = true) :
    Plain s := by
  intro c hc
  unfold startsEnds at h
  split at h
  next => cases h
  next d ds hds =>
  simp only [Bool.and_eq_true, Bool.or_eq_true, List.all_eq_true] at h
  rw [hds] at hc
  rcases List.mem_cons.mp hc with rfl | hc
  · exact hfirst c h.1
  rcases h.2 with hempty | ⟨⟨hlast, hmiddle⟩, -⟩
  · rw [List.isEmpty_iff.mp hempty] at hc
    cases hc
  obtain ⟨last, hds', hend⟩ := (Option.any_eq_true _ _).mp hlast
  obtain ⟨_, rfl⟩ := List.getLast?_eq_some_iff.mp hds'
  rw [List.dropLast_concat] at hmiddle
  rcases List.mem_append.mp hc with hc | hc
  · exact hrest c (hmiddle c hc)
  · rw [List.mem_singleton.mp hc]
    exact hfirst last hend

theorem plainChar_of_alphanumericOr (hothers : others.all plainChar = true)
    (h : alphanumericOr others c = true) : plainChar c = true := by
  rw [alphanumericOr, Bool.or_eq_true] at h
  rcases h with h | h
  · exact plainChar_of_alphanumeric h
  · exact List.all_eq_true.mp hothers c (by simpa using h)

theorem plain_of_validInterfaceName (h : validInterfaceName s = true) : Plain s :=
  plain_of_startsThen (fun _ => plainChar_of_alphanumeric)
    (fun _ => plainChar_of_alphanumericOr rfl) h

theorem plain_of_hostnamePattern (h : hostnamePattern s = true) : Plain s :=
  plain_of_startsEnds (fun _ => plainChar_of_alphanumeric)
    (fun _ => plainChar_of_alphanumericOr rfl) h

theorem plain_of_domainPattern (h : domainPattern s = true) : Plain s :=
  plain_of_startsEnds (fun _ => plainChar_of_alphanumeric)
    (fun _ => plainChar_of_alphanumericOr rfl) h

theorem plain_of_parseIp (h : parseIp s = some ip) : Plain s :=
  fun c hc => plainChar_of_addressChar (.inl (addressChar_of_parseIp h c hc))

theorem plain_of_parseIpv4 (h : parseIpv4 s = some x) : Plain s := by
  obtain ⟨_, hip, -⟩ := Option.bind_eq_some_iff.mp h
  exact plain_of_parseIp hip

theorem plain_of_parseCidr (h : parseCidr s = some r) : Plain s :=
  fun c hc => plainChar_of_addressChar ((chars_of_parseCidr h).2 c hc)

theorem plain_of_goAtoi (h : goAtoi s = some n) : Plain s := by
  unfold goAtoi at h
  dsimp only at h
  generalize hdigits : (if (s.toList.head? == some '+' || s.toList.head? == some '-') = true
    then s.toList.tail else s.toList) = digits at h
  have hall : ∀ c ∈ digits, plainChar c = true := by
    cases hguard : digits.isEmpty || !digits.all isAsciiDigit with
    | true => simp [hguard] at h
    | false =>
      rw [Bool.or_eq_false_iff, Bool.not_eq_false', List.all_eq_true] at hguard
      exact fun c hc => plainChar_of_digit (hguard.2 c hc)
  intro c hc
  split at hdigits
  next hsign =>
    cases hcs : s.toList with
    | nil => simp [hcs] at hc
    | cons =>
      rw [hcs] at hc hsign hdigits
      rcases List.mem_cons.mp hc with rfl | hc
      · have hc : c = '+' ∨ c = '-' := by simpa using hsign
        rcases hc with rfl | rfl <;> decide
      · exact hall c (hdigits ▸ hc)
  next => exact hall c (hdigits ▸ hc)

theorem plain_of_parseClock (h : parseClock s = some r) : Plain s := by
  obtain ⟨_, _, heq, -, hdigits, -⟩ := parseClock_eq_some h
  intro c hc
  rw [heq] at hc
  rcases List.mem_append.mp hc with hc | hc
  · exact plainChar_of_digit (hdigits c (List.mem_append_left _ hc))
  obtain rfl | hc := List.mem_cons.mp hc
  · decide
  · exact plainChar_of_digit (hdigits c (List.mem_append_right _ hc))

theorem isDigitOf_of_toDigit (h : toDigit radix c = some n) : isDigitOf radix c = true := by
  rw [isDigitOf, h]
  rfl

theorem chars_of_xtoi2 (h : xtoi2 cs sep = some n) :
    ∀ k c, k ≤ 2 → cs[k]? = some c → isDigitOf 16 c = true ∨ k = 2 ∧ c = sep := by
  unfold xtoi2 at h
  split at h
  next hi lo rest =>
    split at h
    next => cases h
    next hsep =>
    simp only [Option.bind_eq_bind, Option.bind_eq_some_iff] at h
    obtain ⟨_, hhigh, _, hlow, -⟩ := h
    intro k c hk hc
    match k, hk with
    | 0, _ => exact .inl (Option.some.inj hc ▸ isDigitOf_of_toDigit hhigh)
    | 1, _ => exact .inl (Option.some.inj hc ▸ isDigitOf_of_toDigit hlow)
    | 2, _ =>
      refine .inr ⟨rfl, ?_⟩
      rw [show (hi :: lo :: rest)[2]? = rest[0]? from rfl, ← List.head?_eq_getElem?] at hc
      simpa [hc] using hsep
  next => cases h

theorem chars_of_groups {cs : List Char} (h : (List.range n).mapM f = some bytes)
    (hsep : plainChar sep = true)
    (hplaces : ∀ k < cs.length, ∃ i < n, ∃ part m, xtoi2 part sep = f i ∧ m ≤ 2 ∧ part[m]? = cs[k]?) :
    ∀ c ∈ cs, plainChar c = true := by
  intro c hc
  obtain ⟨k, hk, rfl⟩ := List.mem_iff_getElem.mp hc
  obtain ⟨i, hi, part, m, hpart, hm, heq⟩ := hplaces k hk
  obtain ⟨b, hb⟩ := exists_of_mapM h i (List.mem_range.mpr hi)
  rw [List.getElem?_eq_getElem hk] at heq
  rcases chars_of_xtoi2 (hpart.trans hb) m _ hm heq with hdigit | ⟨-, hc⟩
  · exact plainChar_of_alphanumeric (isAsciiAlphanumeric_of_isDigitOf hdigit)
  · rw [hc]
    exact hsep

theorem plain_of_bytes
    (h : ∀ c ∈ s.toByteArray.data.toList.map fun b => Char.ofNat b.toNat, plainChar c = true) :
    Plain s := by
  have hbytes : s.toByteArray.data.toList = Utf8.encode s.toList := by
    conv_lhs => rw [← String.ofList_toList (s := s), String.toByteArray_ofList]
    simp [List.utf8Encode, Utf8.encode]
  intro c hc
  have hmem (b : UInt8) (hb : b ∈ String.utf8EncodeChar c) : plainChar (Char.ofNat b.toNat) = true := by
    refine h _ (List.mem_map.mpr ⟨b, ?_, rfl⟩)
    rw [hbytes]
    exact List.mem_flatMap.mpr ⟨c, hc, hb⟩
  cases hascii : Utf8.isAscii c with
  | true =>
    have hb := hmem (UInt8.ofNat c.toNat) (by simp [Utf8.utf8EncodeChar_ascii hascii])
    have hlt : c.toNat < 0x80 := of_decide_eq_true hascii
    rwa [UInt8.toNat_ofNat', Nat.mod_eq_of_lt (by omega), Char.ofNat_toNat] at hb
  | false =>
    obtain ⟨b, _, hbs⟩ := List.exists_cons_of_ne_nil (Utf8.utf8EncodeChar_ne_nil c)
    have hb : b ∈ String.utf8EncodeChar c := hbs ▸ List.mem_cons_self
    have hwide := Utf8.utf8EncodeChar_wide hascii b hb
    have hplain := (toNat_of_plainChar (hmem b hb)).2
    have hlt := b.toNat_lt
    rw [Utf8.toNat_ofNat (.inl (by omega))] at hplain
    omega

theorem plain_of_parseMac (h : parseMac s = some bytes) : Plain s := by
  unfold parseMac at h
  dsimp only at h
  refine plain_of_bytes ?_
  generalize s.toByteArray.data.toList.map (fun b => Char.ofNat b.toNat) = cs at *
  split at h
  next => cases h
  split at h
  next hsep =>
    split at h
    next => cases h
    next hlength =>
    have hlength : (cs.length + 1) % 3 = 0 := by
      by_contra hne
      exact hlength (.inl hne)
    refine chars_of_groups h ?_ fun k hk =>
      ⟨k / 3, by omega, cs.drop (3 * (k / 3)), k % 3, rfl, by omega, ?_⟩
    · rcases hsep with hsep | hsep <;> rw [hsep] <;> decide
    · rw [List.getElem?_drop, Nat.div_add_mod]
  next =>
  split at h
  next =>
    split at h
    next => cases h
    next hlength =>
    have hlength : (cs.length + 1) % 5 = 0 := by
      by_contra hne
      exact hlength (.inl hne)
    refine chars_of_groups h (by decide : plainChar '.' = true) fun k hk => ?_
    by_cases hlow : k % 5 < 2
    · refine ⟨2 * (k / 5), by omega, (cs.drop (2 * (k / 5) / 2 * 5)).take 2, k % 5, ?_, by omega, ?_⟩
      · rw [if_pos (by omega)]
      rw [List.getElem?_take_of_lt hlow, List.getElem?_drop]
      congr 1
      omega
    refine ⟨2 * (k / 5) + 1, by omega, cs.drop ((2 * (k / 5) + 1) / 2 * 5 + 2), k % 5 - 2, ?_,
      by omega, ?_⟩
    · rw [if_neg (by omega)]
    rw [List.getElem?_drop]
    congr 1
    omega
  next => cases h

theorem plain_hexString (n : Nat) : Plain (hexString n) := by
  have hdigit : ∀ d < 16, plainChar (Nat.digitChar d) = true := by decide
  intro c hc
  rw [hexString, String.toList_ofList] at hc
  induction n using Nat.strongRecOn with
  | ind n ih =>
    rw [Nat.toDigits_eq_if (by decide)] at hc
    split at hc
    next hlt =>
      rw [List.mem_singleton.mp hc]
      exact hdigit n hlt
    next hle =>
    rcases List.mem_append.mp hc with hc | hc
    · exact ih (n / 16) (by omega) hc
    · rw [List.mem_singleton.mp hc]
      exact hdigit _ (Nat.mod_lt _ (by decide))

theorem plain_append (h : Plain s) (h' : Plain s') : Plain (s ++ s') := by
  intro c hc
  rw [String.toList_append] at hc
  rcases List.mem_append.mp hc with hc | hc
  · exact h c hc
  · exact h' c hc

theorem plain_groupsString (groups : List Nat) : Plain (groupsString groups) := by
  intro c hc
  rw [groupsString, String.toList_intercalate] at hc
  rcases Segments.mem_of_mem_intercalate hc with hc | ⟨_, hpart, hc⟩
  · rw [List.mem_singleton.mp hc]
    decide
  simp only [List.map_map, List.mem_map] at hpart
  obtain ⟨n, -, rfl⟩ := hpart
  exact plain_hexString n c hc

theorem plain_toString (ip : IP) : Plain ip.toString := by
  cases ip with
  | v4 x => exact fun c hc => plainChar_of_addressChar (.inl (octetsString_chars x c hc))
  | v6 =>
    unfold IP.toString ipv6String
    dsimp only
    split
    · exact plain_append (plain_append (plain_groupsString _) (plain_literal rfl)) (plain_groupsString _)
    · exact plain_groupsString _

theorem plain_maskString (n : IPNet) : Plain n.maskString := by
  unfold IPNet.maskString
  split
  · exact plain_toString (.v4 _)
  · exact plain_toString _

def microChars : List Char := ['\u00b5', '\u03bc']

def durationChar (c : Char) : Bool := plainChar c || microChars.contains c

theorem durationChar_of_plainChar (h : plainChar c = true) : durationChar c = true := by
  rw [durationChar, h, Bool.true_or]

theorem durationChar_of_unitOf (h : unitOf unit = some n) : ∀ c ∈ unit, durationChar c = true := by
  unfold unitOf at h
  split at h
  next heq => subst heq; exact List.all_eq_true.mp rfl
  split at h
  next heq => rcases heq with rfl | rfl | rfl <;> exact List.all_eq_true.mp rfl
  split at h
  next heq => subst heq; exact List.all_eq_true.mp rfl
  split at h
  next heq => subst heq; exact List.all_eq_true.mp rfl
  split at h
  next heq => subst heq; exact List.all_eq_true.mp rfl
  split at h
  next heq => subst heq; exact List.all_eq_true.mp rfl
  next => cases h

theorem mem_split_while {cs : List Char} (h : c ∈ cs) : p c = true ∨ c ∈ cs.dropWhile p := by
  rw [← List.takeWhile_append_dropWhile (p := p) (l := cs)] at h
  rcases List.mem_append.mp h with h | h
  · exact .inl (List.mem_takeWhile_imp h)
  · exact .inr h

theorem chars_of_readTerm (h : readTerm scaled cs = some (v, rest)) :
    ∀ c ∈ cs, durationChar c = true ∨ c ∈ rest := by
  have hdigit {c : Char} (hc : isAsciiDigit c = true) : durationChar c = true :=
    durationChar_of_plainChar (plainChar_of_digit hc)
  unfold readTerm at h
  dsimp only at h
  generalize hafter : (if (List.dropWhile isAsciiDigit cs).head? == some '.' then
    (List.dropWhile isAsciiDigit cs).tail.dropWhile isAsciiDigit
      else List.dropWhile isAsciiDigit cs) = after at h
  have hnumber : ∀ c ∈ cs, durationChar c = true ∨ c ∈ after := by
    intro c hc
    rcases mem_split_while (p := isAsciiDigit) hc with hc | hc
    · exact .inl (hdigit hc)
    split at hafter
    next hdot =>
      cases hdrop : List.dropWhile isAsciiDigit cs with
      | nil => simp [hdrop] at hc
      | cons =>
        rw [hdrop] at hc hdot hafter
        rcases List.mem_cons.mp hc with rfl | hc
        · have hdot : c = '.' := by simpa using hdot
          rw [hdot]
          exact .inl (by decide)
        rcases mem_split_while (p := isAsciiDigit) hc with hc | hc
        · exact .inl (hdigit hc)
        · exact .inr (hafter ▸ hc)
    next => exact .inr (hafter ▸ hc)
  generalize (if (List.dropWhile isAsciiDigit cs).head? == some '.' then
    (List.dropWhile isAsciiDigit cs).tail.takeWhile isAsciiDigit else []) = fraction at h
  split at h
  next => cases h
  split at h
  next => cases h
  next =>
  obtain ⟨unit, hunit, h⟩ := Option.bind_eq_some_iff.mp h
  generalize (if (fractionValue fraction).1 > 0 then
    scaled (fractionValue fraction).1 unit (fractionValue fraction).2 else 0) = extra at h
  split at h
  next => cases h
  split at h
  next => cases h
  next =>
  cases h
  intro c hc
  rcases hnumber c hc with hc | hc
  · exact .inl hc
  rw [← List.takeWhile_append_dropWhile (p := fun c => c != '.' && !isAsciiDigit c)
    (l := after)] at hc
  rcases List.mem_append.mp hc with hc | hc
  · exact .inl (durationChar_of_unitOf hunit c hc)
  · exact .inr hc

theorem chars_of_readTerms (h : readTerms scaled fuel total cs = some n) :
    ∀ c ∈ cs, durationChar c = true := by
  induction fuel generalizing total cs with
  | zero =>
    cases cs with
    | nil => exact List.forall_mem_nil _
    | cons => cases h
  | succ fuel ih =>
    cases cs with
    | nil => exact List.forall_mem_nil _
    | cons =>
      obtain ⟨⟨v, _⟩, hterm, h⟩ := Option.bind_eq_some_iff.mp h
      dsimp only at h
      split at h
      next => cases h
      next =>
      intro d hd
      rcases chars_of_readTerm hterm d hd with hd | hd
      · exact hd
      · exact ih h d hd

theorem durationChar_of_parseDuration (h : parseDuration scaled s = some n) :
    ∀ c ∈ s.toList, durationChar c = true := by
  unfold parseDuration at h
  dsimp only at h
  generalize hunsigned : (if (s.toList.head? == some '-' || s.toList.head? == some '+') = true
    then s.toList.tail else s.toList) = unsigned at h
  have hall : ∀ c ∈ unsigned, durationChar c = true := by
    by_cases hzero : unsigned = ['0']
    · rw [hzero]
      exact List.forall_mem_singleton.mpr rfl
    rw [if_neg hzero] at h
    cases unsigned with
    | nil => exact List.forall_mem_nil _
    | cons =>
      obtain ⟨_, htotal, -⟩ := Option.bind_eq_some_iff.mp h
      exact chars_of_readTerms htotal
  intro c hc
  split at hunsigned
  next hsign =>
    cases hcs : s.toList with
    | nil => simp [hcs] at hc
    | cons =>
      rw [hcs] at hc hsign hunsigned
      rcases List.mem_cons.mp hc with rfl | hc
      · have hc : c = '-' ∨ c = '+' := by simpa using hsign
        rcases hc with rfl | rfl <;> decide
      · exact hall c (hunsigned ▸ hc)
  next => exact hall c (hunsigned ▸ hc)

end MinimalRouter.Config
