import Mathlib.Data.List.Basic

namespace MinimalRouter.Lib.Utf8

def byteLen : List Char → Nat
  | [] => 0
  | c :: cs => c.utf8Size + byteLen cs

/-- The text before a byte position, when that position is between two characters. -/
def cutAt : Nat → List Char → Option (List Char)
  | 0, _ => some []
  | _ + 1, [] => none
  | n + 1, c :: cs =>
    if c.utf8Size ≤ n + 1 then (cutAt (n + 1 - c.utf8Size) cs).map (c :: ·) else none

def isCharBoundary (n : Nat) (cs : List Char) : Bool := (cutAt n cs).isSome

/-- Shortens the text in place.  The operation is partial: there is no result when the position
lies inside a character. -/
def truncate (n : Nat) (cs : List Char) : Option (List Char) :=
  if n ≤ byteLen cs then cutAt n cs else some cs

def within : Nat → List Char → List Char
  | _, [] => []
  | n, c :: cs => if c.utf8Size ≤ n then c :: within (n - c.utf8Size) cs else []

theorem cutAt_eq_some (h : cutAt n cs = some ds) : ds <+: cs ∧ byteLen ds = n := by
  induction cs generalizing n ds with
  | nil =>
    cases n with
    | zero => simp_all [cutAt, byteLen]
    | succ => simp [cutAt] at h
  | cons c cs ih =>
    cases n with
    | zero => simp_all [cutAt, byteLen]
    | succ =>
      simp only [cutAt] at h
      split at h
      · rename_i hc
        obtain ⟨_, hes, rfl⟩ := Option.map_eq_some_iff.mp h
        obtain ⟨hp, hl⟩ := ih hes
        refine ⟨(List.prefix_cons_inj c).mpr hp, ?_⟩
        simp only [byteLen, hl]
        omega
      · simp at h

theorem cutAt_append (as bs : List Char) : cutAt (byteLen as) (as ++ bs) = some as := by
  induction as with
  | nil => simp [byteLen, cutAt]
  | cons a as ih =>
  have ha := Char.utf8Size_pos a
  obtain ⟨n, hn⟩ : ∃ n, byteLen (a :: as) = n + 1 := ⟨byteLen (a :: as) - 1, by
    simp only [byteLen]
    omega⟩
  have hrest : n + 1 - a.utf8Size = byteLen as := by
    simp only [byteLen] at hn
    omega
  have hle : a.utf8Size ≤ n + 1 := by
    simp only [byteLen] at hn
    omega
  rw [hn, List.cons_append]
  simp only [cutAt]
  rw [if_pos hle, hrest, ih]
  rfl

theorem isCharBoundary_iff : isCharBoundary n cs = true ↔ ∃ ds, ds <+: cs ∧ byteLen ds = n := by
  constructor
  · intro h
    obtain ⟨ds, hds⟩ := Option.isSome_iff_exists.mp h
    exact ⟨ds, cutAt_eq_some hds⟩
  · rintro ⟨ds, ⟨_, rfl⟩, rfl⟩
    simp [isCharBoundary, cutAt_append]

@[simp] theorem isCharBoundary_byteLen (cs : List Char) : isCharBoundary (byteLen cs) cs = true :=
  isCharBoundary_iff.mpr ⟨cs, List.prefix_refl cs, rfl⟩

theorem truncate_eq_none : truncate n cs = none ↔ n < byteLen cs ∧ isCharBoundary n cs = false := by
  have hcut : isCharBoundary n cs = false ↔ cutAt n cs = none := by simp [isCharBoundary]
  rw [hcut]
  unfold truncate
  rcases Nat.lt_trichotomy n (byteLen cs) with h | h | h
  · simp [h, Nat.le_of_lt h]
  · have hb : cutAt n cs ≠ none := by
      rw [Ne, ← hcut, h]
      simp
    simp [h] at hb ⊢
    exact hb
  · simp [Nat.not_le.mpr h, Nat.not_lt.mpr (Nat.le_of_lt h)]

def isWhitespace (c : Char) : Bool :=
  let n := c.toNat
  (9 ≤ n && n ≤ 13) || n == 0x20 || n == 0x85 || n == 0xA0 || n == 0x1680 ||
    (0x2000 ≤ n && n ≤ 0x200A) || n == 0x2028 || n == 0x2029 || n == 0x202F || n == 0x205F ||
    n == 0x3000

def trim (cs : List Char) : List Char :=
  ((cs.dropWhile isWhitespace).reverse.dropWhile isWhitespace).reverse

def replacement : Char := Char.ofNat 0xFFFD

def isContinuation (b : UInt8) : Bool := b.toNat / 64 == 2

/-- The second byte of a three or four byte sequence must exclude overlong forms, surrogates and
values above U+10FFFF. -/
def isSecond (b c : UInt8) : Bool :=
  let n := b.toNat
  let m := c.toNat
  if n == 0xE0 then 0xA0 ≤ m && m ≤ 0xBF
  else if n == 0xED then 0x80 ≤ m && m ≤ 0x9F
  else if n == 0xF0 then 0x90 ≤ m && m ≤ 0xBF
  else if n == 0xF4 then 0x80 ≤ m && m ≤ 0x8F
  else isContinuation c

/-- Decodes bytes, with one replacement character for every maximal ill-formed sequence. -/
def fromUtf8Lossy : List UInt8 → List Char
  | [] => []
  | b :: rest =>
    let n := b.toNat
    if n < 0x80 then Char.ofNat n :: fromUtf8Lossy rest
    else if 0xC2 ≤ n ∧ n ≤ 0xDF then
      match rest with
      | [] => [replacement]
      | c :: rest1 =>
        if isContinuation c then
          Char.ofNat ((n - 0xC0) * 64 + (c.toNat - 0x80)) :: fromUtf8Lossy rest1
        else replacement :: fromUtf8Lossy (c :: rest1)
    else if 0xE0 ≤ n ∧ n ≤ 0xEF then
      match rest with
      | [] => [replacement]
      | c :: rest1 =>
        if isSecond b c then
          match rest1 with
          | [] => [replacement]
          | d :: rest2 =>
            if isContinuation d then
              Char.ofNat ((n - 0xE0) * 4096 + (c.toNat - 0x80) * 64 + (d.toNat - 0x80)) ::
                fromUtf8Lossy rest2
            else replacement :: fromUtf8Lossy (d :: rest2)
        else replacement :: fromUtf8Lossy (c :: rest1)
    else if 0xF0 ≤ n ∧ n ≤ 0xF4 then
      match rest with
      | [] => [replacement]
      | c :: rest1 =>
        if isSecond b c then
          match rest1 with
          | [] => [replacement]
          | d :: rest2 =>
            if isContinuation d then
              match rest2 with
              | [] => [replacement]
              | e :: rest3 =>
                if isContinuation e then
                  Char.ofNat ((n - 0xF0) * 262144 + (c.toNat - 0x80) * 4096 +
                    (d.toNat - 0x80) * 64 + (e.toNat - 0x80)) :: fromUtf8Lossy rest3
                else replacement :: fromUtf8Lossy (e :: rest3)
            else replacement :: fromUtf8Lossy (d :: rest2)
        else replacement :: fromUtf8Lossy (c :: rest1)
    else replacement :: fromUtf8Lossy rest

def chars (s : String) : List Char := fromUtf8Lossy s.toByteArray.data.toList

def encode (cs : List Char) : List UInt8 := cs.flatMap String.utf8EncodeChar

def isAscii (c : Char) : Bool := c.toNat < 0x80

def asciiBytes (cs : List Char) : List UInt8 := cs.map fun c => UInt8.ofNat c.toNat

@[simp] theorem encode_append (as bs : List Char) : encode (as ++ bs) = encode as ++ encode bs :=
  List.flatMap_append

@[simp] theorem encode_cons (c : Char) (cs : List Char) :
    encode (c :: cs) = String.utf8EncodeChar c ++ encode cs :=
  List.flatMap_cons

theorem toNat_ofNat (h : n.isValidChar) : (Char.ofNat n).toNat = n := by
  unfold Char.ofNat
  rw [dif_pos h]
  rfl

theorem wide_ofNat (hvalid : n.isValidChar) (hn : 0x80 ≤ n) : isAscii (Char.ofNat n) = false := by
  rw [isAscii, toNat_ofNat hvalid]
  exact decide_eq_false (Nat.not_lt.mpr hn)

theorem fromUtf8Lossy_ascii (hb : b.toNat < 0x80) (rest : List UInt8) :
    fromUtf8Lossy (b :: rest) = Char.ofNat b.toNat :: fromUtf8Lossy rest := by
  rw [fromUtf8Lossy.eq_def]
  exact if_pos hb

theorem isContinuation_iff : isContinuation b = true ↔ 0x80 ≤ b.toNat ∧ b.toNat < 0xC0 := by
  rw [isContinuation, beq_iff_eq]
  omega

theorem isSecond_bounds (h : isSecond b c = true) :
    (0x80 ≤ c.toNat ∧ c.toNat < 0xC0) ∧ (b.toNat = 0xE0 → 0xA0 ≤ c.toNat) ∧
      (b.toNat = 0xED → c.toNat ≤ 0x9F) ∧ (b.toNat = 0xF0 → 0x90 ≤ c.toNat) ∧
      (b.toNat = 0xF4 → c.toNat ≤ 0x8F) := by
  simp only [isSecond, beq_iff_eq] at h
  repeat' split at h
  all_goals
    simp only [Bool.and_eq_true, decide_eq_true_eq, isContinuation_iff] at h
    omega

theorem head_fromUtf8Lossy (hb : 0x80 ≤ b.toNat) (rest : List UInt8) :
    ∃ c cs, fromUtf8Lossy (b :: rest) = c :: cs ∧ isAscii c = false := by
  have hreplacement : ∀ cs, ∃ c ds, replacement :: cs = c :: ds ∧ isAscii c = false :=
    fun cs => ⟨_, cs, rfl, by decide⟩
  rw [fromUtf8Lossy.eq_def]
  dsimp only
  rw [if_neg (Nat.not_lt.mpr hb)]
  split
  · next hn =>
    split
    · exact hreplacement _
    split
    · next hc =>
      rw [isContinuation_iff] at hc
      exact ⟨_, _, rfl, wide_ofNat (.inl (by omega)) (by omega)⟩
    · exact hreplacement _
  split
  · next hn =>
    split
    · exact hreplacement _
    split
    · next hc =>
      split
      · exact hreplacement _
      split
      · next hd =>
        rw [isContinuation_iff] at hd
        have hc := isSecond_bounds hc
        exact ⟨_, _, rfl, wide_ofNat (by unfold Nat.isValidChar; omega) (by omega)⟩
      · exact hreplacement _
    · exact hreplacement _
  split
  · next hn =>
    split
    · exact hreplacement _
    split
    · next hc =>
      split
      · exact hreplacement _
      split
      · next hd =>
        split
        · exact hreplacement _
        split
        · next he =>
          rw [isContinuation_iff] at hd he
          have hc := isSecond_bounds hc
          exact ⟨_, _, rfl, wide_ofNat (.inr (by omega)) (by omega)⟩
        · exact hreplacement _
      · exact hreplacement _
    · exact hreplacement _
  · exact hreplacement _

theorem fromUtf8Lossy_eq_ascii (hcs : ∀ c ∈ cs, isAscii c = true) :
    fromUtf8Lossy bs = cs ↔ bs = asciiBytes cs := by
  unfold asciiBytes
  constructor
  · intro h
    induction bs generalizing cs with
    | nil =>
      subst h
      rfl
    | cons b bs ih =>
      by_cases hb : b.toNat < 0x80
      · rw [fromUtf8Lossy_ascii hb] at h
        subst h
        simp only [List.mem_cons, forall_eq_or_imp] at hcs
        rw [List.map_cons, ← ih hcs.2 rfl, toNat_ofNat (by left; omega)]
        simp
      obtain ⟨c, _, hhead, hwide⟩ := head_fromUtf8Lossy (Nat.not_lt.mp hb) bs
      rw [hhead] at h
      subst h
      simp [hcs c] at hwide
  rintro rfl
  induction cs with
  | nil => rfl
  | cons c cs ih =>
    simp only [List.mem_cons, forall_eq_or_imp] at hcs
    have hc : c.toNat < 0x80 := by simpa [isAscii] using hcs.1
    have hb : (UInt8.ofNat c.toNat).toNat = c.toNat := by
      rw [UInt8.toNat_ofNat']
      omega
    rw [List.map_cons, fromUtf8Lossy_ascii (by omega), hb, ih hcs.2, Char.ofNat_toNat]

theorem utf8EncodeChar_ascii (h : isAscii c = true) :
    String.utf8EncodeChar c = [UInt8.ofNat c.toNat] :=
  if_pos (Nat.le_of_lt_succ (of_decide_eq_true h))

theorem utf8EncodeChar_wide (h : isAscii c = false) :
    ∀ b ∈ String.utf8EncodeChar c, 0x80 ≤ b.toNat := by
  have hbyte : ∀ n, 0x80 ≤ n → n < 0x100 → 0x80 ≤ (UInt8.ofNat n).toNat := by
    intro n hlow hhigh
    rw [UInt8.toNat_ofNat']
    omega
  have hwide : ¬ c.val.toNat ≤ 127 := Nat.not_le.mpr (Nat.not_lt.mp (of_decide_eq_false h))
  unfold String.utf8EncodeChar
  dsimp only
  rw [if_neg hwide]
  split
  · simp only [List.forall_mem_cons]
    exact ⟨hbyte _ (by omega) (by omega), hbyte _ (by omega) (by omega), by simp⟩
  split
  · simp only [List.forall_mem_cons]
    exact ⟨hbyte _ (by omega) (by omega), hbyte _ (by omega) (by omega),
      hbyte _ (by omega) (by omega), by simp⟩
  simp only [List.forall_mem_cons]
  exact ⟨hbyte _ (by omega) (by omega), hbyte _ (by omega) (by omega),
    hbyte _ (by omega) (by omega), hbyte _ (by omega) (by omega), by simp⟩

theorem utf8EncodeChar_ne_nil (c : Char) : String.utf8EncodeChar c ≠ [] := by
  unfold String.utf8EncodeChar
  dsimp only
  repeat' split
  all_goals exact List.cons_ne_nil _ _

theorem encode_eq_cons (h : encode cs = b :: rest) (hb : b.toNat < 0x80) :
    ∃ c cs', cs = c :: cs' ∧ Char.ofNat b.toNat = c ∧ encode cs' = rest := by
  cases cs with
  | nil => cases h
  | cons c cs =>
  rw [encode_cons] at h
  cases hc : isAscii c with
  | false =>
    obtain ⟨b', tail, htail⟩ := List.exists_cons_of_ne_nil (utf8EncodeChar_ne_nil c)
    rw [htail] at h
    obtain ⟨rfl, -⟩ := List.cons.inj h
    have := utf8EncodeChar_wide hc b' (by simp [htail])
    omega
  | true =>
    rw [utf8EncodeChar_ascii hc] at h
    obtain ⟨rfl, rfl⟩ := List.cons.inj h
    have hlt : c.toNat < 0x80 := of_decide_eq_true hc
    refine ⟨c, cs, rfl, ?_, rfl⟩
    rw [UInt8.toNat_ofNat', Nat.mod_eq_of_lt (by omega), Char.ofNat_toNat]

theorem mem_of_mem_trim (h : c ∈ trim cs) : c ∈ cs := by
  have hafter := (List.dropWhile_suffix _).subset (List.mem_reverse.mp h)
  exact (List.dropWhile_suffix _).subset (List.mem_reverse.mp hafter)

theorem trim_eq_self (h : ∀ c ∈ cs, isWhitespace c = false) : trim cs = cs := by
  have hdrop : ∀ ds : List Char, (∀ c ∈ ds, isWhitespace c = false) → ds.dropWhile isWhitespace = ds := by
    intro ds hds
    cases ds with
    | nil => rfl
    | cons c => rw [List.dropWhile_cons, hds c List.mem_cons_self]; rfl
  rw [trim, hdrop cs h, hdrop cs.reverse (by simpa using h), List.reverse_reverse]

end MinimalRouter.Lib.Utf8
