import Mathlib.Data.List.TakeWhile
import MinimalRouter.Goish.Net
import MinimalRouter.Lib.Segments

namespace MinimalRouter.Goish

open Lib

def addressChar (c : Char) : Bool := isDigitOf 16 c || c == ':' || c == '.'

theorem addressChar_of_isAsciiDigit (h : isAsciiDigit c = true) : addressChar c = true := by
  have hle := isAsciiDigit_iff.mp h
  have hlt : c.toNat - 48 < 16 := by omega
  simp [addressChar, isDigitOf, toDigit, h, hlt]

def Spells (cs rest : List Char) : Prop := ∀ c ∈ cs, addressChar c = true ∨ c ∈ rest

theorem Spells.refl (cs : List Char) : Spells cs cs := fun _ => .inr

theorem Spells.trans (h : Spells cs ds) (h' : Spells ds es) : Spells cs es :=
  fun c hc => (h c hc).elim .inl (h' c)

theorem Spells.addressChar (h : Spells cs []) : ∀ c ∈ cs, addressChar c = true :=
  fun c hc => (h c hc).resolve_right List.not_mem_nil

theorem spells_of_readGivenChar (hd : addressChar d = true)
    (h : readGivenChar d cs = some (u, rest)) : Spells cs rest := by
  cases cs with
  | nil => cases h
  | cons =>
    simp only [readGivenChar, Option.ite_none_right_eq_some, Option.some.injEq,
      Prod.mk.injEq, true_and] at h
    obtain ⟨rfl, rfl⟩ := h
    intro c hc
    rcases List.mem_cons.mp hc with rfl | hc
    · exact .inl hd
    · exact .inr hc

theorem isDigitOf_mono (hle : radix ≤ 16) (h : isDigitOf radix c = true) :
    isDigitOf 16 c = true := by
  unfold isDigitOf toDigit at h ⊢
  simp only [Option.isSome_filter] at h ⊢
  generalize (if isAsciiDigit c then some (c.toNat - '0'.toNat) else _) = digit at h ⊢
  cases digit with
  | none => cases h
  | some =>
    simp only [Option.any_some, decide_eq_true_eq] at h ⊢
    omega

theorem spells_of_readNumber (hle : radix ≤ 16)
    (h : readNumber radix digits zeros cs = some (n, rest)) : Spells cs rest := by
  unfold readNumber at h
  dsimp only at h
  split at h
  · cases h
  split at h
  · cases h
  obtain ⟨-, rfl⟩ := Prod.mk.inj (Option.some.inj h)
  intro c hc
  rw [← List.takeWhile_append_dropWhile (p := isDigitOf radix) (l := cs)] at hc
  refine (List.mem_append.mp hc).imp_left fun hdigit => ?_
  simp [addressChar, isDigitOf_mono hle (List.mem_takeWhile_imp hdigit)]

theorem spells_of_readOctet (h : readOctet cs = some (n, rest)) : Spells cs rest := by
  unfold readOctet at h
  exact spells_of_readNumber (by decide) (Option.filter_eq_some_iff.mp h).1

theorem spells_of_readIpv4Addr (h : readIpv4Addr cs = some (x, rest)) : Spells cs rest := by
  unfold readIpv4Addr at h
  simp only [Option.bind_eq_bind, Option.bind_eq_some_iff, Prod.exists] at h
  obtain ⟨a, _, h1, _, _, h2, b, _, h3, _, _, h4, c, _, h5, _, _, h6, d, _, h7, h⟩ := h
  obtain ⟨-, rfl⟩ := Prod.mk.inj (Option.some.inj h)
  have hdot : addressChar '.' = true := by decide
  exact ((((((spells_of_readOctet h1).trans (spells_of_readGivenChar hdot h2)).trans
    (spells_of_readOctet h3)).trans (spells_of_readGivenChar hdot h4)).trans
    (spells_of_readOctet h5)).trans (spells_of_readGivenChar hdot h6)).trans (spells_of_readOctet h7)

theorem spells_of_start {separated : Bool}
    (h : (if separated then (readGivenChar ':' cs).map (·.2) else some cs) = some start) :
    Spells cs start := by
  split at h
  · obtain ⟨⟨u, _⟩, hread, rfl⟩ := Option.map_eq_some_iff.mp h
    exact spells_of_readGivenChar (by decide) hread
  · cases h
    exact .refl cs

theorem spells_of_readGroups (slots : Nat) (separated : Bool) (cs : List Char) :
    Spells cs (readGroups slots separated cs).2.2 := by
  induction slots generalizing separated cs with
  | zero => exact .refl cs
  | succ slots ih =>
  unfold readGroups
  dsimp only
  split
  · next x rest hread =>
    split at hread
    · obtain ⟨start, hstart, hread⟩ := Option.bind_eq_some_iff.mp hread
      exact (spells_of_start hstart).trans (spells_of_readIpv4Addr hread)
    · cases hread
  split
  · next group rest hread =>
    obtain ⟨start, hstart, hread⟩ := Option.bind_eq_some_iff.mp hread
    exact ((spells_of_start hstart).trans (spells_of_readNumber (by decide) hread)).trans
      (ih true rest)
  · exact .refl cs

theorem addressChar_of_parseIpv6 (h : parseIpv6 cs = some x) : ∀ c ∈ cs, addressChar c = true := by
  have hhead := spells_of_readGroups 8 false cs
  unfold parseIpv6 at h
  rcases hgroups : readGroups 8 false cs with ⟨head, _⟩
  rw [hgroups] at h hhead
  dsimp only at h hhead
  split at h
  · split at h
    · next hempty =>
      rw [List.isEmpty_iff.mp hempty] at hhead
      exact hhead.addressChar
    · cases h
  split at h
  · cases h
  simp only [Option.bind_eq_bind, Option.bind_eq_some_iff, Prod.exists] at h
  obtain ⟨_, _, h1, _, r2, h2, h⟩ := h
  have htail := spells_of_readGroups (8 - (head.length + 1)) false r2
  have hcolon : addressChar ':' = true := by decide
  split at h
  · next hempty =>
    rw [List.isEmpty_iff.mp hempty] at htail
    exact (((hhead.trans (spells_of_readGivenChar hcolon h1)).trans
      (spells_of_readGivenChar hcolon h2)).trans htail).addressChar
  · cases h

theorem isAsciiDigit_of_parseOctet (h : parseOctet part = some n) :
    ∀ c ∈ part, isAsciiDigit c = true := by
  unfold parseOctet at h
  split at h
  · cases h
  · next hdigits =>
    simp only [Bool.or_eq_true, Bool.not_eq_true', not_or, Bool.not_eq_false] at hdigits
    exact List.all_eq_true.mp hdigits.2

theorem exists_of_mapM {α β : Type} {f : α → Option β} {as : List α} {bs : List β}
    (h : as.mapM f = some bs) : ∀ a ∈ as, ∃ b, f a = some b := by
  induction as generalizing bs with
  | nil => nofun
  | cons a as ih =>
    simp only [List.mapM_cons, Option.bind_eq_bind, Option.bind_eq_some_iff] at h
    obtain ⟨b, hb, _, hbs, -⟩ := h
    exact List.forall_mem_cons.mpr ⟨⟨b, hb⟩, ih hbs⟩

theorem digit_or_dot_of_parseIpv4Strict (h : parseIpv4Strict cs = some x) :
    ∀ c ∈ cs, isAsciiDigit c = true ∨ c = '.' := by
  unfold parseIpv4Strict at h
  split at h
  · next hoctets =>
    intro c hc
    rcases Segments.eq_or_mem_of_mem_splitOn '.' hc with rfl | ⟨part, hpart, hcpart⟩
    · exact .inr rfl
    · obtain ⟨n, hn⟩ := exists_of_mapM hoctets part hpart
      exact .inl (isAsciiDigit_of_parseOctet hn c hcpart)
  · cases h

theorem addressChar_of_parseIpv4Strict (h : parseIpv4Strict cs = some x) :
    ∀ c ∈ cs, addressChar c = true := by
  intro c hc
  rcases digit_or_dot_of_parseIpv4Strict h c hc with hdigit | rfl
  · exact addressChar_of_isAsciiDigit hdigit
  · decide

theorem addressChar_of_parseIp (h : parseIp s = some ip) :
    ∀ c ∈ s.toList, addressChar c = true := by
  unfold parseIp at h
  dsimp only at h
  split at h
  · cases h
  split at h
  · next hx => exact addressChar_of_parseIpv4Strict hx
  split at h
  · obtain ⟨x, hx, -⟩ := Option.map_eq_some_iff.mp h
    exact addressChar_of_parseIpv6 hx
  · cases h

theorem slash_not_mem_of_parseIp (h : parseIp s = some ip) : '/' ∉ s.toList :=
  fun hmem => absurd (addressChar_of_parseIp h _ hmem) (by decide)

theorem isAsciiDigit_of_dtoi (h : dtoi cs = some n) : ∀ c ∈ cs, isAsciiDigit c = true := by
  unfold dtoi at h
  split at h
  · cases h
  · next hdigits =>
    simp only [Bool.or_eq_true, Bool.not_eq_true', not_or, Bool.not_eq_false] at hdigits
    exact List.all_eq_true.mp hdigits.1.2

theorem parseCidr_eq_some (h : parseCidr s = some r) : ∃ addr mask ones,
    s.toList = addr ++ '/' :: mask ∧ dtoi mask = some ones ∧
      ((∃ x, parseIpv4Strict addr = some x ∧ ones ≤ 32 ∧
        r = (.v4 x, ⟨.v4 (Block.mask ones x), ones, 32⟩)) ∨
      (':' ∈ addr ∧ ∃ y, parseIpv6 addr = some y ∧ ones ≤ 128 ∧
        r = (.of16 y, ⟨.of16 (Block.mask ones y), ones, 128⟩))) := by
  unfold parseCidr at h
  simp only [Option.bind_eq_bind, Option.bind_eq_some_iff, Prod.exists] at h
  obtain ⟨addr, mask, hsplit, h⟩ := h
  split at h
  · cases h
  obtain ⟨ones, hones, h⟩ := Option.bind_eq_some_iff.mp h
  refine ⟨addr, mask, ones, (splitOnce_eq_some hsplit).1, hones, ?_⟩
  split at h
  · next x hx =>
    split at h
    · cases h
    · next hle =>
      cases h
      exact .inl ⟨x, hx, Nat.le_of_not_lt hle, rfl⟩
  split at h
  · next hcolon =>
    obtain ⟨y, hy, h⟩ := Option.bind_eq_some_iff.mp h
    split at h
    · cases h
    · next hle =>
      cases h
      exact .inr ⟨List.contains_iff_mem.mp hcolon, y, hy, Nat.le_of_not_lt hle, rfl⟩
  · cases h

theorem chars_of_parseCidr (h : parseCidr s = some r) :
    '/' ∈ s.toList ∧ ∀ c ∈ s.toList, addressChar c = true ∨ c = '/' := by
  obtain ⟨addr, mask, _, hs, hones, h⟩ := parseCidr_eq_some h
  have haddr : ∀ c ∈ addr, addressChar c = true := by
    rcases h with ⟨x, hx, -⟩ | ⟨-, y, hy, -⟩
    · exact addressChar_of_parseIpv4Strict hx
    · exact addressChar_of_parseIpv6 hy
  have hmask : ∀ c ∈ mask, addressChar c = true := fun c hc =>
    addressChar_of_isAsciiDigit (isAsciiDigit_of_dtoi hones c hc)
  rw [hs]
  refine ⟨by simp, fun c hc => ?_⟩
  rcases List.mem_append.mp hc with hc | hc
  · exact .inl (haddr c hc)
  rcases List.mem_cons.mp hc with rfl | hc
  · exact .inr rfl
  · exact .inl (hmask c hc)

theorem parseCidr_eq_none_of_parseIp (h : parseIp s = some ip) : parseCidr s = none := by
  rcases hcidr : parseCidr s with _ | r
  · rfl
  · exact absurd (chars_of_parseCidr hcidr).1 (slash_not_mem_of_parseIp h)

theorem trim_eq_self (h : ∀ c ∈ s.toList, Utf8.isWhitespace c = false) : trim s = s := by
  have hdrop : ∀ cs : List Char, (∀ c ∈ cs, Utf8.isWhitespace c = false) →
      cs.dropWhile Utf8.isWhitespace = cs := by
    intro cs hcs
    cases cs with
    | nil => rfl
    | cons c => exact List.dropWhile_cons_of_neg (by simp [hcs c List.mem_cons_self])
  unfold trim Utf8.trim
  rw [hdrop _ h, hdrop _ (fun c hc => h c (List.mem_reverse.mp hc)), List.reverse_reverse,
    String.ofList_toList]

theorem toNat_of_addressChar (h : addressChar c = true ∨ c = '/') :
    46 ≤ c.toNat ∧ c.toNat ≤ 122 := by
  rcases h with h | rfl
  · simp only [addressChar, Bool.or_eq_true, beq_iff_eq] at h
    rcases h with (h | rfl) | rfl
    · have hlow := le_toNat_of_isDigitOf h
      exact ⟨by omega, toNat_le_of_isDigitOf h⟩
    · decide
    · decide
  · decide

theorem not_isWhitespace_of_addressChar (h : addressChar c = true ∨ c = '/') :
    Utf8.isWhitespace c = false := by
  obtain ⟨_, _⟩ := toNat_of_addressChar h
  simp only [Utf8.isWhitespace, Bool.or_eq_false_iff, Bool.and_eq_false_iff, decide_eq_false_iff_not,
    beq_eq_false_iff_ne]
  omega

theorem trim_of_parseCidr (h : parseCidr s = some r) : trim s = s :=
  trim_eq_self fun c hc => not_isWhitespace_of_addressChar ((chars_of_parseCidr h).2 c hc)

theorem trim_of_parseIp (h : parseIp s = some ip) : trim s = s :=
  trim_eq_self fun c hc => not_isWhitespace_of_addressChar (.inl (addressChar_of_parseIp h c hc))

theorem trim_of_parseIpv4 (h : parseIpv4 s = some x) : trim s = s := by
  obtain ⟨_, hip, -⟩ := Option.bind_eq_some_iff.mp h
  exact trim_of_parseIp hip

theorem parseCidr_cases (h : parseCidr s = some (ip, n)) :
    (∃ x ones, ones ≤ 32 ∧ ip = .v4 x ∧ n = ⟨.v4 (Block.mask ones x), ones, 32⟩) ∨
      ∃ y ones, ones ≤ 128 ∧ ip = .of16 y ∧ n = ⟨.of16 (Block.mask ones y), ones, 128⟩ := by
  obtain ⟨-, -, ones, -, -, ⟨x, -, hle, heq⟩ | ⟨-, y, -, hle, heq⟩⟩ := parseCidr_eq_some h
  · cases heq
    exact .inl ⟨x, ones, hle, rfl, rfl⟩
  · cases heq
    exact .inr ⟨y, ones, hle, rfl, rfl⟩

theorem parseCidr_of_bits (h : parseCidr s = some (ip, n)) (hbits : n.bits = 32) :
    ∃ x, ip = .v4 x ∧ n = ⟨.v4 (Block.mask n.ones x), n.ones, 32⟩ ∧ n.ones ≤ 32 := by
  rcases parseCidr_cases h with ⟨x, ones, hones, rfl, rfl⟩ | ⟨y, ones, -, -, rfl⟩
  · exact ⟨x, rfl, rfl, hones⟩
  · cases hbits

theorem of16_eq_v4 (h : IP.of16 y = .v4 x) : y >>> 32 = 0xffff#128 ∧ x = y.truncate 32 := by
  unfold IP.of16 at h
  split at h
  next hmapped => exact ⟨hmapped, (IP.v4.inj h).symm⟩
  next => cases h

theorem of16_of_mask {base : BitVec 32} (h : IP.of16 (Block.mask ones y) = .v4 base) :
    96 ≤ ones ∧ IP.of16 y = .v4 (y.truncate 32) ∧ base = Block.mask (ones - 96) (y.truncate 32) := by
  obtain ⟨hmapped, rfl⟩ := of16_eq_v4 h
  have hbit (i : Nat) : (decide (128 - ones ≤ 32 + i) && y.getLsbD (32 + i)) =
      (0xffff#128).getLsbD i := by
    rw [← hmapped, BitVec.getLsbD_ushiftRight, Block.getLsbD_mask]
  have hones : 96 ≤ ones := by
    have hfirst := hbit 0
    rw [show (0xffff#128).getLsbD 0 = true by decide, Bool.and_eq_true, decide_eq_true_eq] at hfirst
    omega
  have hall : y >>> 32 = 0xffff#128 := by
    apply BitVec.eq_of_getLsbD_eq
    intro i hi
    have hi' := hbit i
    rwa [decide_eq_true (by omega), Bool.true_and, ← BitVec.getLsbD_ushiftRight] at hi'
  refine ⟨hones, if_pos hall, ?_⟩
  apply BitVec.eq_of_getLsbD_eq
  intro i hi
  rw [Block.getLsbD_mask, BitVec.truncate_eq_setWidth, BitVec.truncate_eq_setWidth,
    BitVec.getLsbD_setWidth, BitVec.getLsbD_setWidth, Block.getLsbD_mask]
  simp only [hi, decide_true, Bool.true_and]
  congr 2
  rw [eq_iff_iff]
  omega

/-- A parsed network with IPv4 addresses in it: those that share a prefix with the address it was
written with. -/
theorem parseCidr_of_v4 {base : BitVec 32} (h : parseCidr s = some (ip, n))
    (hbase : n.ip = .v4 base) :
    ∃ x, ip = .v4 x ∧ base = Block.mask n.effective x ∧ n.effective ≤ 32 ∧
      (n.bits = 32 ∧ n.ones = n.effective ∨ n.bits = 128 ∧ n.ones = n.effective + 96) := by
  rcases parseCidr_cases h with ⟨x, ones, hones, rfl, rfl⟩ | ⟨y, ones, hones, rfl, rfl⟩
  · cases hbase
    exact ⟨x, rfl, rfl, hones, .inl ⟨rfl, rfl⟩⟩
  obtain ⟨_, hip, rfl⟩ := of16_of_mask hbase
  have heffective : IPNet.effective ⟨IP.of16 (Block.mask ones y), ones, 128⟩ = ones - 96 := by
    simp only [IPNet.effective, show IP.of16 (Block.mask ones y) = _ from hbase, if_true]
  refine ⟨y.truncate 32, hip, ?_, ?_, .inr ⟨rfl, ?_⟩⟩
  · rw [heffective]
  · omega
  rw [heffective]
  dsimp only
  omega

theorem bits_iff_of_parseCidr (h : parseCidr s = some (ip, n)) : n.bits = 32 ↔ ':' ∉ s.toList := by
  obtain ⟨_, _, _, hs, hones, ⟨x, hx, -, heq⟩ | ⟨hcolon, y, -, -, heq⟩⟩ := parseCidr_eq_some h
  · cases heq
    rw [hs]
    refine iff_of_true rfl fun hmem => ?_
    rcases List.mem_append.mp hmem with hmem | hmem
    · exact absurd (digit_or_dot_of_parseIpv4Strict hx _ hmem) (by decide)
    rcases List.mem_cons.mp hmem with heq | hmem
    · exact absurd heq (by decide)
    · exact absurd (isAsciiDigit_of_dtoi hones _ hmem) (by decide)
  cases heq
  rw [hs]
  exact iff_of_false (by simp) fun hmem => hmem (List.mem_append_left _ hcolon)

theorem octet_lt (x : BitVec 32) (i : Nat) : octet x i < 256 := Nat.mod_lt _ (by decide)

theorem parseOctet_repr : ∀ n < 256, parseOctet (toString n).toList = some n := by decide +kernel

theorem ofOctets_octet (x : BitVec 32) :
    ofOctets (octet x 0) (octet x 1) (octet x 2) (octet x 3) = x := by
  unfold ofOctets octet
  have hlt := x.isLt
  apply BitVec.eq_of_toNat_eq
  rw [BitVec.toNat_ofNat]
  omega

theorem isAsciiDigit_of_repr (h : n < 256) : ∀ c ∈ (toString n).toList, isAsciiDigit c = true :=
  isAsciiDigit_of_parseOctet (parseOctet_repr n h)

theorem splitOn_repr (h : n < 256) : (toString n).toList.splitOn '.' = [(toString n).toList] :=
  Segments.splitOn_of_not_mem fun hmem => absurd (isAsciiDigit_of_repr h _ hmem) (by decide)

theorem octetsString_toList (x : BitVec 32) : (octetsString x).toList =
    (toString (octet x 0)).toList ++ '.' :: ((toString (octet x 1)).toList ++ '.' ::
      ((toString (octet x 2)).toList ++ '.' :: (toString (octet x 3)).toList)) := by
  simp [octetsString]

theorem parseIpv4Strict_octetsString (x : BitVec 32) :
    parseIpv4Strict (octetsString x).toList = some x := by
  have hsplit : (octetsString x).toList.splitOn '.' = [(toString (octet x 0)).toList,
      (toString (octet x 1)).toList, (toString (octet x 2)).toList, (toString (octet x 3)).toList] := by
    rw [octetsString_toList, Segments.splitOn_append, Segments.splitOn_append, Segments.splitOn_append]
    simp only [splitOn_repr (octet_lt x _), List.singleton_append]
  unfold parseIpv4Strict
  rw [hsplit]
  simp only [List.mapM_cons, List.mapM_nil, parseOctet_repr _ (octet_lt x _), Option.bind_eq_bind,
    Option.pure_def, Option.bind_some, ofOctets_octet]

theorem octetsString_chars (x : BitVec 32) : ∀ c ∈ (octetsString x).toList, addressChar c = true :=
  addressChar_of_parseIpv4Strict (parseIpv4Strict_octetsString x)

theorem octetsString_injective (h : octetsString x = octetsString y) : x = y := by
  have hx := parseIpv4Strict_octetsString x
  rw [h, parseIpv4Strict_octetsString] at hx
  exact (Option.some.inj hx).symm

theorem dtoi_repr : ∀ ones ≤ 32, dtoi (Nat.repr ones).toList = some ones := by decide +kernel

theorem parseCidr_octetsString (x : BitVec 32) (hones : ones ≤ 32) :
    parseCidr (octetsString x ++ "/" ++ Nat.repr ones) =
      some (.v4 x, ⟨.v4 (Block.mask ones x), ones, 32⟩) := by
  have htext : (octetsString x ++ "/" ++ Nat.repr ones).toList =
      (octetsString x).toList ++ '/' :: (Nat.repr ones).toList := by
    rw [String.toList_append, String.toList_append, List.append_assoc]
    rfl
  have hchars := octetsString_chars x
  have hslash : '/' ∉ (octetsString x).toList := fun hmem => absurd (hchars _ hmem) (by decide)
  have hpercent : (octetsString x).toList.contains '%' = false := by
    rw [List.contains_eq_mem, decide_eq_false_iff_not]
    exact fun hmem => absurd (hchars _ hmem) (by decide)
  unfold parseCidr
  rw [htext, splitOnce_append hslash]
  simp only [Option.bind_eq_bind, Option.bind_some, hpercent, dtoi_repr ones hones,
    parseIpv4Strict_octetsString]
  rw [if_neg (by simp), if_neg (by omega)]

/-- The text of a network of IPv4 addresses, however it was spelled, is read back as the same set. -/
theorem network_text_read_back {base : BitVec 32} (h : parseCidr s = some (ip, n))
    (hbase : n.ip = .v4 base) :
    ∃ m, parseCidr n.toString = some (n.ip, m) ∧ ∀ y, m.contains y = n.contains y := by
  obtain ⟨x, -, hmask, hle, -⟩ := parseCidr_of_v4 h hbase
  have hread := parseCidr_octetsString base hle
  rw [hmask, Block.mask_mask, ← hmask] at hread
  refine ⟨⟨.v4 base, n.effective, 32⟩, ?_, fun y => ?_⟩
  · rw [IPNet.toString, hbase]
    exact hread
  · cases y <;> simp only [IPNet.contains, hbase]
    rfl

theorem mapped_network_text : ∃ m, parseCidr "10.20.30.0/24" = some (.v4 0x0a141e00#32, m) ∧
    ∀ y, m.contains y = (IPNet.mk (.v4 0x0a141e00#32) 120 128).contains y := by
  have hparse : parseCidr "::ffff:10.20.30.40/120" =
      some (.v4 0x0a141e28#32, ⟨.v4 0x0a141e00#32, 120, 128⟩) := by decide +kernel
  have htext : (IPNet.mk (.v4 0x0a141e00#32) 120 128).toString = "10.20.30.0/24" := by decide +kernel
  exact htext ▸ network_text_read_back hparse rfl

/-- An address as it is given to a network: of 4 or of 16 bytes. -/
inductive Address
  | four (x : BitVec 32)
  | sixteen (x : BitVec 128)

def Address.ip : Address → IP
  | four x => .v4 x
  | sixteen x => .of16 x

theorem address_of_parseCidr (h : parseCidr s = some (ip, n)) : ∃ x : Address, n.ip = x.ip := by
  obtain ⟨x, ones, -, -, rfl⟩ | ⟨y, ones, -, -, rfl⟩ := parseCidr_cases h
  · exact ⟨.four _, rfl⟩
  · exact ⟨.sixteen _, rfl⟩

/-- Two networks overlap exactly when they have an address in common, and then one of them lies in
the other. -/
theorem overlap_exact (ha : parseCidr s = some (ip, a)) (hb : parseCidr s' = some (ip', b)) :
    (a.networksOverlap b = true ↔ ∃ x : Address, a.contains x.ip = true ∧ b.contains x.ip = true) ∧
    (a.networksOverlap b = true → (∀ x : Address, b.contains x.ip = true → a.contains x.ip = true) ∨
        ∀ x : Address, a.contains x.ip = true → b.contains x.ip = true) := by
  obtain ⟨x, hx⟩ := address_of_parseCidr ha
  obtain ⟨y, hy⟩ := address_of_parseCidr hb
  refine ⟨⟨fun h => ?_, fun ⟨z, hz⟩ => IPNet.networksOverlap_iff.mpr ⟨z.ip, hz⟩⟩, fun h => ?_⟩
  · rw [IPNet.networksOverlap, Bool.or_eq_true, hx, hy] at h
    rcases h with h | h
    · exact ⟨y, h, hy ▸ b.contains_ip⟩
    · exact ⟨x, hx ▸ a.contains_ip, h⟩
  · obtain ⟨z, ha, hb⟩ := IPNet.networksOverlap_iff.mp h
    exact (IPNet.nested ha hb).imp (fun h x => h x.ip) fun h x => h x.ip

theorem overlap_exact_mapped : ∃ ip ip' a b, parseCidr "10.1.0.0/16" = some (ip, a) ∧
    parseCidr "::ffff:10.0.0.0/104" = some (ip', b) ∧ a.networksOverlap b = true ∧
    ∃ x : Address, a.contains x.ip = true ∧ b.contains x.ip = true := by
  have ha : parseCidr "10.1.0.0/16" = some (.v4 0x0A010000#32, ⟨.v4 0x0A010000#32, 16, 32⟩) := by
    decide +kernel
  have hb : parseCidr "::ffff:10.0.0.0/104" =
      some (.v4 0x0A000000#32, ⟨.v4 0x0A000000#32, 104, 128⟩) := by
    decide +kernel
  exact ⟨_, _, _, _, ha, hb, by decide, (overlap_exact ha hb).1.mp (by decide)⟩

end MinimalRouter.Goish
