import Mathlib.Data.List.TakeWhile
import Mathlib.Data.Nat.Bitwise
import Mathlib.Tactic.Ring

namespace MinimalRouter.Auth.Base32

def alphabet : List UInt8 :=
  [65, 66, 67, 68, 69, 70, 71, 72, 73, 74, 75, 76, 77, 78, 79, 80, 81, 82, 83, 84, 85, 86, 87, 88, 89, 90,
    50, 51, 52, 53, 54, 55]

def padding : UInt8 := 61

def symbol (v : Nat) : UInt8 := alphabet.getD v padding

def position (b : UInt8) : Option Nat := alphabet.findIdx? (· == b)

def bitsOf (chunk : List UInt8) : Nat :=
  (chunk ++ List.replicate (5 - chunk.length) 0).foldl (fun bits (b : UInt8) => bits * 256 + b.toNat) 0

def charsOf (length : Nat) : Nat :=
  match length with
  | 1 => 2
  | 2 => 4
  | 3 => 5
  | 4 => 7
  | _ => 8

def encodeChunk (chunk : List UInt8) : List UInt8 :=
  (List.range 8).map fun i =>
    if i < charsOf chunk.length then symbol (bitsOf chunk >>> (35 - i * 5) &&& 31) else padding

def encode : List UInt8 → List UInt8
  | [] => []
  | a :: b :: c :: d :: e :: rest => encodeChunk [a, b, c, d, e] ++ encode rest
  | chunk => encodeChunk chunk

def bytesOf (length : Nat) : Option Nat :=
  match length with
  | 8 => some 5
  | 7 => some 4
  | 5 => some 3
  | 4 => some 2
  | 2 => some 1
  | _ => none

def gather : Nat → Nat → List UInt8 → Option Nat
  | _, bits, [] => some bits
  | i, bits, b :: rest =>
    match position b with
    | none => none
    | some v => gather (i + 1) (bits ||| v <<< (35 - i * 5)) rest

def decodeQuantum (final : Bool) (quantum : List UInt8) : Option (List UInt8) :=
  let pad := (quantum.reverse.takeWhile (· == padding)).length
  if pad > 0 && !final then none
  else do
    let bytes ← bytesOf (8 - pad)
    let bits ← gather 0 0 (quantum.take (8 - pad))
    return (List.range bytes).map fun j => UInt8.ofNat (bits >>> (32 - j * 8))

def decodeQuanta : List UInt8 → Option (List UInt8)
  | [] => some []
  | a :: b :: c :: d :: e :: f :: g :: h :: rest => do
    let first ← decodeQuantum rest.isEmpty [a, b, c, d, e, f, g, h]
    let others ← decodeQuanta rest
    return first ++ others
  | _ => none

def decode (text : List UInt8) : Option (List UInt8) :=
  let clean := text.filter fun b => b != 13 && b != 10
  if clean.length % 8 ≠ 0 then none else decodeQuanta clean

theorem symbol_spec : ∀ v < 32, position (symbol v) = some v ∧ symbol v ≠ padding ∧ symbol v ≠ 13 ∧
    symbol v ≠ 10 := by
  decide

def weigh : Nat → List Nat → Nat
  | _, [] => 0
  | i, d :: ds => d * 2 ^ (35 - i * 5) + weigh (i + 1) ds

theorem gather_map_symbol (hds : ∀ d ∈ ds, d < 32) (hlength : i + ds.length ≤ 8)
    (hbits : 2 ^ (40 - i * 5) ∣ bits) :
    gather i bits (ds.map symbol) = some (bits + weigh i ds) := by
  induction ds generalizing i bits with
  | nil => rfl
  | cons d ds ih =>
  have hd := hds d List.mem_cons_self
  rw [List.length_cons] at hlength
  have hpow : 2 ^ (40 - i * 5) = 32 * 2 ^ (35 - i * 5) := by
    rw [show 40 - i * 5 = 5 + (35 - i * 5) by omega, Nat.pow_add]
  have hlt : d * 2 ^ (35 - i * 5) < 2 ^ (40 - i * 5) := by
    rw [hpow]
    exact Nat.mul_lt_mul_of_pos_right hd (Nat.two_pow_pos _)
  have hor : bits ||| d <<< (35 - i * 5) = bits + d * 2 ^ (35 - i * 5) := by
    obtain ⟨k, rfl⟩ := hbits
    rw [Nat.shiftLeft_eq, Nat.two_pow_add_eq_or_of_lt hlt]
  rw [List.map_cons, gather, (symbol_spec d hd).1]
  dsimp only
  rw [hor, ih (fun d' hd' => hds d' (List.mem_cons_of_mem _ hd')) (by omega) ?_, weigh, Nat.add_assoc]
  rw [show 40 - (i + 1) * 5 = 35 - i * 5 by omega]
  refine Nat.dvd_add (Nat.dvd_trans ?_ hbits) (Nat.dvd_mul_left _ _)
  exact ⟨32, by rw [hpow, Nat.mul_comm]⟩

theorem takeWhile_padding {ds : List Nat} (hds : ∀ d ∈ ds, d < 32) (n : Nat) :
    (ds.map symbol ++ List.replicate n padding).reverse.takeWhile (· == padding) =
      List.replicate n padding := by
  rw [List.reverse_append, List.reverse_replicate, List.takeWhile_append_of_pos (by simp)]
  have hnone : (ds.map symbol).reverse.takeWhile (· == padding) = [] := by
    refine List.takeWhile_eq_nil_iff.mpr fun h => ?_
    have hmem := List.get_mem (ds.map symbol).reverse ⟨0, h⟩
    rw [List.mem_reverse, List.mem_map] at hmem
    obtain ⟨d, hd, heq⟩ := hmem
    rw [← heq]
    simpa using (symbol_spec d (hds d hd)).2.1
  rw [hnone, List.append_nil]

theorem decodeQuantum_symbols (hds : ∀ d ∈ ds, d < 32) (hlength : ds.length ≤ 8)
    (hfinal : ds.length = 8 ∨ final = true) (hbytes : bytesOf ds.length = some bytes) :
    decodeQuantum final (ds.map symbol ++ List.replicate (8 - ds.length) padding) =
      some ((List.range bytes).map fun j => UInt8.ofNat (weigh 0 ds >>> (32 - j * 8))) := by
  have hpad : 8 - (8 - ds.length) = ds.length := by omega
  have htake : (ds.map symbol ++ List.replicate (8 - ds.length) padding).take ds.length =
      ds.map symbol := List.take_left' (by simp)
  have hgather : gather 0 0 (ds.map symbol) = some (weigh 0 ds) := by
    rw [gather_map_symbol hds (by omega) (Nat.dvd_zero _), Nat.zero_add]
  unfold decodeQuantum
  rw [takeWhile_padding hds, List.length_replicate]
  dsimp only
  rw [hpad, htake, hbytes, hgather, if_neg]
  · rfl
  rcases hfinal with hfull | rfl
  · simp [hfull]
  · simp

def digits (chunk : List UInt8) : List Nat :=
  (List.range (charsOf chunk.length)).map fun i => bitsOf chunk >>> (35 - i * 5) &&& 31

theorem charsOf_le (n : Nat) : charsOf n ≤ 8 := by
  unfold charsOf
  split <;> decide

theorem digits_lt (h : d ∈ digits chunk) : d < 32 := by
  obtain ⟨i, -, rfl⟩ := List.mem_map.mp h
  exact Nat.lt_succ_of_le Nat.and_le_right

theorem length_digits (chunk : List UInt8) : (digits chunk).length = charsOf chunk.length := by
  simp [digits]

theorem encodeChunk_eq (chunk : List UInt8) : encodeChunk chunk =
    (digits chunk).map symbol ++ List.replicate (8 - (digits chunk).length) padding := by
  rw [length_digits]
  have hle := charsOf_le chunk.length
  unfold encodeChunk digits
  generalize charsOf chunk.length = n at *
  rw [List.map_map]
  refine List.ext_getElem (by simp; omega) fun i h _ => ?_
  simp only [List.getElem_map, List.getElem_range, List.getElem_append, List.length_map,
    List.length_range, List.getElem_replicate, Function.comp]
  split <;> rfl

theorem ofNat_eq (h : x % 256 = b.toNat) : UInt8.ofNat x = b := by
  rw [← UInt8.toNat_inj, UInt8.toNat_ofNat']
  exact h

theorem weigh_append : weigh i (xs ++ [y]) = weigh i xs + y * 2 ^ (35 - (i + xs.length) * 5) := by
  induction xs generalizing i with
  | nil => simp [weigh]
  | cons x xs ih =>
    rw [List.cons_append, weigh, weigh, ih, List.length_cons, ← Nat.add_assoc,
      show i + 1 + xs.length = i + (xs.length + 1) by omega]

theorem weigh_range (hbits : bits < 2 ^ 40) (hn : n ≤ 8) :
    weigh 0 ((List.range n).map fun i => bits >>> (35 - i * 5) &&& 31) =
      bits / 2 ^ (40 - n * 5) * 2 ^ (40 - n * 5) := by
  induction n with
  | zero =>
    rw [Nat.div_eq_of_lt hbits]
    rfl
  | succ n ih =>
    have hpow : 2 ^ (40 - n * 5) = 2 ^ (35 - n * 5) * 32 := by
      rw [show 40 - n * 5 = 35 - n * 5 + 5 by omega, Nat.pow_add]
    have hsplit := Nat.div_add_mod (bits / 2 ^ (35 - n * 5)) 32
    rw [List.range_succ, List.map_append, List.map_singleton, weigh_append, ih (by omega),
      List.length_map, List.length_range, Nat.zero_add, show 40 - (n + 1) * 5 = 35 - n * 5 by omega,
      Nat.and_two_pow_sub_one_eq_mod _ 5, Nat.shiftRight_eq_div_pow, hpow, ← Nat.div_div_eq_div_mul]
    calc bits / 2 ^ (35 - n * 5) / 32 * (2 ^ (35 - n * 5) * 32) +
          bits / 2 ^ (35 - n * 5) % 32 * 2 ^ (35 - n * 5)
        = (32 * (bits / 2 ^ (35 - n * 5) / 32) + bits / 2 ^ (35 - n * 5) % 32) * 2 ^ (35 - n * 5) := by
          ring
      _ = bits / 2 ^ (35 - n * 5) * 2 ^ (35 - n * 5) := by rw [hsplit]

theorem shiftRight_weigh_digits (hbits : bitsOf chunk < 2 ^ 40)
    (hs : 40 - charsOf chunk.length * 5 ≤ s) :
    weigh 0 (digits chunk) >>> s = bitsOf chunk / 2 ^ s := by
  obtain ⟨k, rfl⟩ := Nat.exists_eq_add_of_le hs
  rw [digits, weigh_range hbits (charsOf_le _), Nat.shiftRight_eq_div_pow, Nat.pow_add,
    ← Nat.div_div_eq_div_mul, Nat.mul_div_cancel _ (Nat.two_pow_pos _), Nat.div_div_eq_div_mul]

theorem five_bytes (a b c d e : UInt8) :
    let bits := (((a.toNat * 256 + b.toNat) * 256 + c.toNat) * 256 + d.toNat) * 256 + e.toNat
    bits < 2 ^ 40 ∧ bits / 2 ^ 32 % 256 = a.toNat ∧ bits / 2 ^ 24 % 256 = b.toNat ∧
      bits / 2 ^ 16 % 256 = c.toNat ∧ bits / 2 ^ 8 % 256 = d.toNat ∧ bits / 2 ^ 0 % 256 = e.toNat := by
  have ha := a.toNat_lt
  have hb := b.toNat_lt
  have hc := c.toNat_lt
  have hd := d.toNat_lt
  have he := e.toNat_lt
  dsimp only
  omega

theorem bitsOf_eq (h : chunk ++ List.replicate (5 - chunk.length) 0 = [a, b, c, d, e]) :
    bitsOf chunk = (((a.toNat * 256 + b.toNat) * 256 + c.toNat) * 256 + d.toNat) * 256 + e.toNat := by
  rw [bitsOf, h]
  simp

theorem byte_of_bits (hlength : chunk.length ≤ 5) (hx : chunk[j]? = some x) :
    bitsOf chunk < 2 ^ 40 ∧ bitsOf chunk / 2 ^ (32 - j * 8) % 256 = x.toNat := by
  have hj : j < chunk.length := (List.getElem?_eq_some_iff.mp hx).1
  have hpadded : (chunk ++ List.replicate (5 - chunk.length) 0).length = 5 := by
    simp
    omega
  have hget : (chunk ++ List.replicate (5 - chunk.length) 0)[j]? = some x := by
    rw [List.getElem?_append_left hj, hx]
  match hp : chunk ++ List.replicate (5 - chunk.length) 0, hpadded with
  | [a, b, c, d, e], _ =>
    obtain ⟨hlt, h0, h1, h2, h3, h4⟩ := five_bytes a b c d e
    rw [hp] at hget
    rw [bitsOf_eq hp]
    refine ⟨hlt, ?_⟩
    match j, hget with
    | 0, hget => exact Option.some.inj hget ▸ h0
    | 1, hget => exact Option.some.inj hget ▸ h1
    | 2, hget => exact Option.some.inj hget ▸ h2
    | 3, hget => exact Option.some.inj hget ▸ h3
    | 4, hget => exact Option.some.inj hget ▸ h4

theorem chars_bytes (hpos : 0 < n) (hn : n ≤ 5) :
    bytesOf (charsOf n) = some n ∧ ∀ j < n, 40 - charsOf n * 5 ≤ 32 - j * 8 := by
  match n, hpos, hn with
  | 1, _, _ => decide
  | 2, _, _ => decide
  | 3, _, _ => decide
  | 4, _, _ => decide
  | 5, _, _ => decide

theorem decodeQuantum_encodeChunk (hpos : 0 < chunk.length) (hlength : chunk.length ≤ 5)
    (hfinal : chunk.length = 5 ∨ final = true) :
    decodeQuantum final (encodeChunk chunk) = some chunk := by
  obtain ⟨hbytes, hshift⟩ := chars_bytes hpos hlength
  have hlen := length_digits chunk
  rw [encodeChunk_eq, decodeQuantum_symbols (fun d hd => digits_lt hd) (hlen ▸ charsOf_le _)
    (hfinal.imp_left fun h => by rw [hlen, h]; rfl) (by rw [hlen, hbytes])]
  refine congrArg some (List.ext_getElem? fun j => ?_)
  cases hx : chunk[j]? with
  | none =>
    have hj := List.getElem?_eq_none_iff.mp hx
    exact List.getElem?_eq_none (by simpa using hj)
  | some =>
    have hj : j < chunk.length := (List.getElem?_eq_some_iff.mp hx).1
    obtain ⟨hlt, hbyte⟩ := byte_of_bits hlength hx
    rw [List.getElem?_map, List.getElem?_range hj, Option.map_some,
      shiftRight_weigh_digits hlt (hshift j hj), ofNat_eq hbyte]

theorem length_encodeChunk (chunk : List UInt8) : (encodeChunk chunk).length = 8 := by
  simp [encodeChunk]

theorem decodeQuanta_append (h : quantum.length = 8) :
    decodeQuanta (quantum ++ rest) = (decodeQuantum rest.isEmpty quantum).bind fun first =>
      (decodeQuanta rest).bind fun others => some (first ++ others) := by
  match quantum, h with
  | [_, _, _, _, _, _, _, _], _ => rfl

theorem decodeQuanta_encodeChunk (hpos : 0 < chunk.length) (hlength : chunk.length ≤ 5)
    (hfinal : chunk.length = 5 ∨ text = []) (htext : decodeQuanta text = some rest) :
    decodeQuanta (encodeChunk chunk ++ text) = some (chunk ++ rest) := by
  rw [decodeQuanta_append (length_encodeChunk chunk), htext,
    decodeQuantum_encodeChunk hpos hlength (hfinal.imp_right List.isEmpty_iff.mpr)]
  rfl

theorem decodeQuanta_encode (data : List UInt8) : decodeQuanta (encode data) = some data := by
  fun_induction encode data with
  | case1 => rfl
  | case2 a b c d e rest ih => exact decodeQuanta_encodeChunk (by simp) (by simp) (.inl rfl) ih
  | case3 chunk hnil hlong =>
    have hpos : 0 < chunk.length := List.length_pos_iff.mpr hnil
    have hlength : chunk.length ≤ 5 := by
      match chunk, hlong with
      | [], _ | [_], _ | [_, _], _ | [_, _, _], _ | [_, _, _, _], _ => simp
      | a :: b :: c :: d :: e :: rest, hlong => exact (hlong a b c d e rest rfl).elim
    simpa using decodeQuanta_encodeChunk hpos hlength (.inr rfl) (rfl : decodeQuanta [] = some [])

theorem encode_spec (data : List UInt8) :
    (encode data).length % 8 = 0 ∧ ∀ b ∈ encode data, b ≠ 13 ∧ b ≠ 10 := by
  have hchunk : ∀ chunk, ∀ b ∈ encodeChunk chunk, b ≠ 13 ∧ b ≠ 10 := by
    intro chunk b hb
    rw [encodeChunk_eq] at hb
    rcases List.mem_append.mp hb with hb | hb
    · obtain ⟨d, hd, rfl⟩ := List.mem_map.mp hb
      exact (symbol_spec d (digits_lt hd)).2.2
    · rw [List.eq_of_mem_replicate hb]
      decide
  fun_induction encode data with
  | case1 => exact ⟨rfl, nofun⟩
  | case2 a b c d e rest ih =>
    rw [List.length_append, length_encodeChunk]
    refine ⟨by omega, fun x hx => ?_⟩
    rcases List.mem_append.mp hx with hx | hx
    · exact hchunk _ x hx
    · exact ih.2 x hx
  | case3 chunk => exact ⟨by rw [length_encodeChunk], hchunk chunk⟩

theorem decode_encode (data : List UInt8) : decode (encode data) = some data := by
  obtain ⟨hlength, hbreaks⟩ := encode_spec data
  have hclean : (encode data).filter (fun b => b != 13 && b != 10) = encode data :=
    List.filter_eq_self.mpr fun b hb => by simpa using hbreaks b hb
  unfold decode
  dsimp only
  rw [hclean, if_neg (fun h => h hlength), decodeQuanta_encode]

end MinimalRouter.Auth.Base32
