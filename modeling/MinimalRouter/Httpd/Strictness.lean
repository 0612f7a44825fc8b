import MinimalRouter.Httpd.Connection

namespace MinimalRouter.Httpd

open Goish Lib Lib.Utf8

def isHexByte (b : UInt8) : Bool := isDigitOf 16 (Char.ofNat b.toNat)

def Escaped (cs : Text) : Prop :=
  ∀ before after, cs = before ++ '%' :: after →
    ∃ a b rest, after = a :: b :: rest ∧ isDigitOf 16 a = true ∧ isDigitOf 16 b = true

def Signless (cs : Text) : Prop := ∀ before after, cs ≠ before ++ '%' :: '+' :: after

theorem hexPair_isSome (h : (hexPair a b).isSome = true) :
    (isHexByte a = true ∨ a = 0x2B) ∧ isHexByte b = true := by
  rw [hexPair, Option.isSome_map] at h
  rcases digits_of_parseUnsigned h with hdigits | ⟨_, heq, hdigits⟩
  · simp only [List.all_cons, List.all_nil, Bool.and_true, Bool.and_eq_true] at hdigits
    exact ⟨.inl hdigits.1, hdigits.2⟩
  obtain ⟨ha, rfl⟩ := List.cons.inj heq
  refine ⟨.inr ?_, by simpa [isHexByte] using hdigits⟩
  have hlt : a.toNat < 256 := UInt8.toNat_lt a
  have hnat := congrArg Char.toNat ha
  rw [toNat_ofNat (.inl (by omega))] at hnat
  exact UInt8.toNat_inj.mp hnat

theorem unescapeBytes_escape (a b : UInt8) (rest : Bytes) :
    unescapeBytes query (0x25 :: a :: b :: rest) =
      (hexPair a b).bind fun byte => (unescapeBytes query rest).map (byte :: ·) := rfl

theorem unescapeBytes_plain (hb : b ≠ 0x25) (rest : Bytes) :
    (unescapeBytes query (b :: rest)).isSome = (unescapeBytes query rest).isSome := by
  rw [unescapeBytes.eq_def]
  dsimp only
  rw [if_neg hb, Option.isSome_map]

theorem unescapeBytes_escape_isSome
    (h : (unescapeBytes query (0x25 :: a :: b :: rest)).isSome = true) :
    ((isHexByte a = true ∨ a = 0x2B) ∧ isHexByte b = true) ∧
      (unescapeBytes query rest).isSome = true := by
  rw [unescapeBytes_escape] at h
  cases hpair : hexPair a b with
  | none =>
    rw [hpair] at h
    cases h
  | some =>
    rw [hpair, Option.bind_some, Option.isSome_map] at h
    exact ⟨hexPair_isSome (by rw [hpair]; rfl), h⟩

/-- In what can be unescaped two characters follow every escape, and only the first of them may be
no digit. -/
theorem unescapeBytes_isSome {after : Bytes}
    (h : (unescapeBytes query (before ++ 0x25 :: after)).isSome = true) :
    ∃ a b rest, after = a :: b :: rest ∧ (isHexByte a = true ∨ a = 0x2B) ∧ isHexByte b = true := by
  induction hlength : before.length using Nat.strongRecOn generalizing before with
  | ind n ih =>
    subst hlength
    cases before with
    | nil =>
      match after with
      | [] => cases h
      | [_] => cases h
      | a :: b :: rest => exact ⟨a, b, rest, rfl, (unescapeBytes_escape_isSome h).1⟩
    | cons c before =>
      by_cases hc : c = 0x25
      · subst hc
        -- a second escape cannot begin inside the first
        rcases before with _ | ⟨a, _ | ⟨b, before⟩⟩
        · cases after with
          | nil => cases h
          | cons => exact absurd (unescapeBytes_escape_isSome h).1.1 (by decide)
        · exact absurd (unescapeBytes_escape_isSome h).1.2 (by decide)
        · exact ih _ (by simp only [List.length_cons]; omega) (unescapeBytes_escape_isSome h).2 rfl
      · rw [List.cons_append, unescapeBytes_plain hc] at h
        exact ih _ (Nat.lt_succ_self _) h rfl

theorem lt_of_isHexByte (h : isHexByte b = true) : b.toNat < 0x80 := by
  have hlt : b.toNat < 256 := UInt8.toNat_lt b
  have hbound := toNat_le_of_isDigitOf h
  rw [toNat_ofNat (.inl (by omega))] at hbound
  omega

theorem Escaped.signless (h : Escaped cs) : Signless cs := by
  intro before after hcs
  obtain ⟨a, b, _, hafter, ha, -⟩ := h before _ hcs
  obtain ⟨rfl, -⟩ := List.cons.inj hafter
  cases ha

theorem Escaped.append (hcs : Escaped cs) (hds : Escaped ds) : Escaped (cs ++ ds) := by
  intro before after happend
  rcases List.append_eq_append_iff.mp happend with ⟨before', rfl, hrest⟩ | ⟨tail, rfl, hrest⟩
  · exact hds before' after hrest
  cases tail with
  | nil => exact hds [] after hrest.symm
  | cons c tail =>
    obtain ⟨rfl, rfl⟩ := List.cons.inj hrest
    obtain ⟨a, b, rest, rfl, hdigits⟩ := hcs before tail rfl
    exact ⟨a, b, rest ++ ds, rfl, hdigits⟩

theorem escaped_singleton (hc : c ≠ '%') : Escaped [c] := by
  intro before after h
  cases before with
  | nil => exact absurd (List.cons.inj h).1 hc
  | cons => simp at h

theorem Signless.left (h : Signless (cs ++ ds)) : Signless cs := by
  rintro before after rfl
  exact h before (after ++ ds) (by simp)

theorem Signless.right (h : Signless (cs ++ ds)) : Signless ds := by
  rintro before after rfl
  exact h (cs ++ before) after (by simp)

theorem escaped_of_unescape (h : (unescape cs query).isSome = true) (hsignless : Signless cs) :
    Escaped cs := by
  intro before after hcs
  have hbytes : encode cs = encode before ++ 0x25 :: encode after := by
    rw [hcs, encode_append, encode_cons]
    rfl
  rw [unescape, Option.isSome_map, hbytes] at h
  obtain ⟨a, b, _, hafter, ha, hb⟩ := unescapeBytes_isSome h
  have hascii : a.toNat < 0x80 := by
    rcases ha with ha | rfl
    · exact lt_of_isHexByte ha
    · decide
  obtain ⟨c, _, rfl, hc, hafter'⟩ := encode_eq_cons hafter hascii
  obtain ⟨d, rest', rfl, hd, -⟩ := encode_eq_cons hafter' (lt_of_isHexByte hb)
  refine ⟨c, d, rest', rfl, ?_, hd ▸ hb⟩
  rcases ha with ha | rfl
  · exact hc ▸ ha
  · exact absurd (hc ▸ hcs) (hsignless before (d :: rest'))

theorem escaped_of_kept (h : pair ∈ keptPairs raw) (hsignless : Signless pair) : Escaped pair := by
  have hkept := (List.mem_filter.mp h).2
  simp only [Bool.and_eq_true] at hkept
  cases hsplit : splitOnce '=' pair with
  | none =>
    rw [hsplit] at hkept
    exact escaped_of_unescape hkept.2.1 hsignless
  | some kv =>
    obtain ⟨k, v⟩ := kv
    rw [hsplit] at hkept
    obtain ⟨rfl, -⟩ := splitOnce_eq_some hsplit
    have hvalue : Signless v := @Signless.right ['='] v hsignless.right
    exact (escaped_of_unescape hkept.2.1 hsignless.left).append
      (@Escaped.append ['='] v (escaped_singleton (by decide))
        (escaped_of_unescape hkept.2.2 hvalue))

section Sizes

def Accepted (size : Option Text) : Prop :=
  ∀ text, size = some text → (parseUnsigned 16 (2 ^ 64) text).isSome = true

theorem accepted_none : Accepted none := nofun

theorem accepted_sizeText {line : Bytes} (h : chunkSize line = some n) :
    Accepted (some (sizeText line)) := by
  intro text htext
  rw [← Option.some.inj htext]
  exact Option.isSome_of_mem h

variable {body : Body}

theorem readChunkData_size (size : Option Text) :
    (readChunkData feed state want deliver size).size = size := by
  unfold readChunkData
  split <;> rfl

theorem readChunkHeader_accepted : Accepted (readChunkHeader feed state want deliver).size := by
  unfold readChunkHeader
  split
  · exact accepted_none
  split
  · exact accepted_none
  · next hsize => split <;> exact accepted_sizeText hsize
  · next hsize =>
    rw [readChunkData_size]
    exact accepted_sizeText hsize

theorem readChunked_accepted : Accepted (readChunked feed state want deliver).size := by
  unfold readChunked
  split
  · exact accepted_none
  split
  · rw [readChunkData_size]
    exact accepted_none
  split
  · exact readChunkHeader_accepted
  split
  · exact accepted_none
  split
  · exact accepted_none
  · exact readChunkHeader_accepted

theorem Body.readSource_accepted : Accepted (body.readSource feed want deliver).size := by
  unfold readSource
  split
  · exact readChunked_accepted
  split
  · exact accepted_none
  split <;> exact accepted_none

theorem Body.readFramed_accepted : Accepted (body.readFramed c stream want).size := by
  unfold readFramed
  split
  · exact readSource_accepted
  · exact accepted_none

theorem Body.counted_size (out : ReadOutcome Body) : (Body.counted out).size = out.size := by
  unfold counted
  split <;> rfl

theorem Body.read_accepted : Accepted (body.read c stream len).size := by
  unfold read
  split
  · exact accepted_none
  split
  · rw [counted_size]
    exact readFramed_accepted
  split
  · exact accepted_none
  split
  · dsimp only
    split <;> exact readFramed_accepted
  · rw [counted_size]
    exact readFramed_accepted

def Reading.Accepted (r : Reading) : Prop :=
  ∀ size ∈ r.sizes, (parseUnsigned 16 (2 ^ 64) size).isSome = true

theorem Reading.Accepted.read {r : Reading} (h : r.Accepted) (c : Conditions) (len : Nat) :
    (r.read c len).Accepted := by
  intro size hmem
  rcases List.mem_append.mp hmem with hold | hnew
  · exact h size hold
  · exact Body.read_accepted size (Option.mem_toList.mp hnew)

end Sizes

section Requests

variable {turn : Turn}

/-- The numbers and escapes of a request follow the grammar, and an encoding is not ignored. -/
structure Handled.Strict (handled : Handled) : Prop where
  length : ∀ value ∈ handled.request.headers.values "Content-Length",
    value.all isAsciiDigit = true
  sizes : ∀ size ∈ handled.drained.sizes, size.all (isDigitOf 16) = true
  encoding : handled.request.headers.has "Transfer-Encoding" = true →
    handled.opened.chunked.isSome = true
  path : Escaped handled.request.rawPath
  query : ∀ pair ∈ keptPairs handled.request.rawQuery, Escaped pair

/-- Nothing in the request makes use of what the parsers accept beyond the grammar. -/
structure Handled.Plain (handled : Handled) : Prop where
  length : ∀ value ∈ handled.request.headers.values "Content-Length",
    Utf8.trim value = value ∧ value.head? ≠ some '+'
  sizes : ∀ size ∈ handled.drained.sizes, size.head? ≠ some '+'
  encoding : handled.request.headers.has "Transfer-Encoding" = true →
    handled.request.headers.get "Transfer-Encoding" ≠ []
  path : Signless handled.request.rawPath
  query : ∀ pair ∈ keptPairs handled.request.rawQuery, Signless pair

theorem trim_digits {cs : Text} (h : cs.all isAsciiDigit = true) : Utf8.trim cs = cs := by
  refine trim_eq_self fun c hc => ?_
  have hdigit := isAsciiDigit_iff.mp (List.all_eq_true.mp h c hc)
  simp only [isWhitespace, Bool.or_eq_false_iff, Bool.and_eq_false_iff, decide_eq_false_iff_not,
    beq_eq_false_iff_ne]
  omega

theorem contentLength_isSome (h : (contentLength headers false).isSome = true) :
    Utf8.trim (headers.get "Content-Length") = [] ∨
      (parseUnsigned 10 (2 ^ 64) (Utf8.trim (headers.get "Content-Length"))).isSome = true := by
  rw [contentLength, if_neg (by simp)] at h
  split at h
  · next hempty => exact .inl hempty
  · rw [Option.isSome_map] at h
    exact .inr (Option.isSome_of_isSome_filter _ _ h)

theorem length_iff (h : (contentLength headers false).isSome = true) :
    (headers.get "Content-Length").all isAsciiDigit = true ↔
      Utf8.trim (headers.get "Content-Length") = headers.get "Content-Length" ∧
        (headers.get "Content-Length").head? ≠ some '+' := by
  have haccepted := contentLength_isSome h
  generalize headers.get "Content-Length" = value at haccepted
  constructor
  · intro hdigits
    refine ⟨trim_digits hdigits, fun hsign => ?_⟩
    obtain ⟨_, rfl⟩ := List.head?_eq_some_iff.mp hsign
    cases hdigits
  rintro ⟨htrim, hsign⟩
  rw [htrim] at haccepted
  rcases haccepted with rfl | hparse
  · rfl
  · rw [← funext isDigitOf_ten]
    exact (all_digits_iff hparse).mpr hsign

theorem Handled.accepted (h : serveRequest options remote localAddr turn stream = some handled) :
    handled.drained.Accepted := by
  obtain ⟨-, _, -, -, -, hacts, hdrain, -⟩ := serveRequest_eq_some h
  have hread : ∀ (r : Reading) c len, r.Accepted → (r.read c len).Accepted :=
    fun _ c len h => h.read c len
  rw [hdrain, hacts]
  exact Reading.drain_keeps hread (fun _ h => h)
    (Reading.acts_keeps hread (fun _ _ h => h) nofun)

theorem Head.chunked_iff {head : Head} (h : checkFraming head.headers = .ok ()) :
    head.chunked = true ↔ head.headers.get "Transfer-Encoding" ≠ [] := by
  obtain ⟨-, hencoding, -⟩ := checkFraming_eq_ok h
  constructor
  · intro hchunked hempty
    rw [chunked, hempty] at hchunked
    cases hchunked
  · exact fun hsome => hencoding.resolve_left hsome

theorem Head.not_chunked {head : Head} (h : checkFraming head.headers = .ok ())
    (hvalue : value ∈ head.headers.values "Content-Length") : head.chunked = false := by
  obtain ⟨hboth, -⟩ := checkFraming_eq_ok h
  have hlength : head.headers.has "Content-Length" = true := by
    simp [Headers.has, List.ne_nil_of_mem hvalue]
  have hnone : head.headers.values "Transfer-Encoding" = [] := by
    by_contra hsome
    have hhas : head.headers.has "Transfer-Encoding" = true := by simp [Headers.has, hsome]
    rw [hboth hhas] at hlength
    cases hlength
  cases hchunked : head.chunked with
  | false => rfl
  | true => exact absurd (by rw [Headers.get, hnone]; rfl) ((chunked_iff h).mp hchunked)

/-- A request keeps to the grammar exactly when it makes no use of what the parsers accept
beyond it. -/
theorem strict_iff_plain (h : serveRequest options remote localAddr turn stream = some handled) :
    handled.Strict ↔ handled.Plain := by
  have haccepted := Handled.accepted h
  obtain ⟨-, head, hhead, hreceive, hopened, -⟩ := serveRequest_eq_some h
  obtain ⟨-, hpath, hcontent, -, hheaders⟩ := receive_eq_ok hreceive
  have hframing := checkFraming_of_readHead hhead
  obtain ⟨-, -, hlengths⟩ := checkFraming_eq_ok hframing
  have hlength : ∀ value ∈ handled.request.headers.values "Content-Length",
      (value.all isAsciiDigit = true ↔ Utf8.trim value = value ∧ value.head? ≠ some '+') := by
    rw [hheaders]
    intro value hvalue
    rw [Head.not_chunked hframing hvalue] at hcontent
    rw [hlengths value hvalue]
    exact length_iff (Option.isSome_of_mem hcontent)
  have hchunked : handled.opened.chunked.isSome = true ↔
      handled.request.headers.get "Transfer-Encoding" ≠ [] := by
    rw [hheaders, ← Head.chunked_iff hframing, hopened]
    cases hchunked : head.chunked <;> simp [openBody, hchunked]
  constructor
  · intro hstrict
    exact {
      length := fun value hvalue => (hlength value hvalue).mp (hstrict.length value hvalue)
      sizes := fun size hsize => (all_digits_iff (haccepted size hsize)).mp (hstrict.sizes size hsize)
      encoding := fun hhas => hchunked.mp (hstrict.encoding hhas)
      path := hstrict.path.signless
      query := fun pair hpair => (hstrict.query pair hpair).signless }
  intro hplain
  exact {
    length := fun value hvalue => (hlength value hvalue).mpr (hplain.length value hvalue)
    sizes := fun size hsize => (all_digits_iff (haccepted size hsize)).mpr (hplain.sizes size hsize)
    encoding := fun hhas => hchunked.mpr (hplain.encoding hhas)
    path := escaped_of_unescape (Option.isSome_of_mem hpath) hplain.path
    query := fun pair hpair => escaped_of_kept hpair (hplain.query pair hpair) }

end Requests

def signedLength : Bytes :=
  asciiBytes "POST / HTTP/1.1\r\nHost: r\r\nContent-Length: +2\r\n\r\nok".toList

def plainLength : Bytes :=
  asciiBytes "POST / HTTP/1.1\r\nHost: r\r\nContent-Length: 2\r\n\r\nok".toList

theorem strict_iff_plain_at_plainLength : ∃ handled,
    served {} plainLength = some handled ∧ (handled.Strict ↔ handled.Plain) := by
  obtain ⟨handled, hserved⟩ : ∃ handled, served {} plainLength = some handled :=
    Option.isSome_iff_exists.mp (by decide +kernel)
  exact ⟨handled, hserved, strict_iff_plain hserved⟩

def signedSize : Bytes := asciiBytes
  "POST /%+1 HTTP/1.1\r\nHost: r\r\nTransfer-Encoding: chunked\r\n\r\n+2\r\nok\r\n0\r\n\r\n".toList

def emptyEncoding : Bytes :=
  asciiBytes "GET / HTTP/1.1\r\nHost: r\r\nTransfer-Encoding:\r\n\r\n".toList

theorem loose_requests_accepted :
    (∃ handled, served {} signedLength = some handled ∧ handled.request.contentLength = 2 ∧
      ¬ handled.Strict) ∧
    (∃ handled, served {} signedSize = some handled ∧ handled.drained.sizes = ["+2".toList, ['0']] ∧
      handled.request.path = ['/', Char.ofNat 1] ∧ ¬ handled.Strict) ∧
    ∃ handled, served {} emptyEncoding = some handled ∧ handled.request.contentLength = 0 ∧
      ¬ handled.Strict := by
  refine ⟨?_, ?_, ?_⟩
  · obtain ⟨handled, hserved, hfacts⟩ := Option.map_eq_some_iff.mp
      (show (served {} signedLength).map (fun handled =>
        (handled.request.contentLength, handled.request.headers.values "Content-Length")) =
          some (2, ["+2".toList]) by decide +kernel)
    obtain ⟨hlength, hvalues⟩ := Prod.mk.inj hfacts
    refine ⟨handled, hserved, hlength, fun hstrict => ?_⟩
    have hdigits := hstrict.length "+2".toList (by rw [hvalues]; exact List.mem_cons_self)
    exact absurd hdigits (by decide)
  · obtain ⟨handled, hserved, hfacts⟩ := Option.map_eq_some_iff.mp
      (show (served {} signedSize).map (fun handled => (handled.drained.sizes, handled.request.path)) =
        some (["+2".toList, ['0']], ['/', Char.ofNat 1]) by decide +kernel)
    obtain ⟨hsizes, hpath⟩ := Prod.mk.inj hfacts
    refine ⟨handled, hserved, hsizes, hpath, fun hstrict => ?_⟩
    have hdigits := hstrict.sizes "+2".toList (by rw [hsizes]; exact List.mem_cons_self)
    exact absurd hdigits (by decide)
  obtain ⟨handled, hserved, hfacts⟩ := Option.map_eq_some_iff.mp
    (show (served {} emptyEncoding).map (fun handled => (handled.request.contentLength,
      handled.request.headers.has "Transfer-Encoding", handled.opened.chunked)) =
        some (0, true, none) by decide +kernel)
  simp only [Prod.mk.injEq] at hfacts
  refine ⟨handled, hserved, hfacts.1, fun hstrict => ?_⟩
  have hchunked := hstrict.encoding hfacts.2.1
  rw [hfacts.2.2] at hchunked
  cases hchunked

end MinimalRouter.Httpd
