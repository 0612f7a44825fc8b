import MinimalRouter.Auth.Sessions

namespace MinimalRouter.Httpd

open Goish Lib Lib.Utf8

abbrev Bytes := List UInt8

abbrev Text := List Char

structure Headers where
  items : List (Text × Text) := []
  deriving DecidableEq

def tokenChars : Text := "!#$%&'*+-.^_`|~".toList

def isTokenChar (c : Char) : Bool := isAsciiAlphanumeric c || tokenChars.contains c

def validHeaderName (name : Text) : Bool := !name.isEmpty && name.all isTokenChar

def canonicalFrom : Bool → Text → Text
  | _, [] => []
  | upper, c :: cs => (if upper then asciiUpper c else asciiLower c) :: canonicalFrom (c == '-') cs

def canonicalKey (name : Text) : Text := canonicalFrom true name

namespace Headers

def values (h : Headers) (name : String) : List Text :=
  (h.items.filter fun item => eqIgnoreAsciiCase item.1 name.toList).map (·.2)

def get (h : Headers) (name : String) : Text := (h.values name).headD []

def has (h : Headers) (name : String) : Bool := !(h.values name).isEmpty

def add (h : Headers) (name value : Text) : Headers :=
  if validHeaderName name then ⟨h.items ++ [(canonicalKey name, value)]⟩ else h

end Headers

/-- Two characters of an escape as the standard library reads a number from them. -/
def hexPair (a b : UInt8) : Option UInt8 :=
  (parseUnsigned 16 256 [Char.ofNat a.toNat, Char.ofNat b.toNat]).map UInt8.ofNat

def unescapeBytes (query : Bool) : Bytes → Option Bytes
  | [] => some []
  | b :: rest =>
    if b = 0x25 then
      match rest with
      | h :: l :: rest => (hexPair h l).bind fun byte => (unescapeBytes query rest).map (byte :: ·)
      | _ => none
    else (unescapeBytes query rest).map ((if query && b = 0x2B then 0x20 else b) :: ·)

def unescape (value : Text) (query : Bool) : Option Text :=
  (unescapeBytes query (encode value)).map fromUtf8Lossy

def keptPairs (raw : Text) : List Text :=
  (raw.splitOn '&').filter fun pair =>
    !pair.isEmpty && !pair.contains ';' &&
      let (k, v) := (splitOnce '=' pair).getD (pair, [])
      (unescape k true).isSome && (unescape v true).isSome

def Query.parse (raw : Text) : List (Text × Text) :=
  (keptPairs raw).map fun pair =>
    let (k, v) := (splitOnce '=' pair).getD (pair, [])
    ((unescape k true).getD [], (unescape v true).getD [])

inductive HeadError
  | closed
  | badRequest : String → HeadError
  | tooLarge | notImplemented
  deriving DecidableEq

structure Head where
  (method target proto : Text)
  headers : Headers
  deriving DecidableEq

def chomp (line : Bytes) : Bytes := if line.getLast? = some 0x0D then line.dropLast else line

/-- The lines of the head, up to the empty one, and what follows it.  The bytes read so far count
against a limit, and leading blank lines are tolerated. -/
def readLines (limit : Nat) : Nat → List Text → Bytes → Bytes → Except HeadError (List Text × Bytes)
  | _, _, _, [] => .error .closed
  | total, lines, line, b :: rest =>
    if total + 1 > limit then .error .tooLarge
    else if b = 0x0A then
      if (chomp line).isEmpty then
        if lines.isEmpty then readLines limit (total + 1) lines [] rest else .ok (lines, rest)
      else readLines limit (total + 1) (lines ++ [fromUtf8Lossy (chomp line)]) [] rest
    else readLines limit (total + 1) lines (line ++ [b]) rest

def requestLine (line : Text) : Text × Text × Text :=
  match splitOnce ' ' line with
  | none => (line, [], [])
  | some (method, rest) =>
    match splitOnce ' ' rest with
    | none => (method, rest, [])
    | some (target, proto) => (method, target, proto)

def malformedLine : HeadError := .badRequest "malformed MIME header line"

def addHeader (headers : Headers) (line : Text) : Except HeadError Headers :=
  if line.head? = some ' ' || line.head? = some '\t' then .error malformedLine
  else match splitOnce ':' line with
    | none => .error malformedLine
    | some (name, value) =>
      if !validHeaderName name then .error malformedLine
      else .ok (headers.add (canonicalKey name) (trimMatches (fun c => c == ' ' || c == '\t') value))

def checkRequestLine (method target proto : Text) : Except HeadError Unit :=
  if method.isEmpty || target.isEmpty ||
      !(proto == "HTTP/1.1".toList || proto == "HTTP/1.0".toList) then
    .error (.badRequest "malformed HTTP request")
  else if !method.all isTokenChar then .error (.badRequest "invalid method")
  else .ok ()

def checkFraming (headers : Headers) : Except HeadError Unit :=
  let te := (headers.get "Transfer-Encoding").map asciiLower
  if headers.has "Transfer-Encoding" && headers.has "Content-Length" then
    .error (.badRequest "message cannot contain both Transfer-Encoding and Content-Length")
  else if (headers.values "Transfer-Encoding").length > 1 then
    .error (.badRequest "message cannot contain multiple Transfer-Encoding headers")
  else if !te.isEmpty && te != "chunked".toList then .error .notImplemented
  else if (headers.values "Content-Length").any (· != headers.get "Content-Length") then
    .error (.badRequest "message cannot contain multiple Content-Length headers")
  else .ok ()

def parseHead : List Text → Except HeadError Head
  | [] => .error .closed
  | first :: fields => do
    let (method, target, proto) := requestLine first
    checkRequestLine method target proto
    let headers ← fields.foldlM addHeader {}
    checkFraming headers
    return { method, target, proto, headers }

def readHead (maxHeaderBytes : Nat) (stream : Bytes) : Except HeadError (Head × Bytes) := do
  let (lines, rest) ← readLines (maxHeaderBytes + 4096) 0 [] [] stream
  let head ← parseHead lines
  return (head, rest)

/-- The path and the query of a request target, in asterisk, absolute or origin form. -/
def parseTarget (target : Text) : Option (Text × Text) :=
  let pathAndQuery := fun (path : Text) => (splitOnce '?' path).getD (path, [])
  if target = ['*'] then some (['*'], [])
  else match (stripStart "http://".toList target).or (stripStart "https://".toList target) with
    | some rest =>
      let (p, q) := pathAndQuery (rest.dropWhile (· != '/'))
      some (if p.isEmpty then ['/'] else p, q)
    | none => if target.head? = some '/' then some (pathAndQuery target) else none

def contentLength (headers : Headers) (chunked : Bool) : Option Int :=
  if chunked then some (-1)
  else match Utf8.trim (headers.get "Content-Length") with
    | [] => some 0
    | value => ((parseUnsigned 10 (2 ^ 64) value).filter (· < 2 ^ 63)).map Int.ofNat

structure Request where
  (method path rawPath rawQuery proto : Text)
  headers : Headers
  host : Text
  (remoteAddr localAddr : String)
  contentLength : Int
  params : List (Text × Text) := []
  session : Option Auth.Session := none
  deriving DecidableEq

def Request.query (r : Request) : List (Text × Text) := Query.parse r.rawQuery

def Request.cookie (r : Request) (name : String) : Option Text :=
  ((r.headers.values "Cookie").flatMap (·.splitOn ';')).findSome? fun part =>
    let part := Utf8.trim part
    let (k, v) := (splitOnce '=' part).getD (part, [])
    if k = name.toList then
      some (if 2 ≤ v.length && v.head? == some '"' && v.getLast? == some '"' then v.tail.dropLast else v)
    else none

def Head.chunked (head : Head) : Bool :=
  eqIgnoreAsciiCase (head.headers.get "Transfer-Encoding") "chunked".toList

/-- What the server makes of a head, or the status and the message with which it closes the
connection. -/
def receive (remote localAddr : String) (head : Head) : Except (Nat × String) Request := do
  let (rawPath, rawQuery) ← (parseTarget head.target).elim (throw (400, "Bad Request")) pure
  let path ← (unescape rawPath false).elim (throw (400, "Bad Request")) pure
  let length ← (contentLength head.headers head.chunked).elim
    (throw (400, "Bad Request: bad Content-Length")) pure
  if head.proto = "HTTP/1.1".toList && !head.headers.has "Host" then
    throw (400, "Bad Request: missing required Host header")
  return {
    method := head.method, path, rawPath, rawQuery, proto := head.proto, headers := head.headers
    host := head.headers.get "Host", remoteAddr := remote, localAddr, contentLength := length }

theorem receive_eq_ok (h : receive remote localAddr head = .ok request) :
    parseTarget head.target = some (request.rawPath, request.rawQuery) ∧
      unescape request.rawPath false = some request.path ∧
      contentLength head.headers head.chunked = some request.contentLength ∧
      request.method = head.method ∧ request.headers = head.headers := by
  unfold receive at h
  simp only [Result.bind_eq_ok, Result.elim_eq_ok] at h
  obtain ⟨⟨rawPath, rawQuery⟩, htarget, path, hpath, _, hlength, h⟩ := h
  dsimp only at h
  split at h
  · nomatch h
  · cases h
    exact ⟨htarget, hpath, hlength, rfl, rfl⟩

theorem contentLength_neg_iff (h : receive remote localAddr head = .ok request) :
    request.contentLength < 0 ↔ head.chunked = true := by
  obtain ⟨-, -, hlength, -⟩ := receive_eq_ok h
  unfold contentLength at hlength
  split at hlength
  · next hchunked =>
    rw [← Option.some.inj hlength]
    simp [hchunked]
  · next hchunked =>
    refine ⟨fun hneg => ?_, fun h => absurd h hchunked⟩
    split at hlength
    · rw [← Option.some.inj hlength] at hneg
      cases hneg
    obtain ⟨n, -, hn⟩ := Option.map_eq_some_iff.mp hlength
    rw [← hn] at hneg
    exact absurd hneg (Int.not_lt.mpr (Int.natCast_nonneg n))

theorem checkFraming_eq_ok (h : checkFraming headers = .ok ()) :
    (headers.has "Transfer-Encoding" = true → headers.has "Content-Length" = false) ∧
      (headers.get "Transfer-Encoding" = [] ∨
        eqIgnoreAsciiCase (headers.get "Transfer-Encoding") "chunked".toList = true) ∧
      ∀ value ∈ headers.values "Content-Length", value = headers.get "Content-Length" := by
  unfold checkFraming at h
  extract_lets te at h
  split at h
  · cases h
  next hboth =>
  split at h
  · cases h
  split at h
  · cases h
  next hencoding =>
  split at h
  · cases h
  next hlengths =>
  refine ⟨fun hte => ?_, ?_, by simpa using hlengths⟩
  · simpa [hte] using hboth
  simp only [Bool.and_eq_true, not_and, bne_iff_ne, not_not, te] at hencoding
  by_cases hempty : headers.get "Transfer-Encoding" = []
  · exact .inl hempty
  · exact .inr (beq_iff_eq.mpr (hencoding (by simpa using hempty)))

theorem checkFraming_of_readHead (h : readHead maxHeaderBytes stream = .ok (head, rest)) :
    checkFraming head.headers = .ok () := by
  unfold readHead at h
  simp only [Result.bind_eq_ok] at h
  obtain ⟨_, -, _, hparse, h⟩ := h
  cases h
  unfold parseHead at hparse
  split at hparse
  · cases hparse
  simp only [Result.bind_eq_ok] at hparse
  obtain ⟨-, -, headers, -, ⟨⟩, hframing, hhead⟩ := hparse
  cases hhead
  exact hframing

end MinimalRouter.Httpd
