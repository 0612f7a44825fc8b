import MinimalRouter.Httpd.Strictness
import MinimalRouter.Lib.Segments
import Mathlib.Data.Char
import Mathlib.Data.List.Lex
import Mathlib.Data.List.Sort

universe u

namespace MinimalRouter.Httpd

open Goish Lib Lib.Utf8

namespace Headers

def del (h : Headers) (name : String) : Headers :=
  ⟨h.items.filter fun item => !eqIgnoreAsciiCase item.1 name.toList⟩

def set (h : Headers) (name : String) (value : Text) : Headers :=
  if validHeaderName name.toList then ⟨(h.del name).items ++ [(canonicalKey name.toList, value)]⟩
  else h

end Headers

structure Response where
  status : Nat
  headers : Headers := {}
  body : Text := []

namespace Response

def bytes (status : Nat) (contentType : String) (body : Text) : Response where
  status
  headers := if contentType.isEmpty then {} else Headers.set {} "Content-Type" contentType.toList
  body

def error (message : String) (status : Nat) : Response :=
  let response := bytes status "text/plain; charset=utf-8" (message.toList ++ ['\n'])
  { response with headers := response.headers.set "X-Content-Type-Options" "nosniff".toList }

def withHeader (response : Response) (name : String) (value : Text) : Response :=
  { response with headers := response.headers.set name value }

end Response

inductive Segment
  | literal : Text → Segment
  | wildcard : Text → Segment
  deriving DecidableEq

structure Route (H : Type u) where
  method : Option Text
  segments : List Segment
  subtree : Bool
  handler : H

variable {H : Type u}

def parseSegment (s : Text) : Segment :=
  if s.head? == some '\x7b' && 2 ≤ s.length && s.getLast? == some '\x7d' then
    .wildcard s.tail.dropLast
  else .literal s

def pathParts (path : Text) : List Text := (path.splitOn '/').filter (!·.isEmpty)

def route (pattern : String) (handler : H) : Route H :=
  let (method, path) :=
    match splitOnce ' ' (chars pattern) with
    | some (m, p) => (some m, Utf8.trim p)
    | none => (none, chars pattern)
  { method
    segments := (pathParts (trimMatches (· == '/') path)).map parseSegment
    subtree := path.getLast? == some '/'
    handler }

def bindSegments : List Segment → List Text → Option (List (Text × Text))
  | .literal l :: pattern, value :: values => if l = value then bindSegments pattern values else none
  | .wildcard name :: pattern, value :: values =>
    (bindSegments pattern values).map ((name, value) :: ·)
  | _, _ => some []

def Route.matches (r : Route H) (segments : List Text) (trailingSlash : Bool) :
    Option (List (Text × Text)) :=
  let fits :=
    if r.subtree then
      !(segments.length < r.segments.length ||
        (segments.length == r.segments.length && !trailingSlash && !r.segments.isEmpty))
    else !(segments.length != r.segments.length || (trailingSlash && !segments.isEmpty))
  if fits then bindSegments r.segments segments else none

def Route.specificity (r : Route H) : Bool × Nat × Nat :=
  (!r.subtree, r.segments.length, (r.segments.filter fun s => s matches .literal _).length)

def outranks (a b : Bool × Nat × Nat) : Bool :=
  (a.1 && !b.1) || (a.1 == b.1 && (b.2.1 < a.2.1 || (a.2.1 == b.2.1 && b.2.2 ≤ a.2.2)))

inductive Dispatched (H : Type u) : Type u
  | response : Response → Dispatched H
  | handler : H → Request → Dispatched H

def segments (rawPath : Text) : List Text :=
  (pathParts rawPath).map fun s => (unescape s false).getD []

def trailingSlash (rawPath : Text) : Bool := 1 < byteLen rawPath && rawPath.getLast? == some '/'

def cleaned (rawPath : Text) : Text :=
  if trailingSlash rawPath && clean rawPath != ['/'] then clean rawPath ++ ['/'] else clean rawPath

def moved (location : Text) : Response :=
  (Response.bytes 301 "text/html; charset=utf-8" ("<a href=\"".toList ++ location ++
    "\">Moved Permanently</a>.\n\n".toList)).withHeader "Location" location

def Route.methodOk (r : Route H) (method : Text) : Bool :=
  match r.method with
  | none => true
  | some m => m == method || (m == "GET".toList && method == "HEAD".toList)

def pathMatches (routes : List (Route H)) (rawPath : Text) :
    List (Route H × List (Text × Text)) :=
  (routes.filterMap fun r =>
    (r.matches (segments rawPath) (trailingSlash rawPath)).map fun params => (r, params)).insertionSort
      fun a b => outranks a.1.specificity b.1.specificity = true

/-- The most specific path decides; among equally specific routes the method selects. -/
def choose (found : List (Route H × List (Text × Text))) (method : Text) :
    Option (Route H × List (Text × Text)) :=
  match found with
  | [] => none
  | best :: _ =>
    let candidates := found.filter fun m => m.1.specificity == best.1.specificity
    (candidates.find? fun m => m.1.methodOk method).or (found.find? fun m => m.1.methodOk method)

def allowed (found : List (Route H × List (Text × Text))) : Text :=
  let methods := found.filterMap fun m => m.1.method
  let methods := if methods.contains "GET".toList then methods ++ ["HEAD".toList] else methods
  [',', ' '].intercalate (methods.insertionSort (· ≤ ·)).dedup

def dispatch (routes : List (Route H)) (request : Request) : Dispatched H :=
  let rawPath := request.rawPath
  if rawPath.head? == some '/' && cleaned rawPath != rawPath && request.method != "CONNECT".toList then
    let location :=
      if request.rawQuery.isEmpty then cleaned rawPath else cleaned rawPath ++ '?' :: request.rawQuery
    .response (moved location)
  else
    let found := pathMatches routes rawPath
    if found.isEmpty then .response (.error "404 page not found" 404)
    else match choose found request.method with
      | some (r, params) => .handler r.handler { request with params }
      | none =>
        .response ((Response.error "Method Not Allowed" 405).withHeader "Allow" (allowed found))

section Decoding

variable {after : Bytes}

theorem unescapeBytes_cons_plain (hb : b ≠ 0x25) (rest : Bytes) :
    unescapeBytes false (b :: rest) = (unescapeBytes false rest).map (b :: ·) := by
  rw [unescapeBytes.eq_def]
  dsimp only
  rw [if_neg hb]
  rfl

theorem unescapeBytes_slash (h : unescapeBytes false (before ++ 0x2F :: after) = some decoded) :
    ∃ left right, unescapeBytes false before = some left ∧ unescapeBytes false after = some right ∧
      decoded = left ++ 0x2F :: right := by
  induction hlength : before.length using Nat.strongRecOn generalizing before decoded with
  | ind n ih =>
    subst hlength
    cases before with
    | nil =>
      rw [List.nil_append, unescapeBytes_cons_plain (by decide)] at h
      obtain ⟨right, hright, rfl⟩ := Option.map_eq_some_iff.mp h
      exact ⟨[], right, rfl, hright, rfl⟩
    | cons c before =>
    by_cases hc : c = 0x25
    · subst hc
      have hsome : (unescapeBytes false (0x25 :: before ++ 0x2F :: after)).isSome = true :=
        Option.isSome_of_mem h
      rcases before with _ | ⟨a, _ | ⟨b, before⟩⟩
      · cases after with
        | nil => cases h
        | cons => exact absurd (unescapeBytes_escape_isSome hsome).1.1 (by decide)
      · exact absurd (unescapeBytes_escape_isSome hsome).1.2 (by decide)
      rw [List.cons_append, List.cons_append, List.cons_append, unescapeBytes_escape] at h
      obtain ⟨byte, hpair, h⟩ := Option.bind_eq_some_iff.mp h
      obtain ⟨rest, hrest, rfl⟩ := Option.map_eq_some_iff.mp h
      obtain ⟨left, right, hleft, hright, rfl⟩ :=
        ih _ (by simp only [List.length_cons]; omega) hrest rfl
      refine ⟨byte :: left, right, ?_, hright, rfl⟩
      rw [unescapeBytes_escape, hpair, Option.bind_some, hleft, Option.map_some]
    rw [List.cons_append, unescapeBytes_cons_plain hc] at h
    obtain ⟨rest, hrest, rfl⟩ := Option.map_eq_some_iff.mp h
    obtain ⟨left, right, hleft, hright, rfl⟩ := ih _ (Nat.lt_succ_self _) hrest rfl
    refine ⟨c :: left, right, ?_, hright, rfl⟩
    rw [unescapeBytes_cons_plain hc, hleft, Option.map_some]

theorem unescapeBytes_parts (p : Text) (ps : List Text)
    (h : unescapeBytes false (encode (['/'].intercalate (p :: ps))) = some decoded) :
    ∃ d ds, (p :: ps).map (fun part => unescapeBytes false (encode part)) = (d :: ds).map some ∧
      decoded = [0x2F].intercalate (d :: ds) := by
  induction ps generalizing p decoded with
  | nil => exact ⟨decoded, [], by simpa using h, by simp⟩
  | cons p' ps ih =>
    rw [List.intercalate_cons_cons, List.append_assoc, List.singleton_append, encode_append,
      encode_cons] at h
    obtain ⟨left, _, hleft, hright, rfl⟩ := unescapeBytes_slash h
    obtain ⟨d, ds, hmap, rfl⟩ := ih p' hright
    refine ⟨left, d :: ds, ?_, ?_⟩
    · rw [List.map_cons, hmap, hleft]
      rfl
    · rw [List.intercalate_cons_cons, List.append_assoc, List.singleton_append]

theorem unescapeBytes_eq_nil : unescapeBytes false bs = some [] ↔ bs = [] := by
  constructor
  · intro h
    cases bs with
    | nil => rfl
    | cons b bs =>
      by_cases hb : b = 0x25
      · subst hb
        rcases bs with _ | ⟨a, _ | ⟨c, bs⟩⟩
        · cases h
        · cases h
        rw [unescapeBytes_escape] at h
        obtain ⟨_, -, h⟩ := Option.bind_eq_some_iff.mp h
        obtain ⟨rest, -, h⟩ := Option.map_eq_some_iff.mp h
        cases h
      rw [unescapeBytes_cons_plain hb] at h
      obtain ⟨rest, -, h⟩ := Option.map_eq_some_iff.mp h
      cases h
  · rintro rfl
    rfl

def segmentations (path : Text) : List (List Text) :=
  (Segments.cuts ((asciiBytes path).splitOn 0x2F)).map fun groups =>
    ((groups.map fun g => [0x2F].intercalate g).filter (!·.isEmpty)).map fromUtf8Lossy

theorem encode_eq_nil : encode cs = [] ↔ cs = [] := by
  cases cs with
  | nil => exact ⟨fun _ => rfl, fun _ => rfl⟩
  | cons => simp

theorem segments_of_decoded {ps : List Text} {ds : List Bytes}
    (h : ps.map (fun part => unescapeBytes false (encode part)) = ds.map some) :
    (ps.filter (!·.isEmpty)).map (fun s => (unescape s false).getD []) =
      (ds.filter (!·.isEmpty)).map fromUtf8Lossy := by
  induction ps generalizing ds with
  | nil =>
    cases ds with
    | nil => rfl
    | cons => cases h
  | cons p ps ih =>
    cases ds with
    | nil => cases h
    | cons d =>
      obtain ⟨hp, hps⟩ : unescapeBytes false (encode p) = some d ∧ _ := List.cons.inj h
      have hempty : p.isEmpty = d.isEmpty := by
        rw [Bool.eq_iff_iff, List.isEmpty_iff, List.isEmpty_iff, ← encode_eq_nil,
          ← unescapeBytes_eq_nil, hp, Option.some.injEq]
      have hdecode : (unescape p false).getD [] = fromUtf8Lossy d := by rw [unescape, hp]; rfl
      rw [List.filter_cons, List.filter_cons, hempty]
      split
      · rw [List.map_cons, List.map_cons, ih hps, hdecode]
      · exact ih hps

theorem segments_mem (hpath : unescape rawPath false = some path)
    (hascii : ∀ c ∈ path, isAscii c = true) : segments rawPath ∈ segmentations path := by
  obtain ⟨_, hdecoded, hlossy⟩ := Option.map_eq_some_iff.mp hpath
  rw [fromUtf8Lossy_eq_ascii hascii] at hlossy
  obtain ⟨p, ps, hps⟩ := List.exists_cons_of_ne_nil (@Segments.splitOn_ne_nil _ _ '/' rawPath)
  have hraw : ['/'].intercalate (p :: ps) = rawPath := hps ▸ List.intercalate_splitOn '/'
  rw [← hraw] at hdecoded
  obtain ⟨d, ds, hmap, hjoin⟩ := unescapeBytes_parts p ps hdecoded
  have hcut : (d :: ds).map (·.splitOn 0x2F) ∈ Segments.cuts ((asciiBytes path).splitOn 0x2F) := by
    rw [← hlossy, hjoin, Segments.splitOn_intercalate_eq_flatMap, List.flatMap_def]
    refine Segments.mem_cuts_flatten _ fun g hg => ?_
    obtain ⟨d', -, rfl⟩ := List.mem_map.mp hg
    exact Segments.splitOn_ne_nil d'
  refine List.mem_map.mpr ⟨_, hcut, ?_⟩
  rw [List.map_map, segments, pathParts, hps, segments_of_decoded hmap]
  simp [Function.comp_def, List.intercalate_splitOn]

end Decoding

section Chosen

variable {routes : List (Route H)}

theorem choose_mem
    (hchoose : choose found method = some m) : m ∈ found := by
  unfold choose at hchoose
  split at hchoose
  · cases hchoose
  rcases Option.or_eq_some_iff.mp hchoose with hfind | ⟨-, hfind⟩
  · exact (List.mem_filter.mp (List.mem_of_find?_eq_some hfind)).1
  · exact List.mem_of_find?_eq_some hfind

theorem dispatch_eq_handler (hdispatch : dispatch routes request = .handler h request') :
    ∃ r ∈ routes, ∃ params, r.handler = h ∧
      r.matches (segments request.rawPath) (trailingSlash request.rawPath) = some params ∧
      request' = { request with params } := by
  unfold dispatch at hdispatch
  dsimp only at hdispatch
  split at hdispatch
  · cases hdispatch
  split at hdispatch
  · cases hdispatch
  split at hdispatch
  · next r params hchosen =>
    cases hdispatch
    obtain ⟨_, hr', hmatch⟩ := List.mem_filterMap.mp
      ((List.mem_insertionSort _).mp (choose_mem hchosen))
    obtain ⟨_, hparams, heq⟩ := Option.map_eq_some_iff.mp hmatch
    cases heq
    exact ⟨r, hr', params, rfl, hparams, rfl⟩
  · cases hdispatch

theorem dispatch_of_single (hclean : cleaned request.rawPath = request.rawPath)
    (hfound : pathMatches routes request.rawPath = [(r, params)])
    (hmethod : r.methodOk request.method = true) :
    dispatch routes request = .handler r.handler { request with params } := by
  have hchoose : choose [(r, params)] request.method = some (r, params) := by
    simp [choose, hmethod]
  unfold dispatch
  dsimp only
  rw [if_neg (by simp [hclean]), hfound, if_neg (by simp), hchoose]

end Chosen

end MinimalRouter.Httpd
