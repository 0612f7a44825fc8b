import Mathlib.Data.List.Sort
import MinimalRouter.Config.Services
import MinimalRouter.Goish.AddressText
import MinimalRouter.Lib.Result

namespace MinimalRouter.Applyd.Destinations

open Goish Config Lib.Result

def asArray : Json → Option (List Json)
  | .emptyArray => some []
  | .element x xs => (asArray xs).map (x :: ·)
  | _ => none

def asStr : Json → Option String
  | .str s => some s
  | _ => none

def asI64 : Json → Option Int
  | .num n => if -2 ^ 63 ≤ n ∧ n < 2 ^ 63 then some n else none
  | _ => none

def arrayAt (value : Json) (key : String) : List Json := ((value.get key).bind asArray).getD []

def textAt (value : Json) (key : String) : String := ((value.get key).bind asStr).getD ""

def maxServiceDestinations : Nat := 16384

def trimStartMatches (start : List Char) : Nat → List Char → List Char
  | 0, cs => cs
  | n + 1, cs => if start.isPrefixOf cs then trimStartMatches start n (cs.drop start.length) else cs

def supported (name : String) : Bool :=
  supportedProfileServices.contains
    (String.ofList (trimStartMatches "svc_".toList name.length name.toList))

/-- The new timeout in seconds, with a second of headroom; the time that has passed is in nanoseconds. -/
def secondsLeft (elapsed : Nat) (expires : Int) : Option Int :=
  if expires ≤ 0 ∨ 4 * 3600 < expires then none
  else
    let remaining := expires.toNat * 10 ^ 9 - elapsed
    let seconds : Int := (remaining / 10 ^ 9 : Nat) - 1
    if 0 < seconds then some seconds else none

def renewed (elapsed : Nat) (entry : Json) : Except String (Option (BitVec 32 × Int)) := do
  let elem ← (entry.get "elem").elim (throw "invalid service destination address") pure
  let addr ← (parseIpv4Strict (textAt elem "val").toList).elim
    (throw "invalid service destination address") pure
  if (IP.v4 addr).isUnspecified || (IP.v4 addr).isMulticast then
    .error "invalid service destination address"
  else
    let expires := ((elem.get "expires").bind asI64).getD 0
    .ok ((secondsLeft elapsed expires).map (addr, ·))

structure AddElement where
  name : String
  values : List (BitVec 32 × Int)

def AddElement.text (line : AddElement) : String :=
  let values := line.values.map fun v => octetsString v.1 ++ " timeout " ++ toString v.2 ++ "s"
  "add element inet minimalrouter " ++ line.name ++ " \x7b " ++
    ", ".intercalate (values.insertionSort (· ≤ ·)) ++ " \x7d\n"

def serviceSet (wanted : List String) (elapsed : Nat) (item : Json) :
    Except String (Option AddElement) :=
  match item.get "set" with
  | none => .ok none
  | some set =>
    let name := textAt set "name"
    if name ∉ wanted then .ok none
    else if !supported name then .error "unknown service set"
    else if textAt set "family" ≠ "inet" ∨ textAt set "table" ≠ "minimalrouter" ∨
        textAt set "type" ≠ "ipv4_addr" ∨ maxServiceDestinations < (arrayAt set "elem").length then
      .error "invalid service destination set"
    else (gather (renewed elapsed) (arrayAt set "elem")).map fun values =>
      if values.isEmpty then none else some ⟨name, values⟩

def serviceDestinationBatch (decode : List UInt8 → Except String Json) (raw : List UInt8)
    (wanted : List String) (elapsed : Nat) : Except String String :=
  if 8 * 2 ^ 20 < raw.length then .error "service destination snapshot is too large"
  else do
    let envelope ← decode raw
    let lines ← gather (serviceSet wanted elapsed) (arrayAt envelope "nftables")
    return String.join (lines.map AddElement.text)

def Lists (snapshot : Json) (name : String) (addr : BitVec 32) (expires : Int) : Prop :=
  ∃ item ∈ arrayAt snapshot "nftables", ∃ set, item.get "set" = some set ∧ textAt set "name" = name ∧
    textAt set "family" = "inet" ∧ textAt set "table" = "minimalrouter" ∧
    textAt set "type" = "ipv4_addr" ∧ ∃ entry ∈ arrayAt set "elem", ∃ elem,
      entry.get "elem" = some elem ∧ parseIpv4Strict (textAt elem "val").toList = some addr ∧
      (elem.get "expires").bind asI64 = some expires

def Shortened (elapsed : Nat) (seconds expires : Int) : Prop :=
  (1 ≤ expires ∧ expires ≤ 14400) ∧ 0 < seconds ∧ seconds * 10 ^ 9 + elapsed < expires * 10 ^ 9

theorem secondsLeft_eq_some (h : secondsLeft elapsed expires = some seconds) :
    Shortened elapsed seconds expires := by
  unfold secondsLeft at h
  split at h
  · cases h
  next hexpires =>
    dsimp only at h
    split at h
    next hpos =>
      cases h
      unfold Shortened
      omega
    · cases h

theorem renewed_eq_ok (h : renewed elapsed entry = .ok (some (addr, seconds))) :
    (IP.v4 addr).isUnspecified = false ∧ (IP.v4 addr).isMulticast = false ∧
      ∃ elem expires, entry.get "elem" = some elem ∧
        parseIpv4Strict (textAt elem "val").toList = some addr ∧
        (elem.get "expires").bind asI64 = some expires ∧ Shortened elapsed seconds expires := by
  obtain ⟨elem, helem, h⟩ := bind_eq_ok.mp h
  obtain ⟨x, hx, h⟩ := bind_eq_ok.mp h
  split at h
  · cases h
  next hclass =>
    obtain ⟨t, ht, hpair⟩ := Option.map_eq_some_iff.mp (Except.ok.inj h)
    cases hpair
    rw [Bool.or_eq_true, not_or, Bool.not_eq_true, Bool.not_eq_true] at hclass
    refine ⟨hclass.1, hclass.2, elem, _, elim_eq_ok.mp helem, elim_eq_ok.mp hx, ?_,
      secondsLeft_eq_some ht⟩
    cases hexpires : (elem.get "expires").bind asI64 with
    | some => rfl
    | none =>
      rw [hexpires] at ht
      cases ht

theorem serviceSet_eq_ok (h : serviceSet wanted elapsed item = .ok (some line)) :
    ∃ set, item.get "set" = some set ∧ textAt set "name" = line.name ∧ line.name ∈ wanted ∧
      supported line.name = true ∧ textAt set "family" = "inet" ∧
      textAt set "table" = "minimalrouter" ∧ textAt set "type" = "ipv4_addr" ∧
      gather (renewed elapsed) (arrayAt set "elem") = .ok line.values := by
  unfold serviceSet at h
  split at h
  · cases h
  next set hset =>
    dsimp only at h
    split at h
    · cases h
    next hwanted =>
      split at h
      · cases h
      next hsupported =>
        split at h
        · cases h
        next htable =>
          obtain ⟨values, hvalues, hline⟩ := map_eq_ok.mp h
          split at hline
          · cases hline
          cases hline
          simp only [not_or, not_not] at htable
          exact ⟨set, hset, rfl, not_not.mp hwanted, by simpa using hsupported, htable.1, htable.2.1,
            htable.2.2.1, hvalues⟩

theorem destinations_never_gain_lifetime {decode : List UInt8 → Except String Json}
    {raw : List UInt8} {out : String}
    (h : serviceDestinationBatch decode raw wanted elapsed = .ok out) :
    ∃ snapshot, decode raw = .ok snapshot ∧ ∃ lines : List AddElement,
      out = String.join (lines.map AddElement.text) ∧
      ∀ line ∈ lines, line.name ∈ wanted ∧ supported line.name = true ∧
        ∀ addr seconds, (addr, seconds) ∈ line.values →
          (IP.v4 addr).isUnspecified = false ∧ (IP.v4 addr).isMulticast = false ∧
          ∃ expires, Lists snapshot line.name addr expires ∧ (1 ≤ expires ∧ expires ≤ 14400) ∧
            0 < seconds ∧ seconds * 10 ^ 9 + elapsed < expires * 10 ^ 9 := by
  unfold serviceDestinationBatch at h
  split at h
  · cases h
  obtain ⟨snapshot, hsnapshot, h⟩ := bind_eq_ok.mp h
  obtain ⟨lines, hlines, h⟩ := bind_eq_ok.mp h
  cases h
  refine ⟨snapshot, hsnapshot, lines, rfl, fun line hline => ?_⟩
  obtain ⟨item, hitem, hset⟩ := exists_of_gather hlines line hline
  obtain ⟨set, hset, hname, hwanted, hsupported, hfamily, htable, htype, hvalues⟩ :=
    serviceSet_eq_ok hset
  refine ⟨hwanted, hsupported, fun addr seconds hvalue => ?_⟩
  obtain ⟨entry, hentry, hrenewed⟩ := exists_of_gather hvalues _ hvalue
  obtain ⟨hspecified, hunicast, elem, expires, helem, haddr, hexpires, hshort⟩ :=
    renewed_eq_ok hrenewed
  exact ⟨hspecified, hunicast, expires, ⟨item, hitem, set, hset, hname, hfamily, htable, htype, entry,
    hentry, elem, helem, haddr, hexpires⟩, hshort⟩

def sampleSnapshot : Json :=
  .object [some ("nftables", .array [.object [some ("set", .object [
    Json.field "name" "svc_youtube", Json.field "family" "inet", Json.field "table" "minimalrouter",
    Json.field "type" "ipv4_addr", some ("elem", .array [.object [some ("elem", .object [
      Json.field "val" "8.8.8.8", Json.field "expires" (60 : Int)])]])])]])]

/-- The text that nft prints for it. -/
def sampleText : List UInt8 :=
  ("\x7b\"nftables\": [\x7b\"set\": \x7b\"name\": \"svc_youtube\", \"family\": \"inet\", " ++
    "\"table\": \"minimalrouter\", \"type\": \"ipv4_addr\", \"elem\": [\x7b\"elem\": " ++
    "\x7b\"val\": \"8.8.8.8\", \"expires\": 60\x7d\x7d]\x7d\x7d]\x7d").toUTF8.toList

def sampleDecode (raw : List UInt8) : Except String Json :=
  if raw = sampleText then .ok sampleSnapshot else .error "expected value at line 1 column 1"

theorem destinations_never_gain_lifetime_sample :
    ∃ snapshot, sampleDecode sampleText = .ok snapshot ∧ ∃ lines : List AddElement,
      "add element inet minimalrouter svc_youtube \x7b 8.8.8.8 timeout 49s \x7d\n" =
        String.join (lines.map AddElement.text) ∧
      ∀ line ∈ lines, line.name ∈ ["svc_youtube"] ∧ supported line.name = true ∧
        ∀ addr seconds, (addr, seconds) ∈ line.values →
          (IP.v4 addr).isUnspecified = false ∧ (IP.v4 addr).isMulticast = false ∧
          ∃ expires, Lists snapshot line.name addr expires ∧ (1 ≤ expires ∧ expires ≤ 14400) ∧
            0 < seconds ∧ seconds * 10 ^ 9 + (10 ^ 10 : Nat) < expires * 10 ^ 9 := by
  have hbatch : serviceDestinationBatch sampleDecode sampleText ["svc_youtube"] (10 ^ 10) =
      .ok "add element inet minimalrouter svc_youtube \x7b 8.8.8.8 timeout 49s \x7d\n" := by
    decide +kernel
  exact destinations_never_gain_lifetime hbatch

end MinimalRouter.Applyd.Destinations
