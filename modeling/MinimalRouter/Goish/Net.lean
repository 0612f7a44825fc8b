import MinimalRouter.Goish.Strings
import MinimalRouter.Lib.Block

namespace MinimalRouter.Goish

open Lib

-- one proof for the tables of addresses of every module
instance lawfulBEq_address : LawfulBEq (BitVec 32) := inferInstance

/-- An address, whichever form it is stored in: an IPv4 address and its IPv6 mapping are one. -/
inductive IP
  | v4 : BitVec 32 → IP
  | v6 : BitVec 128 → IP
  deriving DecidableEq

namespace IP

def of16 (x : BitVec 128) : IP :=
  if x >>> 32 = 0xffff#128 then .v4 (x.truncate 32) else .v6 x

def to4 : IP → Option (BitVec 32)
  | v4 x => some x
  | v6 _ => none

end IP

def parseOctet (part : List Char) : Option Nat :=
  if part.isEmpty || part.length > 3 || !part.all isAsciiDigit then none
  else if part.length > 1 && part.head? == some '0' then none
  else if decimalValue part > 255 then none
  else some (decimalValue part)

def ofOctets (a b c d : Nat) : BitVec 32 := BitVec.ofNat 32 (((a * 256 + b) * 256 + c) * 256 + d)

def parseIpv4Strict (value : List Char) : Option (BitVec 32) :=
  match (value.splitOn '.').mapM parseOctet with
  | some [a, b, c, d] => some (ofOctets a b c d)
  | _ => none

/-- A reader takes a value off the front of a text, or leaves the text as it was. -/
abbrev Reader (α : Type) := List Char → Option (α × List Char)

def readGivenChar (c : Char) : Reader Unit
  | [] => none
  | d :: cs => if d = c then some ((), cs) else none

def readNumber (radix maxDigits : Nat) (allowZeroPrefix : Bool) : Reader Nat := fun cs =>
  let digits := cs.takeWhile (isDigitOf radix)
  if digits.length > maxDigits || digits.isEmpty then none
  else if !allowZeroPrefix && digits.head? == some '0' && digits.length > 1 then none
  else some (digits.foldl (fun n c => n * radix + (toDigit radix c).getD 0) 0,
    cs.dropWhile (isDigitOf radix))

def readOctet : Reader Nat := fun cs => (readNumber 10 3 false cs).filter fun r => r.1 < 256

def readIpv4Addr : Reader (BitVec 32) := fun cs => do
  let (a, cs) ← readOctet cs
  let (_, cs) ← readGivenChar '.' cs
  let (b, cs) ← readOctet cs
  let (_, cs) ← readGivenChar '.' cs
  let (c, cs) ← readOctet cs
  let (_, cs) ← readGivenChar '.' cs
  let (d, cs) ← readOctet cs
  return (ofOctets a b c d, cs)

/-- Reads groups into a number of slots, the last two of which an embedded IPv4 address may fill.
The flag tells whether one did. -/
def readGroups : Nat → Bool → List Char → List Nat × Bool × List Char
  | 0, _, cs => ([], false, cs)
  | slots + 1, separated, cs =>
    let start := if separated then (readGivenChar ':' cs).map (·.2) else some cs
    match if slots > 0 then start.bind readIpv4Addr else none with
    | some (x, rest) => ([x.toNat / 65536, x.toNat % 65536], true, rest)
    | none =>
      match start.bind (readNumber 16 4 true) with
      | some (group, rest) =>
        let (groups, embedded, rest) := readGroups slots true rest
        (group :: groups, embedded, rest)
      | none => ([], false, cs)

def ofGroups (groups : List Nat) : BitVec 128 :=
  BitVec.ofNat 128 (groups.foldl (fun n g => n * 65536 + g) 0)

def parseIpv6 (cs : List Char) : Option (BitVec 128) :=
  let (head, embedded, rest) := readGroups 8 false cs
  if head.length = 8 then if rest.isEmpty then some (ofGroups head) else none
  else if embedded then none
  else do
    let (_, rest) ← readGivenChar ':' rest
    let (_, rest) ← readGivenChar ':' rest
    let (tail, _, rest) := readGroups (8 - (head.length + 1)) false rest
    if rest.isEmpty then
      some (ofGroups (head ++ List.replicate (8 - head.length - tail.length) 0 ++ tail))
    else none

def parseIp (value : String) : Option IP :=
  let cs := value.toList
  if cs.contains '%' then none
  else
    match parseIpv4Strict cs with
    | some x => some (.v4 x)
    | none => if cs.contains ':' then (parseIpv6 cs).map IP.of16 else none

def parseIpv4 (value : String) : Option (BitVec 32) := (parseIp value).bind IP.to4

def octet (x : BitVec 32) (i : Nat) : Nat := x.toNat / 256 ^ (3 - i) % 256

def octetsString (x : BitVec 32) : String :=
  toString (octet x 0) ++ "." ++ toString (octet x 1) ++ "." ++ toString (octet x 2) ++ "." ++
    toString (octet x 3)

namespace IP

def isUnspecified : IP → Bool
  | v4 x => x == 0
  | v6 x => x == 0

def isLoopback : IP → Bool
  | v4 x => octet x 0 == 127
  | v6 x => x == 1

def isMulticast : IP → Bool
  | v4 x => octet x 0 / 16 == 14
  | v6 x => x >>> 120 == 0xff

end IP

def hexString (n : Nat) : String := String.ofList (Nat.toDigits 16 n)

def longestZeros (groups : List Nat) : Nat × Nat :=
  (groups.zipIdx.foldl
    (fun (spans : (Nat × Nat) × Nat × Nat) (group, i) =>
      if group = 0 then
        let current := if spans.2.2 = 0 then (i, 1) else (spans.2.1, spans.2.2 + 1)
        (if current.2 > spans.1.2 then current else spans.1, current)
      else (spans.1, (0, 0)))
    ((0, 0), (0, 0))).1

def groupsString (groups : List Nat) : String := ":".intercalate (groups.map hexString)

def ipv6String (x : BitVec 128) : String :=
  let groups := (List.range 8).map fun i => x.toNat / 65536 ^ (7 - i) % 65536
  let (start, len) := longestZeros groups
  if len > 1 then
    groupsString (groups.take start) ++ "::" ++ groupsString (groups.drop (start + len))
  else groupsString groups

def IP.toString : IP → String
  | v4 x => octetsString x
  | v6 x => ipv6String x

/-- A network: the masked address, the length of its prefix, and of which kind of address the
prefix was given. -/
structure IPNet where
  ip : IP
  (ones bits : Nat)
  deriving DecidableEq

namespace IPNet

def effective (n : IPNet) : Nat :=
  match n.ip with
  | .v4 _ => if n.bits = 128 then n.ones - 96 else n.ones
  | .v6 _ => n.ones

def contains (n : IPNet) (ip : IP) : Bool :=
  match n.ip, ip with
  | .v4 base, .v4 x => (Block.mk base n.effective).contains x
  | .v6 base, .v6 x => (Block.mk base n.effective).contains x
  | _, _ => false

def ipv4Broadcast (n : IPNet) : Option (BitVec 32) :=
  n.ip.to4.map fun base => (Block.mk base (min n.ones 32)).last

def networksOverlap (a b : IPNet) : Bool := a.contains b.ip || b.contains a.ip

theorem contains_ip (n : IPNet) : n.contains n.ip = true := by
  rcases n with ⟨_ | _, _, _⟩
  · exact Block.contains_base _
  · exact Block.contains_base _

theorem nested (ha : contains a y = true) (hb : contains b y = true) :
    (∀ x, b.contains x = true → a.contains x = true) ∨
      ∀ x, a.contains x = true → b.contains x = true := by
  obtain ⟨_ | _, _, _⟩ := a <;> obtain ⟨_ | _, _, _⟩ := b <;> obtain _ | _ := y <;>
    first | contradiction | skip
  all_goals
    refine (Block.nested ha hb).imp (fun h x hx => ?_) fun h x hx => ?_ <;> cases x <;>
      first | contradiction | exact h _ hx

theorem networksOverlap_iff : networksOverlap a b = true ↔
    ∃ ip, a.contains ip = true ∧ b.contains ip = true := by
  rw [networksOverlap, Bool.or_eq_true]
  constructor
  · rintro (h | h)
    · exact ⟨b.ip, h, b.contains_ip⟩
    · exact ⟨a.ip, a.contains_ip, h⟩
  · rintro ⟨ip, ha, hb⟩
    exact (nested ha hb).imp (fun h => h _ b.contains_ip) fun h => h _ a.contains_ip

def block (n : IPNet) : Option (Block 32) :=
  match n.ip with
  | .v4 base => some ⟨base, n.effective⟩
  | .v6 _ => none

theorem contains_v4 (n : IPNet) (x : BitVec 32) : n.contains (.v4 x) = n.block.any (·.contains x) := by
  rcases n with ⟨_ | _, _, _⟩ <;> rfl

def toString (n : IPNet) : String :=
  n.ip.toString ++ "/" ++ Nat.repr n.effective

theorem toString_host (x : BitVec 32) : (IPNet.mk (.v4 x) 32 32).toString = octetsString x ++ "/32" := by
  have hlength : "/" ++ Nat.repr 32 = "/32" := by decide
  rw [← hlength, ← String.append_assoc]
  rfl

def maskString (n : IPNet) : String :=
  if n.bits = 32 then octetsString (Block.mask n.ones (BitVec.allOnes 32))
  else (IP.of16 (Block.mask n.ones (BitVec.allOnes 128))).toString

end IPNet

def dtoi (cs : List Char) : Option Nat :=
  if cs.isEmpty || !cs.all isAsciiDigit || decimalValue cs ≥ 0xffffff then none
  else some (decimalValue cs)

def parseCidr (value : String) : Option (IP × IPNet) := do
  let (addr, mask) ← splitOnce '/' value.toList
  if addr.contains '%' then none
  else
    let ones ← dtoi mask
    match parseIpv4Strict addr with
    | some x => if ones > 32 then none else some (.v4 x, ⟨.v4 (Block.mask ones x), ones, 32⟩)
    | none =>
      if addr.contains ':' then do
        let x ← parseIpv6 addr
        if ones > 128 then none
        else some (IP.of16 x, ⟨IP.of16 (Block.mask ones x), ones, 128⟩)
      else none

def xtoi2 (cs : List Char) (sep : Char) : Option Nat :=
  match cs with
  | hi :: lo :: rest =>
    if rest.head?.any (· != sep) then none
    else do return (← toDigit 16 hi) * 16 + (← toDigit 16 lo)
  | _ => none

def parseMac (s : String) : Option (List Nat) :=
  let cs := s.toByteArray.data.toList.map fun b => Char.ofNat b.toNat
  let n := (cs.length + 1) / 3
  let m := 2 * (cs.length + 1) / 5
  let sep := cs.getD 2 ' '
  if cs.length < 14 then none
  else if sep = ':' ∨ sep = '-' then
    if (cs.length + 1) % 3 ≠ 0 ∨ n ∉ [6, 8, 20] then none
    else (List.range n).mapM fun i => xtoi2 (cs.drop (3 * i)) sep
  else if cs.getD 4 ' ' = '.' then
    if (cs.length + 1) % 5 ≠ 0 ∨ m ∉ [6, 8, 20] then none
    else (List.range m).mapM fun i =>
      if i % 2 = 0 then xtoi2 ((cs.drop (i / 2 * 5)).take 2) '.'
      else xtoi2 (cs.drop (i / 2 * 5 + 2)) '.'
  else none

def macString (bytes : List Nat) : String :=
  ":".intercalate (bytes.map fun b => hexString (b / 16) ++ hexString (b % 16))

def splitHostPort (hostport : String) : Option (String × String) :=
  let cs := hostport.toList
  match rsplitOnce ':' cs with
  | none => none
  | some (before, port) =>
    if cs.head? == some '[' then
      match splitOnce ']' cs with
      | none => none
      | some (bracketed, after) =>
        -- the bracket must close right before the last colon
        if after != ':' :: port || cs.tail.contains '[' || after.contains ']' then none
        else some (String.ofList bracketed.tail, String.ofList port)
    else if before.contains ':' || cs.contains '[' || cs.contains ']' then none
    else some (String.ofList before, String.ofList port)

end MinimalRouter.Goish
