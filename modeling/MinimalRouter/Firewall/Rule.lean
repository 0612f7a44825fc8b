import MinimalRouter.Config.Networks
import MinimalRouter.Goish.AddressText
import MinimalRouter.Lib.Chain

namespace MinimalRouter.Firewall

open Goish Config Lib

inductive Header
  | v4 : BitVec 32 → BitVec 32 → Header
  | v6 : BitVec 128 → BitVec 128 → Header

inductive Proto
  | tcp | udp | icmp
  | other : Nat → Proto
  deriving DecidableEq

def Proto.name : Proto → Option String
  | tcp => some "tcp"
  | udp => some "udp"
  | _ => none

theorem Proto.name_eq_udp {proto : Proto} (h : proto.name = some "udp") : proto = .udp := by
  cases proto with
  | udp => rfl
  | tcp => simp [Proto.name] at h
  | _ => cases h

inductive CtState
  | new | established | related | invalid
  deriving DecidableEq

structure Packet where
  (iif oif : String)
  header : Header
  proto : Proto
  (sport dport : Nat)
  ct : CtState
  syn : Bool
  /-- No route leads back to the source through the interface the packet came in on. -/
  fibMissing : Bool
  /-- The source is an address of the router. -/
  fromLocal : Bool
  skuid : String
  /-- Whether a rate limit is exceeded. -/
  exceeded : String → Bool
  /-- Whether the destination is in a set that is filled at run time. -/
  listed : String → Bool
  (day second : Nat)

/-- An interface of a rule; the star stands for any ending. -/
inductive Iface
  | name : String → Iface
  | ppp
  deriving DecidableEq

namespace Iface

def text : Iface → String
  | name n => n
  | ppp => "ppp*"

def covers : Iface → String → Bool
  | name n, iface => n == iface
  | ppp, iface => startsWith "ppp" iface

end Iface

/-- An address operand: a text of the configuration, or a network that the generator printed. -/
inductive Addr
  | text : String → Addr
  | net : IPNet → Addr

inductive Operand
  | one : Addr → Operand
  | set : List Addr → Operand

/-- A port operand: a number of the configuration, or a text that is passed on. -/
inductive Port
  | num : Int → Port
  | text : String → Port

inductive Ports
  | one : Port → Ports
  | set : List Port → Ports

namespace Operand

def addrs : Operand → List Addr
  | one a => [a]
  | set as => as

end Operand

def Ports.items : Ports → List Port
  | one p => [p]
  | set ps => ps

inductive Match
  | iifname : Iface → Match
  | oifname : Iface → Match
  | oifnameIn : List Iface → Match
  | saddr : Operand → Match
  | saddrNot : Operand → Match
  | daddr : Operand → Match
  | daddrIn : String → Match
  | icmp
  | dport : String → Ports → Match
  | sport : String → Ports → Match
  | word : String → Match
  | ctState : List CtState → Match
  | fibMissing | fibNotLocal | ipv6
  | skuid : String → Match
  | synFlag
  | meter : String → Match
  | limit : String → Match
  | day : Nat → Match
  | hour : String → String → Match

inductive Effect
  | counter : Option String → Effect
  | update : String → String → Effect
  | clampMss

inductive Verdict
  | accept | drop | ret
  | jump : String → Verdict
  | dnat : String → Int → Verdict
  | masquerade

structure Rule where
  conds : List Match
  effects : List Effect := []
  verdict : Option Verdict

inductive Item
  | rule : Rule → Item
  | comment : String → Item
  | blank

/-- The generated table. The chain of device profiles is there when a profile manages a service. -/
structure Table where
  revision : Revision
  (ruleCounters services : List String)
  deviceProfiles : List Item
  accounting : Bool
  (input forward output prerouting postrouting : List Item)

/-- The addresses that a text names: one address, or a network that is written as an IPv4 one. -/
def textBlock (s : String) : Option (Block 32) :=
  match parseIpv4 s with
  | some x => some ⟨x, 32⟩
  | none =>
    match parseCidr s with
    | some (_, n) => if n.bits = 32 then n.block else none
    | none => none

/-- How the packet filter reads the address texts of a rule. It may refuse a text, and with it the
whole table, but it does not read another address than the configuration code does. -/
structure Nft where
  read : String → Option (Block 32)
  sound : ∀ s b, read s = some b → textBlock s = some b

namespace Nft

def plain : Nft := ⟨textBlock, fun _ _ h => h⟩

variable (nft : Nft)

def block : Addr → Option (Block 32)
  | .text s => nft.read s
  | .net n => n.block

def contains (o : Operand) (x : BitVec 32) : Bool :=
  o.addrs.any fun a => (nft.block a).any (·.contains x)

@[simp] theorem contains_set_singleton (a : Addr) (x : BitVec 32) :
    nft.contains (.set [a]) x = nft.contains (.one a) x := rfl

variable {nft}

theorem textBlock_of_contains (h : nft.contains (.one (.text s)) x = true) :
    ∃ b, textBlock s = some b ∧ b.contains x = true := by
  simp only [contains, Operand.addrs, block, List.any_cons, List.any_nil, Bool.or_false,
    Option.any_eq_true] at h
  obtain ⟨b, hread, hb⟩ := h
  exact ⟨b, nft.sound s b hread, hb⟩

theorem eq_of_contains (hs : parseIpv4 s = some y) (h : nft.contains (.one (.text s)) x = true) :
    x = y := by
  obtain ⟨b, hblock, hb⟩ := textBlock_of_contains h
  rw [textBlock, hs] at hblock
  cases hblock
  exact (beq_iff_eq.mp (Block.contains_host y x ▸ hb)).symm

theorem contains_of_parseCidr (hs : parseCidr s = some (ip, n))
    (h : nft.contains (.one (.text s)) x = true) : n.bits = 32 ∧ n.contains (.v4 x) = true := by
  obtain ⟨b, hblock, hb⟩ := textBlock_of_contains h
  have hip : parseIpv4 s = none := by
    rcases hx : parseIp s with _ | y
    · rw [parseIpv4, hx]
      rfl
    · cases (parseCidr_eq_none_of_parseIp hx).symm.trans hs
  rw [textBlock, hip, hs] at hblock
  dsimp only at hblock
  split at hblock
  · next hbits =>
    rw [IPNet.contains_v4, hblock]
    exact ⟨hbits, hb⟩
  · cases hblock

end Nft

def readPort : Port → Option Int
  | .num n => some n
  | .text s => goAtoi s

def readHour (s : String) : Option Nat :=
  match ((s.toList.splitOn ':').map fun cs => if cs.all isAsciiDigit && !cs.isEmpty then
      some (decimalValue cs) else none) with
  | [some h, some m] => some (h * 3600 + m * 60)
  | [some h, some m, some s] => some (h * 3600 + m * 60 + s)
  | _ => none

section Semantics

variable (nft : Nft)

def portIn (proto : String) (ports : Ports) (actual : Proto) (port : Nat) : Bool :=
  actual.name == some proto && ports.items.any fun p => readPort p == some (port : Int)

theorem portIn_num :
    portIn proto (.one (.num n)) actual port = true ↔ actual.name = some proto ∧ (port : Int) = n := by
  simp [portIn, Ports.items, readPort, eq_comm (a := n)]

def Match.holds (p : Packet) : Match → Bool
  | .iifname i => i.covers p.iif
  | .oifname i => i.covers p.oif
  | .oifnameIn is => is.any fun i => i.covers p.oif
  | .saddr o => match p.header with
      | .v4 src _ => nft.contains o src
      | .v6 _ _ => false
  | .saddrNot o => match p.header with
      | .v4 src _ => !nft.contains o src
      | .v6 _ _ => false
  | .daddr o => match p.header with
      | .v4 _ dst => nft.contains o dst
      | .v6 _ _ => false
  | .daddrIn set => match p.header with
      | .v4 _ _ => p.listed set
      | .v6 _ _ => false
  | .icmp => match p.header with
      | .v4 _ _ => p.proto == .icmp
      | .v6 _ _ => false
  | .dport proto ports => portIn proto ports p.proto p.dport
  | .sport proto ports => portIn proto ports p.proto p.sport
  -- a word that is no protocol with a port is refused with its table
  | .word _ => false
  | .ctState states => states.contains p.ct
  | .fibMissing => p.fibMissing
  | .fibNotLocal => !p.fromLocal
  | .ipv6 => match p.header with
      | .v4 _ _ => false
      | .v6 _ _ => true
  | .skuid user => p.skuid == user
  | .synFlag => p.proto == .tcp && p.syn
  | .meter name => p.exceeded name
  | .limit name => p.exceeded name
  | .day n => p.day == n
  | .hour start stop => match readHour start, readHour stop with
      | some a, some b => a ≤ p.second && p.second ≤ b
      | _, _ => false

inductive Decision
  | accept | drop | masquerade
  | dnat : String → Int → Decision
  deriving DecidableEq

def Verdict.action : Verdict → Chain.Action Decision String
  | .accept => .settle .accept
  | .drop => .settle .drop
  | .ret => .ret
  | .jump c => .jump c
  | .dnat ip port => .settle (.dnat ip port)
  | .masquerade => .settle .masquerade

def Rule.step (sub : String → Option Decision) (p : Packet) (r : Rule) : Chain.Outcome Decision :=
  if r.conds.all (·.holds nft p) then
    Chain.perform sub (r.verdict.elim .pass Verdict.action)
  else .next

def Item.step (sub : String → Option Decision) (p : Packet) : Item → Chain.Outcome Decision
  | .rule r => r.step nft sub p
  | .comment _ => .next
  | .blank => .next

@[simp] theorem Item.step_comment (nft : Nft) (sub : String → Option Decision) (p : Packet) (s : String) :
    (Item.comment s).step nft sub p = .next := rfl

namespace Table

variable (t : Table)

def sub (p : Packet) (name : String) : Option Decision :=
  if name = "device_profiles" then
    (Chain.run (Item.step nft (fun _ => none) p) t.deviceProfiles).verdict
  else none

def runChain (p : Packet) (items : List Item) : Chain.Outcome Decision :=
  Chain.run (Item.step nft (t.sub nft p) p) items

def onInput (p : Packet) : Decision := (t.runChain nft p t.input).verdict.getD .drop

def onForward (p : Packet) : Decision := (t.runChain nft p t.forward).verdict.getD .drop

variable {t} {nft}

variable (t) (nft)

def onPrerouting (p : Packet) : Packet :=
  match (t.runChain nft p t.prerouting).verdict, p.header with
  | some (.dnat ip port), .v4 src _ =>
    match nft.read ip with
    | some b => { p with header := .v4 src b.base, dport := port.toNat }
    | none => p
  | _, _ => p

end Table

end Semantics

end MinimalRouter.Firewall
