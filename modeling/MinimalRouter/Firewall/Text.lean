import MinimalRouter.Firewall.Rule

namespace MinimalRouter.Firewall

open Goish

def braced (texts : List String) : String := "\x7b " ++ ", ".intercalate texts ++ " \x7d"

def Addr.toText : Addr → String
  | .text s => s
  | .net n => n.toString

def Operand.toText : Operand → String
  | .one a => a.toText
  | .set as => braced (as.map Addr.toText)

def Port.toText : Port → String
  | .num n => toString n
  | .text s => s

def Ports.toText : Ports → String
  | .one p => p.toText
  | .set ps => braced (ps.map Port.toText)

def CtState.toText : CtState → String
  | .new => "new"
  | .established => "established"
  | .related => "related"
  | .invalid => "invalid"

def quoted (s : String) : String := "\"" ++ s ++ "\""

def Match.toText : Match → String
  | .iifname i => "iifname " ++ quoted i.text
  | .oifname i => "oifname " ++ quoted i.text
  | .oifnameIn is => "oifname " ++ braced (is.map Iface.text)
  | .saddr o => "ip saddr " ++ o.toText
  | .saddrNot o => "ip saddr != " ++ o.toText
  | .daddr o => "ip daddr " ++ o.toText
  | .daddrIn set => "ip daddr @" ++ set
  | .icmp => "ip protocol icmp"
  | .dport proto ports => proto ++ " dport " ++ ports.toText
  | .sport proto ports => proto ++ " sport " ++ ports.toText
  | .word w => w
  | .ctState states => "ct state " ++ ",".intercalate (states.map CtState.toText)
  | .fibMissing => "fib saddr . iif oif missing"
  | .fibNotLocal => "fib saddr type != local"
  | .ipv6 => "meta nfproto ipv6"
  | .skuid user => "meta skuid " ++ user
  | .synFlag => "tcp flags syn"
  | .meter name => "meter " ++ name ++
      " \x7b ip saddr timeout 10s limit rate over 20/second burst 40 packets \x7d"
  | .limit _ => "limit rate over 30/second burst 60 packets"
  | .day n => "meta day " ++ toString n
  | .hour start stop => "meta hour " ++ quoted start ++ "-" ++ quoted stop

def Effect.toText : Effect → String
  | .counter none => "counter"
  | .counter (some name) => "counter name " ++ name
  | .update set key => "update @" ++ set ++ " \x7b " ++ key ++ " \x7d"
  | .clampMss => "tcp option maxseg size set rt mtu"

def Verdict.toText : Verdict → String
  | .accept => "accept"
  | .drop => "drop"
  | .ret => "return"
  | .jump c => "jump " ++ c
  | .dnat ip port => "dnat ip to " ++ ip ++ ":" ++ toString port
  | .masquerade => "masquerade"

def Rule.toText (r : Rule) : String :=
  " ".intercalate (r.conds.map Match.toText ++ r.effects.map Effect.toText ++
    r.verdict.toList.map Verdict.toText)

def Item.toLine : Item → String
  | .rule r => "    " ++ r.toText
  | .comment s => "    # " ++ s
  | .blank => ""

def regularChain (name : String) (items : List Item) : List String :=
  ["  chain " ++ name ++ " \x7b"] ++ items.map Item.toLine ++ ["  \x7d", ""]

def baseChain (name declaration : String) (items : List Item) : List String :=
  ["  chain " ++ name ++ " \x7b", "    type " ++ declaration ++ ";", ""] ++
    items.map Item.toLine ++ ["  \x7d"]

def accountingSetLines (name : String) : List String :=
  ["  set " ++ name ++ " \x7b", "    type ipv4_addr", "    size 512", "    flags dynamic,timeout",
    "    timeout 7d", "    counter", "  \x7d", ""]

def observeLines (hook : String) : List String :=
  let chain (name priority counter : String) :=
    "  chain observe_" ++ hook ++ "_" ++ name ++ " \x7b type filter hook " ++ hook ++ " priority " ++
      priority ++ "; policy accept; counter name " ++ counter ++ "; \x7d"
  [chain "before" "-1" "mr_seen", chain "after" "1" "mr_accepted"]

def deviceProfileLines (t : Table) : List String :=
  if t.services.isEmpty then []
  else
    ["  # Dynamic destination sets populated by dnsmasq from DNS answers."] ++
    t.services.map (fun service => "  set svc_" ++ service ++
      " \x7b type ipv4_addr; flags timeout; timeout 4h; \x7d") ++
    [""] ++ regularChain "device_profiles" t.deviceProfiles

def Table.lines (t : Table) : List String :=
  ["# Generated by Minimal Router OS — do not edit manually", "# Table: inet minimalrouter", "",
    "table inet minimalrouter \x7b",
    "  counter mr_revision_" ++ toString t.revision ++ " \x7b \x7d"] ++
  t.ruleCounters.map (fun name => "  counter " ++ name ++ " \x7b \x7d") ++
  deviceProfileLines t ++
  (if t.accounting then accountingSetLines "acct_rx" ++ accountingSetLines "acct_tx" else []) ++
  ["  counter mr_seen \x7b \x7d", "  counter mr_accepted \x7b \x7d"] ++
  observeLines "input" ++ observeLines "forward" ++
  baseChain "input" "filter hook input priority filter; policy drop" t.input ++ [""] ++
  baseChain "forward" "filter hook forward priority filter; policy drop" t.forward ++ [""] ++
  baseChain "output" "filter hook output priority filter; policy drop" t.output ++ [""] ++
  (if t.prerouting.isEmpty then []
    else baseChain "prerouting" "nat hook prerouting priority dstnat; policy accept"
      t.prerouting ++ [""]) ++
  baseChain "postrouting" "nat hook postrouting priority srcnat; policy accept" t.postrouting ++
  ["\x7d"]

def Table.toText (t : Table) : String := String.join (t.lines.map (· ++ "\n"))

end MinimalRouter.Firewall
