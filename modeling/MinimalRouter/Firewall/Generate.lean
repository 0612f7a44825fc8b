import MinimalRouter.Config.Facts
import MinimalRouter.Firewall.Text

namespace MinimalRouter.Firewall

open Goish Config

variable (cfg : SystemConfig)

def rule (conds : List Match) (verdict : Verdict) : Item := .rule { conds, verdict := some verdict }

inductive RuleScope
  | router | wan | all
  deriving DecidableEq

def RuleScope.toText : RuleScope → String
  | router => "router"
  | wan => "wan"
  | all => "all"

/-- Forward allows have always been WAN-only, and old denies keep covering every zone. -/
def firewallRuleScope (rule : FirewallRule) : RuleScope :=
  if rule.direction = "input" then .router
  else if rule.action = "allow" ∨ rule.scope = "wan" then .wan
  else .all

def firewallRuleCounter (digest : Json → String) (rule : FirewallRule) : String :=
  "mr_rule_" ++ digest (marshal
    { rule with name := "", presetId := "", scope := (firewallRuleScope rule).toText })

def sanitizeComment (value : String) : String :=
  String.ofList (value.toList.map fun c =>
    if c = '\r' ∨ c = '\n' ∨ c = '\t' then ' ' else if c.toNat < 0x20 then '?' else c)

def serviceDomains (service : String) : Option (List String) :=
  [("youtube", ["youtube.com", "googlevideo.com", "ytimg.com", "youtu.be"]),
    ("steam", ["steampowered.com", "steamcommunity.com", "steamstatic.com", "steamcontent.com",
      "steamserver.net"]),
    ("wiki", ["wikipedia.org", "wikimedia.org", "wikimediafoundation.org", "mediawiki.org"]),
    ("tiktok", ["tiktok.com", "byteoversea.com", "ibytedtos.com", "tiktokv.com"]),
    ("instagram", ["instagram.com", "cdninstagram.com"]),
    ("facebook", ["facebook.com", "fbcdn.net", "messenger.com"]),
    ("roblox", ["roblox.com", "rbxcdn.com"]),
    ("epic", ["epicgames.com", "unrealengine.com"]),
    ("twitch", ["twitch.tv", "ttvnw.net", "jtvnw.net"]),
    ("adult", ["pornhub.com", "xvideos.com", "xnxx.com", "onlyfans.com"]),
    ("gaming", ["roblox.com", "rbxcdn.com", "twitch.tv", "ttvnw.net", "steampowered.com",
      "steamcommunity.com", "epicgames.com"])].lookup service

def activeManagedServices (u : Unicode) (cfg : SystemConfig) : List String :=
  let profiles := cfg.adguard.deviceProfiles.items.filter fun p => cfg.adguard.enabled && p.enabled
  let services := profiles.flatMap fun p => p.services.items.map fun s => u.toLower (trim s)
  (services.filter fun s => (serviceDomains s).isSome).eraseDups.mergeSort (· ≤ ·)

def effectiveDayWindows (schedule : WeeklyAccessSchedule) : List (String × List AccessWindow) :=
  if ¬schedule.dayWindows.isEmpty then schedule.dayWindows.map fun (day, w) => (day, w.items)
  else
    let weekend (w : List AccessWindow) := [("saturday", w), ("sunday", w)]
    ((supportedScheduleDays.take 5).map fun day => (day, schedule.weekdayWindows.items)) ++
    if schedule.weekendMode = "all_day" then weekend [⟨"00:00", "23:59"⟩]
    else if schedule.weekendMode = "same_as_weekdays" then weekend schedule.weekdayWindows.items
    else if schedule.weekendMode = "custom" then weekend schedule.weekendWindows.items
    else []

theorem forall_effectiveDayWindows {Q : List AccessWindow → Prop} (hall : Q [⟨"00:00", "23:59"⟩])
    (hdays : ∀ day ∈ schedule.dayWindows, Q day.2.items)
    (hweekdays : schedule.dayWindows.isEmpty = true → Q schedule.weekdayWindows.items)
    (hweekend : schedule.dayWindows.isEmpty = true → schedule.weekendMode = "custom" →
      Q schedule.weekendWindows.items) : ∀ day ∈ effectiveDayWindows schedule, Q day.2 := by
  unfold effectiveDayWindows
  split
  · exact List.forall_mem_map.mpr fun day hday => hdays day hday
  · next hempty =>
    have hempty : schedule.dayWindows.isEmpty = true := by simpa using hempty
    have hboth {windows : List AccessWindow} (hw : Q windows) :
        ∀ day ∈ [("saturday", windows), ("sunday", windows)], Q day.2 := by simp [hw]
    refine List.forall_mem_append.mpr ⟨List.forall_mem_map.mpr fun day _ => hweekdays hempty, ?_⟩
    split
    · exact hboth hall
    split
    · exact hboth (hweekdays hempty)
    split
    · next hcustom => exact hboth (hweekend hempty hcustom)
    · exact List.forall_mem_nil _

def writeAllowedWindows (ip service : String) (day : Nat) (windows : List AccessWindow) :
    List Item :=
  windows.map fun window =>
    let stop := if window.end = "23:59" then "23:59:59" else window.end
    rule [.saddr (.one (.text ip)), .daddrIn ("svc_" ++ service), .day day,
      .hour window.start stop] .ret

def writeManagedService (ip : String) (dayWindows : List (String × List AccessWindow))
    (service : String) : List Item :=
  if (serviceDomains service).isNone then []
  else
    -- the weekday numbers of nft start with Sunday
    supportedScheduleDays.zipIdx.flatMap (fun (day, index) =>
      writeAllowedWindows ip service ((index + 1) % 7) ((dayWindows.lookup day).getD [])) ++
    [rule [.saddr (.one (.text ip)), .daddrIn ("svc_" ++ service)] .drop]

def writeManagedDevice (profile : DeviceProfile) (ip : String) : List Item :=
  [rule [.saddr (.one (.text ip)), .dport "udp" (.set [.num 53, .num 853])] .drop,
    rule [.saddr (.one (.text ip)), .dport "tcp" (.set [.num 53, .num 853])] .drop] ++
  profile.services.items.flatMap (writeManagedService ip (effectiveDayWindows profile.schedule))

def writeDeviceProfile (profile : DeviceProfile) : List Item :=
  if ¬profile.enabled then []
  else
    [.comment ("Device profile: " ++ profile.name)] ++
    profile.ipAddresses.items.flatMap (writeManagedDevice profile)

def deviceProfilesChain (u : Unicode) (cfg : SystemConfig) : List Item :=
  if (activeManagedServices u cfg).isEmpty then []
  else cfg.adguard.deviceProfiles.items.flatMap writeDeviceProfile ++ [rule [] .ret]

def wgClientInterface : String :=
  if cfg.wgClient.interface = "" then "wg1" else cfg.wgClient.interface

def wgServerInterface : String :=
  if cfg.wireguard.interface = "" then "wg0" else cfg.wireguard.interface

def wgPeerEndpointNets : List IPNet :=
  if ¬cfg.wireguard.enabled then []
  else
    ((cfg.wireguard.peers.items.filter (·.enabled)).filterMap fun peer =>
      (parseIpv4 ((splitHostPort peer.endpoint).elim peer.endpoint (·.1))).map fun x =>
        IPNet.mk (.v4 x) 32 32).eraseDups

def writeKnownEndpoint (iface : Iface) (sources : Operand) (port : Int) (meter : String) :
    List Item :=
  [rule [.iifname iface, .saddr sources, .ctState [.invalid]] .drop,
    rule [.iifname iface, .saddr sources, .dport "udp" (.one (.num port)), .ctState [.new],
      .meter meter] .drop,
    rule [.iifname iface, .saddr sources, .dport "udp" (.one (.num port))] .accept]

def writeKnownWgPeerEndpointInputRules : List Item :=
  let endpoints := wgPeerEndpointNets cfg
  if endpoints.isEmpty ∨ ¬cfg.wireguard.enabled then []
  else
    let sources := Operand.set (endpoints.map .net)
    let port := cfg.wireguard.listenPort
    [.comment "Known WireGuard peer endpoints: UDP socket only, never general trust"] ++
    (if cfg.wan.interface = "" then []
      else writeKnownEndpoint (.name cfg.wan.interface) sources port "wg_known_wan_rate") ++
    writeKnownEndpoint .ppp sources port "wg_known_ppp_rate" ++ [.blank]

def writeWgClientInputRules : List Item :=
  if ¬cfg.wgClient.enabled then []
  else
    let iface := wgClientInterface cfg
    let allowed := ((cfg.wgClient.allowedIps.items.filterMap fun entry =>
      (parseCidr (trim entry)).map (·.2)).filter fun n => n.ip.to4.isSome).map Addr.net
    [.comment ("WireGuard client " ++ iface ++ ": established-only (remote site cannot initiate)"),
      rule ([.iifname (.name iface)] ++
        if allowed.isEmpty then [] else [.saddrNot (.set allowed)]) .drop,
      rule [.iifname (.name iface), .ctState [.new]] .drop,
      .blank]

def writeWgClientForwardRules : List Item :=
  if ¬cfg.wgClient.enabled then []
  else
    let iface := wgClientInterface cfg
    let sources := [cfg.lan.interface] ++
      if cfg.wireguard.enabled ∧ cfg.wireguard.interface ≠ "" then [cfg.wireguard.interface] else []
    [.comment ("WireGuard client " ++ iface ++
      ": trusted home networks may dial out, remote site may only respond")] ++
    sources.map (fun src => rule [.iifname (.name src), .oifname (.name iface)] .accept) ++
    [rule [.iifname (.name iface), .ctState [.new]] .drop, .blank]

def writeWgClientOutputRules : List Item :=
  match if cfg.wgClient.enabled then splitHostPort cfg.wgClient.endpoint else none with
  | none => []
  | some (_, port) =>
    if port = "" then []
    else
      (if cfg.wan.interface = "" then []
        else [rule [.oifname (.name cfg.wan.interface), .dport "udp" (.one (.text port))] .accept]) ++
      [rule [.oifname .ppp, .dport "udp" (.one (.text port))] .accept]

def writeWgServerInputRules : List Item :=
  if ¬cfg.wireguard.enabled then []
  else
    let wgNetwork := ((parseCidr cfg.wireguard.address).map (·.2)).elim (Addr.text "<nil>") .net
    let wg := Iface.name cfg.wireguard.interface
    let port := Ports.one (.num cfg.wireguard.listenPort)
    [.comment "WireGuard endpoint with a per-source flood guard"] ++
    (if cfg.wan.interface = "" then []
      else
        [rule [.iifname (.name cfg.wan.interface), .dport "udp" port, .ctState [.new],
            .meter "wg_wan_rate"] .drop,
          rule [.iifname (.name cfg.wan.interface), .dport "udp" port] .accept]) ++
    [rule [.iifname .ppp, .dport "udp" port, .ctState [.new], .meter "wg_ppp_rate"] .drop,
      rule [.iifname .ppp, .dport "udp" port] .accept,
      .comment "Authenticated tunnel services",
      rule [.iifname wg, .saddrNot (.one wgNetwork)] .drop,
      rule [.iifname wg, .dport "tcp" (.one (.num cfg.system.httpsPort))] .accept,
      rule [.iifname wg, .dport "tcp" (.one (.num 22))] .accept,
      rule [.iifname wg, .dport "udp" (.one (.num 53))] .accept,
      rule [.iifname wg, .dport "tcp" (.one (.num 53))] .accept,
      .blank]

def writeWgSourceCheck : List Item :=
  if ¬cfg.wireguard.enabled then []
  else
    let wgNetwork := ((parseCidr cfg.wireguard.address).map (·.2)).elim (Addr.text "<nil>") .net
    [rule [.iifname (.name cfg.wireguard.interface), .saddrNot (.one wgNetwork)] .drop, .blank]

section CustomRules

variable (digest : Json → String)

def selectorConds (rule : FirewallRule) : List Match :=
  (if rule.srcIp = "" then [] else [.saddr (.one (.text rule.srcIp))]) ++
  if rule.protocol = "icmp" then [.icmp]
  else if rule.protocol = "any" then []
  else if rule.protocol = "tcp" ∨ rule.protocol = "udp" then
    [.dport rule.protocol (.one (.num rule.dstPort))]
  else [.word rule.protocol]

def writeCustomRule (cfg : SystemConfig) (direction action : String) (rule : FirewallRule) :
    List Item :=
  let wanOnly := direction = "forward" ∧ firewallRuleScope rule = .wan
  if ¬rule.enabled ∨ rule.direction ≠ direction ∨ rule.action ≠ action then []
  -- custom forward allows are strictly egress to the WAN
  else if wanOnly ∧ ¬cfg.wan.enabled then []
  else
    [.comment ("Custom LAN " ++ direction ++ " " ++ action ++ " rule: " ++
        sanitizeComment rule.name),
      .rule {
        conds := [.iifname (.name cfg.lan.interface)] ++ selectorConds rule ++
          if wanOnly then [.oifnameIn [.name cfg.wan.interface, .ppp]] else []
        effects := [.counter (some (firewallRuleCounter digest rule))]
        verdict := some (if action = "allow" then .accept else .drop) }]

def writeCustomRules (cfg : SystemConfig) (direction action : String) : List Item :=
  cfg.firewall.customRules.items.flatMap (writeCustomRule digest cfg direction action)

def ruleCounters (cfg : SystemConfig) : List String :=
  let written := cfg.firewall.customRules.items.filter fun rule =>
    rule.enabled &&
      (rule.direction != "forward" || firewallRuleScope rule != .wan || cfg.wan.enabled)
  (written.map (firewallRuleCounter digest)).eraseDups

end CustomRules

def extraLanSourceInterface (srcCidr : String) : String :=
  match (parseCidr srcCidr).map (·.2) with
  | none => ""
  | some src =>
    if trustedIn ((parseCidr cfg.lan.cidr).map (·.2)) src then cfg.runtimeLanInterface
    else if cfg.wireguard.enabled ∧ trustedIn ((parseCidr cfg.wireguard.address).map (·.2)) src then
      cfg.wireguard.interface
    else ""

def writeExtraLanInput (lan : ExtraLANConfig) : List Item :=
  if ¬lan.enabled ∨ lan.interface = "" ∨ lan.cidr = "" then []
  else
    [.comment ("Extra LAN " ++ lan.interface ++ " (" ++ sanitizeComment lan.name ++
        "): isolated segment, router hosts no services here"),
      rule [.iifname (.name lan.interface), .saddrNot (.set [.text lan.cidr])] .drop,
      rule [.iifname (.name lan.interface), .icmp] .accept]

def writeExtraLanInputRules : List Item :=
  cfg.firewall.extraLans.items.flatMap writeExtraLanInput

def writeExtraLanSource (lan : ExtraLANConfig) (src : String) : List Item :=
  let iface := extraLanSourceInterface cfg src
  let proto := if lan.protocol = "" then "tcp" else lan.protocol
  if iface = "" then []
  else
    [rule [.iifname (.name iface), .saddr (.one (.text src)), .daddr (.one (.text lan.dstIp)),
      .dport proto (.one (.num lan.dstPort)), .oifname (.name lan.interface)] .accept]

def writeExtraLanForward (lan : ExtraLANConfig) : List Item :=
  if ¬lan.enabled ∨ lan.interface = "" ∨ lan.cidr = "" ∨ lan.dstIp = "" then []
  else
    [.comment ("Extra LAN " ++ lan.interface ++ " (" ++ sanitizeComment lan.name ++
        "): isolated segment, only " ++ lan.cidr ++ " sources reach " ++ lan.dstIp ++ ":" ++
        toString lan.dstPort ++ " on " ++ lan.interface),
      rule [.iifname (.name lan.interface), .saddrNot (.one (.text lan.cidr))] .drop] ++
    lan.allowFrom.items.flatMap (writeExtraLanSource cfg lan)

def writeExtraLanForwardRules : List Item :=
  cfg.firewall.extraLans.items.flatMap (writeExtraLanForward cfg)

def portForwardProtocols (u : Unicode) (protocol : String) : List String :=
  let lowered := u.toLower (trim protocol)
  if lowered = "both" then ["tcp", "udp"] else if lowered = "udp" then ["udp"] else ["tcp"]

def enabledTunnelPortForwards : List PortForwardRule :=
  if ¬cfg.wireguard.enabled then [] else cfg.firewall.portForwards.items.filter (·.enabled)

def writeTunnelPortForwards (u : Unicode) (cfg : SystemConfig) : List Item :=
  let rules := enabledTunnelPortForwards cfg
  let wg := wgServerInterface cfg
  if rules.isEmpty then []
  else
    [.comment "Port forwards are reachable only over the WireGuard tunnel, never the WAN."] ++
    rules.flatMap fun r => (portForwardProtocols u r.protocol).map fun protocol =>
      rule [.iifname (.name wg), .dport protocol (.one (.num r.externalPort))]
        (.dnat r.internalIp r.internalPort)

def writeTunnelPortForwardForward (u : Unicode) (cfg : SystemConfig) : List Item :=
  let rules := enabledTunnelPortForwards cfg
  let wg := wgServerInterface cfg
  if rules.isEmpty then []
  else
    [.comment "Tunnel port forwards: allow the DNAT-translated destination"] ++
    (rules.flatMap fun r => (portForwardProtocols u r.protocol).map fun protocol =>
      rule [.iifname (.name wg), .oifname (.name cfg.lan.interface),
        .daddr (.one (.text r.internalIp)), .dport protocol (.one (.num r.internalPort)),
        .ctState [.new]] .accept) ++
    [.blank]

def reservedWanSources : Operand :=
  .set (["0.0.0.0/8", "10.0.0.0/8", "100.64.0.0/10", "127.0.0.0/8", "169.254.0.0/16",
    "172.16.0.0/12", "192.0.0.0/24", "192.0.2.0/24", "192.168.0.0/16", "198.18.0.0/15",
    "198.51.100.0/24", "203.0.113.0/24", "224.0.0.0/3"].map Addr.text)

def antispoof (iface : Iface) : List Item :=
  [rule [.iifname iface, .saddr reservedWanSources] .drop,
    rule [.iifname iface, .fibMissing] .drop,
    rule [.iifname iface, .ipv6] .drop]

def writeWanAntispoof (wan : String) : List Item :=
  antispoof (.name wan) ++ antispoof .ppp ++ [.blank]

def writeSquidInput : List Item :=
  let port := if cfg.squidProxy.port = 0 then 3128 else cfg.squidProxy.port
  if ¬cfg.squidProxy.enabled ∨ cfg.lan.interface = "" then []
  else
    [.comment ("Allow Squid Proxy from LAN (" ++ cfg.lan.interface ++ ", port " ++ toString port ++
        ")"),
      rule [.iifname (.name cfg.lan.interface), .dport "tcp" (.one (.num port))] .accept, .blank]

def writeLanInput : List Item :=
  let lan := Iface.name cfg.lan.interface
  let https := Ports.one (.num cfg.system.httpsPort)
  if cfg.lan.interface = "" then []
  else
    [.comment ("Allow essential network services from LAN (" ++ cfg.lan.interface ++ ") only")] ++
    (if cfg.system.managementAccess = "wireguard_only" then
      [.comment "Management HTTPS is intentionally unavailable on LAN; use WireGuard"]
    else
      [rule [.iifname lan, .dport "tcp" https, .ctState [.new], .limit "https"] .drop,
        rule [.iifname lan, .dport "tcp" https] .accept,
        rule [.iifname lan, .dport "tcp" (.one (.num 22))] .accept]) ++
    [rule [.iifname lan, .dport "udp" (.set [.num 53, .num 67])] .accept,
      rule [.iifname lan, .dport "tcp" (.one (.num 53))] .accept,
      rule [.iifname lan, .icmp] .accept, .blank]

def inputChain (digest : Json → String) (cfg : SystemConfig) : List Item :=
  [.comment "Allow loopback", rule [.iifname (.name "lo")] .accept, .blank] ++
  (if cfg.wan.interface = "" then []
    else writeKnownWgPeerEndpointInputRules cfg ++
      [.comment "Drop spoofed/reserved WAN sources before connection tracking accepts"] ++
      writeWanAntispoof cfg.wan.interface) ++
  (if cfg.lan.interface = "" then []
    else [.comment "LAN source anti-spoofing (0.0.0.0 is needed for DHCP discovery)",
      rule [.iifname (.name cfg.lan.interface),
        .saddrNot (.set [.text "0.0.0.0", .text cfg.lan.cidr])] .drop, .blank]) ++
  [.comment "Reject invalid packets before service accepts",
    rule [.ctState [.invalid]] .drop] ++
  writeCustomRules digest cfg "input" "deny" ++
  [.comment "Allow established and related connections",
    rule [.ctState [.established, .related]] .accept, .blank] ++
  writeWgServerInputRules cfg ++
  writeWgClientInputRules cfg ++
  writeSquidInput cfg ++
  writeLanInput cfg ++
  writeExtraLanInputRules cfg ++
  writeWgSourceCheck cfg ++
  writeCustomRules digest cfg "input" "allow" ++
  [.comment "Reject WAN unsolicited input", rule [] .drop]

def writeRestricted : List Item :=
  if ¬cfg.squidProxy.enabled ∨ cfg.squidProxy.restrictedIps.isEmpty then []
  else
    [.comment "Block direct WAN traffic for Restricted IP Alias (Must use Squid Proxy)"] ++
    cfg.squidProxy.restrictedIps.items.flatMap (fun item =>
      if trim item.ipAddress = "" ∨ ¬item.enabled then []
      else [rule [.saddr (.one (.text (trim item.ipAddress)))] .drop]) ++
    [.blank]

def writeAccountingRules : List Item :=
  if ¬cfg.accounting.enabled ∨ cfg.lan.interface = "" then []
  else
    [.comment "Per-device byte accounting (counters only, no verdict)",
      .rule {
        conds := [.iifname (.name cfg.lan.interface)]
        effects := [.update "acct_tx" "ip saddr"], verdict := none },
      .rule {
        conds := [.oifname (.name cfg.lan.interface)]
        effects := [.update "acct_rx" "ip daddr"], verdict := none },
      .blank]

def writeLanForward : List Item :=
  let lan := Iface.name cfg.lan.interface
  if ¬cfg.wan.enabled ∨ cfg.lan.interface = "" then []
  else
    [.comment ("Allow LAN (" ++ cfg.lan.interface ++ ") out to WAN"),
      rule [.iifname lan, .oifname (.name cfg.wan.interface)] .accept,
      rule [.iifname lan, .oifname .ppp] .accept, .blank]

def writeWgForward : List Item :=
  let wg := Iface.name cfg.wireguard.interface
  if ¬cfg.wireguard.enabled then []
  else
    [.comment "Authenticated WireGuard clients may reach LAN and optional full-tunnel WAN",
      rule [.iifname wg, .oifname (.name cfg.lan.interface)] .accept] ++
    (if cfg.wan.enabled then
      [rule [.iifname wg, .oifname (.name cfg.wan.interface)] .accept,
        rule [.iifname wg, .oifname .ppp] .accept]
    else []) ++
    [.blank]

def forwardChain (u : Unicode) (digest : Json → String) (cfg : SystemConfig) : List Item :=
  (if cfg.wan.interface = "" then []
    else [.comment "WAN anti-spoofing precedes state acceptance"] ++
      writeWanAntispoof cfg.wan.interface) ++
  (if cfg.lan.interface = "" then []
    else [rule [.iifname (.name cfg.lan.interface), .saddrNot (.one (.text cfg.lan.cidr))] .drop,
      .blank]) ++
  [.comment "Reject invalid before established state", rule [.ctState [.invalid]] .drop] ++
  (if (activeManagedServices u cfg).isEmpty then []
    else [.comment "Device schedules run before established acceptance so expired streams are cut",
      rule [] (.jump "device_profiles")]) ++
  writeCustomRules digest cfg "forward" "deny" ++
  writeRestricted cfg ++
  writeAccountingRules cfg ++
  [.comment "Allow established/related", rule [.ctState [.established, .related]] .accept, .blank,
    .comment "TCP MSS clamping prevents PPPoE fragmentation stalls",
    .rule { conds := [.synFlag], effects := [.clampMss], verdict := none }, .blank] ++
  writeCustomRules digest cfg "forward" "allow" ++
  writeExtraLanForwardRules cfg ++
  writeLanForward cfg ++
  writeWgForward cfg ++
  writeTunnelPortForwardForward u cfg ++
  writeWgClientForwardRules cfg

def writeSquidIsolation : List Item :=
  let cut (iface : String) := rule [.skuid "squid", .oifname (.name iface)] .drop
  if ¬cfg.squidProxy.enabled then []
  else
    (if cfg.lan.interface = "" then []
      else [rule [.skuid "squid", .oifname (.name cfg.lan.interface),
          .sport "tcp" (.one (.num cfg.squidProxy.port))] .accept, cut cfg.lan.interface]) ++
    (if cfg.wireguard.enabled ∧ cfg.wireguard.interface ≠ "" then [cut cfg.wireguard.interface]
      else []) ++
    (if cfg.wgClient.enabled then [cut (wgClientInterface cfg)] else []) ++
    ((cfg.firewall.extraLans.items.filter fun lan => lan.enabled && lan.interface != "").map
      fun lan => cut lan.interface)

def lanBroadcastAddress (cidr : String) : String :=
  (((parseCidr cidr).map (·.2)).bind IPNet.ipv4Broadcast).elim "" octetsString

def writeWanEgress (users : List String) (ports : Ports) : List Item :=
  (if cfg.wan.interface = "" then []
    else users.map fun user => rule [.skuid user, .oifname (.name cfg.wan.interface),
      .dport "tcp" ports] .accept) ++
  users.map fun user => rule [.skuid user, .oifname .ppp, .dport "tcp" ports] .accept

def writeWakeOnLan : List Item :=
  let broadcast := lanBroadcastAddress cfg.lan.cidr
  if cfg.lan.interface = "" ∨ broadcast = "" then []
  else
    [.comment "Wake-on-LAN magic packets may only leave via the local LAN segment",
      rule [.skuid "routerd", .oifname (.name cfg.lan.interface), .daddr (.one (.text broadcast)),
        .dport "udp" (.one (.num 9))] .accept]

def writeServiceReplies : List Item :=
  let lan := Iface.name cfg.lan.interface
  let wg := Iface.name cfg.wireguard.interface
  [rule [.oifname lan, .sport "udp" (.set [.num 53, .num 67])] .accept] ++
  (if cfg.system.managementAccess = "wireguard_only" then
    [rule [.oifname lan, .sport "tcp" (.one (.num 53))] .accept]
  else
    [rule [.oifname lan, .sport "tcp" (.set [.num 53, .num cfg.system.httpsPort])] .accept]) ++
  (if cfg.wireguard.enabled then
    [rule [.oifname wg, .sport "udp" (.set [.num 53, .num cfg.wireguard.listenPort])] .accept,
      rule [.oifname wg, .sport "tcp" (.set [.num 53, .num cfg.system.httpsPort])] .accept]
  else [])

def outputChain : List Item :=
  [.comment "The appliance itself has a narrow egress allowlist",
    rule [.oifname (.name "lo")] .accept] ++
  (if cfg.wan.interface = "" then []
    else
      [.comment "Never leak source addresses that are not assigned to the appliance itself.",
        .comment "fib-based (rather than a static private-range list) so an ISP-assigned",
        .comment "private or CGNAT WAN address (10.x, 100.64.0.0/10) remains routable.",
        .comment "NOTE: fib saddr . iif oif is not supported in the output hook (kernel",
        .comment "rejects it), hence fib saddr type != local here; forward chain uses",
        .comment "fib saddr . iif oif which is valid there.",
        rule [.oifname (.name cfg.wan.interface), .fibNotLocal] .drop,
        rule [.oifname .ppp, .fibNotLocal] .drop]) ++
  [rule [.ctState [.invalid]] .drop] ++
  writeSquidIsolation cfg ++
  [rule [.ctState [.established, .related]] .accept] ++
  writeServiceReplies cfg ++
  writeWgClientOutputRules cfg ++
  (if cfg.dhcp.dnsServers.isEmpty then []
    else
      let servers := Operand.set (cfg.dhcp.dnsServers.items.map .text)
      [rule [.daddr servers, .dport "udp" (.one (.num 53))] .accept,
        rule [.daddr servers, .dport "tcp" (.one (.num 53))] .accept]) ++
  [rule [.dport "udp" (.one (.num 123))] .accept, rule [.icmp] .accept, .blank,
    .comment "The unprivileged management daemon may use HTTPS only through WAN paths"] ++
  writeWanEgress cfg ["routerd"] (.one (.num 443)) ++
  writeWakeOnLan cfg ++
  (if cfg.cloudflare.ddnsEnabled then
    [.comment "DDNS HTTPS is confined to WAN paths"] ++
      writeWanEgress cfg ["root", "inadyn"] (.one (.num 443))
  else []) ++
  (if cfg.squidProxy.enabled then
    [.comment ("Squid is an Internet-only egress proxy; no private/tunnel interface is a valid " ++
        "destination")] ++
      writeWanEgress cfg ["squid"] (.set [.num 80, .num 443])
  else []) ++
  [.rule { conds := [], effects := [.counter none], verdict := some .drop }]

def postroutingChain : List Item :=
  [.comment "Masquerade outgoing LAN traffic on WAN interfaces (ppp0 / ethernet WAN)"] ++
  (if cfg.wan.enabled then
    [rule [.oifname .ppp] .masquerade, rule [.oifname (.name cfg.wan.interface)] .masquerade]
  else []) ++
  if cfg.wgClient.enabled then [rule [.oifname (.name (wgClientInterface cfg))] .masquerade] else []

section Generator

def runtime (cfg : SystemConfig) : SystemConfig :=
  { cfg with lan := { cfg.lan with interface := cfg.runtimeLanInterface } }

structure Tools extends Platform where
  digest : Json → String

def tableOf (tools : Tools) (cfg : SystemConfig) : Table where
  revision := cfg.revision
  ruleCounters := ruleCounters tools.digest cfg
  services := activeManagedServices tools.unicode cfg
  deviceProfiles := deviceProfilesChain tools.unicode cfg
  accounting := cfg.accounting.enabled && cfg.lan.interface != ""
  input := inputChain tools.digest cfg
  forward := forwardChain tools.unicode tools.digest cfg
  output := outputChain cfg
  prerouting := writeTunnelPortForwards tools.unicode cfg
  postrouting := postroutingChain cfg

def generateNftables (tools : Tools) (cfg : SystemConfig) : Except String Table :=
  match intoResult (scenarioErrors cfg) with
  | .error e => .error ("scenario safety: " ++ e)
  | .ok () => .ok (tableOf tools (runtime cfg))

@[simp] theorem runtime_lan_interface : (runtime cfg).lan.interface = cfg.runtimeLanInterface := rfl

@[simp] theorem runtime_lan_cidr : (runtime cfg).lan.cidr = cfg.lan.cidr := rfl

@[simp] theorem runtime_wan : (runtime cfg).wan = cfg.wan := rfl

@[simp] theorem runtime_wireguard : (runtime cfg).wireguard = cfg.wireguard := rfl

@[simp] theorem runtime_runtimeLanInterface :
    (runtime cfg).runtimeLanInterface = cfg.runtimeLanInterface := by
  change (if cfg.wifi.enabled = true then _ else cfg.runtimeLanInterface) = cfg.runtimeLanInterface
  cases h : cfg.wifi.enabled <;> simp [SystemConfig.runtimeLanInterface, h]

theorem nftables_of_accepted {cfg : SystemConfig} (h : Accepted env cfg) :
    generateNftables tools cfg = .ok (tableOf tools (runtime cfg)) := by
  unfold generateNftables
  rw [h.safe]
  rfl

def sampleTools : Tools := { samplePlatform with digest := fun _ => "" }

end Generator

end MinimalRouter.Firewall
