import MinimalRouter.Config.Model
import MinimalRouter.Config.Patterns
import MinimalRouter.Lib.Checks

namespace MinimalRouter.Config

open Goish Lib.Checks

variable (c : SystemConfig)

structure ValidationError where
  (field message : String)
  deriving DecidableEq

abbrev ValidationErrors := List ValidationError

def ValidationErrors.toString (errs : ValidationErrors) : String :=
  "; ".intercalate (errs.map fun e => e.field ++ ": " ++ e.message)

/-- What the checks consult besides the configuration: the tables of characters, and the product of
a decimal fraction and a unit in floating point. -/
structure Platform where
  unicode : Unicode
  scaled : Nat → Nat → Nat → Nat

namespace SystemConfig

def lanIp : Option (BitVec 32) := parseIpv4 c.lan.ipAddress

def lanNetwork : Option IPNet :=
  match parseCidr c.lan.cidr with
  | some (.v4 _, network) => some network
  | _ => none

def wireguardServerNetwork : Option IPNet :=
  if !c.wireguard.enabled || c.wireguard.address.isEmpty then none
  else (parseCidr c.wireguard.address).map (·.2)

end SystemConfig

def networkContainsNetwork (parent child : IPNet) : Bool :=
  parent.bits == child.bits && decide (parent.ones ≤ child.ones) && parent.contains child.ip

def systemErrors : ValidationErrors :=
  let access := c.system.managementAccess
  failIf (¬hostnamePattern c.system.hostname)
    ⟨"system.hostname", "must be a valid RFC-compatible hostname label"⟩ ++
  failIf (¬domainPattern c.system.domain ∨ hasUnsafeControl c.system.domain)
    ⟨"system.domain", "must be a valid local DNS domain"⟩ ++
  failIf (c.system.httpsPort < 1024 ∨ c.system.httpsPort > 65535)
    ⟨"system.https_port", "must be an unprivileged port between 1024 and 65535"⟩ ++
  failIf (¬c.system.httpsEnabled)
    ⟨"system.https_enabled", "management HTTPS cannot be disabled"⟩ ++
  failIf (access ≠ "" ∧ access ≠ "lan_and_wireguard" ∧ access ≠ "wireguard_only")
    ⟨"system.management_access", "must be lan_and_wireguard or wireguard_only"⟩ ++
  failIf (access = "wireguard_only" ∧ ¬c.wireguard.enabled)
    ⟨"system.management_access", "requires WireGuard to be enabled"⟩ ++
  failIf (access = "wireguard_only" ∧ ¬c.wireguard.peers.items.any (·.enabled))
    ⟨"system.management_access", "requires at least one enabled WireGuard peer"⟩

def interfaceErrors : ValidationErrors :=
  failIf (¬validInterfaceName c.wan.interface)
    ⟨"wan.interface", "must be a valid Linux interface name of at most 15 characters"⟩ ++
  failIf (¬validInterfaceName c.lan.interface)
    ⟨"lan.interface", "must be a valid Linux interface name of at most 15 characters"⟩ ++
  failIf (c.wan.interface = c.lan.interface)
    ⟨"wan.interface", "WAN interface cannot be the same as LAN interface"⟩

def wanErrors : ValidationErrors :=
  failIf (c.wan.mtu < 1280 ∨ c.wan.mtu > 1500)
    ⟨"wan.mtu", "must be between 1280 and 1500"⟩ ++
  failIf (hasUnsafeControl c.wan.username ∨ c.wan.username.utf8ByteSize > 255)
    ⟨"wan.username", "contains forbidden control characters or is too long"⟩ ++
  failIf (hasUnsafeControl c.wan.password ∨ c.wan.password.utf8ByteSize > 1024)
    ⟨"wan.password", "contains forbidden control characters or is too long"⟩ ++
  failIf (c.wan.enabled ∧ trim c.wan.username = "")
    ⟨"wan.username", "is required when PPPoE is enabled"⟩ ++
  failIf (c.wan.enabled ∧ (c.wan.password = "" ∨ c.wan.password = "[REDACTED]"))
    ⟨"wan.password", "a new PPPoE password is required when none is stored"⟩

def lanAddressErrors (cidrIp lanIp : BitVec 32) (network : IPNet) : ValidationErrors :=
  let ip := IP.v4 lanIp
  failIf (¬network.contains ip) ⟨"lan.cidr", "must contain the configured LAN address"⟩ ++
  failIf (cidrIp ≠ lanIp) ⟨"lan.cidr", "address must exactly match lan.ip_address"⟩ ++
  failIf (ip = network.ip ∨ network.ipv4Broadcast = some lanIp ∨ ip.isUnspecified ∨ ip.isLoopback ∨
      ip.isMulticast)
    ⟨"lan.ip_address",
      "must be a usable host address, not a network, broadcast, loopback or multicast address"⟩

def lanErrors : ValidationErrors :=
  failIf (c.lanIp = none) ⟨"lan.ip_address", "must be a valid IPv4 address"⟩ ++
  if c.lan.cidr = "" then [⟨"lan.cidr", "is required"⟩]
  else
    match parseCidr c.lan.cidr with
    | none => [⟨"lan.cidr", "must be valid IPv4 CIDR notation"⟩]
    | some (.v6 _, _) => [⟨"lan.cidr", "must contain an IPv4 address"⟩]
    | some (.v4 cidrIp, network) =>
      (match c.lanIp with
        | none => []
        | some lanIp => lanAddressErrors cidrIp lanIp network) ++
      failIf (c.lan.netmask ≠ network.maskString) ⟨"lan.netmask", "must match the CIDR prefix"⟩

def dnsServerErrors : ValidationErrors :=
  let servers := c.dhcp.dnsServers.items
  failIf (servers = [] ∨ servers.length > 3)
    ⟨"dhcp.dns_servers", "must contain between one and three explicit upstream resolvers"⟩ ++
  eachFrom
    (fun (seen : List (BitVec 32)) i dns =>
      let field := s!"dhcp.dns_servers[{i}]"
      match parseIpv4 dns with
      | none => (seen, [⟨field, "must be a valid IPv4 address"⟩])
      | some x =>
        let ip := IP.v4 x
        if ip.isUnspecified ∨ ip.isLoopback ∨ ip.isMulticast ∨ x = BitVec.allOnes 32 ∨
            c.lanIp = some x then
          (seen, [⟨field,
            "must be a unicast upstream resolver, not the router's own DNS listener"⟩])
        else (x :: seen, failIf (x ∈ seen) ⟨field, "duplicates another upstream resolver"⟩))
    [] 0 servers

def leaseAddressErrors (field : String) (lanIp start stop : Option (BitVec 32)) (network : IPNet)
    (x : BitVec 32) : ValidationErrors :=
  if ¬network.contains (.v4 x) then [⟨field, "must be a valid address in the LAN subnet"⟩]
  else if lanIp = some x then [⟨field, "cannot use the router LAN address"⟩]
  else if network.ip = .v4 x then [⟨field, "cannot use the network address"⟩]
  else if network.ipv4Broadcast = some x then [⟨field, "cannot use the broadcast address"⟩]
  else
    match start, stop with
    | some start, some stop =>
      failIf (start.toNat ≤ x.toNat ∧ x.toNat ≤ stop.toNat)
        ⟨field, "must not overlap the dynamic DHCP pool"⟩
    | _, _ => []

def staticLeaseErrors (start stop : Option (BitVec 32)) :
    List (List Nat) × List (BitVec 32) → Nat → StaticLease →
      (List (List Nat) × List (BitVec 32)) × ValidationErrors :=
  fun (seenMac, seenIp) i lease =>
    let mac := (parseMac lease.mac).filter fun mac => mac.length == 6
    let ip := parseIpv4 lease.ipAddress
    let field := s!"dhcp.static_leases[{i}].ip_address"
    ((mac.toList ++ seenMac, ip.toList ++ seenIp),
      (match mac with
        | some mac => failIf (mac ∈ seenMac)
            ⟨s!"dhcp.static_leases[{i}].mac", "duplicates another static lease"⟩
        | none => [⟨s!"dhcp.static_leases[{i}].mac", "must be a valid 48-bit MAC address"⟩]) ++
      (match ip, c.lanNetwork with
        | none, _ => [⟨field, "must be a valid address in the LAN subnet"⟩]
        | some x, some network => leaseAddressErrors field c.lanIp start stop network x
        | some _, none => []) ++
      (match ip with
        | some x => failIf (x ∈ seenIp) ⟨field, "duplicates another static lease"⟩
        | none => []) ++
      failIf (lease.hostname ≠ "" ∧ ¬hostnamePattern lease.hostname)
        ⟨s!"dhcp.static_leases[{i}].hostname", "must be a valid hostname"⟩)

def dhcpRangeErrors (start stop : BitVec 32) : ValidationErrors :=
  failIf (start.toNat > stop.toNat) ⟨"dhcp.range", "range start must not be after range end"⟩ ++
  (match c.lanNetwork with
    | none => []
    | some network =>
      failIf (¬network.contains (.v4 start) ∨ ¬network.contains (.v4 stop))
        ⟨"dhcp.range", "must be contained in the LAN subnet"⟩ ++
      failIf (network.ip = .v4 start ∨ network.ipv4Broadcast = some stop)
        ⟨"dhcp.range", "cannot include the network or broadcast address"⟩) ++
  (match c.lanIp with
    | none => []
    | some x => failIf (start.toNat ≤ x.toNat ∧ x.toNat ≤ stop.toNat)
        ⟨"dhcp.range", "cannot contain the LAN gateway address"⟩)

def validateDhcp (env : Platform) (c : SystemConfig) : ValidationErrors :=
  let start := parseIpv4 c.dhcp.rangeStart
  let stop := parseIpv4 c.dhcp.rangeEnd
  failIf (start = none) ⟨"dhcp.range_start", "must be a valid IPv4 address"⟩ ++
  failIf (stop = none) ⟨"dhcp.range_end", "must be a valid IPv4 address"⟩ ++
  (match start, stop with
    | some start, some stop => dhcpRangeErrors c start stop
    | _, _ => []) ++
  failIf (¬(parseDuration env.scaled c.dhcp.leaseTime).any fun lease =>
      60 * 1000000000 ≤ lease && lease ≤ 7 * 24 * 3600 * 1000000000)
    ⟨"dhcp.lease_time", "must be a duration between 1m and 168h"⟩ ++
  eachFrom (staticLeaseErrors c start stop) ([], []) 0 c.dhcp.staticLeases.items

/-- Both an address and a network are valid sources of a rule, if they stay inside the LAN. -/
def ruleSourceErrors (field : String) (lanNetwork : Option IPNet) (srcIp : String) :
    ValidationErrors :=
  match parseIpv4 srcIp with
  | some x =>
    failIf (lanNetwork.any fun n => !n.contains (.v4 x))
      ⟨field, "must be a valid LAN source address"⟩
  | none =>
    match (parseCidr srcIp).map (·.2) with
    | some src =>
      if src.ip.to4.isSome then
        failIf (lanNetwork.any fun n => !networkContainsNetwork n src)
          ⟨field, "must be contained in the LAN network"⟩
      else [⟨field, "must be a valid LAN source address or IPv4 CIDR"⟩]
    | none => [⟨field, "must be a valid LAN source address or IPv4 CIDR"⟩]

def customRuleErrors (env : Platform) (c : SystemConfig) (i : Nat) (rule : FirewallRule) :
    ValidationErrors :=
  failIf (rule.scope ≠ "" ∧ rule.scope ≠ "all" ∧ rule.scope ≠ "wan")
    ⟨s!"firewall.custom_rules[{i}].scope", "must be all or wan"⟩ ++
  failIf (rule.direction = "input" ∧ rule.scope = "wan")
    ⟨s!"firewall.custom_rules[{i}].scope", "WAN scope is only valid for forward rules"⟩ ++
  failIf (rule.presetId ≠ "" ∧ ¬presetIdPattern rule.presetId)
    ⟨s!"firewall.custom_rules[{i}].preset_id", "must be a short preset identifier"⟩ ++
  failIf (¬safeNamePattern env.unicode rule.name ∨ hasUnsafeControl rule.name)
    ⟨s!"firewall.custom_rules[{i}].name", "contains unsupported characters"⟩ ++
  failIf (rule.action ≠ "allow" ∧ rule.action ≠ "deny")
    ⟨s!"firewall.custom_rules[{i}].action", "must be allow or deny"⟩ ++
  failIf (rule.direction ≠ "input" ∧ rule.direction ≠ "forward")
    ⟨s!"firewall.custom_rules[{i}].direction", "must be input or forward"⟩ ++
  (if rule.protocol = "tcp" ∨ rule.protocol = "udp" then
    failIf (rule.dstPort < 1 ∨ rule.dstPort > 65535)
      ⟨s!"firewall.custom_rules[{i}].dst_port",
        "is required for TCP/UDP and must be between 1 and 65535"⟩
  else if rule.protocol = "icmp" ∨ rule.protocol = "any" then
    failIf (rule.dstPort ≠ 0)
      ⟨s!"firewall.custom_rules[{i}].dst_port", "must be zero for ICMP/any"⟩
  else [⟨s!"firewall.custom_rules[{i}].protocol", "must be tcp, udp, icmp, or any"⟩]) ++
  (if rule.srcIp = "" then []
  else ruleSourceErrors s!"firewall.custom_rules[{i}].src_ip" c.lanNetwork rule.srcIp) ++
  failIf (c.system.managementAccess = "wireguard_only" ∧ rule.enabled ∧ rule.direction = "input" ∧
      rule.action = "allow")
    ⟨s!"firewall.custom_rules[{i}]",
      "LAN input allow rules are forbidden in wireguard_only management mode"⟩

def forwardKeyErrors (field : String) (seen : List (String × Int)) :
    List (String × Int) → ValidationErrors
  | [] => []
  | key :: keys =>
    failIf (key ∈ seen) ⟨field, "duplicates an external protocol/port"⟩ ++
      forwardKeyErrors field (key :: seen) keys

def portForwardErrors (env : Platform) (c : SystemConfig) (seen : List (String × Int)) (i : Nat)
    (pf : PortForwardRule) : List (String × Int) × ValidationErrors :=
  let protocol := env.unicode.toLower pf.protocol
  let protocols := if protocol = "both" then ["tcp", "udp"] else [protocol]
  let keys := protocols.map fun p => (p, pf.externalPort)
  (keys.reverse ++ seen,
    failIf (pf.enabled ∧ ¬c.wireguard.enabled)
      ⟨s!"firewall.port_forwards[{i}].enabled",
        "requires WireGuard: forwards are reachable only over the tunnel, never from WAN"⟩ ++
    failIf (¬safeNamePattern env.unicode pf.name ∨ hasUnsafeControl pf.name)
      ⟨s!"firewall.port_forwards[{i}].name", "contains unsupported characters"⟩ ++
    failIf (protocol ≠ "tcp" ∧ protocol ≠ "udp" ∧ protocol ≠ "both")
      ⟨s!"firewall.port_forwards[{i}].protocol", "must be tcp, udp, or both"⟩ ++
    failIf (pf.externalPort < 1 ∨ pf.externalPort > 65535)
      ⟨s!"firewall.port_forwards[{i}].external_port", "must be between 1 and 65535"⟩ ++
    failIf (pf.internalPort < 1 ∨ pf.internalPort > 65535)
      ⟨s!"firewall.port_forwards[{i}].internal_port", "must be between 1 and 65535"⟩ ++
    (match parseIpv4 pf.internalIp with
      | none => [⟨s!"firewall.port_forwards[{i}].internal_ip",
          "must be a valid address in the LAN subnet"⟩]
      | some x => failIf (c.lanNetwork.any fun n => !n.contains (.v4 x))
          ⟨s!"firewall.port_forwards[{i}].internal_ip",
            "must be a valid address in the LAN subnet"⟩) ++
    failIf (pf.externalPort = c.system.httpsPort ∨ pf.externalPort = 8443)
      ⟨s!"firewall.port_forwards[{i}].external_port", "cannot expose a router management port"⟩ ++
    forwardKeyErrors s!"firewall.port_forwards[{i}]" seen keys)

def validateFirewall (env : Platform) (c : SystemConfig) : ValidationErrors :=
  let mode := c.firewall.wanIngressMode
  failIf (c.firewall.defaultWanInputPolicy ≠ "deny")
    ⟨"firewall.default_wan_input_policy", "must remain deny"⟩ ++
  failIf (mode ≠ "" ∧ mode ≠ "wireguard_only")
    ⟨"firewall.wan_ingress_mode", "must remain wireguard_only"⟩ ++
  failIf (¬c.firewall.statefulFirewall)
    ⟨"firewall.stateful_firewall", "cannot be disabled"⟩ ++
  eachFrom (portForwardErrors env c) [] 0 c.firewall.portForwards.items ++
  each (customRuleErrors env c) c.firewall.customRules.items

def extraInterfaceErrors (base : String) (seen : List String)
    (lan : ExtraLANConfig) : ValidationErrors :=
  let field := base ++ ".interface"
  let iface := lan.interface
  if ¬validInterfaceName iface ∨ startsWith "ppp" iface then
    [⟨field, "must be a valid non-PPP interface name"⟩]
  else
    (if iface = c.wan.interface then [⟨field, "must not reuse the WAN interface"⟩]
    else if iface = c.lan.interface ∨ iface = wifiBridgeInterface then
      [⟨field, "must not reuse the LAN interface"⟩]
    else if c.wireguard.enabled ∧ iface = c.wireguard.interface then
      [⟨field, "must not reuse the WireGuard interface"⟩]
    else if c.wgClient.enabled ∧ iface = c.wgClient.interface then
      [⟨field, "must not reuse the WireGuard client interface"⟩]
    else if c.wifi.enabled ∧ (iface = c.wifi.interface ∨ iface = wifiBridgeInterface) then
      [⟨field, "must not reuse the Wi-Fi radio or its bridge"⟩]
    else []) ++
    failIf (iface ∈ seen) ⟨field, "duplicates another extra LAN interface"⟩

def routerAddressErrors (field : String) (routerAddress : String) (extra : IPNet) :
    ValidationErrors :=
  if routerAddress = "" then
    [⟨field, "is required for an enabled extra LAN so the router can reconstruct the segment"⟩]
  else
    match parseCidr routerAddress with
    | some (.v4 x, routerNet) =>
      if ¬extra.contains (.v4 x) then [⟨field, "must be contained in the extra LAN subnet"⟩]
      else if extra.ip = .v4 x then [⟨field, "cannot use the network address"⟩]
      else if extra.ipv4Broadcast = some x then [⟨field, "cannot use the broadcast address"⟩]
      else failIf (routerNet.toString ≠ extra.toString)
        ⟨field, "must be contained in the extra LAN subnet"⟩
    | _ => [⟨field, "must be a valid IPv4 interface CIDR"⟩]

/-- The network of a segment shares no address with another local network. -/
def extraNetworkErrors (base : String) (seen : List IPNet) (lan : ExtraLANConfig)
    (extra : IPNet) : ValidationErrors :=
  let field := base ++ ".cidr"
  let wgNetwork := if c.wireguard.enabled then (parseCidr c.wireguard.address).map (·.2) else none
  let clientNetwork := (parseCidr c.wgClient.address).map (·.2)
  failIf (c.lanNetwork.any (·.networksOverlap extra))
    ⟨field, "must not overlap the LAN subnet"⟩ ++
  failIf (wgNetwork.any (·.networksOverlap extra))
    ⟨field, "must not overlap the WireGuard subnet"⟩ ++
  failIf (c.wgClient.address ≠ "" ∧ clientNetwork.any (·.networksOverlap extra))
    ⟨field, "must not overlap the WireGuard client subnet"⟩ ++
  seen.flatMap (fun previous => failIf (previous.networksOverlap extra)
    ⟨field, "must not overlap another extra LAN subnet"⟩) ++
  routerAddressErrors (base ++ ".router_address") lan.routerAddress extra

def dstIpErrors (field : String) (lan : ExtraLANConfig) (extra : Option IPNet) :
    ValidationErrors :=
  match parseIpv4 lan.dstIp, extra with
  | none, _ => [⟨field, "must be a valid IPv4 address"⟩]
  | some dst, some extra =>
    if ¬extra.contains (.v4 dst) then [⟨field, "must be inside the extra LAN subnet"⟩]
    else
      failIf (extra.ip = .v4 dst ∨ extra.ipv4Broadcast = some dst)
        ⟨field, "cannot use the network or broadcast address"⟩ ++
      failIf (lan.routerAddress ≠ "" ∧ (parseCidr lan.routerAddress).any fun r => r.1 == .v4 dst)
        ⟨field, "cannot be the router address"⟩
  | some _, none => []

/-- Whether a network lies in a zone, by its first address and the lengths of the prefixes. -/
def trustedIn (zone : Option IPNet) (src : IPNet) : Bool :=
  zone.any fun zone => zone.contains src.ip && decide (zone.ones ≤ src.ones)

def allowFromErrors (c : SystemConfig) (field : String) :
    List String → List String → ValidationErrors
  | _, [] => []
  | seen, src :: rest =>
    let src := trim src
    let wgNetwork := if c.wireguard.enabled then (parseCidr c.wireguard.address).map (·.2) else none
    match parseCidr src with
    | none => [⟨field, "must be canonical CIDR notation"⟩]
    | some (_, network) =>
      if ¬trustedIn c.lanNetwork network ∧ ¬trustedIn wgNetwork network then
        [⟨field, "only subnets of the LAN and WireGuard networks may reach an extra LAN"⟩]
      else if src ∈ seen then [⟨field, "duplicates a source CIDR"⟩]
      else allowFromErrors c field (src :: seen) rest

def extraLanErrors (env : Platform) (c : SystemConfig) :
    List String × List IPNet → Nat → ExtraLANConfig →
      (List String × List IPNet) × ValidationErrors :=
  fun (interfaces, networks) i lan =>
    if ¬lan.enabled then ((interfaces, networks), [])
    else
      let base := s!"firewall.extra_lans[{i}]"
      let validInterface := validInterfaceName lan.interface && !startsWith "ppp" lan.interface
      let extra := (parseCidr lan.cidr).map (·.2)
      let extraV4 := extra.filter (·.ip.to4.isSome)
      ((if validInterface then lan.interface :: interfaces else interfaces,
        extraV4.toList ++ networks),
        failIf (¬safeNamePattern env.unicode lan.name ∨ hasUnsafeControl lan.name ∨
            lan.name.utf8ByteSize > 64)
          ⟨base ++ ".name", "must be 1-64 safe characters and contain no control characters"⟩ ++
        failIf (hasUnsafeControl lan.id ∨ lan.id.utf8ByteSize > 64)
          ⟨base ++ ".id", "must contain no control characters and be at most 64 characters"⟩ ++
        extraInterfaceErrors c base interfaces lan ++
        (match extraV4 with
          | none => [⟨base ++ ".cidr", "must be valid IPv4 CIDR notation"⟩]
          | some extra => extraNetworkErrors c base networks lan extra) ++
        dstIpErrors (base ++ ".dst_ip") lan extra ++
        failIf (lan.dstPort < 1 ∨ lan.dstPort > 65535)
          ⟨base ++ ".dst_port", "must be between 1 and 65535"⟩ ++
        failIf (lan.protocol ≠ "" ∧ lan.protocol ≠ "tcp" ∧ lan.protocol ≠ "udp")
          ⟨base ++ ".protocol", "must be tcp, udp, or empty"⟩ ++
        failIf (lan.allowFrom.items = [])
          ⟨base ++ ".allow_from", "must list at least one source CIDR"⟩ ++
        allowFromErrors c (base ++ ".allow_from") [] lan.allowFrom.items)

def validateExtraLans (env : Platform) (c : SystemConfig) : ValidationErrors :=
  eachFrom (extraLanErrors env c) ([], []) 0 c.firewall.extraLans.items

def peerRouteErrors (wgNetwork : Option IPNet) (i : Nat) :
    List IPNet → Nat → String → List IPNet × ValidationErrors :=
  fun seen j allowed =>
    let field := s!"wireguard.peers[{i}].allowed_ips[{j}]"
    match parseCidr allowed with
    | some (.v4 x, network) =>
      if network.ones = 32 ∧ ¬wgNetwork.any (fun n => !n.contains (.v4 x)) then
        (network :: seen, failIf (network ∈ seen) ⟨field, "duplicates another peer route"⟩)
      else (seen, [⟨field, "must be an IPv4 /32 address inside the WireGuard subnet"⟩])
    | _ => (seen, [⟨field, "must be an IPv4 /32 address inside the WireGuard subnet"⟩])

def peerErrors (env : Platform) (wgNetwork : Option IPNet) :
    List IPNet → Nat → WireGuardPeer → List IPNet × ValidationErrors :=
  fun seen i peer =>
    if ¬peer.enabled then (seen, [])
    else
      let allowed := peer.allowedIps.items
      let routes := allowed.zipIdx.foldl
        (fun seen x => (peerRouteErrors wgNetwork i seen x.2 x.1).1) seen
      (routes,
        failIf (¬safeNamePattern env.unicode peer.name)
          ⟨s!"wireguard.peers[{i}].name", "contains unsupported characters"⟩ ++
        failIf (¬validWireguardKey peer.publicKey)
          ⟨s!"wireguard.peers[{i}].public_key", "must be a valid 32-byte WireGuard key"⟩ ++
        failIf (peer.presharedKey ≠ "" ∧ ¬validWireguardKey peer.presharedKey)
          ⟨s!"wireguard.peers[{i}].preshared_key", "must be a valid 32-byte WireGuard key"⟩ ++
        failIf (allowed.length ≠ 1)
          ⟨s!"wireguard.peers[{i}].allowed_ips", "must contain exactly one IPv4 /32 address"⟩ ++
        eachFrom (peerRouteErrors wgNetwork i) seen 0 allowed ++
        failIf (peer.endpoint ≠ "" ∧
            ¬(splitHostPort peer.endpoint).any fun hp => (parseIp hp.1).isSome)
          ⟨s!"wireguard.peers[{i}].endpoint",
            "must be a static IPv4/IPv6 address in host:port form; hostnames are not resolved"⟩)

def validateWireguard (env : Platform) (c : SystemConfig) : ValidationErrors :=
  let port := c.wireguard.listenPort
  let parsed := parseCidr c.wireguard.address
  let hostPart := (split '/' c.wireguard.address).headD ""
  failIf (¬c.wan.enabled) ⟨"wireguard.enabled", "requires an enabled WAN connection"⟩ ++
  failIf (c.wireguard.interface ≠ "wg0")
    ⟨"wireguard.interface", "must be wg0 in this appliance version"⟩ ++
  failIf (¬validWireguardKey c.wireguard.privateKey)
    ⟨"wireguard.private_key", "must be a valid 32-byte WireGuard key"⟩ ++
  failIf (port < 1024 ∨ port > 65535 ∨ port = c.system.httpsPort)
    ⟨"wireguard.listen_port", "must be a non-management port between 1024 and 65535"⟩ ++
  (match parsed with
    | some (.v4 x, network) =>
      if parseIp hostPart = some (.v4 x) then
        failIf (c.lanNetwork.any (·.contains (.v4 x)) ∨
            (c.lanIp.any (fun ip => network.contains (.v4 ip)) ∧ c.lanNetwork.isSome))
          ⟨"wireguard.address", "must not overlap the LAN subnet"⟩
      else [⟨"wireguard.address", "must be a valid IPv4 interface CIDR"⟩]
    | _ => [⟨"wireguard.address", "must be a valid IPv4 interface CIDR"⟩]) ++
  eachFrom (peerErrors env (parsed.map (·.2))) [] 0 c.wireguard.peers.items

def clientAddressErrors : ValidationErrors :=
  let field := "wg_client.address"
  if c.wgClient.address = "" then []
  else
    match parseCidr c.wgClient.address with
    | some (.v4 _, network) =>
      if c.lanNetwork.any (·.networksOverlap network) then
        [⟨field, "must not overlap the LAN subnet"⟩]
      else if c.wireguardServerNetwork.any (·.networksOverlap network) then
        [⟨field, "must not overlap the WireGuard server subnet"⟩]
      else failIf (network.ones ≠ 32) ⟨field, "must be a /32 address in this appliance version"⟩
    | _ => [⟨field, "must be a valid IPv4 interface CIDR"⟩]

def clientEndpointErrors (endpoint : String) : ValidationErrors :=
  let field := "wg_client.endpoint"
  match splitHostPort endpoint with
  | none => [⟨field, "must use host:port format"⟩]
  | some (host, port) =>
    if host = "" then [⟨field, "must use host:port format"⟩]
    else
      (match parseIp host with
        | some ip => failIf (ip.to4 = none)
            ⟨field, "IPv6 endpoints are unavailable while IPv6 is disabled"⟩
        | none => failIf (¬wireguardEndpointHostPattern host ∨ containsText "..".toList host.toList)
            ⟨field, "contains an invalid hostname"⟩) ++
      failIf (¬(goAtoi port).any fun port => 1 ≤ port && port ≤ 65535)
        ⟨field, "port must be between 1 and 65535"⟩

/-- A remote network must leave the local networks, the endpoint and the resolvers alone. -/
def allowedNetworkErrors (field : String) (network : IPNet) :
    ValidationErrors :=
  let endpointIp := (splitHostPort c.wgClient.endpoint).bind fun hp => parseIp hp.1
  let upstreams := c.dhcp.dnsServers.items.filterMap fun server => parseIpv4 (trim server)
  let clientNetwork :=
    if c.wgClient.address = "" then none else (parseCidr c.wgClient.address).map (·.2)
  let segments := c.firewall.extraLans.items.filter fun lan => lan.enabled && lan.cidr != ""
  failIf (network.ones < 8)
    ⟨field, "must not be broader than a /8: default-route capture (0.0.0.0/0 and /1 split " ++
      "tricks) is not supported"⟩ ++
  failIf (endpointIp.any network.contains)
    ⟨field, "must not contain the peer endpoint address; the endpoint needs a real route " ++
      "outside the tunnel"⟩ ++
  failIf (upstreams.any fun x => network.contains (.v4 x))
    ⟨field, "must not contain a configured DNS upstream; the resolver path needs a real route " ++
      "outside the tunnel"⟩ ++
  failIf (c.lanNetwork.any (·.networksOverlap network))
    ⟨field, "must not overlap the LAN subnet"⟩ ++
  failIf (c.wireguardServerNetwork.any (·.networksOverlap network))
    ⟨field, "must not overlap the WireGuard server subnet"⟩ ++
  failIf (clientNetwork.any (·.networksOverlap network))
    ⟨field, "must not overlap the tunnel's own address"⟩ ++
  failIf (segments.any fun lan => (parseCidr lan.cidr).any fun r => r.2.networksOverlap network)
    ⟨field, "must not overlap an extra LAN subnet"⟩

def allowedIpErrors :
    List String → Nat → String → List String × ValidationErrors :=
  fun seen i entry =>
    let field := s!"wg_client.allowed_ips[{i}]"
    match parseCidr (trim entry) with
    | some (.v4 _, network) =>
      (network.toString :: seen,
        allowedNetworkErrors c field network ++
        failIf (network.toString ∈ seen) ⟨field, "duplicates another allowed network"⟩)
    | _ => (seen, [⟨field, "must be a valid IPv4 CIDR network"⟩])

/-- The contract of the outbound tunnel: a valid key pair, an explicit remote endpoint, and remote
networks that do not overlap any local network. -/
def validateWgClient : ValidationErrors :=
  let client := c.wgClient
  if ¬client.enabled then []
  else
    failIf (client.interface ≠ "wg1")
      ⟨"wg_client.interface", "must be wg1 in this appliance version"⟩ ++
    failIf (¬validWireguardKey client.privateKey)
      ⟨"wg_client.private_key", "must be a valid 32-byte WireGuard key"⟩ ++
    failIf (¬validWireguardKey client.publicKey)
      ⟨"wg_client.public_key", "must be a valid 32-byte WireGuard key"⟩ ++
    failIf (client.privateKey ≠ "" ∧ client.publicKey = client.privateKey)
      ⟨"wg_client.public_key", "must not match the private key"⟩ ++
    failIf (client.presharedKey ≠ "" ∧ ¬validWireguardKey client.presharedKey)
      ⟨"wg_client.preshared_key", "must be a valid 32-byte WireGuard key"⟩ ++
    clientAddressErrors c ++
    clientEndpointErrors client.endpoint ++
    failIf (client.allowedIps.items = [])
      ⟨"wg_client.allowed_ips", "must list at least one remote network"⟩ ++
    eachFrom (allowedIpErrors c) [] 0 client.allowedIps.items ++
    failIf (client.persistentKeepalive < 0 ∨ client.persistentKeepalive > 65535)
      ⟨"wg_client.persistent_keepalive", "must be between 0 and 65535"⟩ ++
    failIf (hasUnsafeControl client.endpoint ∨ client.endpoint.utf8ByteSize > 255)
      ⟨"wg_client.endpoint", "contains forbidden characters or is too long"⟩

end MinimalRouter.Config
