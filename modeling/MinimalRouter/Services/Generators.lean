import MinimalRouter.Firewall.Generate
import MinimalRouter.Wireguard.Generate

namespace MinimalRouter.Services

open Goish Config Firewall Wireguard

def listenLines (cfg : SystemConfig) : List String :=
  let wgIp := (split '/' cfg.wireguard.address).headD ""
  let tunnel := cfg.wireguard.enabled ∧ cfg.wireguard.interface ≠ "" ∧ cfg.wireguard.address ≠ "" ∧
    wgIp ≠ ""
  (if tunnel then ["interface=" ++ cfg.wireguard.interface] else []) ++
  ["listen-address=" ++ ",".intercalate (["127.0.0.1", cfg.lan.ipAddress] ++
    if tunnel then [wgIp] else [])]

def leaseLine (lease : StaticLease) : String :=
  let hostname := trim lease.hostname
  if hostname = "" then "dhcp-host=" ++ lease.mac ++ "," ++ lease.ipAddress
  else "dhcp-host=" ++ lease.mac ++ "," ++ lease.ipAddress ++ "," ++ hostname

def dhcpLines (cfg : SystemConfig) : List String :=
  if ¬cfg.dhcp.enabled then ["# DHCP disabled"]
  else
    ["# DHCP pool",
      "dhcp-leasefile=/var/lib/minimalrouter-dhcp/dnsmasq.leases",
      "dhcp-range=" ++ cfg.dhcp.rangeStart ++ "," ++ cfg.dhcp.rangeEnd ++ "," ++ cfg.lan.netmask ++
        "," ++ cfg.dhcp.leaseTime,
      "dhcp-option=option:router," ++ cfg.lan.ipAddress,
      "dhcp-option=option:dns-server," ++ cfg.lan.ipAddress, ""] ++
    if cfg.dhcp.staticLeases.isEmpty then []
    else ["# Static DHCP leases"] ++ cfg.dhcp.staticLeases.items.map leaseLine

def writeDnsFilterNftsets (u : Unicode) (cfg : SystemConfig) : List String :=
  let services := activeManagedServices u cfg
  if services.isEmpty then []
  else ["", "# Device profile service destination sets"] ++
    services.flatMap fun service =>
      let domains := (serviceDomains service).getD []
      if domains.isEmpty then []
      else ["nftset=/" ++ "/".intercalate domains ++ "/4#inet#minimalrouter#svc_" ++ service]

def generateDnsmasq (u : Unicode) (cfg : SystemConfig) : Except String String :=
  let cfg := runtime cfg
  .ok <| renderLines <|
    ["# Generated by Minimal Router OS — do not edit manually",
      "# File: /etc/dnsmasq.d/minimalrouter.conf", "",
      "domain=" ++ cfg.system.domain, "interface=" ++ cfg.lan.interface] ++
    listenLines cfg ++
    ["bind-dynamic", "no-resolv", "strict-order", "cache-size=1000", "bogus-priv", "domain-needed",
      "# DNS rebind attack protection", "stop-dns-rebind",
      "rebind-domain-ok=/use-application-dns.net/", ""] ++
    (if cfg.dhcp.dnsServers.isEmpty then []
      else ["# Upstream DNS servers"] ++ cfg.dhcp.dnsServers.items.map ("server=" ++ ·) ++ [""]) ++
    (if cfg.dhcp.dnsEnabled then
      ["# ── DNS-over-HTTPS Integration ──", "# Point dnsmasq upstream to local DoH proxy",
        "server=127.0.0.1#5053"] else []) ++
    dhcpLines cfg ++
    (if cfg.dns.records.isEmpty then []
      else ["", "# Static DNS records"] ++
        cfg.dns.records.items.map fun rec => "host-record=" ++ rec.name ++ "," ++ rec.ip) ++
    (if cfg.adguard.enabled then ["", "# DNS Filter global sinkhole blocklist",
      "conf-file=/etc/dnsmasq.d/adblock_hosts.conf"] else []) ++
    writeDnsFilterNftsets u cfg

def quotePppd (value : String) : String :=
  String.ofList (value.toList.flatMap fun c =>
    if c = '\\' then ['\\', '\\'] else if c = '"' then ['\\', '"'] else [c])

structure PPPoEConfigBundle where
  (peerConfig chapSecrets papSecrets : String)

def generatePppoe (cfg : SystemConfig) : Except String PPPoEConfigBundle :=
  let secret := renderLines ["# Generated by Minimal Router OS — do not edit manually",
    "\"" ++ quotePppd cfg.wan.username ++ "\" * \"" ++ quotePppd cfg.wan.password ++ "\" *"]
  .ok {
    peerConfig := renderLines (
      ["# Generated by Minimal Router OS — do not edit manually",
        "plugin pppoe.so " ++ cfg.wan.interface, "name \"" ++ quotePppd cfg.wan.username ++ "\"",
        "noipdefault", "noauth", "noipv6", "defaultroute", "replacedefaultroute",
        "persist", "maxfail 0", "holdoff 5", "lcp-echo-interval 5", "lcp-echo-failure 4"] ++
      if cfg.wan.mtu > 0 then
        ["mtu " ++ toString cfg.wan.mtu, "mru " ++ toString cfg.wan.mtu] else [])
    chapSecrets := secret
    papSecrets := secret }

def generateHostapd (cfg : SystemConfig) : Except String String :=
  let wifi := cfg.wifi
  let start := ["# Generated by Minimal Router OS — do not edit manually",
    "# File: /etc/hostapd/hostapd.conf", ""]
  if ¬wifi.enabled then .ok (renderLines (start ++ ["# Wi-Fi Access Point is disabled"]))
  else .ok <| renderLines <| start ++
    ["interface=" ++ (if wifi.interface = "" then "wlan0" else wifi.interface),
      "bridge=" ++ wifiBridgeInterface, "driver=nl80211", "ssid=" ++ wifi.ssid] ++
    (if wifi.band = "5ghz" then ["hw_mode=a", "ieee80211n=1", "ieee80211ac=1"]
      else ["hw_mode=g", "ieee80211n=1"]) ++
    ["channel=" ++ toString (if wifi.channel ≤ 0 then 36 else wifi.channel),
      if wifi.hideSsid then "ignore_broadcast_ssid=1" else "ignore_broadcast_ssid=0",
      "wpa=2", "wpa_passphrase=" ++ wifi.passphrase, "wpa_key_mgmt=WPA-PSK SAE", "ieee80211w=1",
      "rsn_pairwise=CCMP"]

end MinimalRouter.Services
