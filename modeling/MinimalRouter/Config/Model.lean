import MinimalRouter.Goish.Time

/-! The canonical configuration.  Field order and JSON names are the persisted ones: the encoded
form is stored, hashed and compared byte for byte.  Every field carries its serde default. -/

namespace MinimalRouter.Config

open Goish Goish.Json

abbrev Revision := Nat

abbrev SortedMap (α : Type) := List (String × α)

instance {α : Type} [Marshal α] : Marshal (SortedMap α) where
  marshal m := .object (m.map fun e => field e.1 e.2)

structure StaticLease where
  (id hostname mac ipAddress : String := "")
  deriving DecidableEq, Inhabited

instance : Marshal StaticLease where
  marshal c := .object [
    field "id" c.id, field "hostname" c.hostname, field "mac" c.mac,
    field "ip_address" c.ipAddress]

structure DNSRecord where
  (name ip : String := "")
  deriving DecidableEq, Inhabited

instance : Marshal DNSRecord where
  marshal c := .object [
    field "name" c.name, field "ip" c.ip]

structure DNSSettings where
  records : GoList DNSRecord := .nil
  deriving DecidableEq, Inhabited

instance : Marshal DNSSettings where
  marshal c := .object [
    fieldUnless GoList.isEmpty "records" c.records]

structure DHCPSettings where
  (enabled dnsEnabled : Bool := false)
  (rangeStart rangeEnd leaseTime : String := "")
  dnsServers : GoList String := .nil
  staticLeases : GoList StaticLease := .nil
  deriving DecidableEq, Inhabited

instance : Marshal DHCPSettings where
  marshal c := .object [
    field "enabled" c.enabled, field "dns_enabled" c.dnsEnabled, field "range_start" c.rangeStart,
    field "range_end" c.rangeEnd, field "lease_time" c.leaseTime,
    field "dns_servers" c.dnsServers, field "static_leases" c.staticLeases]

structure SystemSettings where
  (hostname domain : String := "")
  httpsEnabled : Bool := false
  httpsPort : Int := 0
  managementAccess : String := ""
  deriving DecidableEq, Inhabited

instance : Marshal SystemSettings where
  marshal c := .object [
    field "hostname" c.hostname, field "domain" c.domain, field "https_enabled" c.httpsEnabled,
    field "https_port" c.httpsPort, field "management_access" c.managementAccess]

structure WANSettings where
  interface : String := ""
  enabled : Bool := false
  (username password : String := "")
  mtu : Int := 0
  deriving DecidableEq, Inhabited

instance : Marshal WANSettings where
  marshal c := .object [
    field "interface" c.interface, field "enabled" c.enabled, field "username" c.username,
    fieldUnless String.isEmpty "password" c.password, field "mtu" c.mtu]

structure LANSettings where
  (interface ipAddress netmask cidr : String := "")
  deriving DecidableEq, Inhabited

instance : Marshal LANSettings where
  marshal c := .object [
    field "interface" c.interface, field "ip_address" c.ipAddress, field "netmask" c.netmask,
    field "cidr" c.cidr]

structure ExtraLANConfig where
  (id name interface cidr routerAddress dstIp : String := "")
  dstPort : Int := 0
  protocol : String := ""
  allowFrom : GoList String := .nil
  enabled : Bool := false
  deriving DecidableEq, Inhabited

instance : Marshal ExtraLANConfig where
  marshal c := .object [
    field "id" c.id, field "name" c.name, field "interface" c.interface, field "cidr" c.cidr,
    fieldUnless String.isEmpty "router_address" c.routerAddress, field "dst_ip" c.dstIp,
    field "dst_port" c.dstPort, fieldUnless String.isEmpty "protocol" c.protocol,
    field "allow_from" c.allowFrom, field "enabled" c.enabled]

structure PortForwardRule where
  (id name protocol : String := "")
  externalPort : Int := 0
  internalIp : String := ""
  internalPort : Int := 0
  enabled : Bool := false
  deriving DecidableEq, Inhabited

instance : Marshal PortForwardRule where
  marshal c := .object [
    field "id" c.id, field "name" c.name, field "protocol" c.protocol,
    field "external_port" c.externalPort, field "internal_ip" c.internalIp,
    field "internal_port" c.internalPort, field "enabled" c.enabled]

structure FirewallRule where
  (id name action direction protocol srcIp : String := "")
  dstPort : Int := 0
  enabled : Bool := false
  (scope presetId : String := "")
  deriving DecidableEq, Inhabited

instance : Marshal FirewallRule where
  marshal c := .object [
    field "id" c.id, field "name" c.name, field "action" c.action, field "direction" c.direction,
    field "protocol" c.protocol, fieldUnless String.isEmpty "src_ip" c.srcIp,
    fieldUnless Goish.isZero "dst_port" c.dstPort, field "enabled" c.enabled,
    fieldUnless String.isEmpty "scope" c.scope, fieldUnless String.isEmpty "preset_id" c.presetId]

structure FirewallConfig where
  (defaultWanInputPolicy wanIngressMode : String := "")
  statefulFirewall : Bool := false
  portForwards : GoList PortForwardRule := .nil
  customRules : GoList FirewallRule := .nil
  extraLans : GoList ExtraLANConfig := .nil
  deriving DecidableEq, Inhabited

instance : Marshal FirewallConfig where
  marshal c := .object [
    field "default_wan_input_policy" c.defaultWanInputPolicy,
    field "wan_ingress_mode" c.wanIngressMode, field "stateful_firewall" c.statefulFirewall,
    field "port_forwards" c.portForwards, field "custom_rules" c.customRules,
    fieldUnless GoList.isEmpty "extra_lans" c.extraLans]

structure WireGuardPeer where
  (id name publicKey presharedKey : String := "")
  allowedIps : GoList String := .nil
  endpoint : String := ""
  enabled : Bool := false
  deriving DecidableEq, Inhabited

instance : Marshal WireGuardPeer where
  marshal c := .object [
    field "id" c.id, field "name" c.name, field "public_key" c.publicKey,
    fieldUnless String.isEmpty "preshared_key" c.presharedKey, field "allowed_ips" c.allowedIps,
    fieldUnless String.isEmpty "endpoint" c.endpoint, field "enabled" c.enabled]

structure WireGuardConfig where
  enabled : Bool := false
  (interface privateKey : String := "")
  listenPort : Int := 0
  address : String := ""
  peers : GoList WireGuardPeer := .nil
  deriving DecidableEq, Inhabited

instance : Marshal WireGuardConfig where
  marshal c := .object [
    field "enabled" c.enabled, field "interface" c.interface,
    fieldUnless String.isEmpty "private_key" c.privateKey, field "listen_port" c.listenPort,
    field "address" c.address, field "peers" c.peers]

structure WGClientConfig where
  enabled : Bool := false
  (interface privateKey address publicKey presharedKey endpoint : String := "")
  allowedIps : GoList String := .nil
  persistentKeepalive : Int := 0
  deriving DecidableEq, Inhabited

instance : Marshal WGClientConfig where
  marshal c := .object [
    field "enabled" c.enabled, field "interface" c.interface,
    fieldUnless String.isEmpty "private_key" c.privateKey, field "address" c.address,
    field "public_key" c.publicKey, fieldUnless String.isEmpty "preshared_key" c.presharedKey,
    field "endpoint" c.endpoint, field "allowed_ips" c.allowedIps,
    field "persistent_keepalive" c.persistentKeepalive]

structure CloudflareConfig where
  ddnsEnabled : Bool := false
  (ddnsProvider ddnsUser apiToken zoneId zoneName domain : String := "")
  tunnelEnabled : Bool := false
  (tunnelHostname tunnelToken : String := "")
  deriving DecidableEq, Inhabited

instance : Marshal CloudflareConfig where
  marshal c := .object [
    field "ddns_enabled" c.ddnsEnabled, fieldUnless String.isEmpty "ddns_provider" c.ddnsProvider,
    fieldUnless String.isEmpty "ddns_username" c.ddnsUser,
    fieldUnless String.isEmpty "api_token" c.apiToken,
    fieldUnless String.isEmpty "zone_id" c.zoneId,
    fieldUnless String.isEmpty "zone_name" c.zoneName, field "domain" c.domain,
    field "tunnel_enabled" c.tunnelEnabled,
    fieldUnless String.isEmpty "tunnel_hostname" c.tunnelHostname,
    fieldUnless String.isEmpty "tunnel_token" c.tunnelToken]

structure RestrictedIPItem where
  (hostname ipAddress : String := "")
  enabled : Bool := false
  deriving DecidableEq, Inhabited

instance : Marshal RestrictedIPItem where
  marshal c := .object [
    field "hostname" c.hostname, field "ip_address" c.ipAddress, field "enabled" c.enabled]

structure SquidProxyConfig where
  enabled : Bool := false
  port : Int := 0
  (username password : String := "")
  restrictedIps : GoList RestrictedIPItem := .nil
  deriving DecidableEq, Inhabited

instance : Marshal SquidProxyConfig where
  marshal c := .object [
    field "enabled" c.enabled, field "port" c.port, field "username" c.username,
    fieldUnless String.isEmpty "password" c.password, field "restricted_ips" c.restrictedIps]

structure AccessWindow where
  start : String := ""
  «end» : String := ""
  deriving DecidableEq, Inhabited

instance : Marshal AccessWindow where
  marshal c := .object [
    field "start" c.start, field "end" c.«end»]

structure WeeklyAccessSchedule where
  dayWindows : SortedMap (GoList AccessWindow) := []
  weekdayWindows : GoList AccessWindow := .nil
  weekendMode : String := ""
  weekendWindows : GoList AccessWindow := .nil
  deriving DecidableEq, Inhabited

instance : Marshal WeeklyAccessSchedule where
  marshal c := .object [
    fieldUnless List.isEmpty "day_windows" c.dayWindows,
    fieldUnless GoList.isEmpty "weekday_windows" c.weekdayWindows,
    fieldUnless String.isEmpty "weekend_mode" c.weekendMode,
    fieldUnless GoList.isEmpty "weekend_windows" c.weekendWindows]

structure DeviceProfile where
  (id name : String := "")
  (ipAddresses services : GoList String := .nil)
  schedule : WeeklyAccessSchedule := {}
  enabled : Bool := false
  deriving DecidableEq, Inhabited

instance : Marshal DeviceProfile where
  marshal c := .object [
    field "id" c.id, field "name" c.name, field "ip_addresses" c.ipAddresses,
    field "services" c.services, field "schedule" c.schedule, field "enabled" c.enabled]

structure FilterDeviceRule where
  (id hostname ipAddress : String := "")
  blockedServices : GoList String := .nil
  enabled : Bool := false
  deriving DecidableEq, Inhabited

instance : Marshal FilterDeviceRule where
  marshal c := .object [
    field "id" c.id, field "hostname" c.hostname, field "ip_address" c.ipAddress,
    field "blocked_services" c.blockedServices, field "enabled" c.enabled]

structure DNSFilterConfig where
  enabled : Bool := false
  (blocklistUrl lastUpdated : String := "")
  filterDevices : GoList FilterDeviceRule := .nil
  deviceProfiles : GoList DeviceProfile := .nil
  deriving DecidableEq, Inhabited

instance : Marshal DNSFilterConfig where
  marshal c := .object [
    field "enabled" c.enabled, field "blocklist_url" c.blocklistUrl,
    field "last_updated" c.lastUpdated,
    fieldUnless GoList.isEmpty "filter_devices" c.filterDevices,
    field "device_profiles" c.deviceProfiles]

structure QoSConfig where
  enabled : Bool := false
  algorithm : String := ""
  (downloadLimitMbps uploadLimitMbps : Int := 0)
  deriving DecidableEq, Inhabited

instance : Marshal QoSConfig where
  marshal c := .object [
    field "enabled" c.enabled, field "algorithm" c.algorithm,
    field "download_limit_mbps" c.downloadLimitMbps, field "upload_limit_mbps" c.uploadLimitMbps]

structure WiFiConfig where
  enabled : Bool := false
  (interface ssid passphrase band : String := "")
  channel : Int := 0
  hideSsid : Bool := false
  deriving DecidableEq, Inhabited

instance : Marshal WiFiConfig where
  marshal c := .object [
    field "enabled" c.enabled, field "interface" c.interface, field "ssid" c.ssid,
    fieldUnless String.isEmpty "passphrase" c.passphrase, field "band" c.band,
    field "channel" c.channel, field "hide_ssid" c.hideSsid]

structure AccountingConfig where
  enabled : Bool := false
  retentionMonths : Int := 0
  deriving DecidableEq, Inhabited

instance : Marshal AccountingConfig where
  marshal c := .object [
    field "enabled" c.enabled, field "retention_months" c.retentionMonths]

structure SystemConfig where
  revision : Revision := 0
  updatedAt : Time := Time.zero
  system : SystemSettings := {}
  wan : WANSettings := {}
  lan : LANSettings := {}
  dhcp : DHCPSettings := {}
  dns : DNSSettings := {}
  firewall : FirewallConfig := {}
  wireguard : WireGuardConfig := {}
  wgClient : WGClientConfig := {}
  cloudflare : CloudflareConfig := {}
  squidProxy : SquidProxyConfig := {}
  adguard : DNSFilterConfig := {}
  qos : QoSConfig := {}
  wifi : WiFiConfig := {}
  accounting : AccountingConfig := {}
  trustedNetworks : GoList String := .nil
  deriving DecidableEq, Inhabited

instance : Marshal SystemConfig where
  marshal c := .object [
    field "revision" c.revision, field "updated_at" c.updatedAt, field "system" c.system,
    field "wan" c.wan, field "lan" c.lan, field "dhcp" c.dhcp, field "dns" c.dns,
    field "firewall" c.firewall, field "wireguard" c.wireguard, field "wg_client" c.wgClient,
    field "cloudflare" c.cloudflare, field "squid_proxy" c.squidProxy, field "adguard" c.adguard,
    field "qos" c.qos, field "wifi" c.wifi, field "accounting" c.accounting,
    field "trusted_networks" c.trustedNetworks]

def wifiBridgeInterface : String := "br-lan"

/-- The interface that owns the LAN address and receives LAN firewall and DHCP policy. -/
def SystemConfig.runtimeLanInterface (c : SystemConfig) : String :=
  if c.wifi.enabled then wifiBridgeInterface else c.lan.interface

def defaultConfig (now : Time) : SystemConfig where
  revision := 1
  updatedAt := now
  system := {
    hostname := "minimalrouter", domain := "lan", httpsEnabled := true, httpsPort := 8443,
    managementAccess := "lan_and_wireguard" }
  wan := { interface := "eth0", enabled := false, mtu := 1492 }
  lan := {
    interface := "eth1", ipAddress := "192.168.1.1", netmask := "255.255.255.0",
    cidr := "192.168.1.1/24" }
  dhcp := {
    enabled := true, rangeStart := "192.168.1.100", rangeEnd := "192.168.1.200",
    leaseTime := "12h", dnsServers := .of ["1.1.1.1", "1.0.0.1"], staticLeases := .of [] }
  firewall := {
    defaultWanInputPolicy := "deny", wanIngressMode := "wireguard_only", statefulFirewall := true,
    portForwards := .of [], customRules := .of [] }
  wireguard := {
    enabled := false, interface := "wg0", listenPort := 51820, address := "10.8.0.1/24",
    peers := .of [] }
  wgClient := {
    enabled := false, interface := "wg1", persistentKeepalive := 25, allowedIps := .of [] }
  cloudflare := { ddnsProvider := "noip" }
  squidProxy := { enabled := false, port := 3128, username := "proxyadmin", restrictedIps := .of [] }
  adguard := {
    enabled := false, lastUpdated := "Never", filterDevices := .of [], deviceProfiles := .of [] }
  qos := { enabled := false, algorithm := "cake", downloadLimitMbps := 100, uploadLimitMbps := 20 }
  accounting := { enabled := false, retentionMonths := 13 }
  wifi := {
    enabled := false, interface := "wlan0", ssid := "MinimalRouter-Home", band := "5ghz",
    channel := 36 }
  trustedNetworks := .of ["192.168.1.0/24"]

end MinimalRouter.Config
