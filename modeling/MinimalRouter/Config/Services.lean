import MinimalRouter.Config.Networks

namespace MinimalRouter.Config

open Goish Lib.Checks

def stripDot (s : String) : String :=
  let cs := s.toList
  if cs.getLast? == some '.' then String.ofList cs.dropLast else s

def ddnsErrors (env : Platform) (c : SystemConfig) : ValidationErrors :=
  let cf := c.cloudflare
  let lowered := env.unicode.toLower (trim cf.ddnsProvider)
  let provider := if lowered = "" then "cloudflare" else lowered
  failIf (¬c.wan.enabled) ⟨"cloudflare.ddns_enabled", "requires an enabled WAN connection"⟩ ++
  failIf (¬domainPattern cf.domain ∨ ¬cf.domain.toList.contains '.')
    ⟨"cloudflare.domain", "must be a valid fully qualified DDNS hostname"⟩ ++
  if provider = "noip" then
    failIf (trim cf.ddnsUser = "" ∨ cf.ddnsUser.utf8ByteSize > 255 ∨ hasUnsafeControl cf.ddnsUser)
      ⟨"cloudflare.ddns_username",
        "No-IP username or DDNS Key username is required and must not contain control characters"⟩ ++
    failIf (cf.apiToken = "" ∨ cf.apiToken = "[REDACTED]" ∨ cf.apiToken.utf8ByteSize > 1024 ∨
        hasUnsafeControl cf.apiToken)
      ⟨"cloudflare.api_token",
        "No-IP DDNS Key/account password is required and must not contain control characters"⟩
  else if provider = "cloudflare" then
    failIf (¬domainPattern cf.zoneName ∨ ¬cf.zoneName.toList.contains '.')
      ⟨"cloudflare.zone_name", "must be the Cloudflare zone name, for example example.com"⟩ ++
    failIf (¬cloudflareTokenPattern cf.apiToken)
      ⟨"cloudflare.api_token", "must be a valid Cloudflare API token"⟩
  else [⟨"cloudflare.ddns_provider", "must be noip or cloudflare"⟩]

def cloudflareErrors (env : Platform) (c : SystemConfig) : ValidationErrors :=
  (if c.cloudflare.ddnsEnabled then ddnsErrors env c else []) ++
  failIf (c.cloudflare.tunnelEnabled)
    ⟨"cloudflare.tunnel_enabled",
      "is unavailable because WireGuard is the only allowed remote-entry path"⟩

def squidErrors (c : SystemConfig) : ValidationErrors :=
  let proxy := c.squidProxy
  if ¬proxy.enabled then []
  else
    failIf (proxy.port < 1 ∨ proxy.port > 65535 ∨ proxy.port = c.system.httpsPort)
      ⟨"squid_proxy.port", "must be a non-management port between 1 and 65535"⟩ ++
    failIf (hasUnsafeControl proxy.username ∨ hasUnsafeControl proxy.password)
      ⟨"squid_proxy", "credentials contain forbidden control characters"⟩ ++
    failIf (¬credentialNamePattern proxy.username)
      ⟨"squid_proxy.username",
        "must contain only letters, numbers, dot, underscore, or hyphen"⟩ ++
    failIf (proxy.password.length < 8 ∨ proxy.password.utf8ByteSize > 1024 ∨
        proxy.password = "[REDACTED]")
      ⟨"squid_proxy.password", "must contain 8-1024 characters"⟩

def lanAddressFieldErrors (c : SystemConfig) (field message value : String) : ValidationErrors :=
  match parseIpv4 value with
  | none => [⟨field, message⟩]
  | some x => failIf (c.lanNetwork.any fun n => !n.contains (.v4 x)) ⟨field, message⟩

def restrictedErrors (c : SystemConfig) : ValidationErrors :=
  each (fun i item => lanAddressFieldErrors c s!"squid_proxy.restricted_ips[{i}].ip_address"
    "must be a valid LAN address" item.ipAddress) c.squidProxy.restrictedIps.items

def supportedProfileServices : List String :=
  ["youtube", "steam", "wiki", "tiktok", "instagram", "facebook", "roblox", "epic", "twitch",
    "adult", "gaming"]

def supportedScheduleDays : List String :=
  ["monday", "tuesday", "wednesday", "thursday", "friday", "saturday", "sunday"]

def windowMinutes (window : AccessWindow) : Option (Nat × Nat) := do
  let (startHour, startMinute) ← parseClock window.start
  let (endHour, endMinute) ← parseClock window.end
  return (startHour * 60 + startMinute, endHour * 60 + endMinute)

def overlapping : List (Nat × Nat) → Bool
  | a :: b :: rest => b.1 < a.2 || overlapping (b :: rest)
  | _ => false

def validateWindows (field : String) (windows : List AccessWindow) : ValidationErrors :=
  if windows.length > 12 then [⟨field, "cannot contain more than twelve windows"⟩]
  else
    each (fun i window =>
      match windowMinutes window with
      | none => [⟨field ++ s!"[{i}]", "must use HH:MM 24-hour times"⟩]
      | some (start, stop) => failIf (stop ≤ start)
          ⟨field ++ s!"[{i}]", "end must be later than start; split midnight-spanning access"⟩)
      windows ++
    failIf (overlapping (((windows.filterMap windowMinutes).filter fun w => w.1 < w.2).mergeSort
        fun a b => a.1 ≤ b.1))
      ⟨field, "windows must not overlap"⟩

def validateProfileSchedule (field : String) (schedule : WeeklyAccessSchedule) :
    ValidationErrors :=
  if ¬schedule.dayWindows.isEmpty then
    failIf (schedule.dayWindows.length > 7)
      ⟨field ++ ".day_windows", "cannot contain more than seven days"⟩ ++
    failIf (¬schedule.weekdayWindows.isEmpty ∨ schedule.weekendMode ≠ "" ∨
        ¬schedule.weekendWindows.isEmpty)
      ⟨field, "must not mix day_windows with legacy weekday/weekend fields"⟩ ++
    schedule.dayWindows.flatMap fun (day, windows) =>
      if day ∉ supportedScheduleDays then
        [⟨field ++ ".day_windows." ++ day, "is not a supported weekday"⟩]
      else validateWindows (field ++ ".day_windows." ++ day) windows.items
  else
    validateWindows (field ++ ".weekday_windows") schedule.weekdayWindows.items ++
    if schedule.weekendMode ∈ ["all_day", "blocked", "same_as_weekdays", ""] then
      failIf (¬schedule.weekendWindows.isEmpty)
        ⟨field ++ ".weekend_windows", "must be empty unless weekend_mode is custom"⟩
    else if schedule.weekendMode = "custom" then
      failIf (schedule.weekendWindows.isEmpty)
        ⟨field ++ ".weekend_windows",
          "must contain at least one window for custom weekend mode"⟩ ++
      validateWindows (field ++ ".weekend_windows") schedule.weekendWindows.items
    else [⟨field ++ ".weekend_mode", "must be all_day, blocked, same_as_weekdays, or custom"⟩]

def profileServiceErrors (env : Platform) (base : String) :
    List String → Nat → String → List String × ValidationErrors :=
  fun seen j service =>
    (service :: seen,
      failIf (service ≠ env.unicode.toLower (trim service))
        ⟨base ++ s!".services[{j}]", "must be a lowercase service identifier"⟩ ++
      failIf (service ∉ supportedProfileServices)
        ⟨base ++ s!".services[{j}]", "is not a supported managed service"⟩ ++
      failIf (service ∈ seen)
        ⟨base ++ s!".services[{j}]", "duplicates another service"⟩)

def profileAddressErrors (c : SystemConfig) (base id : String) :
    List (String × String) → Nat → String → List (String × String) × ValidationErrors :=
  fun owners j rawIp =>
    ((rawIp, id) :: owners,
      lanAddressFieldErrors c (base ++ s!".ip_addresses[{j}]")
        "must be a valid address in the LAN subnet" rawIp ++
      failIf ((owners.lookup rawIp).any (· != id))
        ⟨base ++ s!".ip_addresses[{j}]", "is already controlled by another profile"⟩)

def deviceProfileErrors (env : Platform) (c : SystemConfig) :
    List String × List (String × String) → Nat → DeviceProfile →
      (List String × List (String × String)) × ValidationErrors :=
  fun (ids, owners) i profile =>
    let base := s!"adguard.device_profiles[{i}]"
    let addresses := profile.ipAddresses.items
    let services := profile.services.items
    ((profile.id :: ids, (addresses.map fun ip => (ip, profile.id)).reverse ++ owners),
      failIf (¬deviceProfileIdPattern profile.id)
        ⟨base ++ ".id", "must contain only letters, numbers, underscore, or hyphen"⟩ ++
      failIf (profile.id ∈ ids) ⟨base ++ ".id", "duplicates another profile"⟩ ++
      failIf (¬safeNamePattern env.unicode profile.name ∨ hasUnsafeControl profile.name)
        ⟨base ++ ".name", "contains unsupported characters"⟩ ++
      failIf (addresses = [] ∨ addresses.length > 32)
        ⟨base ++ ".ip_addresses", "must contain between one and 32 LAN addresses"⟩ ++
      eachFrom (profileAddressErrors c base profile.id) owners 0 addresses ++
      failIf (services = [] ∨ services.length > supportedProfileServices.length)
        ⟨base ++ ".services", "must contain at least one supported service"⟩ ++
      eachFrom (profileServiceErrors env base) [] 0 services ++
      validateProfileSchedule (base ++ ".schedule") profile.schedule)

def validateDeviceProfiles (env : Platform) (c : SystemConfig) : ValidationErrors :=
  failIf (¬c.adguard.filterDevices.isEmpty)
    ⟨"adguard.filter_devices", "legacy per-device rules must be migrated to device_profiles"⟩ ++
  failIf (c.adguard.deviceProfiles.items.length > 64)
    ⟨"adguard.device_profiles", "cannot contain more than 64 profiles"⟩ ++
  eachFrom (deviceProfileErrors env c) ([], []) 0 c.adguard.deviceProfiles.items

def dnsRecordErrors (env : Platform) :
    List String × List (BitVec 32) → Nat → DNSRecord →
      (List String × List (BitVec 32)) × ValidationErrors :=
  fun (names, addresses) i rec =>
    let lower := env.unicode.toLower (stripDot rec.name)
    let ip := parseIpv4 rec.ip
    ((if lower = "" then names else lower :: names, ip.toList ++ addresses),
      failIf (¬domainPattern rec.name ∨ hasUnsafeControl rec.name)
        ⟨s!"dns.records[{i}].name", "must be a valid DNS hostname"⟩ ++
      failIf (endsWith ".local" lower)
        ⟨s!"dns.records[{i}].name",
          ".local is the mDNS namespace and conflicts with macOS/iOS resolvers; " ++
            "use .home.arpa instead"⟩ ++
      failIf (lower ≠ "" ∧ lower ∈ names)
        ⟨s!"dns.records[{i}].name",
          "duplicates another record (hostnames are case-insensitive)"⟩ ++
      match ip with
      | none => [⟨s!"dns.records[{i}].ip", "must be a valid IPv4 address"⟩]
      | some x => failIf (x ∈ addresses)
          ⟨s!"dns.records[{i}].ip", "duplicates another record's address"⟩)

def dnsErrors (env : Platform) (c : SystemConfig) : ValidationErrors :=
  eachFrom (dnsRecordErrors env) ([], []) 0 c.dns.records.items

def leaseHostnameErrors (env : Platform) (c : SystemConfig) : ValidationErrors :=
  let names := c.dns.records.items.map fun rec => env.unicode.toLower (stripDot rec.name)
  let suffix := "." ++ env.unicode.toLower (stripDot c.system.domain)
  each (fun i lease =>
    let lowered := env.unicode.toLower lease.hostname
    let fqdn := if suffix = "." then lowered else lowered ++ suffix
    failIf (lease.hostname ≠ "" ∧ fqdn ≠ "" ∧ fqdn ∈ names)
      ⟨s!"dhcp.static_leases[{i}].hostname", "conflicts with a static DNS record hostname"⟩)
    c.dhcp.staticLeases.items

def qosErrors (c : SystemConfig) : ValidationErrors :=
  let qos := c.qos
  if ¬qos.enabled then []
  else
    failIf (qos.algorithm ≠ "cake" ∧ qos.algorithm ≠ "fq_codel")
      ⟨"qos.algorithm", "must be cake or fq_codel"⟩ ++
    failIf (qos.downloadLimitMbps ≤ 0)
      ⟨"qos.download_limit_mbps", "must be greater than zero"⟩ ++
    failIf (qos.uploadLimitMbps ≤ 0)
      ⟨"qos.upload_limit_mbps", "must be greater than zero"⟩ ++
    failIf (qos.downloadLimitMbps > 100000 ∨ qos.uploadLimitMbps > 100000)
      ⟨"qos", "limits must not exceed 100000 Mbps"⟩

def wifiErrors (c : SystemConfig) : ValidationErrors :=
  let wifi := c.wifi
  if ¬wifi.enabled then []
  else
    failIf (¬validInterfaceName wifi.interface)
      ⟨"wifi.interface", "must be a valid Linux interface name"⟩ ++
    failIf (wifi.interface = c.wan.interface ∨ wifi.interface = c.lan.interface ∨
        wifi.interface = wifiBridgeInterface)
      ⟨"wifi.interface", "must not reuse the WAN or LAN interface"⟩ ++
    failIf (wifi.ssid = "" ∨ wifi.ssid.utf8ByteSize > 32 ∨ hasUnsafeControl wifi.ssid)
      ⟨"wifi.ssid", "must contain 1-32 bytes and no control characters"⟩ ++
    failIf (wifi.passphrase.utf8ByteSize < 12 ∨ wifi.passphrase.utf8ByteSize > 63 ∨
        hasUnsafeControl wifi.passphrase)
      ⟨"wifi.passphrase", "must contain 12-63 bytes and no control characters"⟩ ++
    failIf (wifi.band ≠ "2.4ghz" ∧ wifi.band ≠ "5ghz")
      ⟨"wifi.band", "must be 2.4ghz or 5ghz"⟩ ++
    failIf (wifi.band = "2.4ghz" ∧ (wifi.channel < 1 ∨ wifi.channel > 11))
      ⟨"wifi.channel", "must be 1-11 for 2.4 GHz"⟩ ++
    failIf (wifi.band = "5ghz" ∧ wifi.channel ∉ ([36, 40, 44, 48] : List Int))
      ⟨"wifi.channel", "must be 36, 40, 44, or 48 for the portable 5 GHz profile"⟩

def minimumTrustedPrefixLength (ip : IP) (network : IPNet) : Nat :=
  let ula := network.bits == 128 && decide (7 ≤ network.ones) &&
    (parseCidr "fc00::/7").any fun r => r.2.contains network.ip
  if network.bits = 32 then 8 else if ip.to4.isSome then 104 else if ula then 7 else 16

def trustedNetworkErrors :
    List String → Nat → String → List String × ValidationErrors :=
  fun seen i network =>
    let field := s!"trusted_networks[{i}]"
    if hasUnsafeControl network then (seen, [⟨field, "must not contain control characters"⟩])
    else
      match parseCidr network with
      | none => (seen, [⟨field, "must be a valid IPv4 or IPv6 CIDR network"⟩])
      | some (ip, n) =>
        if n.ones = 0 ∨ ip.isUnspecified then
          (seen, [⟨field, "wildcard networks (0.0.0.0/0, ::/0) are not allowed"⟩])
        else if n.ones < minimumTrustedPrefixLength ip n ∨ n.ip.isUnspecified then
          (seen, [⟨field, "trusted networks must be specific (IPv4 /8, IPv6 /16 or narrower, or " ++
            "a ULA subnet) and must not include the unspecified address"⟩])
        else
          let effective := if n.bits = 128 ∧ ip.to4.isSome then n.ones - 96 else n.ones
          let key := n.ip.toString ++ "/" ++ Nat.repr effective
          (key :: seen, failIf (key ∈ seen) ⟨field, "must not contain duplicate networks"⟩)

def trustErrors (c : SystemConfig) : ValidationErrors :=
  failIf (c.trustedNetworks.items = [])
    ⟨"trusted_networks", "must contain at least one CIDR network"⟩ ++
  eachFrom trustedNetworkErrors [] 0 c.trustedNetworks.items

end MinimalRouter.Config
