import MinimalRouter.Config.Policy
import MinimalRouter.Config.Services
import MinimalRouter.Lib.Result

namespace MinimalRouter.Config

open Goish Lib.Checks

@[irreducible] def validationErrors (env : Platform) (c : SystemConfig) : ValidationErrors :=
  systemErrors c ++
  interfaceErrors c ++
  wanErrors c ++
  lanErrors c ++
  dnsServerErrors c ++
  (if c.dhcp.enabled then validateDhcp env c else []) ++
  validateFirewall env c ++
  validateExtraLans env c ++
  (if c.wireguard.enabled then validateWireguard env c else []) ++
  validateWgClient c ++
  cloudflareErrors env c ++
  squidErrors c ++
  restrictedErrors c ++
  validateDeviceProfiles env c ++
  failIf (c.adguard.blocklistUrl ≠ "")
    ⟨"adguard.blocklist_url", "external blocklist refresh is unavailable in the hardened pilot; " ++
      "use the built-in global list"⟩ ++
  dnsErrors env c ++
  leaseHostnameErrors env c ++
  qosErrors c ++
  failIf (c.dhcp.dnsEnabled)
    ⟨"dhcp.dns_enabled", "DNS-over-HTTPS is unavailable until a packaged and verified local " ++
      "resolver is installed"⟩ ++
  wifiErrors c ++
  trustErrors c

def networkContainedIn (candidate zone : IPNet) : Bool :=
  candidate.ip.to4.isSome && zone.ip.to4.isSome && candidate.bits == 32 && zone.bits == 32 &&
    decide (zone.ones ≤ candidate.ones) && zone.contains candidate.ip

def isPrivateSiteNetwork (network : IPNet) : Bool :=
  (["10.0.0.0/8", "172.16.0.0/12", "192.168.0.0/16"].filterMap parseCidr).any fun r =>
    networkContainedIn network r.2

def clientScenarioErrors (c : SystemConfig) : ValidationErrors :=
  (match parseCidr (trim c.wgClient.address) with
    | some (.v4 _, network) => failIf (network.ones ≠ 32)
        ⟨"wg_client.address", "must be a /32 address in this appliance version"⟩
    | _ => [⟨"wg_client.address",
        "is required and must be a valid IPv4 /32 when the outbound tunnel is enabled"⟩]) ++
  each (fun i entry =>
    match parseCidr (trim entry) with
    | some (_, remote) => failIf (remote.ip.to4.isSome ∧ ¬isPrivateSiteNetwork remote)
        ⟨s!"wg_client.allowed_ips[{i}]",
          "must be contained in an RFC1918 private site network (10/8, 172.16/12, or 192.168/16)"⟩
    | none => []) c.wgClient.allowedIps.items ++
  match splitHostPort c.wgClient.endpoint with
  | some (host, _) => failIf (parseIp host = none ∧ ¬validDnsNameStrict host)
      ⟨"wg_client.endpoint", "hostname must contain valid DNS labels"⟩
  | none => []

/-- Cross-component invariants that protect management continuity rather than syntax. -/
@[irreducible] def scenarioErrors (c : SystemConfig) : ValidationErrors :=
  failIf (¬validDnsNameStrict c.system.domain)
    ⟨"system.domain", "must contain valid DNS labels (1-63 alphanumeric/hyphen characters, no " ++
      "empty labels or edge hyphens)"⟩ ++
  each (fun i rec => failIf (¬validDnsNameStrict rec.name)
    ⟨s!"dns.records[{i}].name", "must contain valid DNS labels"⟩) c.dns.records.items ++
  (if c.wgClient.enabled then clientScenarioErrors c else []) ++
  each (fun i rule => failIf (rule.enabled ∧ rule.direction = "input" ∧ rule.action = "deny")
    ⟨s!"firewall.custom_rules[{i}]", "custom input deny rules are unavailable because they can " ++
      "lock out router management; use trusted networks or feature-specific access controls"⟩)
    c.firewall.customRules.items

def migrateRouterAddress (lan : ExtraLANConfig) : ExtraLANConfig :=
  if ¬lan.enabled ∨ trim lan.routerAddress ≠ "" then lan
  else
    match parseCidr (trim lan.cidr) with
    | some (_, ⟨.v4 base, ones, bits⟩) =>
      if bits ≠ 32 ∨ ones ≥ 31 then lan
      else
        let broadcast := (Lib.Block.mk base ones).last
        if (base + 1).toNat ≥ broadcast.toNat then lan
        else { lan with routerAddress := octetsString (base + 1) ++ "/" ++ Nat.repr ones }
    | _ => lan

def migrateLegacyFields (c : SystemConfig) : SystemConfig :=
  { c with firewall :=
      { c.firewall with extraLans := c.firewall.extraLans.map migrateRouterAddress } }

def intoResult (errs : ValidationErrors) : Except String Unit :=
  if errs = [] then .ok () else .error errs.toString

def releaseRules (env : Platform) : Rules where
  validate c := intoResult (validationErrors env c)
  validateScenarioSafety c := intoResult (scenarioErrors c)
  migrateLegacyFields := migrateLegacyFields

structure Valid (env : Platform) (c : SystemConfig) : Prop where
  system : systemErrors c = []
  interfaces : interfaceErrors c = []
  wan : wanErrors c = []
  lan : lanErrors c = []
  dnsServers : dnsServerErrors c = []
  dhcp : c.dhcp.enabled = true → validateDhcp env c = []
  firewall : validateFirewall env c = []
  extraLans : validateExtraLans env c = []
  wireguard : c.wireguard.enabled = true → validateWireguard env c = []
  wgClient : validateWgClient c = []
  cloudflare : cloudflareErrors env c = []
  squid : squidErrors c = []
  restricted : restrictedErrors c = []
  profiles : validateDeviceProfiles env c = []
  dns : dnsErrors env c = []
  wifi : wifiErrors c = []
  trust : trustErrors c = []

theorem valid_of_validationErrors (h : validationErrors env c = []) : Valid env c := by
  unfold validationErrors at h
  simp only [List.append_eq_nil_iff] at h
  obtain ⟨⟨⟨⟨⟨⟨⟨⟨⟨⟨⟨⟨⟨⟨⟨⟨⟨⟨⟨⟨hsystem, hinterfaces⟩, hwan⟩, hlan⟩, hdnsServers⟩, hdhcp⟩, hfirewall⟩,
    hextra⟩, hwireguard⟩, hclient⟩, hcloudflare⟩, hsquid⟩, hrestricted⟩, hprofiles⟩, -⟩, hdns⟩, -⟩,
    -⟩, -⟩, hwifi⟩, htrust⟩ := h
  exact ⟨hsystem, hinterfaces, hwan, hlan, hdnsServers, fun he => by rwa [if_pos he] at hdhcp,
    hfirewall, hextra, fun he => by rwa [if_pos he] at hwireguard, hclient, hcloudflare, hsquid,
    hrestricted, hprofiles, hdns, hwifi, htrust⟩

structure Accepted (env : Platform) (c : SystemConfig) : Prop where
  valid : Valid env c
  safe : scenarioErrors c = []

theorem intoResult_eq_ok (h : intoResult errs = .ok u) : errs = [] := by
  unfold intoResult at h
  split at h
  · assumption
  · cases h

theorem validateLiveCandidate_eq_ok (h : validateLiveCandidate rules c previous = .ok ()) :
    rules.validate c = .ok () ∧ rules.validateScenarioSafety c = .ok () := by
  unfold validateLiveCandidate at h
  obtain ⟨_, hvalid, h⟩ := Lib.Result.bind_eq_ok.mp h
  obtain ⟨_, hsafe, -⟩ := Lib.Result.bind_eq_ok.mp h
  exact ⟨hvalid, hsafe⟩

theorem releaseRules_validate (env : Platform) (c : SystemConfig) :
    (releaseRules env).validate c = intoResult (validationErrors env c) := rfl

theorem releaseRules_validateScenarioSafety (env : Platform) (c : SystemConfig) :
    (releaseRules env).validateScenarioSafety c = intoResult (scenarioErrors c) := rfl

theorem accepted_of_live
    (h : validateLiveCandidate (releaseRules env) c previous = .ok ()) : Accepted env c := by
  obtain ⟨hvalid, hsafe⟩ := validateLiveCandidate_eq_ok h
  rw [releaseRules_validate] at hvalid
  rw [releaseRules_validateScenarioSafety] at hsafe
  exact ⟨valid_of_validationErrors (intoResult_eq_ok hvalid), intoResult_eq_ok hsafe⟩

end MinimalRouter.Config
