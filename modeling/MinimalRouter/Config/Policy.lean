import MinimalRouter.Config.Model
import MinimalRouter.Goish.Net

namespace MinimalRouter.Config

open Goish

/-- The checks that decide which configurations are well formed on their own, and the completion of
fields that older releases did not store. -/
structure Rules where
  (validate validateScenarioSafety : SystemConfig → Except String Unit)
  migrateLegacyFields : SystemConfig → SystemConfig

def parseRemoteIp (remoteAddr : String) : Option IP :=
  if remoteAddr.isEmpty then none
  else match splitHostPort remoteAddr with
    | some (host, _) => parseIp host
    | none => parseIp (trim remoteAddr)

/-- Whether a peer belongs to a trusted management network, or is the router itself. -/
def SystemConfig.isTrustedClientAddress (c : SystemConfig) (remoteAddr : String) : Bool :=
  match parseRemoteIp remoteAddr with
  | none => false
  | some ip => ip.isLoopback || c.trustedNetworks.items.any fun network =>
      match parseCidr network with
      | some (_, n) => n.contains ip
      | none => false

def equalSection {α : Type} [Marshal α] (a b : α) : Bool := equalJson a b

def requiresConfirmation (current candidate : SystemConfig) : Bool :=
  let wireguardManagementChanged :=
    (current.system.managementAccess == "wireguard_only" ||
      candidate.system.managementAccess == "wireguard_only") &&
      !equalSection current.wireguard candidate.wireguard
  let wifiChanged :=
    !equalSection current.wifi candidate.wifi && (current.wifi.enabled || candidate.wifi.enabled)
  current.lan.ipAddress != candidate.lan.ipAddress ||
    current.lan.cidr != candidate.lan.cidr ||
    current.system.managementAccess != candidate.system.managementAccess ||
    wifiChanged ||
    wireguardManagementChanged ||
    !equalSection current.wgClient candidate.wgClient ||
    !equalSection current.trustedNetworks candidate.trustedNetworks

/-- Admits only complete, valid configurations with a recoverable baseline.  No baseline is the
first-run case. -/
def validateLiveCandidate (rules : Rules) (candidate : SystemConfig)
    (previous : Option SystemConfig) : Except String Unit := do
  rules.validate candidate
  rules.validateScenarioSafety candidate
  match previous with
  | none => return ()
  | some p =>
    let label := "rollback baseline requires local configuration migration before live changes: "
    (rules.validate p).mapError (label ++ ·)
    (rules.validateScenarioSafety p).mapError (label ++ ·)

end MinimalRouter.Config
