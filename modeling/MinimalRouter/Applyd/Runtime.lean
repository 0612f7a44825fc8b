import MinimalRouter.Apply.Ipc
import MinimalRouter.Lib.Script

/-! Generating, preflighting, installing, activating, verifying and rolling back the runtime
artifacts.  The runtime is one state per subsystem; the outcome of every external command is an
input. -/

namespace MinimalRouter.Applyd

open Config Apply Lib Lib.Script

abbrev CmdResult := Except String Unit

def wrapf (label : String) (result : CmdResult) : CmdResult :=
  result.mapError fun e => label ++ ": " ++ e

/-- Diagnostics are trimmed, cut at a character boundary and kept on one line. -/
def sanitizeOutput (text : List Char) : String :=
  let cut := Utf8.within 512 (Utf8.trim text)
  let line := cut.map fun c => if c = '\r' ∨ c = '\n' then ' ' else c
  if line.isEmpty then "no diagnostic output" else String.ofList line

def safeError (e : String) : String := sanitizeOutput e.toList

inductive ArtifactName
  | pppoe | chap | pap | dnsmasq | adblock | qos | cfDdns | cfTunnel | dohProxy | hostapd
  | wireguard | wireguardRuntime | wireguardClientRuntime | squid | squidPasswd | resolvConf
  | nftables
  deriving DecidableEq

namespace ArtifactName

def label : ArtifactName → String
  | pppoe => "pppoe"
  | chap => "chap"
  | pap => "pap"
  | dnsmasq => "dnsmasq"
  | adblock => "adblock"
  | qos => "qos"
  | cfDdns => "cf-ddns"
  | cfTunnel => "cf-tunnel"
  | dohProxy => "doh-proxy"
  | hostapd => "hostapd"
  | wireguard => "wireguard"
  | wireguardRuntime => "wireguard-runtime"
  | wireguardClientRuntime => "wireguard-client-runtime"
  | squid => "squid"
  | squidPasswd => "squid-passwd"
  | resolvConf => "resolv-conf"
  | nftables => "nftables"

end ArtifactName

def restoreArtifacts : List ArtifactName :=
  [.pppoe, .chap, .pap, .dnsmasq, .adblock, .qos, .cfDdns, .cfTunnel, .dohProxy, .hostapd,
    .wireguard, .wireguardRuntime, .wireguardClientRuntime, .squid, .squidPasswd, .resolvConf,
    .nftables]

def sortedArtifacts : List ArtifactName :=
  [.adblock, .cfDdns, .cfTunnel, .chap, .dnsmasq, .dohProxy, .hostapd, .nftables, .pap, .pppoe,
    .qos, .resolvConf, .squid, .squidPasswd, .wireguard, .wireguardClientRuntime,
    .wireguardRuntime]

theorem mem_restoreArtifacts (n : ArtifactName) : n ∈ restoreArtifacts := by
  cases n <;> decide

abbrev Artifacts := ArtifactName → String

section Generate

variable (s : Services) (cfg : SystemConfig)

def wireguardClientText : Except String String :=
  if cfg.wgClient.enabled then s.wireguardClientRuntime cfg.wgClient
  else .ok "# WireGuard client disabled\n"

def adBlockText : Except String String :=
  if cfg.adguard.enabled then s.adBlockConf cfg else .ok "# AdGuard disabled\n"

def squidPasswordText (bcrypt : Except String String) : Except String String :=
  if cfg.squidProxy.enabled then bcrypt.map fun hash => cfg.squidProxy.username ++ ":" ++ hash ++ "\n"
  else .ok "# Squid authentication is disabled\n"

def generateArtifacts (bcrypt : Except String String) : Except String Artifacts := do
  let nft ← s.nftables cfg
  let pppoe ← s.pppoe cfg
  let dnsmasq ← s.dnsmasq cfg
  let hostapd ← s.hostapd cfg
  let wireguard ← s.wireguard cfg.wireguard
  let wireguardRuntime ← s.wireguardRuntime cfg.wireguard
  let wireguardClientRuntime ← wireguardClientText s cfg
  let squidConfig ← s.squidConfig cfg
  let squidPassword ← squidPasswordText cfg bcrypt
  let adblock ← adBlockText s cfg
  let qos ← s.qos cfg
  let ddns ← s.cloudflareDdns cfg
  let tunnel ← s.cloudflareTunnel cfg
  let doh ← s.dohProxy cfg
  return fun
    | .nftables => nft
    | .pppoe => pppoe.peerConfig
    | .chap => pppoe.chapSecrets
    | .pap => pppoe.papSecrets
    | .dnsmasq => dnsmasq
    | .adblock => adblock
    | .qos => qos
    | .cfDdns => ddns
    | .cfTunnel => tunnel
    | .dohProxy => doh
    | .hostapd => hostapd
    | .wireguard => wireguard
    | .wireguardRuntime => wireguardRuntime
    | .wireguardClientRuntime => wireguardClientRuntime
    | .squid => squidConfig
    | .squidPasswd => squidPassword
    | .resolvConf => "nameserver 127.0.0.1\n"

end Generate

/-- The artifacts routerd sent must equal what the helper generates itself. -/
def compareGenerated (req : ApplyRequest) (generated : Artifacts) : CmdResult :=
  let differs := [(ArtifactName.nftables, req.nftables), (.pppoe, req.pppoePeer),
    (.chap, req.pppoeSecret), (.dnsmasq, req.dnsmasq), (.hostapd, req.hostapd),
    (.wireguard, req.wireguard)].find? fun e => e.2 ≠ generated e.1
  match differs with
  | some e => .error (e.1.label ++ " differs")
  | none => .ok ()

def rejectUnimplementedFeatures (cfg : SystemConfig) : CmdResult :=
  if cfg.cloudflare.tunnelEnabled then
    .error ("Cloudflare Tunnel is unavailable because WireGuard is the only allowed " ++
      "remote-entry path")
  else if cfg.dhcp.dnsEnabled then
    .error "DNS-over-HTTPS has no verified Alpine 3.22 runtime adapter"
  else if !cfg.adguard.filterDevices.isEmpty then
    .error ("per-device DNS filtering is unsupported because dnsmasq address rules are global")
  else .ok ()

structure VerificationPlan where
  (wan wireguard extraLan wifi ddns squid wgClient : Bool := false)
  deriving DecidableEq

def verificationPlan (operation : OperationType) (previous : Option SystemConfig)
    (candidate : SystemConfig) : VerificationPlan :=
  let management :=
    candidate.wireguard.enabled && candidate.system.managementAccess == "wireguard_only"
  if operation = .reconcile ∨ operation = .commitConfirmed ∨ operation = .confirm then
    { wireguard := management }
  else
    match previous with
    | none =>
      { wan := candidate.wan.enabled
        wireguard := candidate.wireguard.enabled
        extraLan := !candidate.firewall.extraLans.isEmpty
        wifi := candidate.wifi.enabled
        ddns := candidate.cloudflare.ddnsEnabled
        squid := candidate.squidProxy.enabled
        wgClient := candidate.wgClient.enabled }
    | some previous =>
      { wan := candidate.wan.enabled && candidate.wan ≠ previous.wan
        wireguard := management || candidate.wireguard ≠ previous.wireguard
        extraLan := candidate.firewall.extraLans ≠ previous.firewall.extraLans
        wifi := candidate.wifi ≠ previous.wifi
        ddns := candidate.cloudflare ≠ previous.cloudflare
        squid := candidate.squidProxy ≠ previous.squidProxy
        wgClient := candidate.wgClient ≠ previous.wgClient }

structure PreflightEnv where
  (nftables dnsmasq pppd wireguard wgClient wifi ddns squid : CmdResult := .ok ())

def degraded (required : Bool) (label : String) (result : CmdResult) : CmdResult :=
  if required then wrapf label result else .ok ()

def preflight (env : PreflightEnv) (cfg : SystemConfig) (plan : VerificationPlan) : CmdResult := do
  wrapf "nftables" env.nftables
  wrapf "dnsmasq" env.dnsmasq
  if cfg.wan.enabled then wrapf "pppd" env.pppd
  if cfg.wireguard.enabled then degraded plan.wireguard "WireGuard" env.wireguard
  if cfg.wgClient.enabled then degraded plan.wgClient "WireGuard client" env.wgClient
  if cfg.wifi.enabled then degraded plan.wifi "Wi-Fi" env.wifi
  if cfg.cloudflare.ddnsEnabled then degraded plan.ddns "Cloudflare DDNS" env.ddns
  if cfg.squidProxy.enabled then degraded plan.squid "Squid" env.squid

/-- The result of a durable write.  A rename can succeed and the directory sync after it fail. -/
inductive WriteOutcome
  | ok
  | failed : String → WriteOutcome
  | replaced : String → WriteOutcome
  deriving DecidableEq

namespace WriteOutcome

def result : WriteOutcome → CmdResult
  | ok => .ok ()
  | failed e => .error e
  | replaced e => .error e

def done : WriteOutcome → Bool
  | failed _ => false
  | _ => true

def atomic : WriteOutcome → Bool
  | replaced _ => false
  | _ => true

theorem done_of_result {w : WriteOutcome} (h : w.result = .ok ()) : w.done = true := by
  cases w <;> simp_all [result, done]

end WriteOutcome

inductive Component
  | lan | extraLans | nftables | wg0 | wg1 | dnsmasq | pppoe | hostapd | inadyn | squid
  deriving DecidableEq

/-- What a subsystem was last started from: the configuration the commands were given and the
contents of the files they read. -/
structure Active where
  config : SystemConfig
  files : ArtifactName → Option String

abbrev Runtime := Component → Option Active

abbrev ArtifactWrite := ArtifactName × Option String

abbrev Cmd := Command Component (Option Active) ArtifactWrite String

def wireguardMtu (cfg : SystemConfig) : Int := max 576 (min 1420 (cfg.wan.mtu - 80))

namespace Component

def artifacts : Component → List ArtifactName
  | lan => []
  | extraLans => []
  | nftables => [.nftables]
  | wg0 => [.wireguardRuntime]
  | wg1 => [.wireguardClientRuntime]
  | dnsmasq => [.dnsmasq, .adblock]
  | pppoe => [.pppoe, .chap, .pap]
  | hostapd => [.hostapd]
  | inadyn => [.cfDdns]
  | squid => [.squid]

def enabled : Component → SystemConfig → Bool
  | wg0, c => c.wireguard.enabled
  | wg1, c => c.wgClient.enabled
  | pppoe, c => c.wan.enabled
  | hostapd, c => c.wifi.enabled
  | inadyn, c => c.cloudflare.ddnsEnabled
  | squid, c => c.squidProxy.enabled
  | _, _ => true

def sameArguments : Component → SystemConfig → SystemConfig → Bool
  | lan, a, b => a.wifi.enabled = b.wifi.enabled ∧ a.lan.interface = b.lan.interface ∧
      a.lan.cidr = b.lan.cidr
  | extraLans, a, b => a.firewall.extraLans = b.firewall.extraLans
  | wg0, a, b => a.wireguard = b.wireguard ∧ wireguardMtu a = wireguardMtu b
  | wg1, a, b => a.wgClient = b.wgClient ∧ wireguardMtu a = wireguardMtu b
  | squid, a, b => a.squidProxy = b.squidProxy
  | _, _, _ => true

@[simp] theorem sameArguments_self (k : Component) (c : SystemConfig) :
    k.sameArguments c c = true := by
  cases k <;> simp [sameArguments]

def reflects (k : Component) (cfg : SystemConfig) (generated : Artifacts) : Option Active → Bool
  | none => false
  | some a =>
    k.enabled a.config == k.enabled cfg && (!k.enabled cfg ||
      (k.sameArguments a.config cfg && k.artifacts.all fun n => a.files n = some (generated n)))

end Component

/-- The outcomes of the commands that install and activate a configuration, and what the failing
ones leave behind. -/
structure ActivateEnv where
  leaseState : CmdResult := .ok ()
  artifactWrite : ArtifactName → WriteOutcome := fun _ => .ok
  (secureDdns secureSquid hardening stopHostapd lan retainLan extraLans cleanExtraLans nftables
    forwarding wireguard wireguardClient dnsmasq pppoe hostapd inadyn squid : CmdResult := .ok ())
  left : Runtime := fun _ => none

def Cmd.plain (onError : OnError) (result : CmdResult) : Cmd := { onError, outcome := result }

def Cmd.start (onError : OnError) (result : CmdResult) (left : Runtime) (k : Component)
    (active : Option Active) : Cmd where
  onError := onError
  outcome := result
  sets := some (k, match result with
    | .ok _ => active
    | .error _ => left k)

def Cmd.install (onError : OnError) (label : String) (w : WriteOutcome) (n : ArtifactName)
    (data : Option String) : Cmd where
  onError := onError
  outcome := wrapf label w.result
  writes := if w.done then [(n, data)] else []

/-- Which subsystems a change concerns, judged against the last-good configuration. -/
structure ChangeFlags where
  (wifi wan wg wgClient ddns squid extraLan dnsmasq : Bool)
  deriving DecidableEq

def dnsmasqArtifactsChanged (s : Services) (generated : Artifacts)
    (previous : Option SystemConfig) : Except String Bool :=
  match previous with
  | none => .ok true
  | some p => do
    let dnsmasq ← (s.dnsmasq p).mapError ("generate previous dnsmasq configuration: " ++ ·)
    let adblock ← (adBlockText s p).mapError ("generate previous DNS filter configuration: " ++ ·)
    return generated .dnsmasq != dnsmasq || generated .adblock != adblock

def changeFlags (cfg : SystemConfig) (previous : Option SystemConfig) (dnsmasq : Bool) :
    ChangeFlags :=
  match previous with
  | none => ⟨true, true, true, true, true, true, true, dnsmasq⟩
  | some p =>
    { wifi := cfg.wifi ≠ p.wifi
      wan := cfg.wan ≠ p.wan
      wg := cfg.wireguard ≠ p.wireguard
      wgClient := cfg.wgClient ≠ p.wgClient
      ddns := cfg.cloudflare ≠ p.cloudflare
      squid := cfg.squidProxy ≠ p.squidProxy
      extraLan := cfg.firewall.extraLans ≠ p.firewall.extraLans
      dnsmasq }

section Install

variable (env : ActivateEnv) (cfg : SystemConfig) (generated : Artifacts)
  (previous : Option SystemConfig)

def installArtifacts : List Cmd :=
  (restoreArtifacts.map fun n =>
    Cmd.install .abort ("install " ++ n.label) (env.artifactWrite n) n (some (generated n))) ++
  (if cfg.cloudflare.ddnsEnabled then [Cmd.plain .abort (wrapf "secure DDNS state" env.secureDdns)]
    else []) ++
  (if cfg.squidProxy.enabled then [Cmd.plain .abort env.secureSquid] else [])

def candidateActive : Active := ⟨cfg, fun n => some (generated n)⟩

/-- A provisional change keeps the previous LAN address next to the new one. -/
def configureLan (provisional : Bool) : List Cmd :=
  if provisional then
    match previous with
    | none => [Cmd.plain .abort (.error "provisional apply requires a previous configuration")]
    | some p =>
      if cfg.lan.interface ≠ p.lan.interface then
        [Cmd.plain .abort (.error "LAN interface changes cannot be provisionally applied")]
      else
        Cmd.start .abort env.lan env.left .lan (candidateActive cfg generated) ::
          (if p.lan.cidr ≠ cfg.lan.cidr then
            [Cmd.plain .abort (wrapf "retain previous LAN address" env.retainLan)] else [])
  else [Cmd.start .abort env.lan env.left .lan (candidateActive cfg generated)]

/-- A subsystem that is only touched when its flag is set.  A running service is restarted and the
failure reported; the failure to stop a disabled one is ignored. -/
def serviceCommands (changed enabled : Bool) (label : String) (result : CmdResult)
    (k : Component) : List Cmd :=
  if changed then
    if enabled then
      [Cmd.start .abort (wrapf label result) env.left k (candidateActive cfg generated)]
    else [Cmd.start .ignore result env.left k (candidateActive cfg generated)]
  else []

def installScript (provisional : Bool) (changed : ChangeFlags) : List Cmd :=
  let active := some (candidateActive cfg generated)
  [Cmd.plain .abort (wrapf "prepare DHCP lease state" env.leaseState)] ++
  installArtifacts env cfg generated ++
  [Cmd.plain .abort env.hardening] ++
  -- A running access point owns the bridge membership: it is stopped before LAN changes.
  (if changed.wifi then [Cmd.start .ignore env.stopHostapd env.left .hostapd none] else []) ++
  configureLan env cfg generated previous provisional ++
  (if changed.extraLan then
    Cmd.start .abort env.extraLans env.left .extraLans active ::
      (if previous.isSome then [Cmd.plain .abort env.cleanExtraLans] else []) else []) ++
  [Cmd.start .abort (wrapf "load nftables" env.nftables) env.left .nftables active,
    Cmd.plain .abort env.forwarding] ++
  (if changed.wg then [Cmd.start .abort env.wireguard env.left .wg0 active] else []) ++
  (if changed.wgClient then [Cmd.start .abort env.wireguardClient env.left .wg1 active] else []) ++
  (if changed.dnsmasq then
    [Cmd.start .abort (wrapf "restart dnsmasq" env.dnsmasq) env.left .dnsmasq active] else []) ++
  serviceCommands env cfg generated changed.wan cfg.wan.enabled "restart PPPoE" env.pppoe .pppoe ++
  serviceCommands env cfg generated changed.wifi cfg.wifi.enabled "restart hostapd" env.hostapd
    .hostapd ++
  serviceCommands env cfg generated changed.ddns cfg.cloudflare.ddnsEnabled
    "restart Cloudflare DDNS" env.inadyn .inadyn ++
  -- Unlike the services above, Squid is stopped with a check.
  (if changed.squid then
    [Cmd.start .abort
      (wrapf (if cfg.squidProxy.enabled then "restart Squid" else "stop Squid") env.squid)
      env.left .squid active] else [])

def installAndActivate (s : Services) (provisional : Bool) (rt : Runtime) :
    Report Component (Option Active) ArtifactWrite String :=
  match dnsmasqArtifactsChanged s generated previous with
  | .error e => ⟨rt, [], [], some e⟩
  | .ok dnsmasq =>
    Script.run (installScript env cfg generated previous provisional
      (changeFlags cfg previous dnsmasq)) rt

end Install

structure VerifyEnv where
  (nftables dnsmasq lan wan wireguard wgClient extraLan wifi ddns squid : CmdResult := .ok ())

def verifyActive (env : VerifyEnv) (cfg : SystemConfig) (plan : VerificationPlan) : CmdResult := do
  wrapf "nftables table unavailable" env.nftables
  wrapf "dnsmasq unhealthy" env.dnsmasq
  env.lan
  if cfg.wan.enabled && plan.wan then env.wan
  if cfg.wireguard.enabled && plan.wireguard then env.wireguard
  if cfg.wgClient.enabled && plan.wgClient then env.wgClient
  if plan.extraLan && cfg.firewall.extraLans.items.any (fun l =>
    l.enabled && !l.interface.isEmpty && !l.routerAddress.isEmpty) then env.extraLan
  if cfg.wifi.enabled && plan.wifi then env.wifi
  if cfg.cloudflare.ddnsEnabled && plan.ddns then
    wrapf "Cloudflare DDNS unhealthy" env.ddns
  if cfg.squidProxy.enabled && plan.squid then env.squid

/-- Only changes that can affect Internet or DNS reachability get the probe. -/
def requiresFunctionalDnsVerification (previous : Option SystemConfig) (candidate : SystemConfig) :
    Bool :=
  if !candidate.wan.enabled then false
  else
    match previous with
    | none => true
    | some p =>
      p.wan ≠ candidate.wan || p.dhcp.dnsServers ≠ candidate.dhcp.dnsServers ||
        p.adguard ≠ candidate.adguard || p.system.domain ≠ candidate.system.domain

def requiresDdnsVerification (previous : Option SystemConfig) (candidate : SystemConfig) : Bool :=
  if !candidate.wan.enabled || !candidate.cloudflare.ddnsEnabled then false
  else
    match previous with
    | none => true
    | some p => p.cloudflare ≠ candidate.cloudflare

def wireguardInterfaceName (cfg : WireGuardConfig) : String :=
  if cfg.interface.isEmpty then "wg0" else cfg.interface

def wireguardClientInterfaceName (cfg : WGClientConfig) : String :=
  if cfg.interface.isEmpty then "wg1" else cfg.interface

def tunnelInterfaces (cfg : SystemConfig) : List String :=
  (if cfg.wireguard.enabled then [wireguardInterfaceName cfg.wireguard] else []) ++
    (if cfg.wgClient.enabled then [wireguardClientInterfaceName cfg.wgClient] else [])

def rollbackWireguardCleanupInterfaces (previous : Option SystemConfig) (candidate : SystemConfig) :
    List String :=
  let keep := (previous.map tunnelInterfaces).getD []
  ((tunnelInterfaces candidate).filter fun i => i ∉ keep).eraseDups

def firstRunConfig (now : Goish.Time) : SystemConfig :=
  let cfg := defaultConfig now
  { cfg with
    wan := { cfg.wan with enabled := false }
    wireguard := { cfg.wireguard with enabled := false }
    wgClient := { cfg.wgClient with enabled := false }
    wifi := { cfg.wifi with enabled := false }
    cloudflare := { cfg.cloudflare with ddnsEnabled := false, tunnelEnabled := false }
    squidProxy := { cfg.squidProxy with enabled := false }
    qos := { cfg.qos with enabled := false }
    firewall := { cfg.firewall with extraLans := .nil } }

structure FirstRunEnv where
  now : Goish.Reading := ⟨0, 0, 0⟩
  candidates : CmdResult := .ok ()
  artifactWrite : ArtifactName → WriteOutcome := fun _ => .ok
  (leaseState hardening forwarding : CmdResult := .ok ())
  stopService : Component → CmdResult := fun _ => .ok ()
  (lan nftables dnsmasq verify : CmdResult := .ok ())
  left : Runtime := fun _ => none

def firstRunScript (env : FirstRunEnv) (cfg : SystemConfig) (generated : Artifacts) : List Cmd :=
  let active := some (candidateActive cfg generated)
  [Cmd.plain .abort env.candidates] ++
  ([ArtifactName.dnsmasq, .adblock, .resolvConf, .nftables].map fun n =>
    Cmd.install .abort ("install first-run " ++ n.label) (env.artifactWrite n) n
      (some (generated n))) ++
  [Cmd.plain .abort (wrapf "prepare first-run DHCP lease state" env.leaseState),
    Cmd.plain .abort env.hardening,
    Cmd.plain .abort (wrapf "disable first-run forwarding" env.forwarding)] ++
  ([Component.pppoe, .wg0, .wg1, .hostapd, .inadyn, .squid].map fun k =>
    Cmd.start .ignore (env.stopService k) env.left k active) ++
  [Cmd.start .abort (wrapf "configure first-run LAN" env.lan) env.left .lan active,
    Cmd.start .abort (wrapf "load first-run nftables" env.nftables) env.left .nftables active,
    Cmd.start .abort (wrapf "start first-run dnsmasq" env.dnsmasq) env.left .dnsmasq active,
    Cmd.plain .abort env.verify]

def restoreFirstRunRuntime (s : Services) (env : FirstRunEnv) (rt : Runtime) :
    Report Component (Option Active) ArtifactWrite String :=
  let cfg := firstRunConfig env.now.now
  match generateArtifacts s cfg (.ok "") with
  | .error e => ⟨rt, [], [], some ("generate first-run artifacts: " ++ e)⟩
  | .ok generated => Script.run (firstRunScript env cfg generated) rt

structure RollbackEnv where
  restore : ArtifactName → WriteOutcome := fun _ => .ok
  (secureSquid hardening stopHostapd lan extraLans cleanExtraLans : CmdResult := .ok ())
  removeTunnel : String → CmdResult := fun _ => .ok ()
  (nftables enableForwarding disableForwarding deleteTable wireguard dnsmasq pppoe
    wireguardClient hostapd secureDdns inadyn squid : CmdResult := .ok ())
  left : Runtime := fun _ => none
  verify : VerifyEnv := {}
  firstRun : FirstRunEnv := {}

section Rollback

variable (env : RollbackEnv) (previous : Option SystemConfig) (candidate : SystemConfig)
  (files : ArtifactName → Option String)

def rollbackActive : Option Active := previous.map fun prev => ⟨prev, files⟩

def restoreFiles : List Cmd :=
  sortedArtifacts.map fun n =>
    { Cmd.install .collect "" (env.restore n) n (files n) with
      outcome := (env.restore n).result.mapError safeError }

def collected (result : CmdResult) : CmdResult := result.mapError safeError

def restoreCore : List Cmd :=
  match previous with
  | none => []
  | some prev =>
    let active := rollbackActive previous files
    (if prev.squidProxy.enabled then [Cmd.plain .collect (collected env.secureSquid)] else []) ++
    [Cmd.plain .collect (collected env.hardening),
      Cmd.start .ignore env.stopHostapd env.left .hostapd none,
      Cmd.start .collect (collected env.lan) env.left .lan active,
      Cmd.start .ignore env.extraLans env.left .extraLans active,
      Cmd.plain .collect (collected env.cleanExtraLans)]

def restorePolicy : List Cmd :=
  if (files .nftables).isSome then
    Cmd.start .collect (collected env.nftables) env.left .nftables (rollbackActive previous files) ::
      (match env.nftables with
      | .ok _ => [Cmd.plain .collect (collected env.enableForwarding)]
      | .error _ => [])
  else
    -- Without a previous policy routing goes down before the table is removed.
    [Cmd.plain .collect (collected env.disableForwarding),
      Cmd.start .collect (match env.deleteTable with
        | .ok _ => .ok ()
        | .error _ => .error "candidate nftables table remained active") env.left .nftables none]

def restoreServices : List Cmd :=
  let active := rollbackActive previous files
  (match previous with
  | some prev =>
    [Cmd.start (if prev.system.managementAccess == "wireguard_only" then .collect else .ignore)
        (collected env.wireguard) env.left .wg0 active,
      Cmd.start .collect (collected env.dnsmasq) env.left .dnsmasq active]
  | none => [Cmd.start .ignore env.dnsmasq env.left .dnsmasq none]) ++
  [Cmd.start .ignore env.pppoe env.left .pppoe active] ++
  (match previous with
  | some _ => [Cmd.start .ignore env.wireguardClient env.left .wg1 active]
  | none => [Cmd.start .ignore env.wireguard env.left .wg0 none,
      Cmd.start .ignore env.wireguardClient env.left .wg1 none]) ++
  [Cmd.start .ignore env.hostapd env.left .hostapd active,
    Cmd.start .ignore env.inadyn env.left .inadyn
      (match previous, env.secureDdns with
      | some prev, .error _ => if prev.cloudflare.ddnsEnabled then none else active
      | _, _ => active)] ++
  (if previous.any fun p => p.squidProxy.enabled then
    [Cmd.start .ignore env.squid env.left .squid active]
  else [Cmd.start .abort (wrapf "stop Squid during rollback" env.squid) env.left .squid active])

def rollbackScript : List Cmd :=
  restoreFiles env files ++ restoreCore env previous files ++
  ((rollbackWireguardCleanupInterfaces previous candidate).map fun iface =>
    Cmd.plain .collect ((env.removeTunnel iface).mapError fun e =>
      "remove failed candidate WireGuard interface " ++ iface ++ ": " ++ safeError e)) ++
  restorePolicy env previous files ++ restoreServices env previous files

def rollbackRuntime (s : Services) (rt : Runtime) : Runtime × List ArtifactWrite × CmdResult :=
  let r := Script.run (rollbackScript env previous candidate files) rt
  match r.aborted with
  | some e => (r.state, r.writes, .error e)
  | none =>
    if r.errors ≠ [] then (r.state, r.writes, .error ("; ".intercalate r.errors))
    else
      match previous with
      | some prev =>
        -- Structural verification only: an outage of an optional service is no recovery case.
        (r.state, r.writes, verifyActive env.verify prev (verificationPlan .reconcile none prev))
      | none =>
        let f := restoreFirstRunRuntime s env.firstRun r.state
        (f.state, r.writes ++ f.writes, match f.aborted with
          | some e => .error e
          | none => .ok ())

end Rollback

end MinimalRouter.Applyd
