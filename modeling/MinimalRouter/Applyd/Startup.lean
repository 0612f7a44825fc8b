import MinimalRouter.Applyd.Process

namespace MinimalRouter.Applyd

open Goish Config Apply Lib Lib.Script

variable {F : Type} [DecidableEq F]

structure StartupEnv where
  (lastGoodRead pendingInspect : CmdResult := .ok ())
  bcrypt : Except String String := .ok ""
  candidates : CmdResult := .ok ()
  preflight : PreflightEnv := {}
  leaseState : CmdResult := .ok ()
  artifactWrite : ArtifactName → WriteOutcome := fun _ => .ok
  hardening : CmdResult := .ok ()
  service : Component → CmdResult := fun _ => .ok ()
  (forwarding verify : CmdResult := .ok ())
  left : Runtime := fun _ => none
  firstRun : FirstRunEnv := {}
  pendingClear : WriteOutcome := .ok

def preflightStartup (env : PreflightEnv) (cfg : SystemConfig) : CmdResult := do
  wrapf "nftables" env.nftables
  wrapf "dnsmasq" env.dnsmasq
  if cfg.wan.enabled then wrapf "pppd" env.pppd
  if cfg.wireguard.enabled && cfg.system.managementAccess == "wireguard_only" then
    wrapf "management WireGuard" env.wireguard

/-- Everything is restarted from last-good; optional services may stay degraded. -/
def startupScript (env : StartupEnv) (cfg : SystemConfig) (generated : Artifacts) : List Cmd :=
  let active := some (candidateActive cfg generated)
  let start := fun onError label k =>
    Cmd.start onError (wrapf label (env.service k)) env.left k active
  [Cmd.plain .abort (wrapf "write startup candidates" env.candidates),
    Cmd.plain .abort (wrapf "preflight last-good runtime" (preflightStartup env.preflight cfg)),
    Cmd.plain .abort (wrapf "prepare startup DHCP lease state" env.leaseState)] ++
  (restoreArtifacts.map fun n =>
    Cmd.install .abort ("install startup " ++ n.label) (env.artifactWrite n) n
      (some (generated n))) ++
  [Cmd.plain .abort env.hardening,
    Cmd.start .abort (env.service .lan) env.left .lan active,
    Cmd.start .ignore (env.service .extraLans) env.left .extraLans active,
    start .abort "load startup nftables" .nftables,
    Cmd.plain .abort env.forwarding,
    start (if cfg.system.managementAccess == "wireguard_only" then .abort else .ignore)
      "restore startup management WireGuard" .wg0,
    start .abort "restart startup dnsmasq" .dnsmasq,
    Cmd.start .ignore (env.service .pppoe) env.left .pppoe active,
    Cmd.start .ignore (env.service .wg1) env.left .wg1 active,
    Cmd.start .ignore (env.service .hostapd) env.left .hostapd active,
    Cmd.start .ignore (env.service .inadyn) env.left .inadyn active,
    Cmd.start .ignore (env.service .squid) env.left .squid active,
    Cmd.plain .abort env.verify]

def restoreLastGoodRuntime (s : Services) (env : StartupEnv) (cfg : SystemConfig) (rt : Runtime) :
    Report Component (Option Active) ArtifactWrite String :=
  match generateArtifacts s cfg env.bcrypt with
  | .error e => ⟨rt, [], [], some ("generate last-good artifacts: " ++ e)⟩
  | .ok generated => Script.run (startupScript env cfg generated) rt

def loadLastGood (rules : Rules) (read : CmdResult) (d : Disk F) : Loaded SystemConfig :=
  (loadLastGoodRaw rules read d).validated rules.validate

structure Started (F : Type) where
  result : CmdResult
  effects : List (Effect F)
  helper : Helper F

section Startup

variable (a : Appliance F) (env : StartupEnv) (h : Helper F)

def finishStartup (label restore : String) (clear : Bool)
    (report : Report Component (Option Active) ArtifactWrite String) : Started F :=
  let written := artifactEffects report.writes
  let ended := fun result effects =>
    ⟨result, effects, ⟨h.disk.applyAll effects, none, report.state⟩⟩
  match report.aborted with
  | some e => ended (.error (restore ++ ": " ++ e)) written
  | none =>
    if clear then
      let (cleared, removed) := clearPendingConfirmation env.pendingClear
      ended (wrapf label cleared) (written ++ removed)
    else ended (.ok ()) written

def reconcileStartup : Started F :=
  let stop := fun e => ⟨.error e, [], { h with memory := none }⟩
  match loadLastGood a.rules env.lastGoodRead h.disk with
  | .unreadable e => stop ("load last-good configuration: " ++ e)
  | .notFound =>
    match env.pendingInspect with
    | .error e => stop ("inspect pending confirmation: " ++ e)
    | .ok _ => finishStartup env h "clear provisional first-run state" "restore first-run runtime"
        h.disk.pending.isSome (restoreFirstRunRuntime a.services env.firstRun h.runtime)
  | .found cfg =>
    match a.rules.validate cfg with
    | .error e => stop ("last-good configuration is invalid: " ++ e)
    | .ok _ =>
      match a.rules.validateScenarioSafety cfg with
      | .error e => stop ("last-good scenario safety is invalid: " ++ e)
      | .ok _ => finishStartup env h "clear stale pending confirmation" "restore confirmed runtime"
          true (restoreLastGoodRuntime a.services env cfg h.runtime)

end Startup

end MinimalRouter.Applyd
