import MinimalRouter.Apply.Canon
import MinimalRouter.Config.Facts

namespace MinimalRouter.Apply

open Goish Config Lib Lib.Prog Lib.Result

def ipv4Identity (value : String) : String := ((parseIpv4 value).map octetsString).getD value

def macIdentity (value : String) : String :=
  match parseMac value with
  | some mac => if mac.length = 6 then macString mac else value
  | none => value

structure DHCPLease where
  (mac ipAddress : String)

structure DHCPLeaseSnapshot where
  (available truncated : Bool)
  rejectedEntries : Int
  leases : List DHCPLease

def changedByIp (current candidate : SystemConfig) (ip : String) : Option String :=
  let unchanged := fun (r : StaticLease) =>
    (current.dhcp.staticLeases.items.reverse.find? (·.id == r.id)).any fun previous =>
      ipv4Identity previous.ipAddress == ipv4Identity r.ipAddress &&
        macIdentity previous.mac == macIdentity r.mac
  (candidate.dhcp.staticLeases.items.reverse.find? fun r =>
    !unchanged r && ipv4Identity r.ipAddress == ip).map (macIdentity ·.mac)

def collision (current candidate : SystemConfig) (lease : DHCPLease) : Option String :=
  let currentGateway := ipv4Identity current.lan.ipAddress
  let candidateGateway := ipv4Identity candidate.lan.ipAddress
  let leaseIp := ipv4Identity lease.ipAddress
  if candidateGateway ≠ currentGateway ∧ candidateGateway = leaseIp then
    some ("new LAN gateway is currently leased to " ++ lease.mac)
  else if (changedByIp current candidate leaseIp).any (· != macIdentity lease.mac) then
    some ("reserved address " ++ lease.ipAddress ++ " is currently leased to " ++ lease.mac)
  else none

def inspectLanObservation (current candidate : SystemConfig) (snapshot : DHCPLeaseSnapshot) :
    Except String (List String) :=
  match snapshot.leases.findSome? (collision current candidate) with
  | some e => .error e
  | none =>
    if !snapshot.available || snapshot.truncated || snapshot.rejectedEntries > 0 then
      .ok ["DHCP observation is unavailable or incomplete; check for address conflicts before " ++
        "applying."]
    else .ok ["Only known DHCP collisions were checked. Manually configured devices may not be " ++
      "observed."]

def inspectLanChange (snapshot : DHCPLeaseSnapshot) (current candidate : SystemConfig) :
    Except String (List String) :=
  if current.lan.ipAddress == candidate.lan.ipAddress &&
      equalSection current.dhcp.staticLeases candidate.dhcp.staticLeases then .ok []
  else inspectLanObservation current candidate snapshot

structure ChangePreview where
  changes : List String
  risk : String
  requiresConfirmation : Bool
  rollbackSeconds : Int
  expectedInterruption : String
  networkWarnings : List String

def changedSections (c n : SystemConfig) : List String :=
  let sections : List (String × Bool) := [
    ("System / management", equalSection c.system n.system),
    ("WAN / PPPoE", equalSection c.wan n.wan), ("LAN", equalSection c.lan n.lan),
    ("DHCP / DNS", equalSection c.dhcp n.dhcp && equalSection c.dns n.dns),
    ("Firewall", equalSection c.firewall n.firewall),
    ("WireGuard", equalSection c.wireguard n.wireguard && equalSection c.wgClient n.wgClient),
    ("Dynamic DNS / tunnel", equalSection c.cloudflare n.cloudflare),
    ("Squid proxy", equalSection c.squidProxy n.squidProxy),
    ("DNS filtering / device profiles", equalSection c.adguard n.adguard),
    ("QoS", equalSection c.qos n.qos),
    ("Traffic accounting", equalSection c.accounting n.accounting),
    ("Wi-Fi", equalSection c.wifi n.wifi),
    ("Trusted management networks", equalSection c.trustedNetworks n.trustedNetworks)]
  (sections.filter (!·.2)).map (·.1)

def describe (current candidate : SystemConfig) (networkWarnings : List String) : ChangePreview :=
  let changes := changedSections current candidate
  let confirmation := requiresConfirmation current candidate
  { changes, networkWarnings
    risk := if confirmation then "high"
      else if changes.any ["WAN / PPPoE", "Firewall", "WireGuard", "DHCP / DNS", "QoS"].contains
        then "medium" else "low"
    requiresConfirmation := confirmation
    rollbackSeconds := if confirmation then confirmationTimeout / 1000000000 else 0
    expectedInterruption := if changes.isEmpty then "No effective configuration changes detected."
      else if confirmation then
        "Management connectivity may change. The candidate is provisional until confirmed."
      else "No management interruption expected. Affected services may restart briefly." }

variable (p : Plane) (snapshot : DHCPLeaseSnapshot)

def previewTransition (current candidate : SystemConfig) : Except String ChangePreview :=
  if candidate.revision ≠ current.revision then
    .error ("stale revision: expected " ++ toString current.revision ++ ", received " ++
      toString candidate.revision)
  else if candidate.lan.interface ≠ current.lan.interface then
    .error "live LAN interface changes are unsupported; use the local recovery console"
  else if !p.sameIpv4Network current.lan.cidr candidate.lan.cidr then
    .error "live LAN subnet changes are unsupported; use the local recovery console"
  else if candidate.system.httpsPort ≠ current.system.httpsPort then
    .error "live management-port changes are unsupported"
  else if candidate.system.managementAccess == "wireguard_only" &&
      current.system.managementAccess != "wireguard_only" && !current.wireguard.enabled then
    .error ("enable and verify WireGuard in a separate transaction before restricting " ++
      "management access")
  else do
    (validateLiveCandidate p.rules candidate (some current)).mapError ("validation failed: " ++ ·)
    (p.validateTransitionSafety current candidate).mapError
      ("transition safety validation failed: " ++ ·)
    let networkWarnings ← inspectLanChange snapshot current candidate
    return describe current candidate networkWarnings

variable {p snapshot}

/-- The preview makes the checks of the engine, the last two in the other order. -/
theorem previewTransition_eq_ok (hrecovery : st.recoveryRequired = false)
    (hfree : st.pending = none) :
    previewTransition p snapshot st.currentConfig candidate = .ok preview ↔
      admitTransaction p st candidate false = .ok () ∧
      p.validateTransitionSafety st.currentConfig candidate = .ok () ∧
      ∃ warnings, inspectLanChange snapshot st.currentConfig candidate = .ok warnings ∧
        preview = describe st.currentConfig candidate warnings := by
  unfold previewTransition admitTransaction
  simp only [hrecovery, hfree, Option.isSome_none, Bool.false_eq_true, if_false, Bool.not_false,
    Bool.true_and, bne_iff_ne]
  split_ifs
  all_goals try simp only [false_and]
  simp only [bind_eq_ok, mapError_eq_ok]
  cases validateLiveCandidate p.rules candidate (some st.currentConfig) with
  | error => simp
  | ok =>
    cases p.validateTransitionSafety st.currentConfig candidate with
    | error => simp
    | ok => simp [pure, Except.pure, eq_comm]

abbrev Log := List (Σ q : Query, q.Answer)

/-- The engine looks at the clock once: when it has made its checks and plans the change. -/
def ReachesPlanned (log : Log) : Prop := ∃ reading : Reading, ⟨.now, reading⟩ ∈ log

def Observes (snapshot : DHCPLeaseSnapshot) (current candidate : SystemConfig) (log : Log) : Prop :=
  ∀ answer : Except String Unit, ⟨.inspectLanChange current candidate, answer⟩ ∈ log →
    answer = (inspectLanChange snapshot current candidate).map fun _ => ()

theorem planned_of_planTransaction (hrevision : st.currentConfig.revision + 1 < 2 ^ 63) :
    (planTransaction p st tx candidate false).wp (record Query Query.Answer)
      (fun r log => Observes snapshot st.currentConfig candidate log →
        (ReachesPlanned log ↔ admitTransaction p st candidate false = .ok () ∧
          p.validateTransitionSafety st.currentConfig candidate = .ok () ∧
          ∃ warnings, inspectLanChange snapshot st.currentConfig candidate = .ok warnings) ∧
        ∀ planned request, r = .ok (planned, request) → ∃ updatedAt, planned.config =
          { candidate with revision := st.currentConfig.revision + 1, updatedAt }) [] := by
  unfold planTransaction
  cases admitTransaction p st candidate false with
  | error => simp [ReachesPlanned]
  | ok =>
  simp only [inspectTransaction, Bool.false_eq_true, if_false, Prog.bind, wp_record_ask]
  intro answer
  cases answer with
  | error =>
    intro hobserves
    have hinspect := hobserves _ (.head _)
    cases h : inspectLanChange snapshot st.currentConfig candidate with
    | error => simp [ReachesPlanned]
    | ok => simp [h, Except.map] at hinspect
  | ok =>
  cases p.validateTransitionSafety st.currentConfig candidate with
  | error => simp [Prog.bind, ReachesPlanned]
  | ok =>
  simp only [Result.mapError_ok, Prog.bind, nextRevision, if_pos hrevision, wp_record_ask, true_and]
  intro reading
  have hplanned : ∀ log : Log, ⟨.inspectLanChange st.currentConfig candidate, .ok ()⟩ ∈ log →
      ⟨.now, reading⟩ ∈ log → Observes snapshot st.currentConfig candidate log →
      (ReachesPlanned log ↔
        ∃ warnings, inspectLanChange snapshot st.currentConfig candidate = .ok warnings) := by
    intro log hinspect hnow hobserves
    have hanswer := hobserves _ hinspect
    cases h : inspectLanChange snapshot st.currentConfig candidate with
    | error => simp [h, Except.map] at hanswer
    | ok warnings => exact ⟨fun _ => ⟨warnings, rfl⟩, fun _ => ⟨reading, hnow⟩⟩
  cases buildApplyRequest p.services tx.id _ with
  | error => exact fun hobserves => ⟨hplanned _ (by simp) (by simp) hobserves, by simp⟩
  | ok =>
    unfold createSnapshot
    cases p.hasStore with
    | false => exact fun hobserves => ⟨hplanned _ (by simp) (by simp) hobserves, by simp⟩
    | true =>
      simp only [if_true, Prog.bind, wp_record_ask]
      intro answer
      cases answer with
      | error | ok => exact fun hobserves => ⟨hplanned _ (by simp) (by simp) hobserves, by simp⟩

/-- A change that can be applied at all is previewed exactly when the engine comes to plan it, and
the preview asks for a confirmation exactly when the engine does. -/
theorem preview_faithful {log : Log} {r : Except (Transaction × String) (Transaction × ApplyRequest)}
    (hrecovery : st.recoveryRequired = false) (hfree : st.pending = none)
    (hrevision : st.currentConfig.revision < 2 ^ 63 - 1)
    (hrun : Runs (record Query Query.Answer) (planTransaction p st tx candidate false) [] r log)
    (hobserves : Observes snapshot st.currentConfig candidate log) :
    ((∃ preview, previewTransition p snapshot st.currentConfig candidate = .ok preview) ↔
        ReachesPlanned log) ∧
      ∀ preview, previewTransition p snapshot st.currentConfig candidate = .ok preview →
        (∀ revision updatedAt, requireConfirmation st { candidate with revision, updatedAt } false =
          preview.requiresConfirmation) ∧ ∀ planned request, r = .ok (planned, request) →
          (candidateRequest p st request planned.config false).requireConfirmation =
            preview.requiresConfirmation := by
  obtain ⟨hplanned, hconfig⟩ := wp_sound
    (planned_of_planTransaction (Nat.add_lt_of_lt_sub hrevision)) hrun hobserves
  simp only [previewTransition_eq_ok hrecovery hfree]
  refine ⟨?_, ?_⟩
  · rw [hplanned]
    exact ⟨fun ⟨_, haccepted, hsafe, warnings, hwarnings, _⟩ => ⟨haccepted, hsafe, warnings, hwarnings⟩,
      fun ⟨haccepted, hsafe, warnings, hwarnings⟩ => ⟨_, haccepted, hsafe, warnings, hwarnings, rfl⟩⟩
  rintro preview ⟨-, -, warnings, -, rfl⟩
  refine ⟨fun _ _ => rfl, fun planned request hr => ?_⟩
  obtain ⟨updatedAt, hcfg⟩ := hconfig planned request hr
  rw [hcfg]
  rfl

def checkedPlane : Plane :=
  { Plane.plain with
    rules := releaseRules samplePlatform
    sameIpv4Network := fun a b => decide ((parseCidr a).map (·.2) = (parseCidr b).map (·.2)) }

def leased : DHCPLeaseSnapshot := ⟨true, false, 0, [⟨"02:00:00:00:00:01", "192.168.1.120"⟩]⟩

def sampleEngine : EngineState := { currentConfig := sampleConfig }

def movedGateway : SystemConfig := movedTo "192.168.1.2"

def gatewayMove : Exchange (Except (Transaction × String) (Transaction × ApplyRequest)) :=
  planTransaction checkedPlane sampleEngine
    { id := "tx-1", config := movedGateway, createdAt := ⟨0, 0, none⟩ } movedGateway false

/-- The router's own address moves within its network, past all checks and an observed lease: the
preview asks for a confirmation, and so does the request that the engine plans. -/
theorem preview_faithful_at_gatewayMove : ∃ preview planned request log,
    previewTransition checkedPlane leased sampleConfig movedGateway = .ok preview ∧
    preview.requiresConfirmation = true ∧
    Runs (record Query Query.Answer) gatewayMove [] (.ok (planned, request)) log ∧
    ReachesPlanned log ∧
    (candidateRequest checkedPlane sampleEngine request planned.config false).requireConfirmation =
      true := by
  have hadmitted : admitTransaction checkedPlane sampleEngine movedGateway false = .ok () := by
    decide +kernel
  have hconfirm : requiresConfirmation sampleConfig movedGateway = true := by decide +kernel
  obtain ⟨warnings, hinspect⟩ : ∃ warnings,
      inspectLanChange leased sampleConfig movedGateway = .ok warnings := ⟨_, rfl⟩
  have hpreview : previewTransition checkedPlane leased sampleConfig movedGateway = .ok _ :=
    (previewTransition_eq_ok rfl rfl).mpr ⟨hadmitted, rfl, _, hinspect, rfl⟩
  let answer := recorded fun q => (obliging checkedPlane.rules newEngine.around q).1
  have hexec : ∃ planned request, gatewayMove.exec answer [] = (.ok (planned, request), [
      ⟨.inspectLanChange sampleConfig movedGateway, .ok ()⟩, ⟨.now, ⟨1000000000, 0, 0⟩⟩,
      ⟨.createSnapshot sampleConfig, .ok ()⟩]) := by
    unfold gatewayMove planTransaction
    rw [hadmitted]
    exact ⟨_, _, rfl⟩
  obtain ⟨planned, request, hexec⟩ := hexec
  have hrun : Runs (record Query Query.Answer) gatewayMove [] (gatewayMove.exec answer []).1
      (gatewayMove.exec answer []).2 := runs_exec (fun _ _ => rfl) _ _
  have hobserves : Observes leased sampleConfig movedGateway (gatewayMove.exec answer []).2 := by
    rw [hexec]
    intro found hfound
    simp only [List.mem_cons, Sigma.mk.injEq, reduceCtorEq, false_and, List.not_mem_nil, or_false,
      heq_eq_eq] at hfound
    rw [hinspect]
    exact hfound.2
  rw [hexec] at hrun hobserves
  obtain ⟨hplans, hasks⟩ := preview_faithful rfl rfl (by decide +kernel) hrun hobserves
  exact ⟨_, planned, request, _, hpreview, hconfirm, hrun, hplans.mp ⟨_, hpreview⟩,
    ((hasks _ hpreview).2 planned request rfl).trans hconfirm⟩

end MinimalRouter.Apply
