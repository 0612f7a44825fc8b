import MinimalRouter.Apply.Ipc
import MinimalRouter.Config.Store
import MinimalRouter.Lib.Interaction

/-! The configuration transaction state machine of routerd.  An engine call is a program that asks
for everything outside the engine: the clocks, the helper and the store. -/

namespace MinimalRouter.Apply

open Goish Config Lib

inductive State
  | received | planned | generated | snapshotted | applied | verified | awaitingConfirmation
  | committed | rolledBack | recoveryRequired | rejected
  deriving DecidableEq

structure Transaction where
  id : String
  currentState : State := .received
  config : SystemConfig
  error : String := ""
  createdAt : Time
  (confirmedAt confirmationDeadline : Option Time := none)
  firewallChanged : Bool := false

def Transaction.ended (tx : Transaction) (state : State) (message : String) : Transaction :=
  { tx with currentState := state, error := message }

structure PendingChange where
  tx : Transaction
  handshakeNotBefore : Int
  previous : SystemConfig
  (rollbackAttempts commitAttempts : Nat := 0)
  canonicalCommitted : Bool := false

structure EngineState where
  currentConfig : SystemConfig
  pending : Option PendingChange := none
  recoveryRequired : Bool := false
  recoveryReason : String := ""

namespace EngineState

def requireRecovery (st : EngineState) (reason : String) : EngineState :=
  { st with recoveryRequired := true, recoveryReason := reason }

def recovered (st : EngineState) : EngineState :=
  { st with recoveryRequired := false, recoveryReason := "" }

end EngineState

inductive Query
  | now | expired
  | send : ApplyRequest → Query
  | inspectLanChange : SystemConfig → SystemConfig → Query
  | createSnapshot : SystemConfig → Query
  | saveConfig : SystemConfig → Query
  | commitInitialSetup : SystemConfig → Query
  | measure

abbrev Query.Answer : Query → Type
  | now => Reading
  | expired => Bool
  | send _ => Except String ApplyResponse
  | _ => Except String Unit

abbrev Exchange := Prog Query Query.Answer

/-- What the engine is built from: the shared code, its own checks of a change against the current
configuration, and whether it has a store. -/
structure Plane where
  rules : Rules
  services : Services
  sameIpv4Network : String → String → Bool
  validateTransitionSafety : SystemConfig → SystemConfig → Except String Unit
  hasStore : Bool := true

def buildApplyRequest (s : Services) (txId : String) (cfg : SystemConfig) :
    Except (String × String) ApplyRequest := do
  let nftables ← (s.nftables cfg).mapError ("nftables", ·)
  let pppoe ← (s.pppoe cfg).mapError ("pppd", ·)
  let dnsmasq ← (s.dnsmasq cfg).mapError ("dnsmasq", ·)
  let hostapd ← (s.hostapd cfg).mapError ("hostapd", ·)
  let wireguard ← (s.wireguard cfg.wireguard).mapError ("WireGuard", ·)
  return {
    id := txId, op := .applyAll, revision := cfg.revision, config := cfg, nftables,
    pppoePeer := pppoe.peerConfig, pppoeSecret := pppoe.chapSecrets, dnsmasq, hostapd, wireguard }

/-- Retries only transport failures: the same request is sent again while the deadline allows. -/
def attempt (req : ApplyRequest) : Nat → Option String → Exchange (Except String ApplyResponse)
  | 0, last => .ret (.error (last.getD "router-applyd returned an empty response"))
  | n + 1, last => .ask .expired fun expired =>
    if expired then .ret (.error (last.getD "context deadline exceeded"))
    else .ask (.send req) fun
      | .error e => attempt req n (some e)
      | .ok resp =>
        match resp.validate with
        | .error e => .ret (.error ("router-applyd returned an invalid outcome: " ++ e))
        | .ok _ => .ret (.ok resp)

def applyPrivileged (req : ApplyRequest) : Exchange (Except String ApplyResponse) :=
  attempt req 2 none

def acknowledged : Except String ApplyResponse → Bool
  | .ok resp => resp.verifiedSuccess
  | .error _ => false

def shortfall (unknown failed : String) : Except String ApplyResponse → Option String
  | .error e => some (unknown ++ ": " ++ e)
  | .ok resp => if !resp.success || !resp.verified then some (failed ++ ": " ++ resp.error) else none

section Process

variable (p : Plane) (st : EngineState)

/-- The checks of a change against the state of the engine and the current configuration.  A
refusal has a final state, the message of the transaction and the returned error. -/
def admitTransaction (newCfg : SystemConfig) (initialSetup : Bool) :
    Except (State × String × String) Unit :=
  let current := st.currentConfig
  let reject := fun message => .error (.rejected, message, message)
  if st.recoveryRequired then
    let blocked := "configuration changes are blocked until canonical reconciliation succeeds"
    let message :=
      if st.recoveryReason.isEmpty then blocked else blocked ++ ": " ++ st.recoveryReason
    .error (.recoveryRequired, message, message)
  else if st.pending.isSome then reject "another configuration is awaiting confirmation"
  else if newCfg.revision ≠ current.revision then
    reject ("stale revision: expected " ++ toString current.revision ++ ", received " ++
      toString newCfg.revision)
  else if !initialSetup && newCfg.lan.interface != current.lan.interface then
    reject "live LAN interface changes are unsupported; use the local recovery console"
  else if !initialSetup && !p.sameIpv4Network current.lan.cidr newCfg.lan.cidr then
    reject "live LAN subnet changes are unsupported; use the local recovery console"
  else if newCfg.system.httpsPort ≠ current.system.httpsPort then
    reject "live management-port changes are unsupported"
  else if newCfg.system.managementAccess == "wireguard_only" &&
      current.system.managementAccess != "wireguard_only" && !current.wireguard.enabled then
    reject ("enable and verify WireGuard in a separate transaction before restricting " ++
      "management access")
  else
    match validateLiveCandidate p.rules newCfg (some current) with
    | .error e => .error (.rejected, "Validation failed: " ++ e, e)
    | .ok _ => .ok ()

def inspectTransaction (newCfg : SystemConfig) (initialSetup : Bool) :
    Exchange (Except (String × String) Unit) :=
  if initialSetup then .ret (.ok ())
  else .ask (.inspectLanChange st.currentConfig newCfg) fun
    | .error e => .ret (.error (e, e))
    | .ok _ => .ret ((p.validateTransitionSafety st.currentConfig newCfg).mapError fun e =>
        ("Transition safety validation failed: " ++ e, e))

def nextRevision (r : Revision) : Option Revision := if r + 1 < 2 ^ 63 then some (r + 1) else none

def createSnapshot : Exchange (Except String Unit) :=
  if p.hasStore then .ask (.createSnapshot st.currentConfig) .ret else .ret (.ok ())

/-- The transaction up to its first privileged step: it ends here, or goes on with a request. -/
def planTransaction (tx : Transaction) (newCfg : SystemConfig) (initialSetup : Bool) :
    Exchange (Except (Transaction × String) (Transaction × ApplyRequest)) :=
  match admitTransaction p st newCfg initialSetup with
  | .error (state, message, e) => .ret (.error (tx.ended state message, e))
  | .ok _ => (inspectTransaction p st newCfg initialSetup).bind fun
    | .error (message, e) => .ret (.error (tx.ended .rejected message, e))
    | .ok _ =>
      match nextRevision st.currentConfig.revision with
      | none =>
        let message := "configuration revision limit reached"
        .ret (.error (tx.ended .rejected message, message))
      | some revision => .ask .now fun updatedAt =>
        let cfg := { newCfg with revision, updatedAt := updatedAt.now }
        let planned := { tx with config := cfg, currentState := .planned }
        match buildApplyRequest p.services tx.id cfg with
        | .error (what, e) =>
          .ret (.error (planned.ended .rejected (what ++ " generator failed: " ++ e), e))
        | .ok request => (createSnapshot p st).bind fun
          | .error e => .ret (.error
              (planned.ended .rejected ("Pre-apply snapshot creation failed: " ++ e), e))
          | .ok _ => .ret (.ok ({ planned with currentState := .snapshotted }, request))

structure Called where
  engine : EngineState
  tx : Option Transaction
  result : Except String Unit

def failRecovery (tx : Transaction) (message e : String) : Called :=
  ⟨st.requireRecovery message, some (tx.ended .recoveryRequired message), .error e⟩

def requireConfirmation (cfg : SystemConfig) (initialSetup : Bool) : Bool :=
  !initialSetup && requiresConfirmation st.currentConfig cfg

/-- Canonical persistence precedes helper last-good persistence whenever there is a commit. -/
def deferLastGood (cfg : SystemConfig) (initialSetup : Bool) : Bool :=
  !requireConfirmation st cfg initialSetup && (initialSetup || p.hasStore)

def candidateRequest (request : ApplyRequest) (cfg : SystemConfig) (initialSetup : Bool) :
    ApplyRequest :=
  { request with
    requireConfirmation := requireConfirmation st cfg initialSetup
    deferLastGood := deferLastGood p st cfg initialSetup }

def commitConfig (initialSetup : Bool) (cfg : SystemConfig) : Exchange (Except String Unit) :=
  if initialSetup then .ask (.commitInitialSetup cfg) .ret
  else if p.hasStore then .ask (.saveConfig cfg) .ret
  else .ret (.ok ())

def undoCommit (tx : Transaction) (e : String) : Exchange Called :=
  let message := "failed to commit config store: " ++ e
  match buildApplyRequest p.services (tx.id ++ "-rollback") st.currentConfig with
  | .error _ => .ret (failRecovery st tx
      (message ++ "; rollback request could not be generated and recovery is required") e)
  | .ok req => (applyPrivileged req).bind fun
    | .ok resp =>
      if resp.success && resp.verified && !resp.recoveryRequired then
        .ret ⟨st, some (tx.ended .rolledBack
          (message ++ "; previous configuration was verified restored")), .error e⟩
      else .ret (failRecovery st tx
        (message ++ "; rollback could not be verified and recovery is required") e)
    | .error _ => .ret (failRecovery st tx
        (message ++ "; rollback could not be verified and recovery is required") e)

def commitRequest (id : String) (cfg : SystemConfig) : ApplyRequest :=
  { id, op := .commitConfirmed, revision := cfg.revision, config := cfg, skipWanVerify := true }

def commitTransaction (tx : Transaction) (initialSetup : Bool) : Exchange Called :=
  (commitConfig p initialSetup tx.config).bind fun
    | .error e => undoCommit p st tx e
    | .ok _ =>
      let st' := { st with currentConfig := tx.config }
      let done : Called := ⟨st', some { tx with currentState := .committed }, .ok ()⟩
      if deferLastGood p st tx.config initialSetup then
        (applyPrivileged (commitRequest (tx.id ++ "-commit-canonical-0") tx.config)).bind fun ack =>
          match shortfall
              ("canonical configuration was committed but helper last-good " ++
                "acknowledgement is unknown")
              ("canonical configuration was committed but the helper last-good " ++
                "acknowledgement failed") ack with
          | some message =>
            .ret (failRecovery st' tx message "helper commit acknowledgement failed")
          | none => .ret done
      else .ret done

def confirmationTimeout : Int := 90 * 1000000000

def awaitConfirmation (tx : Transaction) (notBefore : Reading) : Exchange Called :=
  .ask .now fun now =>
    let awaiting := { tx with
      currentState := .awaitingConfirmation
      confirmationDeadline := some (now.now.add confirmationTimeout) }
    .ret ⟨{ st with pending := some {
      tx := awaiting, handshakeNotBefore := notBefore.now.unix, previous := st.currentConfig } },
      some awaiting, .ok ()⟩

def refusedState (resp : ApplyResponse) : State :=
  if resp.recoveryRequired then .recoveryRequired
  else if resp.rolledBack then .rolledBack
  else .rejected

def refuseTransaction (tx : Transaction) (resp : ApplyResponse) : Called :=
  let message := "privileged apply failed: " ++ resp.error
  ⟨if refusedState resp = .recoveryRequired then st.requireRecovery message else st,
    some (tx.ended (refusedState resp) message),
    .error ("apply rejected by router-applyd: " ++ resp.error)⟩

def applyTransaction (tx : Transaction) (request : ApplyRequest) (initialSetup : Bool) :
    Exchange Called :=
  .ask .now fun notBefore =>
    (applyPrivileged (candidateRequest p st request tx.config initialSetup)).bind fun
      | .error e =>
        let message := "privileged apply outcome remained unknown after retry; recovery or " ++
          "reboot reconciliation is required: " ++ e
        .ret (failRecovery st tx message message)
      | .ok resp =>
        if !resp.success then .ret (refuseTransaction st tx resp)
        else if !resp.verified then
          let message := "router-applyd did not verify the active configuration; recovery is " ++
            "required"
          .ret (failRecovery st tx message message)
        else if requireConfirmation st tx.config initialSetup then
          awaitConfirmation st { tx with currentState := .verified } notBefore
        else commitTransaction p st { tx with currentState := .verified } initialSetup

def process (txId : String) (newCfg : SystemConfig) (initialSetup : Bool) : Exchange Called :=
  .ask .now fun createdAt =>
    let tx : Transaction := {
      id := txId, config := newCfg, createdAt := createdAt.now
      firewallChanged := !equalSection st.currentConfig.firewall newCfg.firewall }
    (planTransaction p st tx newCfg initialSetup).bind fun
      | .error (tx, e) => .ret ⟨st, some tx, .error e⟩
      | .ok (tx, request) => applyTransaction p st tx request initialSetup

def processTransaction (txId : String) (newCfg : SystemConfig) : Exchange Called :=
  process p st txId newCfg false

def processInitialSetup (txId : String) (newCfg : SystemConfig) : Exchange Called :=
  process p st txId newCfg true

end Process

section Confirm

variable (p : Plane) (st : EngineState) (pending : PendingChange)

def notAwaiting : Called := ⟨st, none, .error "transaction is not awaiting confirmation"⟩

def verifyTunnel : Exchange (Except (String × String) Unit) :=
  let candidate := pending.tx.config
  if !equalSection pending.previous.wgClient candidate.wgClient && candidate.wgClient.enabled then
    let unavailable := "WireGuard client confirmation failed: tunnel status is unavailable"
    (applyPrivileged {
      id := pending.tx.id ++ "-wg1-status", op := .wgTunnelStatus, config := candidate,
      tunnelInterface := candidate.wgClient.interface }).bind fun
      | .error _ => .ret (.error (unavailable, unavailable))
      | .ok resp =>
        match resp.success, resp.tunnelStatus with
        | true, some tunnel => .ask .now fun now =>
          .ret ((verifyWgClientHandshake tunnel.lastHandshake candidate.wgClient.persistentKeepalive
            (some pending.handshakeNotBefore) now.now.unix).mapError fun e =>
              ("WireGuard client confirmation failed: " ++ e, e))
        | _, _ => .ret (.error (unavailable, unavailable))
  else .ret (.ok ())

def failPending (message e : String) : Called :=
  let tx := pending.tx.ended .recoveryRequired message
  ⟨{ st.requireRecovery message with pending := some { pending with tx } }, some tx, .error e⟩

def finishConfirm : Exchange Called :=
  .ask .now fun now =>
    .ret ⟨{ st.recovered with currentConfig := pending.tx.config, pending := none },
      some { pending.tx with confirmedAt := some now.now, currentState := .committed }, .ok ()⟩

def finalizeLan : Exchange Called :=
  match buildApplyRequest p.services (pending.tx.id ++ "-finalize-lan") pending.tx.config with
  | .error (_, e) => .ret (failPending st pending
      ("canonical LAN configuration was committed but final federation request could not be " ++
        "generated: " ++ e) e)
  | .ok req => (applyPrivileged { req with op := .reconcile }).bind fun result =>
    match shortfall
        "canonical LAN configuration was committed but final runtime reconciliation is unknown"
        "canonical LAN configuration was committed but final runtime reconciliation failed"
        result with
    | some message =>
      .ret (failPending st pending message "LAN runtime finalization failed")
    | none => finishConfirm st pending

def acknowledgeCommit : Exchange Called :=
  let counted := { pending with commitAttempts := pending.commitAttempts + 1 }
  let candidate := pending.tx.config
  let id := pending.tx.id ++ "-commit-confirmed-" ++ toString counted.commitAttempts
  (applyPrivileged (commitRequest id candidate)).bind fun commit =>
    match shortfall
        "canonical configuration was committed but helper last-good acknowledgement is unknown"
        "canonical configuration was committed but helper last-good acknowledgement failed"
        commit with
    | some message => .ret (failPending st counted message "confirmed helper commit failed")
    | none =>
      if pending.previous.lan.ipAddress ≠ candidate.lan.ipAddress ||
          pending.previous.lan.cidr ≠ candidate.lan.cidr then finalizeLan p st counted
      else finishConfirm st counted

def confirmLocked : Exchange Called :=
  if pending.canonicalCommitted then acknowledgeCommit p st pending
  else (verifyTunnel pending).bind fun
    | .error (message, e) =>
      let tx := { pending.tx with error := message }
      .ret ⟨{ st with pending := some { pending with tx } }, some tx, .error e⟩
    | .ok _ => (commitConfig p false pending.tx.config).bind fun
      | .error e =>
        let tx := pending.tx.ended .recoveryRequired
          ("management-path confirmation succeeded but canonical configuration could not be " ++
            "committed; retry confirmation or allow verified rollback")
        .ret ⟨{ st with pending := some { pending with tx } }, some tx,
          .error ("failed to commit confirmed configuration: " ++ e)⟩
      | .ok _ =>
        let committed := { pending with canonicalCommitted := true }
        acknowledgeCommit p { st with currentConfig := pending.tx.config, pending := some committed }
          committed

def confirmTransaction (txId : String) : Exchange Called :=
  match st.pending with
  | none => .ret (notAwaiting st)
  | some pending =>
    if pending.tx.id ≠ txId then .ret (notAwaiting st) else confirmLocked p st pending

def maximumRollbackAttempts : Nat := 5

def retryRollback (attempts : Nat) (message : String) : Called :=
  let tx := pending.tx.ended .recoveryRequired message
  ⟨{ st with pending := some { pending with tx, rollbackAttempts := attempts } }, some tx, .ok ()⟩

def rollBackPending : Exchange Called :=
  let attempts := pending.rollbackAttempts + 1
  if attempts > maximumRollbackAttempts then
    let message := "confirmation deadline expired and automatic rollback attempts were exhausted"
    .ret ⟨{ st.requireRecovery message with pending := none },
      some (pending.tx.ended .recoveryRequired message), .ok ()⟩
  else
    let rollbackId := pending.tx.id ++ "-timeout-rollback-" ++ toString attempts
    match buildApplyRequest p.services rollbackId pending.previous with
    | .error _ => .ret (retryRollback st pending attempts
        ("confirmation deadline expired and rollback generation failed; retry scheduled while " ++
          "candidate access remains available"))
    | .ok req => (applyPrivileged req).bind fun result =>
      if acknowledged result then
        .ret ⟨{ st.recovered with pending := none },
          some (pending.tx.ended .rolledBack
            "confirmation deadline expired; previous configuration restored"), .ok ()⟩
      else .ret (retryRollback st pending attempts
        ("confirmation deadline expired and privileged rollback failed; retry scheduled while " ++
          "candidate access remains available"))

def rollbackExpired (txId : String) : Exchange Called :=
  match st.pending with
  | none => .ret ⟨st, none, .ok ()⟩
  | some pending =>
    if pending.tx.id ≠ txId || pending.canonicalCommitted then .ret ⟨st, none, .ok ()⟩
    else rollBackPending p st pending

end Confirm

section Reconcile

variable (p : Plane) (st : EngineState)

/-- A verified reconcile completes an already committed candidate, or discards an unconfirmed
one. -/
def settlePending : Exchange Called :=
  match st.pending with
  | none => .ret ⟨st.recovered, none, .ok ()⟩
  | some pending =>
    let settled := { st.recovered with pending := none }
    if pending.canonicalCommitted then .ask .now fun now =>
      .ret ⟨settled, some { pending.tx with
        confirmationDeadline := none, confirmedAt := some now.now, currentState := .committed
        error := "" }, .ok ()⟩
    else .ret ⟨settled, some { pending.tx with
      confirmationDeadline := none, currentState := .rolledBack
      error := "unconfirmed candidate discarded; canonical configuration restored" }, .ok ()⟩

def reconcileAs (id : String) : Exchange Called :=
  match buildApplyRequest p.services id st.currentConfig with
  | .error (_, e) => .ret ⟨st, none, .error e⟩
  | .ok req => (applyPrivileged { req with op := .reconcile }).bind fun
    | .error e =>
      let reason := "boot reconciliation failed: " ++ e
      .ret ⟨st.requireRecovery reason, none, .error reason⟩
    | .ok resp =>
      if !resp.success || !resp.verified || resp.recoveryRequired then
        let reason := "boot reconciliation was not verified: " ++ resp.error
        .ret ⟨st.requireRecovery reason, none, .error reason⟩
      else settlePending st

def reconcileId (now : Reading) : String := "boot-reconcile-" ++ toString now.now.unixNano

def reconcile : Exchange Called := .ask .now fun now => reconcileAs p st (reconcileId now)

def applyTemporaryRuntime (req : ApplyRequest) : Exchange (Except String Unit) :=
  (applyPrivileged req).bind fun
    | .error e => .ret (.error e)
    | .ok resp => .ret (
      if !resp.success || !resp.verified then
        if !resp.error.isEmpty then
          .error ("router-applyd rejected temporary runtime: " ++ resp.error)
        else .error "router-applyd did not verify temporary runtime"
      else .ok ())

def labelled (label : String) : Except String Unit → List String
  | .ok _ => []
  | .error e => [label ++ e]

def bypassBlocked : Option String :=
  if st.recoveryRequired then
    let message := "temporary QoS bypass is blocked while recovery is required"
    some (if st.recoveryReason.isEmpty then message else message ++ ": " ++ st.recoveryReason)
  else if st.pending.isSome then
    some "temporary QoS bypass is blocked while a configuration change awaits confirmation"
  else none

/-- Proves the runtime back on the canonical configuration; also runs when the bypass failed. -/
def restoreCanonical : Exchange (Except String Unit) :=
  .ask .now fun now =>
    match buildApplyRequest p.services ("speedtest-qos-restore-" ++ toString now.now.unixNano)
        st.currentConfig with
    | .error (_, e) => .ret (.error ("build canonical QoS restore: " ++ e))
    | .ok req => (applyTemporaryRuntime { req with op := .reconcile }).bind fun result =>
      .ret (result.mapError ("restore canonical QoS runtime: " ++ ·))

def runBypassed (req : ApplyRequest) : Exchange (List String) :=
  (applyTemporaryRuntime req).bind fun
    | .error e => .ret ["activate temporary QoS bypass: " ++ e]
    | .ok _ => .ask .measure fun result => .ret (labelled "" result)

def withQosBypassed : Exchange Called :=
  match bypassBlocked st with
  | some message => .ret ⟨st, none, .error message⟩
  | none =>
    let canonical := st.currentConfig
    if !canonical.qos.enabled then .ask .measure fun result => .ret ⟨st, none, result⟩
    else .ask .now fun now =>
      let bypass := { canonical with qos := { canonical.qos with enabled := false } }
      match buildApplyRequest p.services ("speedtest-qos-bypass-" ++ toString now.now.unixNano)
          bypass with
      | .error (_, e) => .ret ⟨st, none, .error ("build temporary QoS bypass: " ++ e)⟩
      | .ok req => (runBypassed { req with deferLastGood := true }).bind fun errors =>
        (restoreCanonical p st).bind fun
          | .ok _ => .ret ⟨st, none,
              if errors.isEmpty then .ok () else .error ("\n".intercalate errors)⟩
          | .error e => .ret ⟨st.requireRecovery
              ("temporary QoS bypass could not restore the canonical runtime: " ++ e), none,
              .error ("\n".intercalate (errors ++ [e]))⟩

end Reconcile

inductive Call
  | processTransaction : String → SystemConfig → Call
  | processInitialSetup : String → SystemConfig → Call
  | confirmTransaction : String → Call
  | rollbackExpired : String → Call
  | reconcile | withQosBypassed

def perform (p : Plane) (st : EngineState) : Call → Exchange Called
  | .processTransaction txId newCfg => processTransaction p st txId newCfg
  | .processInitialSetup txId newCfg => processInitialSetup p st txId newCfg
  | .confirmTransaction txId => confirmTransaction p st txId
  | .rollbackExpired txId => rollbackExpired p st txId
  | .reconcile => reconcile p st
  | .withQosBypassed => withQosBypassed p st

end MinimalRouter.Apply
