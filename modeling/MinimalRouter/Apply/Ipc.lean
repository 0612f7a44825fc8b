import MinimalRouter.Config.Policy

namespace MinimalRouter.Apply

open Goish Goish.Json Config

/-- The privileged operations.  An unknown operation decodes and is then rejected by the helper. -/
inductive OperationType
  | applyAll | confirm | commitConfirmed | reconcile | wgTunnelStatus | firewallCounters
  | other : String → OperationType
  deriving DecidableEq

namespace OperationType

def asStr : OperationType → String
  | applyAll => "APPLY_ALL"
  | confirm => "CONFIRM"
  | commitConfirmed => "COMMIT_CONFIRMED"
  | reconcile => "RECONCILE"
  | wgTunnelStatus => "WG_TUNNEL_STATUS"
  | firewallCounters => "FIREWALL_COUNTERS"
  | other name => name

instance : Marshal OperationType := ⟨fun op => .str op.asStr⟩

def transactional : OperationType → Bool
  | applyAll => true
  | confirm => true
  | commitConfirmed => true
  | reconcile => true
  | _ => false

theorem eq_of_asStr_eq {a : OperationType} (ha : a.transactional = true)
    (hb : b.transactional = true) (h : a.asStr = b.asStr) : a = b := by
  cases a <;> cases b <;> simp_all [transactional, asStr]

end OperationType

structure ApplyRequest where
  version : Int := 0
  id : String := ""
  op : OperationType := .other ""
  revision : Revision := 0
  config : SystemConfig := {}
  (nftables pppoePeer pppoeSecret dnsmasq hostapd wireguard serviceName : String := "")
  (requireConfirmation verifyWgClient : Bool := false)
  tunnelInterface : String := ""
  (deferLastGood skipWanVerify : Bool := false)
  deriving DecidableEq

instance : Marshal ApplyRequest where
  marshal r := .object [
    field "version" r.version, field "id" r.id, field "op" r.op, field "revision" r.revision,
    field "config" r.config, field "nftables" r.nftables,
    fieldUnless String.isEmpty "pppoe_peer" r.pppoePeer,
    fieldUnless String.isEmpty "pppoe_secret" r.pppoeSecret,
    fieldUnless String.isEmpty "dnsmasq" r.dnsmasq,
    fieldUnless String.isEmpty "hostapd" r.hostapd,
    fieldUnless String.isEmpty "wireguard" r.wireguard,
    fieldUnless String.isEmpty "service_name" r.serviceName,
    fieldUnless isFalse "require_confirmation" r.requireConfirmation,
    fieldUnless isFalse "verify_wg_client" r.verifyWgClient,
    fieldUnless String.isEmpty "tunnel_interface" r.tunnelInterface,
    fieldUnless isFalse "defer_last_good" r.deferLastGood,
    fieldUnless isFalse "skip_wan_verify" r.skipWanVerify]

namespace ApplyRequest

structure SameContent (a b : ApplyRequest) : Prop where
  id : a.id = b.id
  op : a.op.asStr = b.op.asStr
  config : marshal a.config = marshal b.config
  requireConfirmation : a.requireConfirmation = b.requireConfirmation
  deferLastGood : a.deferLastGood = b.deferLastGood

theorem get_flag (name : String) (b : Bool) (fields : List (Option (String × Json)))
    (h : get name (.object fields) = none) :
    get name (.object (fieldUnless isFalse name b :: fields)) =
      if b then some (.bool true) else none := by
  cases b with
  | false => exact h
  | true => exact get_field name true fields

theorem get_id (r : ApplyRequest) : get "id" (marshal r) = some (.str r.id) := rfl

theorem get_op (r : ApplyRequest) : get "op" (marshal r) = some (.str r.op.asStr) := rfl

theorem get_config (r : ApplyRequest) : get "config" (marshal r) = some (marshal r.config) := rfl

theorem get_requireConfirmation (r : ApplyRequest) : get "require_confirmation" (marshal r) =
    if r.requireConfirmation then some (.bool true) else none := by
  simp (disch := decide) only [marshal, get_field_of_ne, get_fieldUnless_of_ne]
  apply get_flag
  simp (disch := decide) only [get_fieldUnless_of_ne]
  rfl

theorem get_deferLastGood (r : ApplyRequest) : get "defer_last_good" (marshal r) =
    if r.deferLastGood then some (.bool true) else none := by
  simp (disch := decide) only [marshal, get_field_of_ne, get_fieldUnless_of_ne]
  apply get_flag
  simp (disch := decide) only [get_fieldUnless_of_ne]
  rfl

theorem sameContent_of_marshal_eq {a : ApplyRequest} (h : marshal a = marshal b) :
    a.SameContent b := by
  have hid := congrArg (get "id") h
  have hop := congrArg (get "op") h
  have hconfig := congrArg (get "config") h
  have hrequire := congrArg (get "require_confirmation") h
  have hdefer := congrArg (get "defer_last_good") h
  rw [get_id, get_id] at hid
  rw [get_op, get_op] at hop
  rw [get_config, get_config] at hconfig
  rw [get_requireConfirmation, get_requireConfirmation] at hrequire
  rw [get_deferLastGood, get_deferLastGood] at hdefer
  refine ⟨by simpa using hid, by simpa using hop, by simpa using hconfig, ?_, ?_⟩
  · cases hr : a.requireConfirmation <;> simp_all
  · cases hd : a.deferLastGood <;> simp_all

end ApplyRequest

structure TunnelStatus where
  (interface endpoint : String := "")
  (lastHandshake rxBytes txBytes : Int := 0)
  deriving DecidableEq

structure ApplyResponse where
  id : String := ""
  success : Bool := false
  (error logs : String := "")
  (verified rolledBack recoveryRequired : Bool := false)
  tunnelStatus : Option TunnelStatus := none
  deriving DecidableEq

namespace ApplyResponse

def validate (r : ApplyResponse) : Except String Unit :=
  if r.success then
    if !r.verified then .error "successful response is not verified"
    else if r.rolledBack then .error "successful response also reports rollback"
    else if r.recoveryRequired then .error "successful response also requires recovery"
    else .ok ()
  else if r.verified then .error "failed response cannot report verified success"
  else if r.rolledBack && r.recoveryRequired then
    .error "response cannot report both rollback and recovery required"
  else .ok ()

def verifiedSuccess (r : ApplyResponse) : Bool := r.success && r.verified

theorem validate_eq_ok {r : ApplyResponse} : r.validate = .ok () ↔
    (r.success, r.verified, r.rolledBack, r.recoveryRequired) ∈
      [(true, true, false, false), (false, false, false, false), (false, false, true, false),
        (false, false, false, true)] := by
  unfold validate
  cases r.success <;> cases r.verified <;> cases r.rolledBack <;> cases r.recoveryRequired <;> simp

end ApplyResponse

/-- Shared by the management plane and the privileged confirmation gate.  A changed client must
complete a handshake after activation began. -/
def verifyWgClientHandshake (lastHandshake keepalive : Int) (notBefore : Option Int) (now : Int) :
    Except String Unit :=
  if lastHandshake ≤ 0 then .error "WireGuard client tunnel has no completed handshake"
  else if lastHandshake > now + 30 then
    .error "WireGuard client handshake timestamp is in the future"
  else if notBefore.any fun start => start ≤ 0 || lastHandshake < start then
    .error "WireGuard client requires a new handshake after configuration activation"
  else if (keepalive > 0 || notBefore.isSome) && now - lastHandshake > max 180 (keepalive * 3) then
    .error "WireGuard client handshake is stale"
  else .ok ()

structure PPPoEConfigBundle where
  (peerConfig chapSecrets papSecrets : String)
  deriving DecidableEq

structure Services where
  nftables : SystemConfig → Except String String
  pppoe : SystemConfig → Except String PPPoEConfigBundle
  (dnsmasq hostapd : SystemConfig → Except String String)
  (wireguard wireguardRuntime : WireGuardConfig → Except String String)
  wireguardClientRuntime : WGClientConfig → Except String String
  squidConfig : SystemConfig → Except String String
  (adBlockConf qos cloudflareDdns cloudflareTunnel dohProxy : SystemConfig → Except String String)

/-- The fingerprints of requests and configurations: a hash of their canonical encoding. -/
structure Digest (F : Type) where
  hash : Json → Option F

namespace Digest

variable {F : Type}

def hashRequest (d : Digest F) (r : ApplyRequest) : Option F := d.hash (marshal r)

def hashConfig (d : Digest F) (c : SystemConfig) : Option F := d.hash (marshal c)

def CollisionFree (d : Digest F) : Prop := ∀ a b f, d.hash a = some f → d.hash b = some f → a = b

end Digest

/-- The parts of the appliance that are the same code in routerd and in the helper. -/
structure Appliance (F : Type) where
  rules : Rules
  services : Services
  digest : Digest F

def Services.plain : Services where
  nftables _ := .ok ""
  pppoe _ := .ok ⟨"", "", ""⟩
  dnsmasq _ := .ok ""
  hostapd _ := .ok ""
  wireguard _ := .ok ""
  wireguardRuntime _ := .ok ""
  wireguardClientRuntime _ := .ok ""
  squidConfig _ := .ok ""
  adBlockConf _ := .ok ""
  qos _ := .ok ""
  cloudflareDdns _ := .ok ""
  cloudflareTunnel _ := .ok ""
  dohProxy _ := .ok ""

def Appliance.plain : Appliance Json where
  rules := ⟨fun _ => .ok (), fun _ => .ok (), id⟩
  services := .plain
  digest := ⟨some⟩

end MinimalRouter.Apply
