import MinimalRouter.Apply.Engine

namespace MinimalRouter.Apply

open Goish Config Lib

def maxDevicePauses : Nat := 512

def actionInvalid : String := "invalid_request"
def actionConflict : String := "conflict"
def actionUnavailable : String := "unavailable"
def actionFailed : String := "failed"

/-- An error with its stable classification, or one of the transport. -/
inductive ActionFailure
  | action : (code message : String) → ActionFailure
  | other : (message : String) → ActionFailure
  deriving DecidableEq

structure DevicePause where
  ip : String := ""
  untilUnix : Int := 0
  deriving DecidableEq

structure ServiceActionRequest where
  (action ip : String := "")
  seconds : Int := 0
  deriving DecidableEq

structure ServiceActionResponse where
  success : Bool := false
  (error code : String := "")
  pauses : List DevicePause := []
  deriving DecidableEq

def validServiceAction (action : String) : Bool :=
  ["wan-reconnect", "dns-dhcp-restart", "wireguard-restart"].contains action

def DevicePause.valid (pause : DevicePause) : Bool :=
  (parseIpv4 pause.ip).any (octetsString · == pause.ip) && decide (0 ≤ pause.untilUnix)

def orElseText (text default : String) : String := if text.isEmpty then default else text

def decodeServiceActionResponse (response : ServiceActionResponse) :
    Except ActionFailure ServiceActionResponse :=
  if response.pauses.length > maxDevicePauses then
    .error (.other "privileged action pause count exceeds limit")
  else if !response.success then
    .error (.action (orElseText response.code actionFailed)
      (orElseText response.error "privileged action failed"))
  else if !response.error.isEmpty || !response.code.isEmpty then
    .error (.other "contradictory privileged action response")
  else if response.pauses.all DevicePause.valid && (response.pauses.map (·.ip)).Nodup then
    .ok response
  else .error (.other "invalid privileged action pause state")

inductive ActionQuery
  | expired
  | call : ServiceActionRequest → ActionQuery

abbrev ActionQuery.Answer : ActionQuery → Type
  | expired => Bool
  | call _ => Except String ServiceActionResponse

abbrev Errand := Prog ActionQuery ActionQuery.Answer

def callActionSocket (request : ServiceActionRequest) :
    Errand (Except ActionFailure ServiceActionResponse) :=
  .ask (.call request) fun reply =>
    .ret ((reply.mapError ActionFailure.other).bind decodeServiceActionResponse)

/-- No recovery is required and no change is pending.  The operation lock is held, so that no
privileged call is in progress either. -/
def actionAllowed (st : EngineState) : Bool := !st.recoveryRequired && st.pending.isNone

section Actions

variable (st : EngineState)

def sendAction (what : String) (request : ServiceActionRequest) :
    Errand (Except ActionFailure (List DevicePause)) :=
  if !actionAllowed st then
    .ret (.error (.action actionConflict
      (what ++ " is unavailable while configuration recovery or confirmation is active")))
  else (callActionSocket request).bind fun reply => .ret (reply.map (·.pauses))

def runServiceAction (action : String) : Errand (Except ActionFailure (List DevicePause)) :=
  if !validServiceAction action then
    .ret (.error (.action actionInvalid "unsupported service action"))
  else sendAction st "service recovery" { action }

def validateDeviceIp (value : String) : Except ActionFailure String :=
  match parseIpv4 (trim value) with
  | none => .error (.action actionInvalid "device address must be IPv4")
  | some ip =>
    let lan := st.currentConfig.lan
    match parseCidr (trim lan.cidr) with
    | none => .error (.action actionUnavailable "trusted LAN range is unavailable")
    | some (_, network) =>
      if !network.contains (.v4 ip) then
        .error (.action actionInvalid "device address is outside the trusted LAN")
      else if parseIp (trim lan.ipAddress) == some (.v4 ip) then
        .error (.action actionInvalid "router LAN address cannot be paused")
      else .ok (octetsString ip)

def sendDeviceAction (what action ip : String) (seconds : Int) :
    Errand (Except ActionFailure (List DevicePause)) :=
  match validateDeviceIp st ip with
  | .error e => .ret (.error e)
  | .ok ip => sendAction st what { action, ip, seconds }

def pauseDeviceInternet (ip : String) (seconds : Int) :
    Errand (Except ActionFailure (List DevicePause)) :=
  if seconds ≠ 0 && seconds ≠ 15 * 60 && seconds ≠ 60 * 60 then
    .ret (.error (.action actionInvalid
      "pause duration must be 15 minutes, 1 hour, or until resumed"))
  else sendDeviceAction st "device pause" "device-pause" ip seconds

def resumeDeviceInternet (ip : String) : Errand (Except ActionFailure (List DevicePause)) :=
  sendDeviceAction st "device resume" "device-resume" ip 0

def deviceInternetPauses : Errand (Except ActionFailure (List DevicePause)) :=
  .ask .expired fun expired =>
    if expired then .ret (.error (.other "context deadline exceeded"))
    else sendAction st "device pause status" { action := "device-pause-status" }

inductive Action
  | runServiceAction : String → Action
  | pauseDeviceInternet : String → Int → Action
  | resumeDeviceInternet : String → Action
  | deviceInternetPauses

def performAction : Action → Errand (Except ActionFailure (List DevicePause))
  | .runServiceAction action => runServiceAction st action
  | .pauseDeviceInternet ip seconds => pauseDeviceInternet st ip seconds
  | .resumeDeviceInternet ip => resumeDeviceInternet st ip
  | .deviceInternetPauses => deviceInternetPauses st

end Actions

def ActionQuery.isCall : ActionQuery → Bool
  | expired => false
  | call _ => true

abbrev Guarded {α : Type} (st : EngineState) (prog : Errand α) : Prop :=
  Prog.Asks (fun q => q.isCall = true → actionAllowed st = true) (fun _ => True) prog

theorem guarded_ret (x : α) : Guarded st (.ret x : Errand α) := .ret trivial

theorem guarded_sendAction (what : String) (request : ServiceActionRequest) :
    Guarded st (sendAction st what request) := by
  unfold sendAction
  split
  · exact guarded_ret _
  · next h => exact .ask (fun _ => by simpa using h) fun reply => guarded_ret _

theorem guarded_sendDeviceAction (what action ip : String) (seconds : Int) :
    Guarded st (sendDeviceAction st what action ip seconds) := by
  unfold sendDeviceAction
  split
  · exact guarded_ret _
  · exact guarded_sendAction _ _

theorem guarded_performAction (action : Action) : Guarded st (performAction st action) := by
  cases action with
  | runServiceAction =>
    simp only [performAction, runServiceAction]
    split
    · exact guarded_ret _
    · exact guarded_sendAction _ _
  | pauseDeviceInternet =>
    simp only [performAction, pauseDeviceInternet]
    split
    · exact guarded_ret _
    · exact guarded_sendDeviceAction _ _ _ _
  | resumeDeviceInternet =>
    simp only [performAction, resumeDeviceInternet]
    exact guarded_sendDeviceAction _ _ _ _
  | deviceInternetPauses =>
    refine .ask (fun h => by cases h) fun expired => ?_
    split
    · exact guarded_ret _
    · exact guarded_sendAction _ _

end MinimalRouter.Apply
