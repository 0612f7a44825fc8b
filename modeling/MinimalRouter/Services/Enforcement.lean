import MinimalRouter.Firewall.Isolation
import MinimalRouter.Services.Declarations
import MinimalRouter.Services.Schedule

namespace MinimalRouter.Services

open Goish Config Firewall Lib Lib.Checks

section Chain

open Lib.Chain

def passing (p : Packet) (nft : Nft) : Item → Outcome Decision := Item.step nft (fun _ => none) p

theorem step_rule (conds : List Match) (v : Verdict) : passing p nft (rule conds v) =
      if conds.all (·.holds nft p) then Chain.perform (fun _ => none) v.action else .next := rfl

def within (p : Packet) (day : Nat) (w : AccessWindow) : Bool :=
  p.day == day &&
    (Match.hour w.start (if w.end = "23:59" then "23:59:59" else w.end)).holds Nft.plain p

def answer (isOpen : Bool) : Outcome Decision := if isOpen then .returned else .settled .drop

end Chain

/-- The address of the other profile, as text that the check takes for another address. -/
def blockedProfile : DeviceProfile :=
  { sampleProfile with
    id := "guests", name := "Guests", ipAddresses := .of ["::ffff:192.168.1.50"]
    schedule := { weekendMode := "blocked" } }

def spelledConfig : SystemConfig :=
  { profileConfig with adguard :=
      { profileConfig.adguard with deviceProfiles := .of [blockedProfile, sampleProfile] } }

end MinimalRouter.Services
