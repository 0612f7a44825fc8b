import MinimalRouter.Applyd.PauseRecovery
import MinimalRouter.Config.Facts

namespace MinimalRouter.Applyd.Pauses

open Goish Config Lib Prog
open Apply (ActionFailure DevicePause maxDevicePauses)

def pausable (cfg : SystemConfig) (ip : String) : Bool := (validatePauseIpForConfig ip cfg).isOk

structure Sound (list : List DevicePause) : Prop where
  length : list.length ≤ maxDevicePauses
  valid : ∀ p ∈ list, p.valid = true
  nodup : (list.map (·.ip)).Nodup

theorem Sound.sublist (h : Sound list) (hsub : list'.Sublist list) : Sound list' :=
  ⟨hsub.length_le.trans h.length, fun p hp => h.valid p (hsub.subset hp), h.nodup.sublist (hsub.map _)⟩

theorem Sound.byAddress (h : Sound list) : Sound (byAddress list) := by
  have hperm : (Pauses.byAddress list).Perm list := List.perm_insertionSort _ _
  exact ⟨hperm.length_eq ▸ h.length, fun p hp => h.valid p (hperm.mem_iff.mp hp),
    (hperm.map _).nodup_iff.mpr h.nodup⟩

theorem Sound.active (h : Sound list) (now : Int) : Sound (activePauses list now) :=
  (h.sublist List.filter_sublist).byAddress

theorem Sound.changed {ip : String} (h : Sound list)
    (hip : canonical ip = true) (hpause : ∀ untilUnix, pause = some untilUnix →
      0 ≤ untilUnix ∧ (list.filter (·.ip ≠ ip)).length < maxDevicePauses) :
    Sound (changed list ip pause) := by
  have hothers := h.sublist (List.filter_sublist (p := fun p => decide (p.ip ≠ ip)))
  cases pause with
  | none => exact hothers.byAddress
  | some untilUnix =>
    obtain ⟨huntil, hroom⟩ := hpause untilUnix rfl
    refine Sound.byAddress ⟨?_, fun p hp => ?_, ?_⟩
    · simpa using Nat.succ_le_of_lt hroom
    · rcases List.mem_append.mp hp with hp | hp
      · exact hothers.valid p hp
      · rw [List.mem_singleton.mp hp]
        exact Bool.and_eq_true_iff.mpr ⟨hip, decide_eq_true huntil⟩
    rw [List.map_append, List.nodup_append]
    refine ⟨hothers.nodup, List.nodup_singleton _, fun a ha b hb => ?_⟩
    obtain ⟨p, hp, rfl⟩ := List.mem_map.mp ha
    rw [List.mem_singleton.mp hb]
    simpa using (List.mem_filter.mp hp).2

theorem renderElements_isOk (now : Int) (seen : List String) (hvalid : ∀ p ∈ pauses, p.valid = true)
    (hnodup : (pauses.map (·.ip)).Nodup) (hseen : ∀ p ∈ pauses, p.ip ∉ seen) :
    (renderElements cfg now seen pauses).isOk = true ↔ ∀ p ∈ pauses, pausable cfg p.ip = true := by
  induction pauses generalizing seen with
  | nil => simp [renderElements, Except.isOk, Except.toBool]
  | cons p pauses ih =>
  obtain ⟨hp, hrest⟩ := List.forall_mem_cons.mp hvalid
  obtain ⟨hnew, hseen⟩ := List.forall_mem_cons.mp hseen
  obtain ⟨hfirst, hnodup⟩ := List.nodup_cons.mp hnodup
  obtain ⟨hcanonical, huntil⟩ := Bool.and_eq_true_iff.mp hp
  have ih := ih (p.ip :: seen) hrest hnodup fun q hq =>
    List.not_mem_cons_of_ne_of_not_mem (fun h => hfirst (List.mem_map.mpr ⟨q, hq, h⟩)) (hseen q hq)
  have hmap (f : List Element → List Element) (x : Except String (List Element)) :
      (x.map f).isOk = x.isOk := by cases x <;> rfl
  rw [renderElements, List.forall_mem_cons, ← ih, pausable]
  split
  next h => simp [h, Except.isOk, Except.toBool]
  next h => simp [h, Except.isOk, Except.toBool]
  next ip h =>
  obtain rfl := eq_of_validatePauseIp hcanonical h
  rw [if_neg (not_or.mpr ⟨not_lt.mpr (of_decide_eq_true huntil), hnew⟩)]
  split_ifs <;> simp [h, hmap] <;> simp [Except.isOk, Except.toBool]

theorem render_isOk (now : Int) (deleteTable : Bool) (hwan : validInterfaceName cfg.wan.interface = true)
    (h : Sound pauses) : (renderDevicePauseFirewall cfg pauses now deleteTable).isOk = true ↔
      ∀ p ∈ pauses, pausable cfg p.ip = true := by
  rw [← renderElements_isOk now [] h.valid h.nodup fun _ _ => List.not_mem_nil]
  unfold renderDevicePauseFirewall
  rw [if_neg (not_lt.mpr h.length), if_neg (by simp [show interfaceNamePattern _ = true from hwan])]
  cases renderElements cfg now [] pauses <;> rfl

section Acts

structure Setting where
  cfg : SystemConfig
  world : World := {}
  ticks : Nat := 0

/-- Files and the packet filter do as they are told; the clock may step either way. -/
def serve (clock : Nat → Nat) (s : Setting) : (q : Query) → q.Answer × Setting
  | .now => ((clock s.ticks : Int), { s with ticks := s.ticks + 1 })
  | .lastGood => (.ok s.cfg, s)
  | .readPending => (.ok s.world.pending, s)
  | .readState => (.ok s.world.state, s)
  | .persist record => (.ok (), { s with world := s.world.put record })
  | .clearPending => (.ok (), { s with world := s.world.clear })
  | .tableExists => (.ok s.world.table.isSome, s)
  | .writeBatch _ => (.ok (), s)
  | .checkBatch _ => (.ok (), s)
  | .loadBatch batch => (.ok (), { s with world := s.world.load batch })
  | .removeBatch => ((), s)
  | .uncertain => (s.world.uncertain, s)
  | .setUncertain record => ((), { s with world := { s.world with uncertain := record } })

structure Keeps (list : List DevicePause) (s : Setting) : Prop where
  uncertain : s.world.uncertain = none
  pending : s.world.pending = none
  state : s.world.state = none ∧ list = [] ∨ s.world.state = some (.record { pauses := list })
  sound : Sound list

variable {ε α β : Type}

theorem exec_bind_ok (h : exec (serve clock) x s = (.ok a, t)) :
    exec (serve clock) (x >>= f : PauseProg ε β) s = exec (serve clock) (f a) t := by
  exact (exec_bind ..).trans (by rw [h])

theorem exec_bind_error (h : exec (serve clock) x s = (.error e, t)) :
    exec (serve clock) (x >>= f : PauseProg ε β) s = (.error e, t) := by
  exact (exec_bind ..).trans (by rw [h]; rfl)

theorem exec_orFail (h : exec (serve clock) x s = (r, t)) :
    exec (serve clock) (orFail code message x) s =
      (r.mapError fun _ => pauseError code message, t) :=
  (exec_bind ..).trans (by rw [h]; rfl)

theorem exec_failIf (clock : Nat → Nat) (s : Setting) (p : Prop) [Decidable p] (e : ε) :
    exec (serve clock) (Attempt.failIf p e : PauseProg ε PUnit) s =
      (if p then .error e else .ok ⟨⟩, s) := by
  unfold Attempt.failIf
  split <;> rfl

theorem exec_outcome {x : PauseProg ε α} (h : exec (serve clock) x s = (r, t)) :
    exec (serve clock) (x.outcome : PauseProg ε' (Except ε α)) s = (.ok r, t) :=
  (exec_bind ..).trans (by rw [h]; rfl)

theorem exec_applyDevicePauseFirewall
    (h : renderDevicePauseFirewall s.cfg pauses (clock s.ticks) s.world.table.isSome = r) :
    exec (serve clock) (applyDevicePauseFirewall pauses) s = (r.map fun _ => (),
      { s with ticks := s.ticks + 1, world := r.toOption.elim s.world s.world.load }) := by
  refine (exec_bind_ok (a := s.cfg) rfl).trans ((exec_bind_ok rfl).trans ((exec_bind_ok rfl).trans ?_))
  cases r with
  | ok => exact (exec_bind_ok (t := { s with ticks := s.ticks + 1 }) (congrArg (·, _) h)).trans rfl
  | error => exact exec_bind_error (t := { s with ticks := s.ticks + 1 }) (congrArg (·, _) h)

theorem exec_loadPauseRecord (h : Keeps list s) :
    exec (serve clock) loadPauseRecord s = (.ok { pauses := list }, s) := by
  have hcheck : checkRecord false { pauses := list } = .ok { pauses := list } := by
    rw [checkRecord, if_neg (by simp), if_neg (not_lt.mpr h.sound.length), if_neg (by simp),
      if_pos ⟨List.all_eq_true.mpr h.sound.valid, h.sound.nodup⟩]
  obtain ⟨cfg, ⟨uncertain, pending, state, table⟩, ticks⟩ := s
  obtain ⟨rfl, rfl, ⟨rfl, rfl⟩ | rfl, -⟩ := h
  · rfl
  · exact congrArg (·, _) hcheck

theorem Keeps.apply (h : Keeps list s) (r : Option Batch) (ticks : Nat) :
    Keeps list { s with ticks, world := r.elim s.world s.world.load } := by
  cases r <;> exact ⟨h.uncertain, h.pending, h.state, h.sound⟩

theorem exec_devicesReconcile (clock : Nat → Nat) (h : Keeps list s)
    (hwan : validInterfaceName s.cfg.wan.interface = true) : ∃ t, t.cfg = s.cfg ∧ Keeps list t ∧
      if ∀ p ∈ activePauses list (clock s.ticks), pausable s.cfg p.ip = true then
        exec (serve clock) devicesReconcile s = (.ok (activePauses list (clock s.ticks)), t)
      else ∃ e, exec (serve clock) devicesReconcile s = (.error e, t) := by
  obtain ⟨r, hr⟩ : ∃ r, renderDevicePauseFirewall s.cfg (activePauses list (clock s.ticks))
    (clock (s.ticks + 1)) s.world.table.isSome = r := ⟨_, rfl⟩
  have hload : exec (serve clock) devicesReconcile s = _ :=
    (exec_bind_ok (exec_orFail (exec_loadPauseRecord h))).trans (exec_bind_ok rfl)
  have happly := exec_applyDevicePauseFirewall (s := { s with ticks := s.ticks + 1 }) hr
  have hok := render_isOk (clock (s.ticks + 1)) s.world.table.isSome hwan (h.sound.active (clock s.ticks))
  rw [hr] at hok
  refine ⟨{ s with ticks := s.ticks + 2, world := r.toOption.elim s.world s.world.load }, rfl,
    h.apply r.toOption _, ?_⟩
  cases r with
  | ok =>
    rw [if_pos (hok.mp rfl)]
    refine hload.trans ((exec_bind_ok (exec_orFail happly)).trans ((exec_bind_ok rfl).trans ?_))
    refine (exec_bind_ok (a := ()) ?_).trans rfl
    change exec _ (settleRecord { pauses := list } s.world.uncertain) _ = _
    rw [h.uncertain]
    rfl
  | error =>
    rw [if_neg fun hall => nomatch hok.mpr hall]
    exact ⟨_, hload.trans (exec_bind_error (exec_orFail happly))⟩

theorem exec_deviceTransition (hwan : validInterfaceName s.cfg.wan.interface = true)
    (hnext : Sound next) (hpausable : ∀ p ∈ next, pausable s.cfg p.ip = true) :
    ∃ t, t.cfg = s.cfg ∧ Keeps next t ∧
      exec (serve clock) (deviceTransition previous next) s = (.ok next, t) := by
  have hok := (render_isOk (clock s.ticks) s.world.table.isSome hwan hnext).mpr hpausable
  obtain ⟨batch, hbatch⟩ : ∃ batch, renderDevicePauseFirewall s.cfg next (clock s.ticks)
      s.world.table.isSome = .ok batch := by
    cases hr : renderDevicePauseFirewall s.cfg next (clock s.ticks) s.world.table.isSome with
    | ok batch => exact ⟨batch, rfl⟩
    | error =>
      rw [hr] at hok
      cases hok
  let undo : DevicePauseRecord := { phase := "pending", pauses := previous }
  have happly := exec_applyDevicePauseFirewall (s := { s with world :=
    { s.world with uncertain := some undo, pending := some (.record undo) } }) hbatch
  have hfinish : exec (serve clock) (applyAndFinish next) _ = (.ok (), { s with
      ticks := s.ticks + 1
      world := ⟨some undo, none, some (.record { pauses := next }), (s.world.load batch).table⟩ }) :=
    (exec_bind_ok happly).trans rfl
  refine ⟨{ s with
    ticks := s.ticks + 1
    world := ⟨none, none, some (.record { pauses := next }), (s.world.load batch).table⟩ },
    rfl, ⟨rfl, rfl, .inr rfl, hnext⟩, ?_⟩
  exact (exec_bind_ok rfl).trans ((exec_bind_ok (exec_orFail rfl)).trans
    ((exec_bind_ok (exec_outcome hfinish)).trans rfl))

def Room (pauses : List DevicePause) (ip : String) : Prop :=
  (pauses.filter (·.ip ≠ ip)).length < maxDevicePauses

theorem validatePauseIp_again (h : validatePauseIpForConfig value cfg = .ok ip) :
    validatePauseIpForConfig ip cfg = .ok ip := by
  obtain ⟨x, hx, rfl⟩ := validatePauseIp_eq_ok h
  have hagain : parseIpv4 (trim (octetsString x)) = some x := by
    rw [trim_octetsString, parseIpv4, parseIp_octetsString]
    rfl
  rw [← h, validatePauseIpForConfig, validatePauseIpForConfig, hx, hagain]

theorem exec_changed (pause : Option Int) (hwan : validInterfaceName s.cfg.wan.interface = true)
    (hpauses : Sound pauses) (hall : ∀ p ∈ pauses, pausable s.cfg p.ip = true)
    (hip : validatePauseIpForConfig value s.cfg = .ok ip)
    (hpause : ∀ untilUnix, pause = some untilUnix → 0 ≤ untilUnix ∧ Room pauses ip) :
    ∃ t, t.cfg = s.cfg ∧ Keeps (changed pauses ip pause) t ∧
      exec (serve clock) (deviceTransition pauses (changed pauses ip pause)) s =
        (.ok (changed pauses ip pause), t) := by
  have hpausable : pausable s.cfg ip = true := by
    rw [pausable, validatePauseIp_again hip]
    rfl
  obtain ⟨x, -, rfl⟩ := validatePauseIp_eq_ok hip
  exact exec_deviceTransition hwan (hpauses.changed (canonical_octetsString x) hpause)
    (forall_changed (P := fun ip => pausable s.cfg ip = true) hall hpausable pause)

theorem exec_changeFrom (clock : Nat → Nat) (resume : Bool)
    (hwan : validInterfaceName s.cfg.wan.interface = true) (hseconds : seconds ∈ [0, 900, 3600])
    (hpauses : Sound pauses) (hall : ∀ p ∈ pauses, pausable s.cfg p.ip = true) (h : Keeps list s)
    (hip : validatePauseIpForConfig value s.cfg = .ok ip) :
    ∃ t list' r, t.cfg = s.cfg ∧ Keeps list' t ∧ (r.isOk = true ↔ resume = true ∨ Room pauses ip) ∧
      exec (serve clock) (changeFrom pauses ip seconds resume) s = (r, t) := by
  have hok {l : List DevicePause} : (Except.ok l : Except ActionFailure _).isOk = true := rfl
  unfold changeFrom
  split
  next hresume =>
    obtain ⟨t, hcfg, hkeeps, hexec⟩ := exec_changed none hwan hpauses hall hip nofun
    exact ⟨t, _, _, hcfg, hkeeps, iff_of_true hok (.inl hresume), hexec⟩
  next hresume =>
  have hlimit := exec_failIf clock s ((pauses.filter (·.ip ≠ ip)).length ≥ maxDevicePauses)
    (pauseError Apply.actionConflict "device pause limit reached")
  by_cases hroom : Room pauses ip
  · rw [if_neg (not_le.mpr hroom)] at hlimit
    have hnow : (0 : Int) ≤ clock s.ticks + seconds := by
      simp only [List.mem_cons, List.not_mem_nil, or_false] at hseconds
      omega
    split
    next =>
      obtain ⟨t, hcfg, hkeeps, hexec⟩ := exec_changed (s := { s with ticks := s.ticks + 1 })
        (some (clock s.ticks + seconds)) hwan hpauses hall hip fun _ h => by
          cases h
          exact ⟨hnow, hroom⟩
      exact ⟨t, _, _, hcfg, hkeeps, iff_of_true hok (.inr hroom),
        (exec_bind_ok hlimit).trans ((exec_bind_ok rfl).trans hexec)⟩
    next =>
    obtain ⟨t, hcfg, hkeeps, hexec⟩ := exec_changed (some 0) hwan hpauses hall hip fun _ h => by
      cases h
      exact ⟨le_rfl, hroom⟩
    exact ⟨t, _, _, hcfg, hkeeps, iff_of_true hok (.inr hroom), (exec_bind_ok hlimit).trans hexec⟩
  rw [if_pos (not_lt.mp hroom)] at hlimit
  exact ⟨s, list, _, rfl, h, iff_of_false (by simp [Except.isOk, Except.toBool])
    (not_or.mpr ⟨hresume, hroom⟩), exec_bind_error hlimit⟩

/-- What is stored and has not run out is pausable under the configuration in force. -/
def Manageable (clock : Nat → Nat) (s : Setting) (list : List DevicePause) : Prop :=
  ∀ p ∈ activePauses list (clock s.ticks), pausable s.cfg p.ip = true

theorem exec_changeRequest (clock : Nat → Nat) (s : Setting) (value : String) (seconds : Int) :
    exec (serve clock) (changeRequest value seconds) s = (if seconds ∉ [0, 900, 3600] then
      .error (pauseError Apply.actionInvalid "unsupported pause duration")
      else validatePauseIpForConfig value s.cfg, s) := by
  have hseconds := exec_failIf clock s (seconds ∉ [0, 900, 3600])
    (pauseError Apply.actionInvalid "unsupported pause duration")
  split
  next h =>
    rw [if_pos h] at hseconds
    exact exec_bind_error hseconds
  next h =>
    rw [if_neg h] at hseconds
    exact (exec_bind_ok hseconds).trans (exec_bind_ok rfl)

theorem exec_deviceChange (clock : Nat → Nat) (value : String) (seconds : Int) (resume : Bool)
    (h : Keeps list s) (hwan : validInterfaceName s.cfg.wan.interface = true) :
    ∃ t list' r, t.cfg = s.cfg ∧ Keeps list' t ∧
      exec (serve clock) (deviceChange value seconds resume) s = (r, t) ∧
      ∀ ip, seconds ∈ [0, 900, 3600] → validatePauseIpForConfig value s.cfg = .ok ip →
        (r.isOk = true ↔ Manageable clock s list ∧
          (resume = true ∨ Room (activePauses list (clock s.ticks)) ip)) := by
  have hrequest := exec_changeRequest clock s value seconds
  split at hrequest
  next hseconds =>
    exact ⟨s, list, _, rfl, h, exec_bind_error hrequest, fun _ hmem => absurd hmem hseconds⟩
  next hseconds =>
  cases hip : validatePauseIpForConfig value s.cfg with
  | error =>
    rw [hip] at hrequest
    exact ⟨s, list, _, rfl, h, exec_bind_error hrequest, fun _ _ hok => nomatch hok⟩
  | ok =>
  rw [hip] at hrequest
  obtain ⟨u, hcfg, hkeeps, hreconcile⟩ := exec_devicesReconcile clock h hwan
  split at hreconcile
  next hall =>
    obtain ⟨t, list', r, ht, hlist', hr, hexec⟩ := exec_changeFrom clock resume
      (hcfg ▸ hwan) (not_not.mp hseconds) (h.sound.active (clock s.ticks)) (hcfg ▸ hall) hkeeps
      (hcfg ▸ hip)
    refine ⟨t, list', r, ht.trans hcfg, hlist', (exec_bind_ok hrequest).trans
      ((exec_bind_ok hreconcile).trans hexec), fun ip' _ hip' => ?_⟩
    cases hip'
    exact hr.trans (and_iff_right hall).symm
  next hall =>
  obtain ⟨e, hreconcile⟩ := hreconcile
  exact ⟨u, list, _, hcfg, hkeeps, (exec_bind_ok hrequest).trans (exec_bind_error hreconcile),
    fun _ _ _ => iff_of_false (by simp [Except.isOk, Except.toBool]) fun hm => hall hm.1⟩

end Acts

inductive History (env : Platform) (clock : Nat → Nat) : Setting → Prop
  | start (h : validateLiveCandidate (releaseRules env) cfg previous = .ok ()) :
      History env clock { cfg }
  | commit (h : validateLiveCandidate (releaseRules env) cfg previous = .ok ()) :
      History env clock s → History env clock { s with cfg }
  | status : History env clock s →
      History env clock (exec (serve clock) devicesReconcile s).2
  | change (value : String) (seconds : Int) (resume : Bool) : History env clock s →
      History env clock (exec (serve clock) (deviceChange value seconds resume) s).2

theorem History.keeps (h : History env clock s) :
    validInterfaceName s.cfg.wan.interface = true ∧ ∃ list, Keeps list s := by
  induction h with
  | start h =>
    exact ⟨(accepted_of_live h).wan_interface, [], rfl, rfl, .inl ⟨rfl, rfl⟩,
      by decide, nofun, List.nodup_nil⟩
  | commit h _ ih =>
    obtain ⟨-, list, hkeeps⟩ := ih
    exact ⟨(accepted_of_live h).wan_interface, list, hkeeps.uncertain, hkeeps.pending,
      hkeeps.state, hkeeps.sound⟩
  | status _ ih =>
    obtain ⟨hwan, list, hkeeps⟩ := ih
    obtain ⟨t, hcfg, ht, hexec⟩ := exec_devicesReconcile clock hkeeps hwan
    split at hexec
    next =>
      rw [hexec, hcfg]
      exact ⟨hwan, list, ht⟩
    next =>
    obtain ⟨e, hexec⟩ := hexec
    rw [hexec, hcfg]
    exact ⟨hwan, list, ht⟩
  | change value seconds resume _ ih =>
    obtain ⟨hwan, list, hkeeps⟩ := ih
    obtain ⟨t, list', r, hcfg, ht, hexec, -⟩ :=
      exec_deviceChange clock value seconds resume hkeeps hwan
    rw [hexec, hcfg]
    exact ⟨hwan, list', ht⟩

def Setting.stored (s : Setting) : List DevicePause := s.world.durable.getD []

theorem Keeps.stored (h : Keeps list s) : s.stored = list := by
  obtain ⟨cfg, ⟨uncertain, pending, state, table⟩, ticks⟩ := s
  obtain ⟨rfl, rfl, ⟨rfl, rfl⟩ | rfl, -⟩ := h <;> rfl

theorem pauses_manageable_iff (h : History env clock s) :
    ((exec (serve clock) devicesReconcile s).1.isOk = true ∧
      ∀ value seconds resume, seconds ∈ [0, 900, 3600] → pausable s.cfg value = true →
        (exec (serve clock) (deviceChange value seconds resume) s).1.isOk = true) ↔
    (∀ p ∈ activePauses s.stored (clock s.ticks), pausable s.cfg p.ip = true) ∧
      ∀ ip, validatePauseIpForConfig ip s.cfg = .ok ip →
        Room (activePauses s.stored (clock s.ticks)) ip := by
  obtain ⟨hwan, _, hkeeps⟩ := h.keeps
  rw [hkeeps.stored]
  constructor
  · rintro ⟨hreconcile, hchange⟩
    obtain ⟨t, -, -, hexec⟩ := exec_devicesReconcile clock hkeeps hwan
    split at hexec
    next hall =>
      refine ⟨hall, fun ip hip => ?_⟩
      obtain ⟨u, list', r, -, -, hexec, hr⟩ := exec_deviceChange clock ip 0 false hkeeps hwan
      have hok := hchange ip 0 false (by decide) (by rw [pausable, hip]; rfl)
      rw [hexec] at hok
      exact ((hr ip (by decide) hip).mp hok).2.resolve_left (by decide)
    next =>
    obtain ⟨e, hexec⟩ := hexec
    rw [hexec] at hreconcile
    cases hreconcile
  rintro ⟨hall, hroom⟩
  constructor
  · obtain ⟨t, -, -, hexec⟩ := exec_devicesReconcile clock hkeeps hwan
    rw [if_pos hall] at hexec
    rw [hexec]
    rfl
  intro value seconds resume hseconds hvalue
  obtain ⟨t, list', r, -, -, hexec, hr⟩ :=
    exec_deviceChange clock value seconds resume hkeeps hwan
  rw [hexec]
  cases hip : validatePauseIpForConfig value s.cfg with
  | error =>
    rw [pausable, hip] at hvalue
    cases hvalue
  | ok ip => exact (hr ip hseconds hip).mpr ⟨hall, .inr (hroom ip (validatePauseIp_again hip))⟩

def pausedThenMovedTo (ip : String) : Setting :=
  { (exec (serve fun _ => 0) (deviceChange "192.168.1.50" 0 false) { cfg := sampleConfig }).2 with
    cfg := movedTo ip }

theorem history_pausedThenMovedTo {ip : String}
    (h : validateLiveCandidate (releaseRules samplePlatform) (movedTo ip) none = .ok ()) :
    History samplePlatform (fun _ => 0) (pausedThenMovedTo ip) :=
  .commit h (.change "192.168.1.50" 0 false (.start live_sampleConfig))

theorem pauses_manageable_after_move :
    (pausedThenMovedTo "192.168.1.2").stored = [⟨"192.168.1.50", 0⟩] ∧
    (exec (serve fun _ => 0) devicesReconcile (pausedThenMovedTo "192.168.1.2")).1.isOk = true ∧
      ∀ value seconds resume, seconds ∈ [0, 900, 3600] →
        pausable (movedTo "192.168.1.2") value = true →
          (exec (serve fun _ => 0) (deviceChange value seconds resume)
            (pausedThenMovedTo "192.168.1.2")).1.isOk = true := by
  have hstored : (pausedThenMovedTo "192.168.1.2").stored = [⟨"192.168.1.50", 0⟩] := by
    decide +kernel
  refine ⟨hstored, (pauses_manageable_iff (history_pausedThenMovedTo (by decide +kernel))).mpr ?_⟩
  rw [hstored]
  exact ⟨by decide +kernel, fun _ _ => (List.length_filter_le _ _).trans_lt (by decide)⟩

/-- The router has the address of the paused device. -/
theorem stale_pause_blocks_all :
    History samplePlatform (fun _ => 0) (pausedThenMovedTo "192.168.1.50") ∧
      pausable (movedTo "192.168.1.50") "192.168.1.51" = true ∧
      (exec (serve fun _ => 0) devicesReconcile (pausedThenMovedTo "192.168.1.50")).1 =
        .error (.action "recovery_required" "device pause firewall restore failed; recovery required") ∧
      ∀ resume, (exec (serve fun _ => 0) (deviceChange "192.168.1.51" 0 resume)
        (pausedThenMovedTo "192.168.1.50")).1 =
          .error (.action "recovery_required" "device pause firewall restore failed; recovery required") :=
  ⟨history_pausedThenMovedTo (by decide +kernel), by decide +kernel, by decide +kernel,
    by decide +kernel⟩

end MinimalRouter.Applyd.Pauses
