import MinimalRouter.Applyd.ConfirmGate

namespace MinimalRouter.Applyd

open Goish Config Apply Lib Lib.Script Lib.Machine

variable {F : Type} [DecidableEq F]

section Commands

variable (onError : OnError) (result : CmdResult) (left : Runtime) (j k : Component)
  (active : Option Active)

def started : Option Active :=
  match result with
  | .ok _ => active
  | .error _ => left j

end Commands

namespace Component

def touched (changed : ChangeFlags) : Component → Bool
  | lan => true
  | nftables => true
  | extraLans => changed.extraLan
  | wg0 => changed.wg
  | wg1 => changed.wgClient
  | dnsmasq => changed.dnsmasq
  | pppoe => changed.wan
  | hostapd => changed.wifi
  | inadyn => changed.ddns
  | squid => changed.squid

def result (env : ActivateEnv) : Component → CmdResult
  | lan => env.lan
  | extraLans => env.extraLans
  | nftables => env.nftables
  | wg0 => env.wireguard
  | wg1 => env.wireguardClient
  | dnsmasq => env.dnsmasq
  | pppoe => env.pppoe
  | hostapd => env.hostapd
  | inadyn => env.inadyn
  | squid => env.squid

def stopsUnchecked : Component → Bool
  | pppoe => true
  | hostapd => true
  | inadyn => true
  | _ => false

end Component

section Install

variable {provisional : Bool} {k : Component}

variable {rt : Runtime}

theorem flatMap_writes_ite (c : Prop) [Decidable c] (as bs : List Cmd) :
    (if c then as else bs).flatMap Command.writes =
      if c then as.flatMap Command.writes else bs.flatMap Command.writes :=
  apply_ite (List.flatMap Command.writes) c as bs

theorem flatMap_writes_serviceCommands :
    (serviceCommands env cfg generated flag enabled label result j).flatMap Command.writes = [] := by
  cases flag <;> cases enabled <;> rfl

theorem flatMap_writes_configureLan :
    (configureLan env cfg generated previous provisional).flatMap Command.writes = [] := by
  cases provisional with
  | false => rfl
  | true =>
    cases previous with
    | none => rfl
    | some =>
      simp only [configureLan, ↓reduceIte, flatMap_writes_ite, List.flatMap_cons, List.flatMap_nil,
        Cmd.start, Cmd.plain, List.append_nil, ite_self]

theorem flatMap_writes_installArtifacts :
    (installArtifacts env cfg generated).flatMap Command.writes = restoreArtifacts.flatMap fun n =>
        if (env.artifactWrite n).done then [(n, some (generated n))] else [] := by
  simp only [installArtifacts, List.flatMap_append, flatMap_writes_ite, List.flatMap_cons,
    List.flatMap_nil, Cmd.plain, List.append_nil, ite_self, List.flatMap_map]
  rfl

theorem flatMap_writes_installScript :
    (installScript env cfg generated previous provisional changed).flatMap Command.writes =
      restoreArtifacts.flatMap fun n =>
        if (env.artifactWrite n).done then [(n, some (generated n))] else [] := by
  simp only [installScript, List.flatMap_append, flatMap_writes_ite, flatMap_writes_serviceCommands,
    flatMap_writes_configureLan, flatMap_writes_installArtifacts, List.flatMap_cons,
    List.flatMap_nil, Cmd.start, Cmd.plain, List.append_nil, List.nil_append, ite_self]

theorem installScript_writes
    (hdone : (Script.run (installScript env cfg generated previous provisional changed) rt).aborted =
      none) :
    (Script.run (installScript env cfg generated previous provisional changed) rt).writes =
      restoreArtifacts.map fun n => (n, some (generated n)) := by
  have hwritten : ∀ n, (env.artifactWrite n).done = true := by
    intro n
    have harts : Cmd.install .abort ("install " ++ n.label) (env.artifactWrite n) n
        (some (generated n)) ∈ installArtifacts env cfg generated := by
      simp only [installArtifacts, List.mem_append]
      exact .inl (.inl (List.mem_map.mpr ⟨n, mem_restoreArtifacts n, rfl⟩))
    have hmem : Cmd.install .abort ("install " ++ n.label) (env.artifactWrite n) n
        (some (generated n)) ∈ installScript env cfg generated previous provisional changed := by
      simp only [installScript, List.mem_append, harts, true_or, or_true]
    exact WriteOutcome.done_of_result (Result.mapError_eq_ok.mp (outcome_of_completed hdone hmem rfl))
  rw [run_writes_of_completed hdone, flatMap_writes_installScript]
  simp only [hwritten, ↓reduceIte]
  exact List.flatMap_pure_eq_map _ _

end Install

section Artifacts

omit [DecidableEq F]

theorem artifacts_applyAll {d : Disk F} (hall : ∀ x, .artifact n x ∈ es → x = data)
    (h : d.artifacts n = data ∨ ∃ x, .artifact n x ∈ es) : (d.applyAll es).artifacts n = data := by
  induction es generalizing d with
  | nil => exact h.resolve_right (by simp)
  | cons e es ih =>
  refine ih (fun x hx => hall x (.tail e hx)) ?_
  cases e with
  | artifact m x =>
    by_cases hm : m = n
    · subst hm
      exact .inl (by simp [Disk.apply, hall x (.head es)])
    rcases h with h | ⟨y, hy⟩
    · exact .inl (by simp [Disk.apply, Ne.symm hm, h])
    rcases List.mem_cons.mp hy with hy | hy
    · exact absurd (Effect.artifact.inj hy).1.symm hm
    · exact .inr ⟨y, hy⟩
  | _ =>
    rcases h with h | ⟨y, hy⟩
    · exact .inl h
    · exact .inr ⟨y, by simpa using hy⟩

theorem mem_artifactEffects :
    .artifact n x ∈ (artifactEffects ws : List (Effect F)) ↔ (n, x) ∈ ws := by
  unfold artifactEffects
  rw [List.mem_map]
  constructor
  · rintro ⟨w, hw, heq⟩
    injection heq with hn hx
    subst hn hx
    exact hw
  · exact fun hw => ⟨(n, x), hw, rfl⟩

end Artifacts

section Agreement

variable (a : Appliance F) (env : HelperEnv) (req : ApplyRequest)

structure AppliedOk (e : Step F) : Prop where
  input : e.input = .request env (.request req)
  ran : operations e.output.effects ≠ 0
  notConfirm : req.op ≠ .confirm
  notCommit : req.op ≠ .commitConfirmed
  success : (applyAll a env.apply req e.before.disk e.before.runtime).response.verifiedSuccess = true

/-- Every subsystem whose settings are those of last-good already runs the configuration, and no
subsystem that is to be stopped keeps running when its stop command fails. -/
def Settled (h : Helper F) : Prop :=
  ∀ generated dnsmasq, generateArtifacts a.services req.config env.apply.bcrypt = .ok generated →
    dnsmasqArtifactsChanged a.services generated
      (h.disk.lastGood.map a.rules.migrateLegacyFields) = .ok dnsmasq →
    ∀ k : Component,
      let changed := changeFlags req.config (h.disk.lastGood.map a.rules.migrateLegacyFields) dnsmasq
      (k.touched changed = false → k.reflects req.config generated (h.runtime k) = true) ∧
        (k.touched changed = true → k.stopsUnchecked = true → k.enabled req.config = false →
          k.result env.apply.activate ≠ .ok () →
          k.reflects req.config generated (env.apply.activate.left k) = true)

variable {a env req}

section

omit [DecidableEq F]

theorem Applied.activated (hran : Applied a env.apply req d rt ran)
    (hr : ran.response.verifiedSuccess = true) : ∃ prep tail, Admitted a env.apply req d prep ∧
      (activation a env.apply req rt prep).aborted = none ∧
      ran.effects = artifactEffects (activation a env.apply req rt prep).writes ++ tail ∧
      (∀ n x, .artifact n x ∉ tail) ∧ ran.runtime = (activation a env.apply req rt prep).state := by
  cases hran with
  | refused h => cases (admission_refusal _ h).unverified.symm.trans hr
  | undone hprep hwritten hundone => cases hundone.unverified.symm.trans hr
  | uncleared => cases hr
  | pended hprep hactive | committed hprep hactive =>
    exact ⟨_, _, hprep, hactive, rfl, by simp, rfl⟩

theorem activation_completed (hprep : Admitted a env.apply req d prep)
    (hactive : (activation a env.apply req rt prep).aborted = none) :
    ∃ dnsmasq, dnsmasqArtifactsChanged a.services prep.generated
        (d.lastGood.map a.rules.migrateLegacyFields) = .ok dnsmasq ∧
      activation a env.apply req rt prep =
        Script.run (installScript env.apply.activate req.config prep.generated prep.previous
          req.requireConfirmation (changeFlags req.config
            (d.lastGood.map a.rules.migrateLegacyFields) dnsmasq)) rt := by
  rw [← hprep.previous_eq]
  unfold activation installAndActivate at hactive ⊢
  cases hd : dnsmasqArtifactsChanged a.services prep.generated prep.previous with
  | error =>
    rw [hd] at hactive
    cases hactive
  | ok dnsmasq => exact ⟨dnsmasq, rfl, rfl⟩

theorem artifacts_of_activation (hprep : Admitted a env.apply req d prep)
    (hactive : (activation a env.apply req rt prep).aborted = none)
    (htail : ∀ n x, .artifact n x ∉ tail) (d' : Disk F) (n : ArtifactName) :
    (d'.applyAll (artifactEffects (activation a env.apply req rt prep).writes ++ tail)).artifacts n =
      some (prep.generated n) := by
  obtain ⟨_, -, hrun⟩ := activation_completed hprep hactive
  rw [hrun] at hactive ⊢
  rw [installScript_writes hactive]
  have hwritten : ∀ x, .artifact n x ∈ (artifactEffects (restoreArtifacts.map fun n =>
      (n, some (prep.generated n))) : List (Effect F)) ++ tail ↔ x = some (prep.generated n) := by
    intro x
    rw [List.mem_append, mem_artifactEffects, List.mem_map]
    constructor
    · rintro (⟨m, -, heq⟩ | hx)
      · cases heq
        rfl
      · exact absurd hx (htail n x)
    · rintro rfl
      exact .inl ⟨n, mem_restoreArtifacts n, rfl⟩
  exact artifacts_applyAll (fun x hx => (hwritten x).mp hx) (.inr ⟨_, (hwritten _).mpr rfl⟩)

end

theorem execute_of_apply (hconfirm : req.op ≠ .confirm) (hcommit : req.op ≠ .commitConfirmed) :
    execute a env req h = applyAll a env.apply req h.disk h.runtime := by
  unfold execute
  split
  · exact absurd (by assumption) hconfirm
  · exact absurd (by assumption) hcommit
  · rfl

/-- What a request that applied its configuration leaves: all its artifacts, and the subsystems as
the activation left them. -/
theorem AppliedOk.activated
    (hok : AppliedOk a env req ((helper a).step h (.request env (.request req)))) :
    ∃ prep, Admitted a env.apply req h.disk prep ∧
      (activation a env.apply req h.runtime prep).aborted = none ∧
      (∀ n, (processRequest a env h (.request req)).helper.disk.artifacts n =
        some (prep.generated n)) ∧ (processRequest a env h (.request req)).helper.runtime =
        (activation a env.apply req h.runtime prep).state := by
  have hran := hok.ran
  change operations (processRequest a env h (.request req)).effects ≠ 0 at hran
  have hsuccess : (applyAll a env.apply req h.disk h.runtime).response.verifiedSuccess = true :=
    hok.success
  obtain ⟨prep, _, hprep, hactive, heffects, htail, hruntime⟩ :=
    Applied.activated applied_applyAll hsuccess
  refine ⟨prep, hprep, hactive, ?_⟩
  obtain ⟨_, ran, _, written, -, -, -, hclosed, hexact, heq⟩ := exists_ran hran
  rw [heq]
  have hsame : ran = applyAll a env.apply req h.disk h.runtime :=
    hexact.trans (execute_of_apply hok.notConfirm hok.notCommit)
  have hjournal : ∀ n x, Effect.artifact n x ∉ written := fun n x =>
    hclosed.not_mem fun r h => by cases h
  refine ⟨fun n => ?_, by rw [hsame]; exact hruntime⟩
  rw [Disk.applyAll_cons, Disk.applyAll_cons, hsame, heffects, List.append_assoc]
  refine artifacts_of_activation hprep hactive (fun n x hx => ?_) _ n
  rcases List.mem_append.mp hx with hx | hx
  · exact htail n x hx
  · exact hjournal n x hx

end Agreement

end MinimalRouter.Applyd
