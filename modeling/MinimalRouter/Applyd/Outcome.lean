import MinimalRouter.Applyd.Startup
import MinimalRouter.Lib.Result

namespace MinimalRouter.Applyd

open Goish Config Apply Lib Lib.Script Lib.Result

variable {F : Type} [DecidableEq F]

namespace Effect

def isArtifact : Effect F → Bool
  | artifact _ _ => true
  | _ => false

/-- The effects an operation itself can have, as opposed to those of the journal around it. -/
def isPrivileged : Effect F → Bool
  | journal _ => false
  | operation _ => false
  | _ => true

end Effect

section Admission

variable {d : Disk F}

structure Admitted (a : Appliance F) (env : ApplyEnv) (req : ApplyRequest) (d : Disk F)
    (prep : Prepared) : Prop where
  previous : normalizeLastGood (loadLastGoodRaw a.rules env.lastGoodRead d) = .ok prep.previous
  candidate : validateLiveCandidate a.rules req.config prep.previous = .ok ()
  confirmation : validateConfirmationRequest req prep.previous = .ok ()
  generated : generateArtifacts a.services req.config env.bcrypt = .ok prep.generated
  files : prep.files = d.artifacts

omit [DecidableEq F] in
theorem admitted_of_admission (h : admission a env req d = .ok prep) :
    Admitted a env req d prep := by
  unfold admission at h
  simp only [bind_eq_ok, mapError_eq_ok] at h
  obtain ⟨_, hp, _, hc, _, hv, _, hg, _, _, _, _, _, _, _, _, _, _, _, _, h⟩ := h
  cases h
  exact ⟨hp, hc, hv, hg, rfl⟩

omit [DecidableEq F] in
theorem Admitted.previous_eq (hprep : Admitted a env req d prep) :
    prep.previous = d.lastGood.map a.rules.migrateLegacyFields := by
  have hprevious := hprep.previous
  unfold loadLastGoodRaw at hprevious
  cases hread : env.lastGoodRead with
  | error =>
    rw [hread] at hprevious
    cases hprevious
  | ok =>
    cases hd : d.lastGood with
    | none | some =>
      rw [hread, hd] at hprevious
      exact (Except.ok.inj hprevious).symm

structure Refusal (req : ApplyRequest) (response : ApplyResponse) : Prop where
  id : response.id = req.id
  unverified : response.verifiedSuccess = false
  valid : response.validate = .ok ()
  kept : response.rolledBack = false

theorem refusal_refuse (req : ApplyRequest) (message : String) :
    Refusal req (refuse req message) := ⟨rfl, rfl, rfl, rfl⟩

theorem refusal_recoveryFailure (req : ApplyRequest) (message : String) :
    Refusal req (recoveryFailure req.id message) := ⟨rfl, rfl, rfl, rfl⟩

omit [DecidableEq F] in
theorem admission_refusal : ErrorsIn (Refusal req) (admission a env req d) := by
  unfold admission
  refine .bind (.mapError (fun _ => refusal_recoveryFailure req _) _) fun previous => ?_
  refine .bind (.mapError (fun _ => refusal_refuse req _) _) fun _ => ?_
  refine .bind (.mapError (refusal_refuse req) _) fun _ => ?_
  refine .bind (.mapError (fun _ => refusal_refuse req _) _) fun generated => ?_
  refine .bind (.mapError (fun _ => refusal_refuse req _) _) fun _ => ?_
  refine .bind (.mapError (refusal_refuse req) _) fun _ => ?_
  refine .bind (.mapError (fun _ => refusal_refuse req _) _) fun _ => ?_
  refine .bind (.mapError (fun _ => refusal_refuse req _) _) fun _ => ?_
  refine .bind (.mapError (fun _ => refusal_refuse req _) _) fun _ => ?_
  exact .bind (.mapError (fun _ => refusal_refuse req _) _) fun _ => .pure _

end Admission

section Writes

omit [DecidableEq F]

variable {e : Effect F}

theorem writeFile_ok (h : (writeFile w e).1 = .ok ()) : (writeFile w e).2 = [e] := by
  simp [writeFile, WriteOutcome.done_of_result h]

theorem writeFile_error (h : (writeFile w e).1 = .error x) :
    (writeFile w e).2 = [] ∨ (writeFile w e).2 = [e] ∧ w.atomic = false := by
  cases w with
  | ok => cases h
  | failed => exact .inl rfl
  | replaced => exact .inr ⟨rfl, rfl⟩

theorem saveLastGood_ok (h : (saveLastGood rules w cfg : CmdResult × List (Effect F)).1 = .ok ()) :
    (saveLastGood rules w cfg : CmdResult × List (Effect F)).2 = [.lastGood cfg] := by
  unfold saveLastGood at h ⊢
  split
  · simp_all
  · simp_all [writeFile_ok]

theorem saveLastGood_error
    (h : (saveLastGood rules w cfg : CmdResult × List (Effect F)).1 = .error x) :
    (saveLastGood rules w cfg : CmdResult × List (Effect F)).2 = [] ∨
      (saveLastGood rules w cfg : CmdResult × List (Effect F)).2 = [.lastGood cfg] ∧
        w.atomic = false := by
  unfold saveLastGood at h ⊢
  split
  · exact .inl rfl
  · simp_all [writeFile_error]

end Writes

section Persist

variable {a : Appliance F}

theorem savePending_ok (h : (savePending a env req prep).1 = .ok ()) :
    ∃ hash, a.digest.hashConfig req.config = some hash ∧
      (savePending a env req prep).2 = [.pending (pendingRecord env req prep hash)] ∧
      validatePendingConfirmation a (pendingRecord env req prep hash) = .ok () := by
  unfold savePending savePendingConfirmation at h ⊢
  cases hh : a.digest.hashConfig req.config with
  | none => simp [hh] at h
  | some hash =>
    refine ⟨hash, rfl, ?_⟩
    cases hv : validatePendingConfirmation a (pendingRecord env req prep hash) with
    | error => simp [hh, hv] at h
    | ok =>
      simp only [hh, hv] at h ⊢
      exact ⟨writeFile_ok h, trivial⟩

theorem savePending_error (h : (savePending a env req prep).1 = .error x) :
    (savePending a env req prep).2 = [] ∨ env.pendingWrite.atomic = false ∧
      ∃ p, (savePending a env req prep).2 = [.pending p] := by
  unfold savePending savePendingConfirmation at h ⊢
  cases hh : a.digest.hashConfig req.config with
  | none => exact .inl rfl
  | some hash =>
    cases hv : validatePendingConfirmation a (pendingRecord env req prep hash) with
    | error => exact .inl (by simp [hv])
    | ok =>
      simp only [hh, hv] at h ⊢
      rcases writeFile_error h with hw | ⟨hw, hatomic⟩
      · exact .inl hw
      · exact .inr ⟨hatomic, _, hw⟩

end Persist

section ApplyAll

variable (a : Appliance F) (env : ApplyEnv) (req : ApplyRequest) (d : Disk F) (rt : Runtime)

def activation (prep : Prepared) : Report Component (Option Active) ArtifactWrite String :=
  installAndActivate env.activate req.config prep.generated prep.previous a.services
    req.requireConfirmation rt

/-- The effects of a rollback: files are restored, and only a verified one discards the pending
record. -/
structure Restored (response : ApplyResponse) (undone : List (Effect F)) : Prop where
  id : response.id = req.id
  unverified : response.verifiedSuccess = false
  valid : response.validate = .ok ()
  effects : ∃ arts tail, undone = arts ++ tail ∧ (∀ e ∈ arts, e.isArtifact = true) ∧
    (response.recoveryRequired = false ∧ tail = [.clearPending] ∨
      response.recoveryRequired = true ∧ (tail = [] ∨
        tail = [.clearPending] ∧ env.rollbackClear.atomic = false))

def Replaced (written : List (Effect F)) : Prop :=
  written = [] ∨
    (req.requireConfirmation || req.deferLastGood) = true ∧ env.pendingWrite.atomic = false ∧
      (∃ p, written = [.pending p]) ∨
    env.lastGoodWrite.atomic = false ∧ written = [.lastGood req.config]

inductive Applied : Ran F → Prop
  | refused {response : ApplyResponse} (h : admission a env req d = .error response) :
      Applied ⟨response, [], rt⟩
  | undone {prep : Prepared} {response : ApplyResponse} {written undone : List (Effect F)}
      {rt' : Runtime} (hprep : Admitted a env req d prep) (hwritten : Replaced env req written)
      (hundone : Restored env req response undone) :
      Applied ⟨response,
        artifactEffects (activation a env req rt prep).writes ++ written ++ undone, rt'⟩
  | pended {prep : Prepared} {hash : F} (hprep : Admitted a env req d prep)
      (hactive : (activation a env req rt prep).aborted = none)
      (hmode : (req.requireConfirmation || req.deferLastGood) = true)
      (hhash : a.digest.hashConfig req.config = some hash) :
      Applied ⟨succeed req "validated, preflighted, applied, and verified",
        artifactEffects (activation a env req rt prep).writes ++
          [.pending (pendingRecord env req prep hash)], (activation a env req rt prep).state⟩
  | committed {prep : Prepared} (hprep : Admitted a env req d prep)
      (hactive : (activation a env req rt prep).aborted = none)
      (hmode : (req.requireConfirmation || req.deferLastGood) = false) :
      Applied ⟨succeed req "validated, preflighted, applied, and verified",
        artifactEffects (activation a env req rt prep).writes ++
          [.lastGood req.config, .clearPending], (activation a env req rt prep).state⟩
  | uncleared {prep : Prepared} {removed : List (Effect F)} {message : String}
      (hprep : Admitted a env req d prep)
      (hmode : (req.requireConfirmation || req.deferLastGood) = false)
      (hremoved : removed = [] ∨ removed = [.clearPending] ∧ env.pendingClear.atomic = false) :
      Applied ⟨recoveryFailure req.id message,
        artifactEffects (activation a env req rt prep).writes ++ [.lastGood req.config] ++ removed,
        (activation a env req rt prep).state⟩

section

omit [DecidableEq F]

theorem isArtifact_artifactEffects (writes : List ArtifactWrite) :
    ∀ e ∈ (artifactEffects writes : List (Effect F)), e.isArtifact = true := by
  intro e he
  obtain ⟨w, -, rfl⟩ := List.mem_map.mp he
  rfl

theorem rollback_cases (prep : Prepared) :
    ∃ arts tail rt' result, rollback a env req prep rt = (rt', arts ++ tail, result) ∧
      (∀ e ∈ arts, (e : Effect F).isArtifact = true) ∧ (result = .ok () ∧ tail = [.clearPending] ∨
        (∃ x, result = .error x) ∧ (tail = [] ∨
          tail = [.clearPending] ∧ env.rollbackClear.atomic = false)) := by
  unfold rollback
  obtain ⟨rt', writes, result⟩ :=
    rollbackRuntime env.rollback prep.previous req.config prep.files a.services rt
  have harts := isArtifact_artifactEffects (F := F) writes
  cases result with
  | error e =>
    exact ⟨artifactEffects writes, [], rt', .error e, by simp, harts, .inr ⟨⟨e, rfl⟩, .inl rfl⟩⟩
  | ok =>
    refine ⟨artifactEffects writes, (clearPendingConfirmation env.rollbackClear).2, rt', _, rfl,
      harts, ?_⟩
    cases hc : (clearPendingConfirmation env.rollbackClear : CmdResult × List (Effect F)).1 with
    | ok => exact .inl ⟨congrArg (wrapf _) hc, writeFile_ok hc⟩
    | error => exact .inr ⟨⟨_, congrArg (wrapf _) hc⟩, writeFile_error hc⟩

theorem rollBackWith_cases (prep : Prepared) (effects : List (Effect F))
    (unverified restored : String) :
    ∃ response undone rt', rollBackWith a env req prep effects rt unverified restored =
      ⟨response, effects ++ undone, rt'⟩ ∧ Restored env req response undone := by
  obtain ⟨arts, tail, rt', _, hr, harts, htail⟩ := rollback_cases a env req rt prep
  unfold rollBackWith
  rw [hr]
  rcases htail with ⟨rfl, htail⟩ | ⟨⟨x, rfl⟩, htail⟩
  · exact ⟨_, _, _, rfl, rfl, rfl, rfl, arts, tail, rfl, harts, .inl ⟨rfl, htail⟩⟩
  · exact ⟨_, _, _, rfl, rfl, rfl, rfl, arts, tail, rfl, harts, .inr ⟨rfl, htail⟩⟩

end

variable {a env req d}

omit [DecidableEq F] in
theorem applied_rollBackWith {prep : Prepared} (hprep : Admitted a env req d prep)
    {written : List (Effect F)} (hwritten : Replaced env req written) (rt' : Runtime)
    (unverified restored : String) : Applied a env req d rt (rollBackWith a env req prep
      (artifactEffects (activation a env req rt prep).writes ++ written) rt' unverified restored) := by
  obtain ⟨_, undone, _, hr, hundone⟩ := rollBackWith_cases a env req rt' prep
    (artifactEffects (activation a env req rt prep).writes ++ written) unverified restored
  rw [hr]
  exact .undone hprep hwritten hundone

variable {rt}

theorem applied_persistPending {prep : Prepared} (hprep : Admitted a env req d prep)
    (hactive : (activation a env req rt prep).aborted = none)
    (hmode : (req.requireConfirmation || req.deferLastGood) = true) :
    Applied a env req d rt (persistPending a env req prep
      (artifactEffects (activation a env req rt prep).writes)
      (activation a env req rt prep).state) := by
  unfold persistPending
  cases hs : (savePending a env req prep).1 with
  | ok =>
    obtain ⟨_, hhash, hw, -⟩ := savePending_ok hs
    simp only [hs, hw]
    exact .pended hprep hactive hmode hhash
  | error =>
    simp only [hs]
    refine applied_rollBackWith rt hprep ?_ _ _ _
    rcases savePending_error hs with hw | hw
    · exact .inl hw
    · exact .inr (.inl ⟨hmode, hw⟩)

omit [DecidableEq F] in
theorem applied_persistLastGood {prep : Prepared} (hprep : Admitted a env req d prep)
    (hactive : (activation a env req rt prep).aborted = none)
    (hmode : (req.requireConfirmation || req.deferLastGood) = false) :
    Applied a env req d rt (persistLastGood a env req prep
      (artifactEffects (activation a env req rt prep).writes)
      (activation a env req rt prep).state) := by
  unfold persistLastGood
  cases hs : (saveLastGood a.rules env.lastGoodWrite req.config :
      CmdResult × List (Effect F)).1 with
  | error =>
    simp only [hs]
    refine applied_rollBackWith rt hprep ?_ _ _ _
    rcases saveLastGood_error hs with hw | ⟨hw, hatomic⟩
    · exact .inl hw
    · exact .inr (.inr ⟨hatomic, hw⟩)
  | ok u =>
    simp only [hs, saveLastGood_ok hs]
    cases hc : (clearPendingConfirmation env.pendingClear : CmdResult × List (Effect F)).1 with
    | error =>
      exact .uncleared hprep hmode (writeFile_error hc)
    | ok =>
      simp only [show (clearPendingConfirmation env.pendingClear :
        CmdResult × List (Effect F)).2 = [.clearPending] from writeFile_ok hc]
      simpa using Applied.committed hprep hactive hmode

theorem applied_applyAll : Applied a env req d rt (applyAll a env req d rt) := by
  unfold applyAll
  cases hadmit : admission a env req d with
  | error => exact .refused hadmit
  | ok prep =>
  have hprep := admitted_of_admission hadmit
  have hstage : ∀ stage e, Applied a env req d rt (rollBackStage a env req prep
      (artifactEffects (activation a env req rt prep).writes) (activation a env req rt prep).state
      stage e) := by
    intro stage e
    have h := applied_rollBackWith rt hprep (.inl rfl) (activation a env req rt prep).state
      (stage ++ " failed and rollback could not be verified")
      (stage ++ " failed; previous configuration restored: " ++ safeError e)
    rwa [List.append_nil] at h
  have hactivation : installAndActivate env.activate req.config prep.generated prep.previous
      a.services req.requireConfirmation rt = activation a env req rt prep := rfl
  dsimp only [activate]
  rw [hactivation]
  cases haborted : (activation a env req rt prep).aborted with
  | some e => exact hstage "apply" e
  | none =>
    dsimp only
    cases verifyCandidate env req prep with
    | error e => exact hstage e.1 e.2
    | ok =>
      cases hmode : req.requireConfirmation || req.deferLastGood with
      | true => exact applied_persistPending hprep haborted hmode
      | false => exact applied_persistLastGood hprep haborted hmode

end ApplyAll

section Confirm

variable {a : Appliance F} {req : ApplyRequest} {d : Disk F} {read : CmdResult}

theorem loadPendingConfirmation_found (h : loadPendingConfirmation a read d = .found p) :
    d.pending = some p ∧ validatePendingConfirmation a p = .ok () := by
  unfold loadPendingConfirmation loadFile Loaded.validated at h
  cases read with
  | error => simp at h
  | ok u =>
    cases hp : d.pending with
    | none => simp [hp] at h
    | some q =>
      cases hv : validatePendingConfirmation a q with
      | error => simp [hp, hv] at h
      | ok => simp_all

structure Matched (a : Appliance F) (req : ApplyRequest) (d : Disk F)
    (p : PendingConfirmation F) : Prop where
  stored : d.pending = some p
  checked : validatePendingConfirmation a p = .ok ()
  hash : a.digest.hashConfig req.config = some p.configHash
  valid : a.rules.validate req.config = .ok ()

theorem matched_of_matchPending (h : matchPending a req d read invalid mismatch = .ok p) :
    Matched a req d p := by
  unfold matchPending at h
  simp only [bind_eq_ok, mapError_eq_ok] at h
  obtain ⟨_, hvalid, h⟩ := h
  cases hl : loadPendingConfirmation a read d with
  | notFound | unreadable => simp [hl, throw, throwThe, MonadExceptOf.throw] at h
  | found =>
    obtain ⟨hq, hchecked⟩ := loadPendingConfirmation_found hl
    simp only [hl] at h
    split at h
    · rename_i hhash
      cases h
      exact ⟨hq, hchecked, hhash, hvalid⟩
    · cases h

theorem matchPending_refusal :
    ErrorsIn (Refusal req) (matchPending a req d read invalid mismatch) := by
  unfold matchPending
  refine .bind (.mapError (fun _ => refusal_refuse req _) _) fun _ => ?_
  intro response h
  cases hl : loadPendingConfirmation a read d with
  | notFound =>
    simp only [hl] at h
    cases h
    exact refusal_refuse req _
  | unreadable =>
    simp only [hl] at h
    cases h
    exact refusal_recoveryFailure req _
  | found =>
    simp only [hl] at h
    split at h
    · cases h
    · cases h
      exact refusal_refuse req _

variable (a req d rt)

inductive Confirmed (env : ConfirmEnv) : Ran F → Prop
  | refused {response : ApplyResponse} (h : Refusal req response) :
      Confirmed env ⟨response, [], rt'⟩
  | confirmed {read : List (Effect F)}
      (hp : Matched a req d p) (hread : confirmTunnel req env p = .ok read) :
      Confirmed env ⟨succeed req "runtime confirmation verified; canonical commit pending", read,
        rt'⟩

theorem confirmed_confirmApply (env : ConfirmEnv) :
    Confirmed a req d env (confirmApply a req d rt env) := by
  unfold confirmApply
  cases hm : matchPending a req d env.pendingRead "confirmation configuration is invalid"
      "confirmation does not match pending configuration" with
  | error response => exact .refused (matchPending_refusal response hm)
  | ok p =>
    cases env.lan with
    | error => exact .refused (refusal_recoveryFailure req _)
    | ok u =>
      cases hv : verifyActive env.verify req.config (verificationPlan .confirm none req.config) with
      | error => exact .refused (refusal_recoveryFailure req _)
      | ok =>
        cases ht : confirmTunnel req env p with
        | error =>
          simp only [ht]
          exact .refused (refusal_recoveryFailure req _)
        | ok =>
          simp only [ht]
          exact .confirmed (matched_of_matchPending hm) ht

inductive Committed (env : CommitEnv) : Ran F → Prop
  | refused {response : ApplyResponse} (h : Refusal req response) : Committed env ⟨response, [], rt⟩
  | unsaved (hp : Matched a req d p)
      (hwritten : written = [] ∨ written = [.lastGood req.config] ∧ env.lastGoodWrite.atomic = false) :
      Committed env ⟨recoveryFailure req.id message, written, rt⟩
  | uncleared (hp : Matched a req d p)
      (hremoved : removed = [] ∨ removed = [.clearPending] ∧ env.pendingClear.atomic = false) :
      Committed env ⟨recoveryFailure req.id message, [.lastGood req.config] ++ removed, rt⟩
  | committed (hp : Matched a req d p) :
      Committed env ⟨succeed req "confirmed configuration committed as canonical last-good",
        [.lastGood req.config, .clearPending], rt⟩

theorem committed_commitConfirmedApply (env : CommitEnv) :
    Committed a req d rt env (commitConfirmedApply a req d rt env) := by
  unfold commitConfirmedApply
  cases hm : matchPending a req d env.pendingRead "confirmed commit configuration is invalid"
      "confirmed commit does not match pending configuration" with
  | error response => exact .refused (matchPending_refusal response hm)
  | ok =>
  have hp := matched_of_matchPending hm
  cases hv : verifyActive env.verify req.config
      (verificationPlan .commitConfirmed none req.config) with
  | error => exact .refused (refusal_recoveryFailure req _)
  | ok u =>
    cases hs : (saveLastGood a.rules env.lastGoodWrite req.config :
        CmdResult × List (Effect F)).1 with
    | error =>
      simp only [hs]
      exact .unsaved hp (saveLastGood_error hs)
    | ok u =>
      simp only [hs, saveLastGood_ok hs]
      cases hc : (clearPendingConfirmation env.pendingClear : CmdResult × List (Effect F)).1 with
      | error => exact .uncleared hp (writeFile_error hc)
      | ok =>
        simp only [show (clearPendingConfirmation env.pendingClear :
          CmdResult × List (Effect F)).2 = [.clearPending] from writeFile_ok hc]
        exact .committed hp

end Confirm

section Execute

variable (a : Appliance F) (env : HelperEnv) (req : ApplyRequest) (h : Helper F)

inductive Executed : Ran F → Prop
  | confirmed {ran : Ran F} (hop : req.op = .confirm)
      (hran : Confirmed a req h.disk env.confirm ran) : Executed ran
  | committed {ran : Ran F} (hop : req.op = .commitConfirmed)
      (hran : Committed a req h.disk h.runtime env.commit ran) : Executed ran
  | applied {ran : Ran F} (hconfirm : req.op ≠ .confirm) (hcommit : req.op ≠ .commitConfirmed)
      (hran : Applied a env.apply req h.disk h.runtime ran) : Executed ran

theorem executed_execute : Executed a env req h (execute a env req h) := by
  unfold execute
  split
  · rename_i hop
    exact .confirmed hop (confirmed_confirmApply a req h.disk h.runtime env.confirm)
  · rename_i hop
    exact .committed hop (committed_commitConfirmedApply a req h.disk h.runtime env.commit)
  · rename_i hconfirm hcommit
    exact .applied hconfirm hcommit applied_applyAll

variable {a env req h}

section

omit [DecidableEq F]

theorem isPrivileged_of_isArtifact {e : Effect F} (he : e.isArtifact = true) :
    e.isPrivileged = true := by
  cases e <;> simp_all [Effect.isArtifact, Effect.isPrivileged]

theorem confirmTunnel_effects {env : ConfirmEnv} {p : PendingConfirmation F}
    {read : List (Effect F)} (hread : confirmTunnel req env p = .ok read) :
    read = [] ∧ req.config.wgClient.enabled = false ∨
      ∃ notBefore last, read = [.handshake req.config notBefore last] ∧
        notBefore = (if p.wgClientChanged then some p.handshakeNotBefore else none) ∧
        verifyWgClientHandshake last req.config.wgClient.persistentKeepalive notBefore
          env.now.now.unix = .ok () := by
  unfold confirmTunnel at hread
  split at hread
  · simp only [bind_eq_ok] at hread
    obtain ⟨last, -, _, hverify, hread⟩ := hread
    cases hread
    exact .inr ⟨_, last, rfl, rfl, hverify⟩
  rename_i hoff
  cases hread
  exact .inl ⟨rfl, by simpa using hoff⟩

theorem privileged_artifactEffects (writes : List ArtifactWrite) :
    ∀ e ∈ (artifactEffects writes : List (Effect F)), e.isPrivileged = true := fun e he =>
  isPrivileged_of_isArtifact (isArtifact_artifactEffects writes e he)

theorem Restored.privileged {env : ApplyEnv} {response : ApplyResponse} {undone : List (Effect F)}
    (hundone : Restored env req response undone) : ∀ e ∈ undone, e.isPrivileged = true := by
  obtain ⟨_, _, rfl, harts, htail⟩ := hundone.effects
  rw [List.forall_mem_append]
  refine ⟨fun e he => isPrivileged_of_isArtifact (harts e he), ?_⟩
  rcases htail with ⟨-, rfl⟩ | ⟨-, rfl | ⟨rfl, -⟩⟩ <;> simp [Effect.isPrivileged]

theorem Replaced.privileged {env : ApplyEnv} {written : List (Effect F)}
    (hwritten : Replaced env req written) : ∀ e ∈ written, e.isPrivileged = true := by
  rcases hwritten with rfl | ⟨-, -, p, rfl⟩ | ⟨-, rfl⟩ <;> simp [Effect.isPrivileged]

theorem Applied.privileged {env : ApplyEnv} {d : Disk F} {rt : Runtime}
    (hran : Applied a env req d rt ran) : ∀ e ∈ ran.effects, e.isPrivileged = true := by
  cases hran with
  | refused => simp
  | undone hprep hwritten hundone =>
    simp only [List.forall_mem_append]
    exact ⟨⟨privileged_artifactEffects _, hwritten.privileged⟩, hundone.privileged⟩
  | pended | committed =>
    rw [List.forall_mem_append]
    exact ⟨privileged_artifactEffects _, by simp [Effect.isPrivileged]⟩
  | uncleared hprep hmode hremoved =>
    simp only [List.forall_mem_append]
    refine ⟨⟨privileged_artifactEffects _, by simp [Effect.isPrivileged]⟩, ?_⟩
    rcases hremoved with rfl | ⟨rfl, -⟩ <;> simp [Effect.isPrivileged]

end

theorem Executed.privileged (hran : Executed a env req h ran) :
    ∀ e ∈ ran.effects, e.isPrivileged = true := by
  cases hran with
  | confirmed hop hran =>
    cases hran with
    | refused => simp
    | confirmed hp hread =>
      rcases confirmTunnel_effects hread with ⟨rfl, -⟩ | ⟨_, _, rfl, -⟩ <;>
        simp [Effect.isPrivileged]
  | committed hop hran =>
    cases hran with
    | refused => simp
    | unsaved hp hwritten => rcases hwritten with rfl | ⟨rfl, -⟩ <;> simp [Effect.isPrivileged]
    | uncleared hp hremoved => rcases hremoved with rfl | ⟨rfl, -⟩ <;> simp [Effect.isPrivileged]
    | committed => simp [Effect.isPrivileged]
  | applied hconfirm hcommit hran => exact hran.privileged

end Execute

end MinimalRouter.Applyd
