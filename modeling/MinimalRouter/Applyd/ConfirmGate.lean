import MinimalRouter.Applyd.Journal

namespace MinimalRouter.Applyd

open Goish Config Apply Lib Lib.Machine

variable {F : Type} [DecidableEq F]

section Policy

omit [DecidableEq F]

variable {es : List (Effect F)}

theorem foldl_onLastGood_artifacts (c : Option SystemConfig) (h : ∀ e ∈ es, e.isArtifact = true) :
    es.foldl Effect.onLastGood c = c := by
  induction es with
  | nil => rfl
  | cons e es =>
    have he := h e (.head es)
    cases e <;> simp_all [Effect.isArtifact, Effect.onLastGood]

theorem foldl_onPending_artifacts (p : Option (PendingConfirmation F))
    (h : ∀ e ∈ es, e.isArtifact = true) : es.foldl Effect.onPending p = p := by
  induction es with
  | nil => rfl
  | cons e es =>
    have he := h e (.head es)
    cases e <;> simp_all [Effect.isArtifact, Effect.onPending]

theorem onPending_of_unpended (hes : ∀ q, .pending q ∉ es)
    (h : es.foldl Effect.onPending p = some q) : p = some q := by
  induction es generalizing p with
  | nil => exact h
  | cons e es ih =>
    have hstep := ih (fun q hq => hes q (.tail e hq)) h
    cases e with
    | pending q' => exact absurd (.head es) (hes q')
    | clearPending => cases hstep
    | _ => exact hstep

end Policy

theorem hashConfig_of_checked {a : Appliance F} (h : validatePendingConfirmation a p = .ok ()) :
    a.digest.hashConfig p.config = some p.configHash := by
  unfold validatePendingConfirmation at h
  by_cases hstamp : p.handshakeNotBefore ≤ 0
  · simp only [hstamp, ↓reduceIte] at h
    cases h
  simp only [hstamp, ↓reduceIte] at h
  obtain ⟨_, -, h⟩ := Result.bind_eq_ok.mp h
  cases hhash : a.digest.hashConfig p.config with
  | none => simp [hhash] at h
  | some =>
    simp only [hhash] at h
    split at h
    · cases h
    · simp_all

structure HelperEnv.AtomicWrites (env : HelperEnv) : Prop where
  applyLastGood : env.apply.lastGoodWrite.atomic = true
  applyPending : env.apply.pendingWrite.atomic = true
  applyClear : env.apply.pendingClear.atomic = true
  rollbackClear : env.apply.rollbackClear.atomic = true
  commitLastGood : env.commit.lastGoodWrite.atomic = true
  commitClear : env.commit.pendingClear.atomic = true

section Moves

variable (a : Appliance F) (env : HelperEnv) (req : ApplyRequest) (h : Helper F)
  (effects : List (Effect F))

/-- What an operation does to the last-good configuration and the pending record when writes are
atomic, and with which answer. -/
inductive Moved : ApplyResponse → Option SystemConfig → Option (PendingConfirmation F) → Prop
  | kept {response : ApplyResponse}
      (happly : req.op ≠ .confirm → req.op ≠ .commitConfirmed →
        admission a env.apply req h.disk = .error response) :
      Moved response h.disk.lastGood h.disk.pending
  | unresolved {response : ApplyResponse} (hr : response.recoveryRequired = true) :
      Moved response h.disk.lastGood h.disk.pending
  | rolledBack {response : ApplyResponse} (hr : response.verifiedSuccess = false) :
      Moved response h.disk.lastGood none
  | pended {response : ApplyResponse} {prep : Prepared} {hash : F}
      (hconfirm : req.op ≠ .confirm) (hcommit : req.op ≠ .commitConfirmed)
      (hprep : Admitted a env.apply req h.disk prep)
      (hmode : (req.requireConfirmation || req.deferLastGood) = true)
      (hwritten : .pending (pendingRecord env.apply req prep hash) ∈ effects)
      (hr : response.verifiedSuccess = true) :
      Moved response h.disk.lastGood (some (pendingRecord env.apply req prep hash))
  | applied {response : ApplyResponse} {prep : Prepared} {pending : Option (PendingConfirmation F)}
      (hconfirm : req.op ≠ .confirm) (hcommit : req.op ≠ .commitConfirmed)
      (hprep : Admitted a env.apply req h.disk prep)
      (hmode : (req.requireConfirmation || req.deferLastGood) = false)
      (hr : pending = none ∨ response.recoveryRequired = true) :
      Moved response (some req.config) pending
  | committed {response : ApplyResponse} {p : PendingConfirmation F}
      {pending : Option (PendingConfirmation F)} (hop : req.op = .commitConfirmed)
      (hp : Matched a req h.disk p) (hr : pending = none ∨ response.recoveryRequired = true) :
      Moved response (some req.config) pending

variable {a env req h}

section

omit [DecidableEq F]

theorem foldl_onLastGood_activation (writes : List ArtifactWrite) (tail : List (Effect F))
    (c : Option SystemConfig) :
    (artifactEffects writes ++ tail).foldl Effect.onLastGood c = tail.foldl Effect.onLastGood c := by
  rw [List.foldl_append, foldl_onLastGood_artifacts c (isArtifact_artifactEffects writes)]

theorem foldl_onPending_activation (writes : List ArtifactWrite) (tail : List (Effect F))
    (p : Option (PendingConfirmation F)) :
    (artifactEffects writes ++ tail).foldl Effect.onPending p = tail.foldl Effect.onPending p := by
  rw [List.foldl_append, foldl_onPending_artifacts p (isArtifact_artifactEffects writes)]

theorem Replaced.eq_nil (hw : env.AtomicWrites) {written : List (Effect F)}
    (hwritten : Replaced env.apply req written) : written = [] := by
  rcases hwritten with rfl | ⟨-, hatomic, -⟩ | ⟨hatomic, -⟩
  · rfl
  · exact absurd (hatomic.symm.trans hw.applyPending) (by simp)
  · exact absurd (hatomic.symm.trans hw.applyLastGood) (by simp)

end

theorem moved_of_applied (hw : env.AtomicWrites) (hconfirm : req.op ≠ .confirm)
    (hcommit : req.op ≠ .commitConfirmed) (hran : Applied a env.apply req h.disk h.runtime ran) :
    Moved a env req h ran.effects ran.response (ran.effects.foldl Effect.onLastGood h.disk.lastGood)
      (ran.effects.foldl Effect.onPending h.disk.pending) := by
  cases hran with
  | refused hr => exact .kept fun _ _ => hr
  | undone hprep hwritten hundone =>
    cases hwritten.eq_nil hw
    obtain ⟨_, _, hundo, harts, htail⟩ := hundone.effects
    subst hundo
    rw [List.append_nil, foldl_onLastGood_activation, foldl_onPending_activation, List.foldl_append,
      List.foldl_append, foldl_onLastGood_artifacts _ harts, foldl_onPending_artifacts _ harts]
    rcases htail with ⟨-, rfl⟩ | ⟨hr, rfl | ⟨-, hatomic⟩⟩
    · exact .rolledBack hundone.unverified
    · exact .unresolved hr
    · exact absurd (hatomic.symm.trans hw.rollbackClear) (by simp)
  | pended hprep hactive hmode =>
    rw [foldl_onLastGood_activation, foldl_onPending_activation]
    exact .pended hconfirm hcommit hprep hmode (by simp) rfl
  | committed hprep hactive hmode =>
    rw [foldl_onLastGood_activation, foldl_onPending_activation]
    exact .applied hconfirm hcommit hprep hmode (.inl rfl)
  | uncleared hprep hmode hremoved =>
    rw [List.append_assoc, foldl_onLastGood_activation, foldl_onPending_activation]
    rcases hremoved with rfl | ⟨-, hatomic⟩
    · exact .applied hconfirm hcommit hprep hmode (.inr rfl)
    · exact absurd (hatomic.symm.trans hw.applyClear) (by simp)

theorem moved_of_executed (hw : env.AtomicWrites) (hran : Executed a env req h ran) :
    Moved a env req h ran.effects ran.response (ran.effects.foldl Effect.onLastGood h.disk.lastGood)
      (ran.effects.foldl Effect.onPending h.disk.pending) := by
  cases hran with
  | confirmed hop hran =>
    have hkept : ∀ effects response, Moved a env req h effects response h.disk.lastGood h.disk.pending :=
      fun effects response => .kept fun hconfirm => absurd hop hconfirm
    cases hran with
    | refused => exact hkept _ _
    | confirmed hp hread =>
      rcases confirmTunnel_effects hread with ⟨rfl, -⟩ | ⟨_, _, rfl, -⟩
      · exact hkept _ _
      · exact hkept _ _
  | committed hop hran =>
    cases hran with
    | refused => exact .kept fun _ hcommit => absurd hop hcommit
    | unsaved hp hwritten =>
      rcases hwritten with rfl | ⟨-, hatomic⟩
      · exact .unresolved rfl
      · exact absurd (hatomic.symm.trans hw.commitLastGood) (by simp)
    | uncleared hp hremoved =>
      rcases hremoved with rfl | ⟨-, hatomic⟩
      · exact .committed hop hp (.inr rfl)
      · exact absurd (hatomic.symm.trans hw.commitClear) (by simp)
    | committed hp => exact .committed hop hp (.inl rfl)
  | applied hconfirm hcommit hran => exact moved_of_applied hw hconfirm hcommit hran

end Moves

section Processed

variable (a : Appliance F) (h : Helper F)

/-- What a request does to the files of the gate and to the memory of the journal. -/
inductive Turned (env : HelperEnv) (data : Payload) (p : Processed F) : Prop
  | still (hlastGood : p.helper.disk.lastGood = h.disk.lastGood)
      (hpending : p.helper.disk.pending = h.disk.pending) (hmemory : p.helper.memory = h.memory)
  | ran {req : ApplyRequest} {response : ApplyResponse} {record : TransactionRecord F}
      (hdata : data = .request req) (hop : req.op.transactional = true)
      (hpassed : Passed env req h) (hmemory : p.helper.memory = some record)
      (hunresolved : record.unresolved = p.response.recoveryRequired)
      (hmoved : Moved a env req h p.effects response p.helper.disk.lastGood p.helper.disk.pending)
      (hresponse : p.response = response ∨ p.response.recoveryRequired = true)

omit [DecidableEq F] in
theorem Closed.response {req : ApplyRequest} {hash : F} {response : ApplyResponse}
    {record : TransactionRecord F} {written : List (Effect F)}
    (hclosed : Closed env req hash response record written) :
    record.unresolved = record.response.recoveryRequired ∧
      (record.response = response ∨ record.response.recoveryRequired = true) := by
  have hdone : env.completedAt.now.isZero = false := Reading.isZero_now _
  cases hclosed with
  | saved => exact ⟨by simp [TransactionRecord.unresolved, outcomeRecord, hdone], .inl rfl⟩
  | unsaved =>
    exact ⟨by simp [TransactionRecord.unresolved, outcomeRecord, hdone], .inr rfl⟩

omit [DecidableEq F] in
theorem Closed.foldl {req : ApplyRequest} {hash : F} {response : ApplyResponse}
    {record : TransactionRecord F} {written : List (Effect F)}
    (hclosed : Closed env req hash response record written) (c : Option SystemConfig)
    (p : Option (PendingConfirmation F)) :
    written.foldl Effect.onLastGood c = c ∧ written.foldl Effect.onPending p = p := by
  cases hclosed with
  | saved => exact ⟨rfl, rfl⟩
  | unsaved hwritten => rcases hwritten with rfl | ⟨rfl, -⟩ <;> exact ⟨rfl, rfl⟩

variable {a h} in
theorem Moved.of_intended {req : ApplyRequest} {hash : F} {response : ApplyResponse}
    {lastGood : Option SystemConfig} {pending : Option (PendingConfirmation F)}
    {effects effects' : List (Effect F)} (hsub : effects ⊆ effects')
    (hmoved : Moved a env req (intended env h req hash) effects response lastGood pending) :
    Moved a env req h effects' response lastGood pending := by
  have hadmitted : ∀ {prep}, Admitted a env.apply req (intended env h req hash).disk prep →
      Admitted a env.apply req h.disk prep := fun hprep =>
    ⟨hprep.previous, hprep.candidate, hprep.confirmation, hprep.generated, hprep.files⟩
  cases hmoved with
  | kept happly => exact .kept happly
  | unresolved hr => exact .unresolved hr
  | rolledBack hr => exact .rolledBack hr
  | pended hconfirm hcommit hprep hmode hwritten hr =>
    exact .pended hconfirm hcommit (hadmitted hprep) hmode (hsub hwritten) hr
  | applied hconfirm hcommit hprep hmode hr =>
    exact .applied hconfirm hcommit (hadmitted hprep) hmode hr
  | committed hop hp hr => exact .committed hop ⟨hp.stored, hp.checked, hp.hash, hp.valid⟩ hr

theorem turned_processRequest (hw : env.AtomicWrites) (data : Payload) :
    Turned a h env data (processRequest a env h data) := by
  have hhandled := handled_processRequest a env h data
  generalize processRequest a env h data = p at hhandled ⊢
  cases hhandled with
  | unread | replayed => exact .still rfl rfl rfl
  | unrecorded hhash hfresh hwritten =>
    rcases hwritten with rfl | ⟨rfl, -⟩ <;> exact .still rfl rfl rfl
  | @ran req hash ran record written hop hhash hfresh hexec hclosed hexact =>
    have hmoved := moved_of_executed hw hexec
    refine .ran rfl hop (passed_of_consultJournal hfresh) rfl hclosed.response.1 ?_
      hclosed.response.2
    have hfold := hclosed.foldl (ran.effects.foldl Effect.onLastGood h.disk.lastGood)
      (ran.effects.foldl Effect.onPending h.disk.pending)
    rw [Disk.lastGood_applyAll, Disk.pending_applyAll, List.foldl_cons, List.foldl_cons,
      List.foldl_append, List.foldl_cons, List.foldl_cons, List.foldl_append]
    have hsub : ran.effects ⊆ .journal (intentRecord env req hash) :: .operation req ::
        (ran.effects ++ written) := fun e he => by simp [he]
    exact hfold.1.symm ▸ hfold.2.symm ▸ hmoved.of_intended hsub

end Processed

section Gate

variable (a : Appliance F)

/-- A successful, verified request wrote the pending record while last-good was `P`. -/
structure Wrote (w : Step F) (P : SystemConfig) (p : PendingConfirmation F) : Prop where
  request : ∃ env req, w.input = .request env (.request req) ∧ p.config = req.config ∧
    (req.op = .reconcile ∨ req.op = .applyAll ∧
      (requiresConfirmation (a.rules.migrateLegacyFields P) req.config = true →
        req.requireConfirmation = true))
  answer : ∃ r, w.output.response = some r ∧ r.verifiedSuccess = true
  written : .pending p ∈ w.output.effects
  before : w.before.disk.lastGood = some P
  after : w.after.disk.lastGood = some P

/-- The pending record was written under a last-good configuration that has stayed the same. -/
def WrittenUnder (past : List (Step F)) (P : SystemConfig) (p : PendingConfirmation F) : Prop :=
  ∃ pre w mid, past = pre ++ w :: mid ∧ Wrote a w P p ∧ ∀ m ∈ mid, m.after.disk.lastGood = some P

def ConfirmationGated (past : List (Step F)) (e : Step F) : Prop :=
  ∀ P C, e.before.disk.lastGood = some P → e.after.disk.lastGood = some C → C ≠ P →
    ∃ env req, e.input = .request env (.request req) ∧ req.config = C ∧
      (req.op = .reconcile ∨
        req.op = .applyAll ∧ requiresConfirmation (a.rules.migrateLegacyFields P) C = false ∨
        req.op = .commitConfirmed ∧ ∃ p, e.before.disk.pending = some p ∧
          a.digest.hashConfig C = some p.configHash ∧ marshal p.config = marshal C ∧
          WrittenUnder a past P p)

/-- A reconciliation that finds a pending record after an unresolved transaction passes every check
before activation. -/
def Recovers (e : Step F) : Prop :=
  ∀ env req m, e.input = .request env (.request req) → req.op = .reconcile →
    e.before.memory = some m → m.unresolved = true → e.before.disk.pending ≠ none →
    ∃ prep, admission a env.apply req e.before.disk = .ok prep

/-- The steps of a helper that only gets requests and whose writes are atomic. -/
def Requested (e : Step F) : Prop :=
  ∃ env data, e.input = .request env data ∧ env.AtomicWrites

structure GateInvariant (past : List (Step F)) (h : Helper F) : Prop where
  lastGood : h.disk.lastGood ≠ none
  pending : ∀ p, h.disk.pending = some p →
    (∃ P, h.disk.lastGood = some P ∧ WrittenUnder a past P p) ∨
      ∃ m, h.memory = some m ∧ m.unresolved = true

variable {a} {past : List (Step F)} {h : Helper F}

omit [DecidableEq F] in
theorem WrittenUnder.snoc (hp : WrittenUnder a past P p) (he : e.after.disk.lastGood = some P) :
    WrittenUnder a (past ++ [e]) P p := by
  obtain ⟨pre, w, mid, rfl, hwrote, hmid⟩ := hp
  refine ⟨pre, w, mid ++ [e], by simp, hwrote, fun m hm => ?_⟩
  rcases List.mem_append.mp hm with hm | hm
  · exact hmid m hm
  · rw [List.mem_singleton.mp hm, he]

omit [DecidableEq F] in
theorem Admitted.confirmed {env : ApplyEnv} (hprep : Admitted a env req d prep)
    (hP : d.lastGood = some P) (hop : req.op = .applyAll)
    (hneeds : requiresConfirmation (a.rules.migrateLegacyFields P) req.config = true) :
    req.requireConfirmation = true := by
  have hvalid := hprep.confirmation
  rw [hprep.previous_eq, hP] at hvalid
  by_contra hflag
  simp [validateConfirmationRequest, hflag, hop, hneeds] at hvalid

theorem OperationType.applied_cases {op : OperationType} (h : op.transactional = true)
    (hconfirm : op ≠ .confirm) (hcommit : op ≠ .commitConfirmed) :
    op = .reconcile ∨ op = .applyAll := by
  cases op <;> simp_all [OperationType.transactional]

variable (hcollision : a.digest.CollisionFree)

include hcollision in
theorem gated_request (hinv : GateInvariant a past h) (hw : env.AtomicWrites) :
    ConfirmationGated a past ((helper a).step h (.request env data)) := by
  intro P C hP hC hne
  change (processRequest a env h data).helper.disk.lastGood = some C at hC
  cases turned_processRequest a h hw data with
  | still hlastGood =>
    rw [hlastGood] at hC
    exact absurd (Option.some.inj (hC.symm.trans hP)) hne
  | @ran req response record hdata hop hpassed hmemory hunresolved hmoved hresponse =>
  subst hdata
  refine ⟨env, req, rfl, ?_⟩
  generalize (processRequest a env h (.request req)).helper.disk.lastGood = lastGood at hC hmoved
  generalize (processRequest a env h (.request req)).helper.disk.pending = pending at hmoved
  have hsame : h.disk.lastGood ≠ some C := fun hsame =>
    hne (Option.some.inj (hsame.symm.trans hP))
  cases hmoved with
  | kept | unresolved | rolledBack | pended => exact absurd hC hsame
  | applied hconfirm hcommit hprep hmode =>
    injection hC with hC
    subst hC
    refine ⟨rfl, ?_⟩
    rcases OperationType.applied_cases hop hconfirm hcommit with hcase | hcase
    · exact .inl hcase
    refine .inr (.inl ⟨hcase, ?_⟩)
    by_contra hneeds
    have hflag := hprep.confirmed hP hcase (by simpa using hneeds)
    simp [hflag] at hmode
  | committed hcase hp =>
    injection hC with hC
    subst hC
    refine ⟨rfl, .inr (.inr ⟨hcase, _, hp.stored, hp.hash, ?_, ?_⟩)⟩
    · exact hcollision _ _ _ (hashConfig_of_checked hp.checked) hp.hash
    rcases hinv.pending _ hp.stored with ⟨_, hP', hwritten⟩ | ⟨m, hm, hopen⟩
    · injection hP'.symm.trans hP with hP'
      exact hP' ▸ hwritten
    have := (hpassed.memory m hm).2 hopen
    rw [hcase] at this
    cases this

theorem gateInvariant_request (hinv : GateInvariant a past h) (hw : env.AtomicWrites)
    (hrecovers : Recovers a ((helper a).step h (.request env data))) :
    GateInvariant a (past ++ [(helper a).step h (.request env data)])
      (processRequest a env h data).helper := by
  obtain ⟨P, hP⟩ := Option.ne_none_iff_exists'.mp hinv.lastGood
  have hkept : ∀ p, h.disk.pending = some p →
      (processRequest a env h data).helper.disk.lastGood = h.disk.lastGood →
      (∃ P, (processRequest a env h data).helper.disk.lastGood = some P ∧
        WrittenUnder a (past ++ [(helper a).step h (.request env data)]) P p) ∨
        ∃ m, h.memory = some m ∧ m.unresolved = true := by
    intro p hp hsame
    rcases hinv.pending p hp with ⟨P', hP', hwritten⟩ | hopen
    · exact .inl ⟨P', hsame.trans hP', hwritten.snoc (hsame.trans hP')⟩
    · exact .inr hopen
  cases turned_processRequest a h hw data with
  | still hlastGood hpending hmemory =>
    refine ⟨by rw [hlastGood]; exact hinv.lastGood, fun p hp => ?_⟩
    rw [hmemory]
    exact hkept p (hpending ▸ hp) hlastGood
  | @ran req response record hdata hop hpassed hmemory hunresolved hmoved hresponse =>
  subst hdata
  have hopen : response.recoveryRequired = true →
      ∃ m, (processRequest a env h (.request req)).helper.memory = some m ∧ m.unresolved = true :=
    fun hr => ⟨record, hmemory, by rcases hresponse with hsame | hr' <;> simp_all⟩
  generalize hlastGood : (processRequest a env h (.request req)).helper.disk.lastGood = lastGood
    at hmoved
  generalize hpending : (processRequest a env h (.request req)).helper.disk.pending = pending
    at hmoved
  cases hmoved with
  | kept happly =>
    refine ⟨by rw [hlastGood]; exact hinv.lastGood, fun p hp => ?_⟩
    rcases hkept p (hpending ▸ hp) hlastGood with hfresh | ⟨m, hm, hunres⟩
    · exact .inl hfresh
    have hcase := (hpassed.memory m hm).2 hunres
    obtain ⟨prep, hprep⟩ := hrecovers env req m rfl hcase hm hunres fun hnone =>
      absurd (hp.symm.trans (hpending.trans hnone)) (by simp)
    cases hprep.symm.trans (happly (by simp [hcase]) (by simp [hcase]))
  | unresolved hr =>
    exact ⟨by rw [hlastGood]; exact hinv.lastGood, fun p hp => .inr (hopen hr)⟩
  | rolledBack hr =>
    refine ⟨by rw [hlastGood]; exact hinv.lastGood, fun p hp => ?_⟩
    cases hpending.symm.trans hp
  | applied hconfirm hcommit hprep hmode hr =>
    refine ⟨by simp [hlastGood], fun p hp => ?_⟩
    rcases hr with rfl | hr
    · cases hpending.symm.trans hp
    · exact .inr (hopen hr)
  | committed hcase hp hr =>
    refine ⟨by simp [hlastGood], fun p hp => ?_⟩
    rcases hr with rfl | hr
    · cases hpending.symm.trans hp
    · exact .inr (hopen hr)
  | pended hconfirm hcommit hprep hmode hwritten hr =>
    refine ⟨by rw [hlastGood]; exact hinv.lastGood, fun p hp => ?_⟩
    injection hpending.symm.trans hp with hp
    subst hp
    rcases hresponse with hsame | hr'
    · refine .inl ⟨P, hlastGood.trans hP, past, _, [], rfl, ⟨⟨env, req, rfl, rfl, ?_⟩, ⟨_, rfl, ?_⟩,
        hwritten, hP, hlastGood.trans hP⟩, by simp⟩
      · rcases OperationType.applied_cases hop hconfirm hcommit with hcase | hcase
        · exact .inl hcase
        · exact .inr ⟨hcase, hprep.confirmed hP hcase⟩
      · rw [hsame, hr]
    · exact .inr ⟨record, hmemory, hunresolved.trans hr'⟩

variable (h) in
include hcollision in
/-- Over every sequence of requests with atomic writes, started without a pending record, last-good
only changes by reconciliation, by an apply that needs no confirmation, or by committing a record
that was written under the present last-good. -/
theorem lastGood_changes_are_gated (hlastGood : h.disk.lastGood ≠ none)
    (hpending : h.disk.pending = none) (inputs : List Input)
    (hrequested : ∀ e ∈ (helper a).trace h inputs, Requested e)
    (hrecovers : ∀ e ∈ (helper a).trace h inputs, Recovers a e) {e : Step F}
    {rest : List (Step F)} (htrace : (helper a).trace h inputs = past ++ e :: rest) :
    ConfirmationGated a past e := by
  refine trace_invariant (I := GateInvariant a) (K := fun _ e => Requested e ∧ Recovers a e)
    (P := ConfirmationGated a) ?_ ⟨hlastGood, by simp [hpending]⟩ ?_ htrace
  · rintro past t i hinv ⟨⟨_, _, hi, hw⟩, hrecovers⟩
    cases hi
    exact ⟨gated_request hcollision hinv hw, gateInvariant_request hinv hw hrecovers⟩
  intro past e rest htrace
  have he : e ∈ (helper a).trace h inputs := by
    rw [htrace]
    simp
  exact ⟨hrequested e he, hrecovers e he⟩

end Gate

def tunnelled : SystemConfig :=
  { wgClient := { enabled := true, endpoint := "198.51.100.7:51820" } }

def tunnelRequest (id : String) (op : OperationType) (requireConfirmation : Bool) : Payload :=
  .request { version := 1, id, op, config := tunnelled, requireConfirmation }

def renamed : SystemConfig := { system := { hostname := "edge" } }

def provisioned : Helper Json := { disk := { lastGood := some {} } }

theorem lastGood_changes_are_gated_at_commit :
    let first := (helper .plain).step provisioned (.request {} (tunnelRequest "tx-1" .applyAll true))
    let second := (helper .plain).step first.after
      (.request {} (tunnelRequest "tx-9" .commitConfirmed false))
    second.after.disk.lastGood = some tunnelled ∧ ConfirmationGated .plain [first] second := by
  intro first second
  have hatomic : HelperEnv.AtomicWrites {} := ⟨rfl, rfl, rfl, rfl, rfl, rfl⟩
  have htrace : (helper .plain).trace provisioned [
      .request {} (tunnelRequest "tx-1" .applyAll true),
      .request {} (tunnelRequest "tx-9" .commitConfirmed false)] = [first] ++ second :: [] := rfl
  refine ⟨by decide +kernel, lastGood_changes_are_gated provisioned ?_ (by simp [provisioned]) rfl _
    ?_ ?_ htrace⟩
  · intro x y f hx hy
    cases hx
    cases hy
    rfl
  · simp only [trace, List.forall_mem_cons]
    exact ⟨⟨_, _, rfl, hatomic⟩, ⟨_, _, rfl, hatomic⟩, by simp⟩
  simp only [trace, List.forall_mem_cons]
  refine ⟨?_, ?_, by simp⟩
  · intro env req m hi hop
    cases hi
    cases hop
  intro env req m hi hop
  cases hi
  cases hop

/-- A client tunnel is applied provisionally, a new host name becomes last-good but cannot remove the
pending record, and a reconciliation is refused by preflight. -/
def staleRun : List (Step Json) :=
  (helper .plain).trace provisioned [
    .request {} (tunnelRequest "tx-1" .applyAll true),
    .request { apply := { pendingClear := .failed "input/output error" } }
      (.request { version := 1, id := "tx-2", op := .applyAll, config := renamed }),
    .request { apply := { preflight := { nftables := .error "exit status 1" } } }
      (.request { version := 1, id := "tx-3", op := .reconcile, config := renamed })]

/-- No check of the commit sees that the host name replaced the tunnel: `commit_confirmed_apply`
verifies the packet filter, the resolver and the LAN address, which are those of both. -/
def staleCommit : Step Json :=
  (helper .plain).step ((helper .plain).final provisioned (staleRun.map (·.input)))
    (.request {} (tunnelRequest "tx-9" .commitConfirmed false))

theorem commit_of_stale_pending : staleCommit.before.disk.lastGood = some renamed ∧
      staleCommit.after.disk.lastGood = some tunnelled ∧
      ¬ ConfirmationGated .plain staleRun staleCommit := by
  have hbefore : staleCommit.before.disk.lastGood = some renamed := by decide +kernel
  have hafter : staleCommit.after.disk.lastGood = some tunnelled := by decide +kernel
  have hunder : ∀ w ∈ staleRun, w.before.disk.lastGood = some renamed →
      w.output.response.any (·.verifiedSuccess) = false := by decide +kernel
  refine ⟨hbefore, hafter, fun hgated => ?_⟩
  obtain ⟨_, _, hinput, -, hop⟩ := hgated _ _ hbefore hafter (by decide +kernel)
  cases hinput
  rcases hop with hop | ⟨hop, -⟩ | ⟨-, p, -, -, -, _, w, _, hrun, hwrote, -⟩
  · cases hop
  · cases hop
  obtain ⟨r, hr, hverified⟩ := hwrote.answer
  have hnot := hunder w (by rw [hrun]; simp) hwrote.before
  simp [hr, hverified] at hnot

end MinimalRouter.Applyd
