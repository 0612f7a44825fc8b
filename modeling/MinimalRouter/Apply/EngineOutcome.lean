import MinimalRouter.Apply.Engine
import MinimalRouter.Lib.Path

/-! What the calls of the engine can do, in any surroundings that send their requests and keep their
commits: one inversion for each call. -/

namespace MinimalRouter.Apply

open Goish Config Lib Lib.Prog Lib.Result

structure Surroundings (σ : Type) where
  send : σ → ApplyRequest → Except String ApplyResponse → σ → Prop
  save : σ → SystemConfig → Except String Unit → σ → Prop
  setUp : σ → SystemConfig → Except String Unit → σ → Prop

namespace Surroundings

variable {σ : Type}

def handler (env : Surroundings σ) : Handler Query Query.Answer σ
  | s, .send req, r, s' => env.send s req r s'
  | s, .saveConfig cfg, r, s' => env.save s cfg r s'
  | s, .commitInitialSetup cfg, r, s' => env.setUp s cfg r s'
  | s, _, _, s' => s' = s

end Surroundings

structure Built (id : String) (cfg : SystemConfig) (req : ApplyRequest) : Prop where
  id : req.id = id
  op : req.op = .applyAll
  config : req.config = cfg
  unconfirmed : req.requireConfirmation = false
  immediate : req.deferLastGood = false

theorem built_of_build {id : String} (h : buildApplyRequest services id cfg = .ok req) :
    Built id cfg req := by
  simp only [buildApplyRequest, bind_eq_ok] at h
  obtain ⟨_, -, _, -, _, -, _, -, _, -, h⟩ := h
  cases h
  exact ⟨rfl, rfl, rfl, rfl, rfl⟩

variable {σ : Type} (env : Surroundings σ) (p : Plane) (st : EngineState)

section Exchange

variable (req : ApplyRequest)

inductive Exchanged : σ → Except String ApplyResponse → σ → Prop
  | abandoned {s : σ} {e : String} : Exchanged s (.error e) s
  | answered {s s' : σ} {resp : ApplyResponse} (hsend : env.send s req (.ok resp) s')
      (hvalid : resp.validate = .ok ()) : Exchanged s (.ok resp) s'
  | invalid {s s' : σ} {resp : ApplyResponse} {e : String}
      (hsend : env.send s req (.ok resp) s') : Exchanged s (.error e) s'
  | lost {s s' s'' : σ} {e : String} {r : Except String ApplyResponse}
      (hsend : env.send s req (.error e) s') (hrest : Exchanged s' r s'') : Exchanged s r s''

variable {env req}

theorem wp_attempt (h : ∀ r s', Exchanged env req s r s' → post r s') :
    (attempt req n last).wp env.handler post s := by
  induction n generalizing s last with
  | zero => exact h _ _ .abandoned
  | succ n ih =>
    rintro expired _ rfl
    cases expired with
    | true => exact h _ _ .abandoned
    | false =>
      intro r s' hsend
      cases r with
      | error => exact ih fun r s'' hrest => h r s'' (.lost hsend hrest)
      | ok =>
        simp only
        split
        · exact h _ _ (.invalid hsend)
        · next hvalid => exact h _ _ (.answered hsend hvalid)

theorem wp_applyPrivileged {f : Except String ApplyResponse → Exchange α}
    (h : ∀ r s', Exchanged env req s r s' → (f r).wp env.handler post s') :
    ((applyPrivileged req).bind f).wp env.handler post s :=
  (wp_bind f post).mpr (wp_attempt h)

theorem Exchanged.valid (h : Exchanged env req s (.ok resp) s') : resp.validate = .ok () := by
  generalize hr : Except.ok resp = r at h
  induction h with
  | abandoned | invalid => cases hr
  | answered hsend hvalid => cases hr; exact hvalid
  | lost hsend hrest ih => exact ih hr

theorem Exchanged.verified (h : Exchanged env req s (.ok resp) s')
    (hsuccess : resp.success = true) : resp.verifiedSuccess = true := by
  have hvalid := h.valid
  rw [ApplyResponse.validate_eq_ok, hsuccess] at hvalid
  simp_all [ApplyResponse.verifiedSuccess]

end Exchange

inductive Sent (P : ApplyRequest → Prop) : σ → σ → Prop
  | none {s : σ} : Sent P s s
  | more {s s' s'' : σ} {req : ApplyRequest} {r : Except String ApplyResponse} (hreq : P req)
      (hsend : env.send s req r s') (hrest : Sent P s' s'') : Sent P s s''

namespace Sent

variable {env}

theorem trans (h : Sent env P s s') (h' : Sent env P s' s'') : Sent env P s s'' := by
  induction h with
  | none => exact h'
  | more hreq hsend _ ih => exact .more hreq hsend (ih h')

theorem mono (hPQ : ∀ req, P req → Q req) (h : Sent env P s s') : Sent env Q s s' := by
  induction h with
  | none => exact .none
  | more hreq hsend _ ih => exact .more (hPQ _ hreq) hsend ih

theorem invariant {I : σ → Prop} (hI : ∀ s req r s', P req → I s → env.send s req r s' → I s')
    (h : Sent env P s s') (hs : I s) : I s' := by
  induction h with
  | none => exact hs
  | more hreq hsend _ ih => exact ih (hI _ _ _ _ hreq hs hsend)

end Sent

theorem Exchanged.sent {env : Surroundings σ} (h : Exchanged env req s r s') (hreq : P req) :
    Sent env P s s' := by
  induction h with
  | abandoned => exact .none
  | answered hsend | invalid hsend => exact .more hreq hsend .none
  | lost hsend _ ih => exact .more hreq hsend ih

def Persisted (initialSetup : Bool) (cfg : SystemConfig) (s : σ) (r : Except String Unit) (s' : σ) :
    Prop :=
  if initialSetup then env.setUp s cfg r s'
  else if p.hasStore then env.save s cfg r s'
  else r = .ok () ∧ s' = s

theorem wp_commitConfig {env : Surroundings σ} {f : Except String Unit → Exchange Called}
    (h : ∀ r s', Persisted env p initialSetup cfg s r s' → (f r).wp env.handler post s') :
    ((commitConfig p initialSetup cfg).bind f).wp env.handler post s := by
  rw [wp_bind]
  simp only [Persisted] at h
  unfold commitConfig
  cases initialSetup with
  | true => exact fun r s' hr => h r s' hr
  | false =>
    cases hstore : p.hasStore with
    | true =>
      intro r s' hr
      have hsave : env.save s cfg r s' := hr
      exact h r s' (by simpa [hstore] using hsave)
    | false => exact h _ _ (by simp [hstore])

section Process

def BasedOn (base cfg : SystemConfig) : Prop :=
  ∃ updatedAt, cfg = { base with revision := base.revision + 1, updatedAt }

structure Planned (txId : String) (newCfg : SystemConfig) (tx : Transaction)
    (request : ApplyRequest) : Prop where
  unblocked : st.recoveryRequired = false
  free : st.pending = none
  base : newCfg.revision = st.currentConfig.revision
  id : tx.id = txId
  config : BasedOn newCfg tx.config
  request : buildApplyRequest p.services txId tx.config = .ok request

structure Verified (txId : String) (newCfg : SystemConfig) (initialSetup confirm : Bool) (s : σ)
    (tx : Transaction) (request : ApplyRequest) (resp : ApplyResponse) (s' : σ) : Prop where
  plan : Planned p st txId newCfg tx request
  exchange : Exchanged env (candidateRequest p st request tx.config initialSetup) s (.ok resp) s'
  response : resp.verifiedSuccess = true
  confirm : requireConfirmation st tx.config initialSetup = confirm

theorem Verified.withState {env : Surroundings σ} {p : Plane} {st : EngineState}
    (h : Verified env p st txId newCfg initialSetup b s tx request resp s') (state : State) :
    Verified env p st txId newCfg initialSetup b s { tx with currentState := state } request
      resp s' :=
  ⟨⟨h.plan.unblocked, h.plan.free, h.plan.base, h.plan.id, h.plan.config, h.plan.request⟩,
    h.exchange, h.response, h.confirm⟩

def Unplanned (txId : String) (tx : Transaction) : Prop :=
  tx.id = txId ∧ (tx.currentState = .rejected ∨ tx.currentState = .recoveryRequired)

variable {p st}

theorem admitTransaction_eq_ok (h : admitTransaction p st newCfg initialSetup = .ok ()) :
    st.recoveryRequired = false ∧ st.pending = none ∧
      newCfg.revision = st.currentConfig.revision := by
  unfold admitTransaction at h
  dsimp only at h
  by_cases hrecovery : st.recoveryRequired = true
  · rw [if_pos hrecovery] at h
    cases h
  rw [if_neg hrecovery] at h
  by_cases hpending : st.pending.isSome = true
  · rw [if_pos hpending] at h
    cases h
  rw [if_neg hpending] at h
  by_cases hrevision : newCfg.revision = st.currentConfig.revision
  · exact ⟨by simpa using hrecovery, by simpa using hpending, hrevision⟩
  · rw [if_pos hrevision] at h
    cases h

theorem admitTransaction_eq_error
    (h : admitTransaction p st newCfg initialSetup = .error (state, message, e)) :
    state = .rejected ∨ state = .recoveryRequired := by
  unfold admitTransaction at h
  simp only at h
  repeat' split at h
  all_goals simp_all

theorem nextRevision_eq_some (h : nextRevision r = some r') : r' = r + 1 := by
  unfold nextRevision at h
  split at h <;> simp_all

theorem wp_inspectTransaction {env : Surroundings σ}
    {f : Except (String × String) Unit → Exchange α} {post : α → σ → Prop}
    (h : ∀ r, (f r).wp env.handler post s) :
    ((inspectTransaction p st newCfg initialSetup).bind f).wp env.handler post s := by
  unfold inspectTransaction
  cases initialSetup with
  | true => exact h _
  | false =>
    rintro r _ rfl
    cases r <;> exact h _

theorem wp_createSnapshot {env : Surroundings σ} {f : Except String Unit → Exchange α}
    {post : α → σ → Prop} (h : ∀ r, (f r).wp env.handler post s) :
    ((createSnapshot p st).bind f).wp env.handler post s := by
  unfold createSnapshot
  split
  · rintro r _ rfl
    exact h r
  · exact h _

theorem wp_planTransaction {env : Surroundings σ}
    {f : Except (Transaction × String) (Transaction × ApplyRequest) → Exchange Called}
    (hrefused : ∀ tx' e, Unplanned tx.id tx' → (f (.error (tx', e))).wp env.handler post s)
    (hplanned : ∀ tx' request, Planned p st tx.id newCfg tx' request →
      (f (.ok (tx', request))).wp env.handler post s) :
    ((planTransaction p st tx newCfg initialSetup).bind f).wp env.handler post s := by
  unfold planTransaction
  cases hadmit : admitTransaction p st newCfg initialSetup with
  | error => exact hrefused _ _ ⟨rfl, admitTransaction_eq_error hadmit⟩
  | ok =>
  obtain ⟨hunblocked, hfree, hbase⟩ := admitTransaction_eq_ok hadmit
  rw [wp_bind]
  refine wp_inspectTransaction fun inspected => (wp_bind _ _).mp ?_
  cases inspected with
  | error => exact hrefused _ _ ⟨rfl, .inl rfl⟩
  | ok =>
  cases hnext : nextRevision st.currentConfig.revision with
  | none => exact hrefused _ _ ⟨rfl, .inl rfl⟩
  | some =>
    rintro updatedAt _ rfl
    simp only
    split
    · exact hrefused _ _ ⟨rfl, .inl rfl⟩
    · next request hrequest =>
      rw [wp_bind]
      refine wp_createSnapshot fun saved => (wp_bind _ _).mp ?_
      cases saved with
      | error => exact hrefused _ _ ⟨rfl, .inl rfl⟩
      | ok =>
        refine hplanned _ _ ⟨hunblocked, hfree, hbase, rfl, ⟨updatedAt.now, ?_⟩, hrequest⟩
        simp only [nextRevision_eq_some hnext, hbase]

variable (p st)

inductive Undone (tx : Transaction) (e : String) (s : σ) : Called → σ → Prop
  | restored {req : ApplyRequest} {resp : ApplyResponse} {message : String} {s' : σ}
      (hreq : buildApplyRequest p.services (tx.id ++ "-rollback") st.currentConfig = .ok req)
      (hx : Exchanged env req s (.ok resp) s') (hresp : resp.verifiedSuccess = true) :
      Undone tx e s ⟨st, some (tx.ended .rolledBack message), .error e⟩ s'
  | unrestored {message : String} {s' : σ}
      (hx : Sent env (fun req => buildApplyRequest p.services (tx.id ++ "-rollback")
        st.currentConfig = .ok req) s s') :
      Undone tx e s (failRecovery st tx message e) s'

inductive Transacted (txId : String) (newCfg : SystemConfig) (initialSetup : Bool) (s : σ) :
    Called → σ → Prop
  | unplanned {tx : Transaction} {e : String} (htx : Unplanned txId tx) :
      Transacted txId newCfg initialSetup s ⟨st, some tx, .error e⟩ s
  | unknown {tx : Transaction} {request : ApplyRequest} {message e : String} {s' : σ}
      (hplan : Planned p st txId newCfg tx request)
      (hx : Exchanged env (candidateRequest p st request tx.config initialSetup) s (.error e) s') :
      Transacted txId newCfg initialSetup s (failRecovery st tx message message) s'
  | refused {tx : Transaction} {request : ApplyRequest} {resp : ApplyResponse} {s' : σ}
      (hplan : Planned p st txId newCfg tx request)
      (hx : Exchanged env (candidateRequest p st request tx.config initialSetup) s (.ok resp) s')
      (hresp : resp.success = false) :
      Transacted txId newCfg initialSetup s (refuseTransaction st tx resp) s'
  | awaiting {tx : Transaction} {request : ApplyRequest} {resp : ApplyResponse} {s' : σ}
      {deadline : Time} {notBefore : Int}
      (hverified : Verified env p st txId newCfg initialSetup true s tx request resp s') :
      Transacted txId newCfg initialSetup s
        ⟨{ st with pending := some {
            tx := { tx with
              currentState := .awaitingConfirmation, confirmationDeadline := some deadline }
            handshakeNotBefore := notBefore, previous := st.currentConfig } },
          some { tx with
            currentState := .awaitingConfirmation, confirmationDeadline := some deadline },
          .ok ()⟩ s'
  | uncommitted {tx : Transaction} {request : ApplyRequest} {resp : ApplyResponse} {e : String}
      {s₁ s₂ s₃ : σ} {c : Called}
      (hverified : Verified env p st txId newCfg initialSetup false s tx request resp s₁)
      (hcommit : Persisted env p initialSetup tx.config s₁ (.error e) s₂)
      (hundo : Undone env p st tx e s₂ c s₃) :
      Transacted txId newCfg initialSetup s c s₃
  | unacknowledged {tx : Transaction} {request : ApplyRequest} {resp : ApplyResponse}
      {message e : String} {r : Except String ApplyResponse} {s₁ s₂ s₃ : σ}
      (hverified : Verified env p st txId newCfg initialSetup false s tx request resp s₁)
      (hcommit : Persisted env p initialSetup tx.config s₁ (.ok ()) s₂)
      (hack : Exchanged env (commitRequest (tx.id ++ "-commit-canonical-0") tx.config) s₂ r s₃) :
      Transacted txId newCfg initialSetup s
        (failRecovery { st with currentConfig := tx.config } tx message e) s₃
  | committed {tx : Transaction} {request : ApplyRequest} {resp : ApplyResponse} {s₁ s₂ s₃ : σ}
      (hverified : Verified env p st txId newCfg initialSetup false s tx request resp s₁)
      (hcommit : Persisted env p initialSetup tx.config s₁ (.ok ()) s₂)
      (hack : if deferLastGood p st tx.config initialSetup then
        ∃ ack : ApplyResponse, ack.verifiedSuccess = true ∧
          Exchanged env (commitRequest (tx.id ++ "-commit-canonical-0") tx.config) s₂ (.ok ack) s₃
        else s₃ = s₂) :
      Transacted txId newCfg initialSetup s
        ⟨{ st with currentConfig := tx.config }, some { tx with currentState := .committed },
          .ok ()⟩ s₃

variable {env p st}

theorem verifiedSuccess_of_shortfall (h : shortfall unknown failed r = none) :
    ∃ resp, r = .ok resp ∧ resp.verifiedSuccess = true := by
  cases r with
  | error => cases h
  | ok resp =>
    refine ⟨resp, rfl, ?_⟩
    simpa [shortfall, ApplyResponse.verifiedSuccess] using h

theorem undone_undoCommit (tx : Transaction) (e : String) :
    (undoCommit p st tx e).wp env.handler (Undone env p st tx e s) s := by
  unfold undoCommit
  cases hreq : buildApplyRequest p.services (tx.id ++ "-rollback") st.currentConfig with
  | error => exact .unrestored .none
  | ok =>
    refine wp_applyPrivileged fun r s' hx => ?_
    cases r with
    | error => exact .unrestored (hx.sent hreq)
    | ok =>
      simp only
      split
      · next h =>
        simp only [Bool.and_eq_true] at h
        exact .restored hreq hx (hx.verified h.1.1)
      · exact .unrestored (hx.sent hreq)

theorem transacted_commitTransaction
    (hverified : Verified env p st txId newCfg initialSetup false s tx request resp s₁) :
    (commitTransaction p st { tx with currentState := .verified } initialSetup).wp env.handler
      (Transacted env p st txId newCfg initialSetup s) s₁ := by
  unfold commitTransaction
  refine wp_commitConfig p fun r s₂ hcommit => ?_
  cases r with
  | error e =>
    exact wp_mono (undone_undoCommit _ e) fun c s₃ hundo =>
      .uncommitted (hverified.withState .verified) hcommit hundo
  | ok =>
    simp only
    split
    · next hdefer =>
      refine wp_applyPrivileged fun ack s₃ hack => ?_
      split
      · exact .unacknowledged hverified hcommit hack
      · next hshort =>
        obtain ⟨acked, rfl, hacked⟩ := verifiedSuccess_of_shortfall hshort
        refine .committed hverified hcommit ?_
        rw [if_pos hdefer]
        exact ⟨acked, hacked, hack⟩
    · next hdefer =>
      exact .committed hverified hcommit (by rw [if_neg hdefer])

theorem transacted_applyTransaction (hplan : Planned p st txId newCfg tx request) :
    (applyTransaction p st tx request initialSetup).wp env.handler
      (Transacted env p st txId newCfg initialSetup s) s := by
  rintro notBefore _ rfl
  refine wp_applyPrivileged fun r s' hx => ?_
  cases r with
  | error => exact .unknown hplan hx
  | ok resp =>
  cases hsuccess : resp.success with
  | false =>
    simp only [hsuccess, Bool.not_false, ↓reduceIte]
    exact .refused hplan hx hsuccess
  | true =>
    have hresp := hx.verified hsuccess
    have hverified : resp.verified = true := by
      simpa [ApplyResponse.verifiedSuccess, hsuccess] using hresp
    simp only [hsuccess, hverified, Bool.not_true, Bool.false_eq_true, ↓reduceIte]
    split
    · next hconfirm =>
      rintro now _ rfl
      exact .awaiting (Verified.withState ⟨hplan, hx, hresp, hconfirm⟩ .verified)
    · next hconfirm =>
      exact transacted_commitTransaction ⟨hplan, hx, hresp, Bool.eq_false_iff.mpr hconfirm⟩

theorem deferLastGood_of_store (hstore : p.hasStore = true)
    (hconfirm : requireConfirmation st cfg initialSetup = false) :
    deferLastGood p st cfg initialSetup = true := by
  simp [deferLastGood, hconfirm, hstore]

theorem transacted_process (txId : String) (newCfg : SystemConfig) :
    (process p st txId newCfg initialSetup).wp env.handler
      (Transacted env p st txId newCfg initialSetup s) s := by
  rintro createdAt _ rfl
  exact wp_planTransaction (fun tx e htx => .unplanned htx)
    fun tx request hplan => transacted_applyTransaction hplan

end Process

section Confirm

variable {env p st}

inductive Acknowledging (p : Plane) (pending : PendingChange) : ApplyRequest → Prop
  | commit {id : String} : Acknowledging p pending (commitRequest id pending.tx.config)
  | finalize {id : String} {req : ApplyRequest}
      (hreq : buildApplyRequest p.services id pending.tx.config = .ok req) :
      Acknowledging p pending { req with op := .reconcile }

inductive Closing (p : Plane) (pending : PendingChange) : ApplyRequest → Prop
  | commit {id : String} (hlan : pending.previous.lan.ipAddress = pending.tx.config.lan.ipAddress)
      (hcidr : pending.previous.lan.cidr = pending.tx.config.lan.cidr) :
      Closing p pending (commitRequest id pending.tx.config)
  | finalize {id : String}
      (hreq : buildApplyRequest p.services id pending.tx.config = .ok req) :
      Closing p pending { req with op := .reconcile }

structure Awaits (st : EngineState) (txId : String) (canon : Bool) (pending : PendingChange) :
    Prop where
  stored : st.pending = some pending
  id : pending.tx.id = txId
  canon : pending.canonicalCommitted = canon

variable (env p st pending)

inductive Acknowledged (s : σ) : Called → σ → Prop
  | failed {message e : String} {s' : σ} (hsent : Sent env (Acknowledging p pending) s s') :
      Acknowledged s (failPending st { pending with commitAttempts := pending.commitAttempts + 1 }
        message e) s'
  | finished {req : ApplyRequest} {resp : ApplyResponse} {now : Time} {s₁ s₂ : σ}
      (hsent : Sent env (Acknowledging p pending) s s₁) (hreq : Closing p pending req)
      (hx : Exchanged env req s₁ (.ok resp) s₂) (hresp : resp.verifiedSuccess = true) :
      Acknowledged s
        ⟨{ st.recovered with currentConfig := pending.tx.config, pending := none },
          some { pending.tx with confirmedAt := some now, currentState := .committed }, .ok ()⟩ s₂

inductive Concluded (txId : String) (s : σ) : Called → σ → Prop
  | notAwaiting : Concluded txId s (notAwaiting st) s
  | unverified {pending : PendingChange} {message e : String} {s' : σ}
      (hawaits : Awaits st txId false pending)
      (hsent : Sent env (·.op = .wgTunnelStatus) s s') :
      Concluded txId s
        ⟨{ st with pending := some { pending with tx := { pending.tx with error := message } } },
          some { pending.tx with error := message }, .error e⟩ s'
  | unsaved {pending : PendingChange} {message e e' : String} {s₁ s₂ : σ}
      (hawaits : Awaits st txId false pending)
      (hsent : Sent env (·.op = .wgTunnelStatus) s s₁)
      (hsave : Persisted env p false pending.tx.config s₁ (.error e) s₂) :
      Concluded txId s
        ⟨{ st with
            pending := some { pending with tx := pending.tx.ended .recoveryRequired message } },
          some (pending.tx.ended .recoveryRequired message), .error e'⟩ s₂
  | saved {pending : PendingChange} {s₁ s₂ s₃ : σ} {c : Called}
      (hawaits : Awaits st txId false pending)
      (hsent : Sent env (·.op = .wgTunnelStatus) s s₁)
      (hsave : Persisted env p false pending.tx.config s₁ (.ok ()) s₂)
      (hack : Acknowledged env p
        { st with
          currentConfig := pending.tx.config
          pending := some { pending with canonicalCommitted := true } }
        { pending with canonicalCommitted := true } s₂ c s₃) :
      Concluded txId s c s₃
  | again {pending : PendingChange} {s' : σ} {c : Called}
      (hawaits : Awaits st txId true pending) (hack : Acknowledged env p st pending s c s') :
      Concluded txId s c s'

inductive Expired (txId : String) (s : σ) : Called → σ → Prop
  | idle : Expired txId s ⟨st, none, .ok ()⟩ s
  | exhausted {pending : PendingChange} {message : String} (hawaits : Awaits st txId false pending) :
      Expired txId s ⟨{ st.requireRecovery message with pending := none },
        some (pending.tx.ended .recoveryRequired message), .ok ()⟩ s
  | restored {pending : PendingChange} {req : ApplyRequest} {resp : ApplyResponse} {id : String}
      {message : String} {s' : σ} (hawaits : Awaits st txId false pending)
      (hreq : buildApplyRequest p.services id pending.previous = .ok req)
      (hx : Exchanged env req s (.ok resp) s') (hresp : resp.verifiedSuccess = true) :
      Expired txId s ⟨{ st.recovered with pending := none },
        some (pending.tx.ended .rolledBack message), .ok ()⟩ s'
  | retried {pending : PendingChange} {attempts : Nat} {message : String} {s' : σ}
      (hawaits : Awaits st txId false pending)
      (hsent : Sent env (fun req => ∃ id, buildApplyRequest p.services id pending.previous = .ok req)
        s s') :
      Expired txId s (retryRollback st pending attempts message) s'

variable {env p st pending}

theorem acknowledged_finishConfirm (hsent : Sent env (Acknowledging p pending) s s₁)
    (hreq : Closing p pending req) (hx : Exchanged env req s₁ (.ok resp) s₂)
    (hresp : resp.verifiedSuccess = true) :
    (finishConfirm st { pending with commitAttempts := pending.commitAttempts + 1 }).wp env.handler
      (Acknowledged env p st pending s) s₂ := by
  rintro now _ rfl
  exact .finished hsent hreq hx hresp

theorem acknowledged_finalizeLan (hsent : Sent env (Acknowledging p pending) s s₁) :
    (finalizeLan p st { pending with commitAttempts := pending.commitAttempts + 1 }).wp env.handler
      (Acknowledged env p st pending s) s₁ := by
  unfold finalizeLan
  split
  · exact .failed hsent
  · next req hreq =>
    refine wp_applyPrivileged fun r s₂ hx => ?_
    split
    · exact .failed (hsent.trans (hx.sent (.finalize hreq)))
    · next hshort =>
      obtain ⟨_, rfl, hresp⟩ := verifiedSuccess_of_shortfall hshort
      exact acknowledged_finishConfirm hsent (.finalize hreq) hx hresp

theorem acknowledged_acknowledgeCommit :
    (acknowledgeCommit p st pending).wp env.handler (Acknowledged env p st pending s) s := by
  unfold acknowledgeCommit
  refine wp_applyPrivileged fun r s₁ hx => ?_
  split
  · exact .failed (hx.sent .commit)
  · next hshort =>
    obtain ⟨_, rfl, hresp⟩ := verifiedSuccess_of_shortfall hshort
    split
    · exact acknowledged_finalizeLan (hx.sent .commit)
    · next hlan =>
      simp only [Bool.or_eq_true, decide_eq_true_eq, not_or, ne_eq, not_not] at hlan
      exact acknowledged_finishConfirm .none (.commit hlan.1 hlan.2) hx hresp

theorem wp_verifyTunnel {f : Except (String × String) Unit → Exchange Called}
    (h : ∀ r s', Sent env (·.op = .wgTunnelStatus) s s' → (f r).wp env.handler post s') :
    ((verifyTunnel pending).bind f).wp env.handler post s := by
  unfold verifyTunnel
  dsimp only
  split
  · rw [wp_bind]
    refine wp_applyPrivileged fun r s' hx => (wp_bind _ _).mp ?_
    have hsent : Sent env (·.op = .wgTunnelStatus) s s' := hx.sent rfl
    cases r with
    | error => exact h _ _ hsent
    | ok =>
      simp only
      split
      · rintro now _ rfl
        exact h _ _ hsent
      · exact h _ _ hsent
  · exact h _ _ .none

theorem concluded_confirmTransaction (txId : String) :
    (confirmTransaction p st txId).wp env.handler (Concluded env p st txId s) s := by
  unfold confirmTransaction
  cases hpending : st.pending with
  | none => exact .notAwaiting
  | some =>
  simp only
  split
  · exact .notAwaiting
  · next hid =>
    simp only [ne_eq, not_not] at hid
    unfold confirmLocked
    split
    · next hcanon =>
      exact wp_mono acknowledged_acknowledgeCommit fun c s' => .again ⟨hpending, hid, hcanon⟩
    · next hcanon =>
      have hawaits : Awaits st txId false _ := ⟨hpending, hid, Bool.eq_false_iff.mpr hcanon⟩
      refine wp_verifyTunnel fun verified s₁ hsent => ?_
      cases verified with
      | error => exact .unverified hawaits hsent
      | ok u =>
        refine wp_commitConfig p fun saved s₂ hsave => ?_
        cases saved with
        | error => exact .unsaved hawaits hsent hsave
        | ok =>
          exact wp_mono acknowledged_acknowledgeCommit fun c s₃ =>
            .saved hawaits hsent hsave

theorem expired_rollbackExpired (txId : String) :
    (rollbackExpired p st txId).wp env.handler (Expired env p st txId s) s := by
  unfold rollbackExpired
  cases hpending : st.pending with
  | none => exact .idle
  | some =>
  simp only
  split
  · exact .idle
  · next h =>
    simp only [Bool.or_eq_true, decide_eq_true_eq, not_or, ne_eq, not_not,
      Bool.not_eq_true] at h
    have hawaits : Awaits st txId false _ := ⟨hpending, h.1, h.2⟩
    unfold rollBackPending
    simp only
    split
    · exact .exhausted hawaits
    split
    · exact .retried hawaits .none
    · next req hreq =>
      refine wp_applyPrivileged fun r s' hx => ?_
      cases r with
      | error => exact .retried hawaits (hx.sent ⟨_, hreq⟩)
      | ok resp =>
        cases hresp : resp.verifiedSuccess with
        | true =>
          simp only [acknowledged, hresp, ↓reduceIte]
          exact .restored hawaits hreq hx hresp
        | false =>
          simp only [acknowledged, hresp, Bool.false_eq_true, ↓reduceIte]
          exact .retried hawaits (hx.sent ⟨_, hreq⟩)

end Confirm

section Reconcile

inductive Reconciled (id : String) (s : σ) : Called → σ → Prop
  | unbuilt {e : String} : Reconciled id s ⟨st, none, .error e⟩ s
  | failed {reason : String} {s' : σ}
      (hsent : Sent env (fun req => ∃ built, req = { built with op := .reconcile } ∧
        buildApplyRequest p.services id st.currentConfig = .ok built) s s') :
      Reconciled id s ⟨st.requireRecovery reason, none, .error reason⟩ s'
  | settled {req : ApplyRequest} {resp : ApplyResponse} {s' : σ}
      (hreq : buildApplyRequest p.services id st.currentConfig = .ok req)
      (hx : Exchanged env { req with op := .reconcile } s (.ok resp) s')
      (hresp : resp.verifiedSuccess = true) (hpending : st.pending = none) :
      Reconciled id s ⟨st.recovered, none, .ok ()⟩ s'
  | closed {req : ApplyRequest} {resp : ApplyResponse} {pending : PendingChange}
      {tx : Transaction} {s' : σ}
      (hreq : buildApplyRequest p.services id st.currentConfig = .ok req)
      (hx : Exchanged env { req with op := .reconcile } s (.ok resp) s')
      (hresp : resp.verifiedSuccess = true) (hpending : st.pending = some pending)
      (hid : tx.id = pending.tx.id) (hconfig : tx.config = pending.tx.config)
      (hstate : tx.currentState =
        if pending.canonicalCommitted then .committed else .rolledBack) :
      Reconciled id s ⟨{ st.recovered with pending := none }, some tx, .ok ()⟩ s'

inductive Bypassing : ApplyRequest → Prop
  | bypass {id : String}
      (hreq : buildApplyRequest p.services id { st.currentConfig with
        qos := { st.currentConfig.qos with enabled := false } } = .ok req) :
      Bypassing { req with deferLastGood := true }
  | restore {id : String}
      (hreq : buildApplyRequest p.services id st.currentConfig = .ok req) :
      Bypassing { req with op := .reconcile }

inductive Bypassed (s : σ) : Called → σ → Prop
  | idle {result : Except String Unit} : Bypassed s ⟨st, none, result⟩ s
  | restored {result : Except String Unit} {s' : σ} (hfree : st.pending = none)
      (hsent : Sent env (Bypassing p st) s s') : Bypassed s ⟨st, none, result⟩ s'
  | unrestored {result : Except String Unit} {reason : String} {s' : σ} (hfree : st.pending = none)
      (hsent : Sent env (Bypassing p st) s s') :
      Bypassed s ⟨st.requireRecovery reason, none, result⟩ s'

variable {env p st}

theorem reconciled_reconcileAs (id : String) :
    (reconcileAs p st id).wp env.handler (Reconciled env p st id s) s := by
  unfold reconcileAs
  split
  · exact .unbuilt
  · next req hreq =>
    refine wp_applyPrivileged fun r s' hx => ?_
    cases r with
    | error => exact .failed (hx.sent ⟨req, rfl, hreq⟩)
    | ok =>
    simp only
    split
    · exact .failed (hx.sent ⟨req, rfl, hreq⟩)
    · next h =>
      simp only [Bool.or_eq_true, Bool.not_eq_true', not_or, Bool.not_eq_false] at h
      have hresp := hx.verified h.1.1
      unfold settlePending
      cases hpending : st.pending with
      | none => exact .settled hreq hx hresp hpending
      | some =>
        simp only
        split
        · next hcanon =>
          rintro now _ rfl
          exact .closed hreq hx hresp hpending rfl rfl (if_pos hcanon).symm
        · next hcanon => exact .closed hreq hx hresp hpending rfl rfl (if_neg hcanon).symm

theorem wp_applyTemporaryRuntime {f : Except String Unit → Exchange α} (hreq : P req)
    (h : ∀ r s', Sent env P s s' → (f r).wp env.handler post s') :
    ((applyTemporaryRuntime req).bind f).wp env.handler post s := by
  unfold applyTemporaryRuntime
  rw [wp_bind]
  refine wp_applyPrivileged fun r s' hx => (wp_bind _ _).mp ?_
  cases r <;> exact h _ _ (hx.sent hreq)

theorem wp_runBypassed {f : List String → Exchange α} (hreq : P req)
    (h : ∀ errors s', Sent env P s s' → (f errors).wp env.handler post s') :
    ((runBypassed req).bind f).wp env.handler post s := by
  unfold runBypassed
  rw [wp_bind]
  refine wp_applyTemporaryRuntime hreq fun r s' hsent => (wp_bind _ _).mp ?_
  cases r with
  | error => exact h _ _ hsent
  | ok =>
    rintro r _ rfl
    exact h _ _ hsent

theorem wp_restoreCanonical {f : Except String Unit → Exchange α}
    (h : ∀ r s', Sent env (Bypassing p st) s s' → (f r).wp env.handler post s') :
    ((restoreCanonical p st).bind f).wp env.handler post s := by
  rintro now _ rfl
  rw [wp_bind]
  dsimp only
  split
  · exact h _ _ .none
  · next req hreq =>
    refine wp_applyTemporaryRuntime (Bypassing.restore hreq) fun r s' hsent => (wp_bind _ _).mp ?_
    exact h _ _ hsent

theorem free_of_bypassBlocked (h : bypassBlocked st = none) : st.pending = none := by
  unfold bypassBlocked at h
  split at h
  · cases h
  split at h
  · cases h
  · next hpending => simpa using hpending

theorem bypassed_withQosBypassed :
    (withQosBypassed p st).wp env.handler (Bypassed env p st s) s := by
  unfold withQosBypassed
  cases hblocked : bypassBlocked st with
  | some => exact .idle
  | none =>
  have hfree := free_of_bypassBlocked hblocked
  simp only
  split
  · rintro result _ rfl
    exact .idle
  rintro now _ rfl
  dsimp only
  split
  · exact .idle
  · next req hreq =>
    refine wp_runBypassed (Bypassing.bypass hreq) fun errors s₁ hsent => ?_
    refine wp_restoreCanonical fun r s₂ hrestore => ?_
    cases r with
    | ok => exact .restored hfree (hsent.trans hrestore)
    | error => exact .unrestored hfree (hsent.trans hrestore)

end Reconcile

section Run

def Performed : Call → σ → Called → σ → Prop
  | .processTransaction txId newCfg => Transacted env p st txId newCfg false
  | .processInitialSetup txId newCfg => Transacted env p st txId newCfg true
  | .confirmTransaction txId => Concluded env p st txId
  | .rollbackExpired txId => Expired env p st txId
  | .reconcile => fun s c s' => ∃ id, Reconciled env p st id s c s'
  | .withQosBypassed => Bypassed env p st

structure Site (σ : Type) where
  engine : EngineState
  around : σ

structure Turn where
  call : Call
  tx : Option Transaction
  result : Except String Unit

/-- Calls are serialised, so that a run of the engine is one call after the other. -/
def Turns (w : Site σ) (turn : Turn) (w' : Site σ) : Prop :=
  Runs env.handler (perform p w.engine turn.call) w.around ⟨w'.engine, turn.tx, turn.result⟩
    w'.around

variable {env p}

theorem performed_perform (st : EngineState) (call : Call) :
    (perform p st call).wp env.handler (Performed env p st call s) s := by
  cases call with
  | processTransaction txId newCfg
  | processInitialSetup txId newCfg => exact transacted_process txId newCfg
  | confirmTransaction txId => exact concluded_confirmTransaction txId
  | rollbackExpired txId => exact expired_rollbackExpired txId
  | reconcile =>
    rintro now _ rfl
    exact wp_mono (reconciled_reconcileAs _) fun c s' h => ⟨_, h⟩
  | withQosBypassed => exact bypassed_withQosBypassed

theorem performed_of_runs {st : EngineState} (h : Runs env.handler (perform p st call) s c s') :
    Performed env p st call s c s' := wp_sound (performed_perform st call) h

theorem performed_of_turns (h : Turns env p w turn w') :
    Performed env p w.engine turn.call w.around ⟨w'.engine, turn.tx, turn.result⟩ w'.around :=
  performed_of_runs h

end Run

end MinimalRouter.Apply
