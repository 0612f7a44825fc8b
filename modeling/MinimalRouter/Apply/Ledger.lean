import MinimalRouter.Apply.Actions
import MinimalRouter.Apply.Canon

namespace MinimalRouter.Apply

open Goish Config Lib Lib.Prog

inductive Act
  | sent : ApplyRequest → Except String ApplyResponse → Act
  | saved : SystemConfig → Except String Unit → Act
  | setUp : SystemConfig → Except String Unit → Act
  | action : ServiceActionRequest → Except String ServiceActionResponse → Act

def Act.request : Act → Option ApplyRequest
  | sent req _ => some req
  | _ => none

/-- A privileged request was answered with a success that is verified and free of contradiction. -/
inductive Act.Acknowledges : Act → ApplyRequest → Prop
  | mk {req : ApplyRequest} {resp : ApplyResponse} (hvalid : resp.validate = .ok ())
      (hsuccess : resp.verifiedSuccess = true) : Acknowledges (.sent req (.ok resp)) req

def ledger : Surroundings (List Act) where
  send acts req r acts' := acts' = acts ++ [.sent req r]
  save acts cfg r acts' := acts' = acts ++ [.saved cfg r]
  setUp acts cfg r acts' := acts' = acts ++ [.setUp cfg r]

def errands : Handler ActionQuery ActionQuery.Answer (List Act)
  | acts, .call request, r, acts' => acts' = acts ++ [.action request r]
  | acts, .expired, _, acts' => acts' = acts

inductive Operation
  | call : Call → Operation
  | action : Action → Operation

inductive Outcome
  | called : Option Transaction → Except String Unit → Outcome
  | acted : Except ActionFailure (List DevicePause) → Outcome

structure Entry where
  op : Operation
  acts : List Act
  outcome : Outcome

inductive Operates (p : Plane) : EngineState → Entry → EngineState → Prop
  | call {st st' : EngineState} {c : Call} {acts : List Act} {tx : Option Transaction}
      {result : Except String Unit}
      (h : Runs ledger.handler (perform p st c) [] ⟨st', tx, result⟩ acts) :
      Operates p st ⟨.call c, acts, .called tx result⟩ st'
  | action {st : EngineState} {a : Action} {acts : List Act}
      {result : Except ActionFailure (List DevicePause)}
      (h : Runs errands (performAction st a) [] result acts) :
      Operates p st ⟨.action a, acts, .acted result⟩ st

abbrev History := List (Transition EngineState Entry)

def actsOf (past : History) : List Act := past.flatMap (·.label.acts)

@[simp] theorem actsOf_snoc (past : History) (e : Transition EngineState Entry) :
    actsOf (past ++ [e]) = actsOf past ++ e.label.acts := by
  simp [actsOf]

def Adds (P : Act → Prop) (acts acts' : List Act) : Prop :=
  ∃ more, acts' = acts ++ more ∧ ∀ a ∈ more, P a

theorem Adds.none : Adds P acts acts := ⟨[], by simp⟩

theorem Adds.one (ha : P a) : Adds P acts (acts ++ [a]) := ⟨[a], by simp [ha]⟩

theorem Adds.trans (h : Adds P acts acts') (h' : Adds P acts' acts'') : Adds P acts acts'' := by
  obtain ⟨more, rfl, hmore⟩ := h
  obtain ⟨more', rfl, hmore'⟩ := h'
  refine ⟨more ++ more', by simp, fun a ha => ?_⟩
  rcases List.mem_append.mp ha with ha | ha
  · exact hmore a ha
  · exact hmore' a ha

theorem Adds.mono (hPQ : ∀ a, P a → Q a) (h : Adds P acts acts') : Adds Q acts acts' := by
  obtain ⟨more, rfl, hmore⟩ := h
  exact ⟨more, rfl, fun a ha => hPQ a (hmore a ha)⟩

theorem Adds.all (h : Adds P [] acts) : ∀ a ∈ acts, P a := by
  obtain ⟨_, rfl, hmore⟩ := h
  simpa using hmore

inductive IsSent (R : ApplyRequest → Prop) : Act → Prop
  | mk {req : ApplyRequest} {r : Except String ApplyResponse} (hreq : R req) : IsSent R (.sent req r)

theorem adds_of_sent (h : Sent ledger R acts acts') : Adds (IsSent R) acts acts' := by
  induction h with
  | none => exact .none
  | more hreq hsend _ ih =>
    cases hsend
    exact (Adds.one (.mk hreq)).trans ih

theorem adds_of_exchanged (h : Exchanged ledger req acts r acts') (hreq : R req) :
    Adds (IsSent R) acts acts' :=
  adds_of_sent (h.sent hreq)

theorem acts_of_persisted (h : Persisted ledger p false cfg acts r acts') :
    if p.hasStore then acts' = acts ++ [.saved cfg r] else r = .ok () ∧ acts' = acts := by
  simp only [Persisted, Bool.false_eq_true, ↓reduceIte] at h
  exact h

structure Tried (req : ApplyRequest) (attempts : Nat) (r : Except String ApplyResponse)
    (more : List Act) : Prop where
  bounded : more.length ≤ attempts
  same : ∀ a ∈ more, IsSent (· = req) a
  heard : ∀ a ∈ more, a.Acknowledges req → acknowledged r = true
  valid : ∀ resp, r = .ok resp → resp.validate = .ok ()
  ok : ∀ resp, r = .ok resp → .sent req (.ok resp) ∈ more

theorem Tried.nothing : Tried req n (.error e) [] :=
  ⟨Nat.zero_le _, by simp, by simp, by simp, by simp⟩

theorem tried_attempt (req : ApplyRequest) (n : Nat) (last : Option String) (acts : List Act) :
    (attempt req n last).wp ledger.handler
      (fun r acts' => ∃ more, acts' = acts ++ more ∧ Tried req n r more) acts := by
  induction n generalizing acts last with
  | zero => exact ⟨[], by simp, .nothing⟩
  | succ n ih =>
  rintro expired _ rfl
  cases expired with
  | true => exact ⟨[], by simp, .nothing⟩
  | false =>
  rintro r _ rfl
  cases r with
  | error e =>
    refine wp_mono (ih (some e) _) ?_
    rintro r _ ⟨more, rfl, hmore⟩
    refine ⟨.sent req (.error e) :: more, by simp, ?_⟩
    refine ⟨by simpa using hmore.bounded, ?_, ?_, hmore.valid, ?_⟩
    · exact List.forall_mem_cons.mpr ⟨.mk rfl, hmore.same⟩
    · exact List.forall_mem_cons.mpr ⟨nofun, hmore.heard⟩
    · exact fun resp hr => List.mem_cons_of_mem _ (hmore.ok resp hr)
  | ok resp =>
  have hone : ∀ a ∈ [Act.sent req (.ok resp)], IsSent (· = req) a := by
    simp only [List.mem_singleton, forall_eq]
    exact .mk rfl
  simp only
  split
  · next e hvalid =>
    refine ⟨[.sent req (.ok resp)], rfl, by simp, hone, ?_, by simp, by simp⟩
    simp only [List.mem_singleton, forall_eq]
    rintro ⟨hok, -⟩
    rw [hvalid] at hok
    cases hok
  · next hvalid =>
    refine ⟨[.sent req (.ok resp)], rfl, by simp, hone, ?_, ?_, ?_⟩
    · simp only [List.mem_singleton, forall_eq]
      rintro ⟨-, hsuccess⟩
      exact hsuccess
    · intro resp' h
      cases h
      exact hvalid
    intro resp' h
    cases h
    exact List.mem_singleton.mpr rfl

theorem wp_tried {f : Except String ApplyResponse → Exchange α}
    (h : ∀ r more, Tried req 2 r more → (f r).wp ledger.handler post (acts ++ more)) :
    ((applyPrivileged req).bind f).wp ledger.handler post acts := by
  rw [wp_bind]
  refine wp_mono (tried_attempt req 2 none acts) ?_
  rintro r _ ⟨more, rfl, hmore⟩
  exact h r more hmore

theorem Tried.acknowledges (h : Tried req n r more) (hr : acknowledged r = true) :
    ∃ a ∈ more, a.Acknowledges req := by
  cases r with
  | error => cases hr
  | ok resp => exact ⟨_, h.ok resp rfl, .mk (h.valid resp rfl) hr⟩

def willing (acts : List Act) : (q : Query) → q.Answer × List Act
  | .now => (⟨1000000000, 0, 0⟩, acts)
  | .expired => (false, acts)
  | .send req =>
    let r := .ok { id := req.id, success := true, verified := true }
    (r, acts ++ [.sent req r])
  | .saveConfig cfg => (.ok (), acts ++ [.saved cfg (.ok ())])
  | .commitInitialSetup cfg => (.ok (), acts ++ [.setUp cfg (.ok ())])
  | .inspectLanChange _ _ => (.ok (), acts)
  | .createSnapshot _ => (.ok (), acts)
  | .measure => (.ok (), acts)

def unreachable (acts : List Act) : (q : Query) → q.Answer × List Act
  | .send req => (.error "no route", acts ++ [.sent req (.error "no route")])
  | q => willing acts q

def operated (answer : List Act → (q : Query) → q.Answer × List Act) (st : EngineState)
    (call : Call) : Transition EngineState Entry :=
  let run := (perform .plain st call).exec answer []
  ⟨st, ⟨.call call, run.2, .called run.1.tx run.1.result⟩, run.1.engine⟩

theorem operates_willing (st : EngineState) (call : Call) :
    Operates .plain st (operated willing st call).label (operated willing st call).after := by
  refine .call (runs_exec (fun acts q => ?_) _ _)
  cases q <;> exact rfl

theorem operates_unreachable (st : EngineState) (call : Call) :
    Operates .plain st (operated unreachable st call).label (operated unreachable st call).after := by
  refine .call (runs_exec (fun acts q => ?_) _ _)
  cases q <;> exact rfl

end MinimalRouter.Apply
