import MinimalRouter.Applyd.ConfirmGate

namespace MinimalRouter.Applyd

open Goish Config Apply Lib Lib.Machine

variable {F : Type} [DecidableEq F]

namespace Effect

def isHandshake : Effect F → Bool
  | handshake _ _ _ => true
  | _ => false

end Effect

def Unpended (e : Step F) : Prop := ∀ q, .pending q ∉ e.output.effects

/-- The helper read a handshake of the tunnel of `C` that it accepted for the pending record. -/
def HandshakeRead (C : SystemConfig) (p : PendingConfirmation F) (w : Step F) : Prop :=
  ∃ last now, .handshake C (some p.handshakeNotBefore) last ∈ w.output.effects ∧
    p.handshakeNotBefore ≤ last ∧
    verifyWgClientHandshake last C.wgClient.persistentKeepalive (some p.handshakeNotBefore) now =
      .ok ()

/-- A commit that makes a changed tunnel last-good comes after a handshake that was read since its
pending record was written. -/
def TunnelGated (past : List (Step F)) (e : Step F) : Prop :=
  ∀ env req p C, e.input.delivery = some (env, req) → req.op = .commitConfirmed →
    e.before.disk.pending = some p → .lastGood C ∈ e.output.effects →
    C.wgClient.enabled = true → p.wgClientChanged = true →
    ∃ pre w mid, past = pre ++ w :: mid ∧ w.before.disk.pending = some p ∧ HandshakeRead C p w ∧
      ∀ m ∈ mid, Unpended m

/-- A commit of a changed tunnel is sent only after the helper confirmed the same configuration,
with no pending record written in between. -/
def ConfirmedFirst (past : List (Step F)) (e : Step F) : Prop :=
  ∀ env req p, e.input.delivery = some (env, req) → req.op = .commitConfirmed →
    e.before.disk.pending = some p → req.config.wgClient.enabled = true →
    p.wgClientChanged = true →
    ∃ pre w mid, past = pre ++ w :: mid ∧
      (∃ env' req' r, w.input = .request env' (.request req') ∧ req'.op = .confirm ∧
        req'.config = req.config ∧ operations w.output.effects ≠ 0 ∧ w.output.response = some r ∧
        r.verifiedSuccess = true) ∧
      ∀ m ∈ mid, Unpended m

section Steps

variable {h : Helper F}

theorem step_disk (a : Appliance F) (h : Helper F) (i : Input) :
    ((helper a).respond h i).2.disk = h.disk.applyAll ((helper a).respond h i).1.effects := by
  cases i with
  | request env data => exact processRequest_disk a env h data
  | crash => rfl
  | restart env => exact (rebooted_reconcileStartup a env h).disk

theorem pending_of_unpended (hall : ∀ e ∈ (helper a).trace h inputs, Unpended e)
    (hp : ((helper a).final h inputs).disk.pending = some p) : h.disk.pending = some p := by
  induction inputs generalizing h with
  | nil => exact hp
  | cons i inputs ih =>
    rw [trace, List.forall_mem_cons] at hall
    have hnext := ih hall.2 hp
    rw [step_disk, Disk.pending_applyAll] at hnext
    exact onPending_of_unpended hall.1 hnext

theorem le_of_verifyWgClientHandshake
    (h : verifyWgClientHandshake last keepalive (some start) now = .ok ()) : start ≤ last := by
  unfold verifyWgClientHandshake at h
  by_contra hlt
  split at h
  · cases h
  split at h
  · cases h
  rw [if_pos (by simp only [Option.any_some, Bool.or_eq_true, decide_eq_true_eq]; omega)] at h
  cases h

theorem handshake_of_confirmed (hop : req.op = .confirm)
    (hran : operations (processRequest a env h (.request req)).effects ≠ 0)
    (hr : (processRequest a env h (.request req)).response.verifiedSuccess = true)
    (henabled : req.config.wgClient.enabled = true) :
    (∀ q, .pending q ∉ (processRequest a env h (.request req)).effects) ∧
      ∃ p, h.disk.pending = some p ∧ ∃ last,
      .handshake req.config (if p.wgClientChanged then some p.handshakeNotBefore else none) last ∈
        (processRequest a env h (.request req)).effects ∧
      verifyWgClientHandshake last req.config.wgClient.persistentKeepalive
        (if p.wgClientChanged then some p.handshakeNotBefore else none)
        env.confirm.now.now.unix = .ok () := by
  obtain ⟨_, ran, _, written, -, -, hexec, hclosed, -, heq⟩ := exists_ran hran
  rw [heq] at hr ⊢
  have hsuccess : ran.response.verifiedSuccess = true := by
    cases hclosed with
    | saved => exact hr
    | unsaved => cases hr
  cases hexec with
  | committed hcase => cases hop.symm.trans hcase
  | applied hconfirm => exact absurd hop hconfirm
  | confirmed hcase hran =>
    cases hran with
    | refused href => cases href.unverified.symm.trans hsuccess
    | confirmed hmatched hread =>
      rcases confirmTunnel_effects hread with ⟨-, hoff⟩ | ⟨_, last, rfl, rfl, hverify⟩
      · cases hoff.symm.trans henabled
      refine ⟨fun q hq => ?_, _, hmatched.stored, last, by simp, hverify⟩
      have hjournal : Effect.pending q ∉ written := hclosed.not_mem fun r h => by cases h
      simp [hjournal] at hq

theorem matched_of_lastGood (hop : req.op = .commitConfirmed)
    (hC : .lastGood C ∈ (processRequest a env h (.request req)).effects) : C = req.config := by
  have hhandled := handled_processRequest a env h (.request req)
  generalize processRequest a env h (.request req) = p at hhandled hC
  cases hhandled with
  | unread | replayed => cases hC
  | unrecorded hhash hfresh hwritten =>
    rcases hwritten with rfl | ⟨rfl, -⟩ <;> simp at hC
  | @ran _ hash ran record written htrans hhash hfresh hexec hclosed hexact =>
  have hjournal : Effect.lastGood C ∉ written := hclosed.not_mem fun r h => by cases h
  simp only [List.mem_cons, reduceCtorEq, false_or, List.mem_append, hjournal, or_false] at hC
  cases hexec with
  | confirmed hcase => cases hop.symm.trans hcase
  | applied hconfirm hcommit => exact absurd hop hcommit
  | committed hcase hran =>
    cases hran with
    | refused => cases hC
    | unsaved hmatched hwritten =>
      rcases hwritten with rfl | ⟨rfl, -⟩
      · cases hC
      · simpa using hC
    | uncleared hmatched hremoved =>
      rcases hremoved with rfl | ⟨rfl, -⟩ <;> simpa using hC
    | committed => simpa using hC

end Steps

section Gate

variable (a : Appliance F) (h : Helper F) (inputs : List Input)

/-- A run in which every commit of a changed tunnel is confirmed first never makes a tunnel
last-good without a handshake. -/
theorem tunnel_commits_are_gated
    (hconfirmed : ∀ past e rest, (helper a).trace h inputs = past ++ e :: rest →
      ConfirmedFirst past e) {past rest : List (Step F)} {e : Step F}
    (htrace : (helper a).trace h inputs = past ++ e :: rest) : TunnelGated past e := by
  intro env req p C hdelivery hop hp hC henabled hchanged
  have hconfig : C = req.config := by
    obtain ⟨before, i, after, -, -, rfl, -⟩ := trace_split htrace
    cases i with
    | restart => cases hdelivery
    | request env data =>
      cases data <;> cases hdelivery
      exact matched_of_lastGood hop hC
    | crash env data =>
      cases data <;> cases hdelivery
      exact matched_of_lastGood hop (List.mem_of_mem_take hC)
  subst hconfig
  obtain ⟨pre, w, mid, hpast, ⟨_, _, r, hinput, hop', hsame, hran, hr, hverified⟩, hmid⟩ :=
    hconfirmed past e rest htrace env req p hdelivery hop hp henabled hchanged
  subst hpast
  refine ⟨pre, w, mid, rfl, ?_⟩
  rw [List.append_assoc, List.cons_append] at htrace
  obtain ⟨before, i, after, -, -, rfl, hafter⟩ := trace_split htrace
  obtain ⟨_, j, _, -, rfl, rfl, -⟩ := trace_split hafter.symm
  cases hinput
  injection hr with hr
  obtain ⟨hnone, _, hp', last, hread, hverify⟩ :=
    handshake_of_confirmed hop' hran (hr ▸ hverified) (hsame ▸ henabled)
  have hafterw := pending_of_unpended hmid hp
  rw [step_disk, Disk.pending_applyAll] at hafterw
  have hp'' := onPending_of_unpended hnone hafterw
  injection hp'.symm.trans hp'' with hpp
  subst hpp
  rw [hsame, if_pos hchanged] at hread hverify
  exact ⟨hp', ⟨last, _, hread, le_of_verifyWgClientHandshake hverify, hverify⟩, hmid⟩

end Gate

def tunnelApplied : Step Json :=
  (helper .plain).step provisioned (.request {} (tunnelRequest "tx-1" .applyAll true))

def tunnelConfirmed : Step Json :=
  (helper .plain).step tunnelApplied.after
    (.request { confirm := { lastHandshake := .ok 1 } } (tunnelRequest "tx-2" .confirm false))

def tunnelCommitted (s : Step Json) : Step Json :=
  (helper .plain).step s.after (.request {} (tunnelRequest "tx-3" .commitConfirmed false))

theorem tunnel_commits_are_gated_at_confirmed :
    (tunnelCommitted tunnelConfirmed).after.disk.lastGood = some tunnelled ∧
      TunnelGated [tunnelApplied, tunnelConfirmed] (tunnelCommitted tunnelConfirmed) := by
  have htrace : (helper .plain).trace provisioned [
      .request {} (tunnelRequest "tx-1" .applyAll true),
      .request { confirm := { lastHandshake := .ok 1 } } (tunnelRequest "tx-2" .confirm false),
      .request {} (tunnelRequest "tx-3" .commitConfirmed false)] =
        [tunnelApplied, tunnelConfirmed] ++ tunnelCommitted tunnelConfirmed :: [] := rfl
  refine ⟨by decide +kernel, tunnel_commits_are_gated .plain provisioned _ ?_ htrace⟩
  intro past e rest hsplit env req p hdelivery hop hp henabled hchanged
  rw [htrace] at hsplit
  rcases past with _ | ⟨x, _ | ⟨y, past⟩⟩
  · injection hsplit with he
    subst he
    cases hdelivery
    cases hop
  · injection hsplit with hx hsplit
    injection hsplit with he
    subst he
    cases hdelivery
    cases hop
  injection hsplit with hx hsplit
  injection hsplit with hy hsplit
  cases past with
  | cons z past => cases past <;> cases hsplit
  | nil =>
    injection hsplit with he
    subst hx hy he
    cases hdelivery
    refine ⟨[tunnelApplied], tunnelConfirmed, [], rfl, ⟨_, _, _, rfl, rfl, rfl, ?_, rfl, ?_⟩,
      by simp⟩
    · decide +kernel
    · decide +kernel

theorem commit_without_handshake :
    (tunnelCommitted tunnelApplied).after.disk.lastGood = some tunnelled ∧
      ¬ TunnelGated [tunnelApplied] (tunnelCommitted tunnelApplied) := by
  have hchanged : tunnelApplied.after.disk.pending.any (·.wgClientChanged) = true := by
    decide +kernel
  have hsilent : tunnelApplied.output.effects.all (!·.isHandshake) = true := by decide +kernel
  refine ⟨by decide +kernel, fun hgated => ?_⟩
  obtain ⟨p, hp, hchanged⟩ := (Option.any_eq_true _ _).mp hchanged
  obtain ⟨_, w, _, hpast, -, ⟨_, _, hread, -⟩, -⟩ := hgated _ _ p tunnelled rfl rfl hp
    (List.mem_of_getElem? (i := 2) rfl) rfl hchanged
  have hw : w ∈ [tunnelApplied] := by
    rw [hpast]
    simp
  rw [List.mem_singleton] at hw
  subst hw
  have := List.all_eq_true.mp hsilent _ hread
  cases this

end MinimalRouter.Applyd
