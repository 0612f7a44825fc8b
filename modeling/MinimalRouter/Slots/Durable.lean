import MinimalRouter.Slots.Commands

namespace MinimalRouter.Slots

open Goish Lib SlotManager
open Firmware (SlotState)

variable {m : SlotManager}

def Synced : (q : Query) → q.Answer → Prop
  | .syncRoot, .error _ => False
  | _, _ => True

def Durable (digest : List UInt8 → List UInt8) : Prog.Handler Query Query.Answer Store :=
  fun s q r t => Handles digest s q r t ∧ Synced q r

section Settles

variable {α β : Type} {x : SlotProg α}

def Settles (digest : List UInt8 → List UInt8) (x : SlotProg α) : Prop :=
  ∀ s : Store, s.root.past = [] → x.Meets (Durable digest) Interrupts (fun _ => True)
    (fun _ t => t.root.past = []) (fun t => t.root.past = []) s

namespace Settles

theorem of_framed (h : Framed x) : Settles digest x := by
  intro s hs
  unfold Framed at h
  unfold Attempt.Meets
  induction h generalizing s with
  | @ret r =>
    cases r with
    | ok | error => exact ⟨trivial, hs⟩
  | ask hq _ ih =>
    refine ⟨trivial, fun _ _ => trivial, fun r t ht => ih r t ?_⟩
    rw [Handles.root hq ht.1]
    exact hs

theorem bind {f : α → SlotProg β} (hx : Settles digest x) (hf : ∀ a, Settles digest (f a)) :
    Settles digest (x >>= f) := fun s hs => (hx s hs).bind fun a t ht => hf a t ht

theorem mapError (hx : Settles digest x) : Settles digest (x.mapError f) :=
  fun s hs => (hx s hs).mapError

theorem result (hx : Settles digest x) : Settles digest x.result :=
  fun s hs => (hx s hs).result fun _ _ _ h => h

theorem andFinally (hx : Settles digest x) (hy : Settles digest y) :
    Settles digest (x.andFinally y) :=
  fun s hs => (hx s hs).andFinally (fun _ t ht => hy t ht) fun t ht => hy t ht

theorem changeAndSync {k : q.Answer → SlotProg Unit} {after : Store → Root}
    (hk : ∀ s r t, Handles digest s q r t → (∃ e, k r = .fail e ∧ t.root = s.root) ∨
      (k r = pure () ∧ t.root = s.root.change (after s))) :
    Settles digest (do Attempt.ask q k; syncRoot) := by
  intro s hs
  have hchange : (Attempt.ask q k).Meets (Durable digest) Interrupts (fun _ => True)
      (fun _ _ => True) (fun t => t.root.past = []) s := by
    refine .ask trivial (fun _ _ => trivial) fun r t ht => ?_
    rcases hk s r t ht.1 with ⟨e, hfail, hroot⟩ | ⟨hdone, -⟩
    · rw [hfail]
      refine .fail trivial ?_
      rw [hroot]
      exact hs
    · rw [hdone]
      exact .pure trivial trivial
  refine hchange.bind fun _ t _ => .ask trivial (fun _ _ => trivial) fun r u hu => ?_
  cases r with
  | ok _ =>
    obtain rfl : u = { t.log .syncRoot with root := t.root.sync } := hu.1
    exact .ofExcept trivial (fun _ _ => rfl) nofun
  | error => cases hu.2

end Settles

theorem settles_clearOperation : Settles digest clearOperation :=
  .changeAndSync fun _ _ _ ht => keeps_ofExcept_change ht rfl

theorem settles_removeLink : Settles digest (removeLink l) :=
  .changeAndSync fun _ _ _ ht => keeps_ofExcept_change ht rfl

theorem settles_writeAtomicJson : Settles digest (m.writeAtomicJson d) :=
  .bind (.of_framed framed_ensureRoot) fun _ => .bind (.of_framed (.call rfl)) fun _ =>
    .changeAndSync fun _ _ _ ht => keeps_ofExcept_change ht rfl

theorem settles_swapLink : Settles digest (swapLink l version) :=
  .bind (.of_framed framed_requireSlot) fun _ => .bind (.of_framed (.call rfl)) fun _ =>
    .changeAndSync fun _ _ _ ht => keeps_ofExcept_change ht rfl

theorem settles_restoreLink : Settles digest (restoreLink l version) := by
  unfold restoreLink
  split
  · exact settles_removeLink
  · exact settles_swapLink

theorem settles_restoreLinks {state : SlotState} : Settles digest (restoreLinks state) :=
  .bind settles_restoreLink.result fun _ => .bind settles_restoreLink.result fun _ =>
    .of_framed .ofExcept

theorem settles_recoverOperation : Settles digest m.recoverOperation := by
  refine .bind (.of_framed ?_) fun o => ?_
  · refine .bind (.call rfl) fun o => ?_
    cases o with
    | none => exact .pure
    | some => exact .bind framed_validateOperation fun _ => .pure
  cases o with
  | none => exact .of_framed .pure
  | some =>
    exact .bind (.of_framed framed_projectOperationState) fun _ =>
      .bind settles_restoreLinks.mapError fun _ => .bind settles_writeAtomicJson.mapError fun _ =>
        settles_clearOperation.mapError

theorem settles_abortOperation : Settles digest (m.abortOperation old primary) :=
  .bind settles_restoreLinks.mapError fun _ => .bind settles_writeAtomicJson.mapError fun _ =>
    .bind settles_clearOperation.mapError fun _ => .of_framed .fail

theorem settles_commitOperation (h : Settles digest mutate) :
    Settles digest (m.commitOperation kind old next mutate) := by
  have hbegin : Settles digest
      (m.beginOperation { version := operationJournalVersion, kind, old, next }) :=
    .bind (.of_framed framed_validateOperation) fun _ => settles_writeAtomicJson
  refine .bind hbegin.mapError fun _ => .bind h.result fun moved => ?_
  cases moved with
  | error => exact settles_abortOperation
  | ok _ =>
    refine .bind settles_writeAtomicJson.result fun saved => ?_
    cases saved with
    | error => exact settles_abortOperation
    | ok => exact settles_clearOperation.mapError

theorem settles_withLock {run : SlotProg Unit} (h : Settles digest run) :
    Settles digest (m.withLock run) :=
  .bind (.of_framed framed_ensureRoot) fun _ =>
    .bind (.of_framed (.call rfl)) fun _ => h

theorem settles_recoverFirst : Settles digest m.recoverFirst :=
  .bind (.of_framed framed_checkInstallation) fun _ => settles_recoverOperation.mapError

theorem settles_previous : Settles digest
    (if version ≠ "" then (swapLink .previous version).mapError f else removeLink .previous) := by
  split
  · exact settles_swapLink.mapError
  · exact settles_removeLink

theorem settles_activate : Settles digest (m.activate version) := by
  refine settles_withLock (.bind settles_recoverFirst fun _ => .bind (.of_framed .failIf) fun _ =>
    .bind (.of_framed framed_requireSlot) fun _ =>
      .bind (.of_framed framed_stateWithoutOperation) fun state => ?_)
  split
  · exact settles_writeAtomicJson
  · exact .bind (.of_framed .ofExcept) fun _ => .bind (.of_framed .ofExcept) fun _ =>
      settles_commitOperation (.bind settles_previous fun _ => settles_swapLink.mapError)

theorem settles_rollback : Settles digest m.rollback :=
  settles_withLock (.bind settles_recoverFirst fun _ =>
    .bind (.of_framed framed_stateWithoutOperation) fun _ => .bind (.of_framed .failIf) fun _ =>
      .bind (.of_framed framed_requireSlot.mapError) fun _ => .bind (.of_framed .ofExcept) fun _ =>
        settles_commitOperation (.bind settles_swapLink.mapError fun _ => settles_previous))

theorem settles_commitRelease {state : SlotState} :
    Settles digest (m.commitRelease state version) := by
  have hremove : Framed (removeSlot version).result := Framed.result (.call rfl)
  refine .bind (.of_framed (Framed.result (.call rfl))) fun synced => ?_
  cases synced with
  | error => exact .bind (.of_framed hremove) fun _ => .of_framed .fail
  | ok _ =>
    refine .bind settles_writeAtomicJson.result fun saved => ?_
    cases saved with
    | ok => exact .of_framed .pure
    | error =>
      refine .bind (.of_framed hremove) fun removed => .bind
        (.of_framed (Framed.result (.call rfl))) fun _ => ?_
      cases removed with
      | ok | error => exact .of_framed .fail

theorem settles_stage : Settles digest (m.stage crypto arch manifest) := by
  refine settles_withLock (.bind settles_recoverFirst fun _ => ?_)
  split
  · exact .of_framed .fail
  exact .bind (.of_framed .failIf) fun _ =>
    .bind (.of_framed framed_validateReleaseCandidate.mapError) fun _ =>
    .bind (.of_framed framed_stateWithoutOperation) fun _ => .bind (.of_framed .ofExcept) fun _ =>
    .bind (.of_framed .ofExcept) fun _ => .bind (.of_framed (.call rfl)) fun _ =>
    .bind (.of_framed .failIf) fun _ => .bind (.of_framed (.call rfl)) fun _ =>
    .andFinally (.bind (.of_framed framed_copyRelease) fun _ => settles_commitRelease)
      (.of_framed (.call rfl))

theorem settles_beginInstallation : Settles digest (m.beginInstallation minimum) :=
  settles_withLock (.bind settles_recoverOperation fun _ =>
    .bind (.of_framed framed_stateWithoutOperation) fun _ => .bind (.of_framed .ofExcept) fun _ =>
      settles_writeAtomicJson)

theorem settles_installBaseline : Settles digest (m.installBaseline crypto inventory minimum) := by
  have hremove : Settles digest
      (do Attempt.ask .removeInstallation Attempt.ofExcept; syncRoot : SlotProg Unit) :=
    .changeAndSync fun _ _ _ ht => keeps_ofExcept_change ht rfl
  exact settles_withLock (.bind settles_recoverOperation fun _ =>
    .bind (.of_framed framed_stateWithoutOperation) fun _ => .bind (.of_framed .ofExcept) fun _ =>
    .bind (.of_framed (.call rfl)) fun _ =>
    .andFinally (.bind (.of_framed framed_copyInventory) fun _ =>
      .bind (.of_framed framed_placeBaseline) fun _ =>
      .bind (.of_framed framed_stateWithoutOperation) fun _ =>
      .bind (settles_commitOperation (.bind settles_removeLink fun _ => settles_swapLink)) fun _ =>
        hremove) (.of_framed (.call rfl)))

theorem settles_program {c : Command} : Settles digest (c.program m crypto arch) := by
  cases c with
  | stage => exact settles_stage
  | activate => exact settles_activate
  | rollback => exact settles_rollback
  | beginInstallation => exact settles_beginInstallation
  | installBaseline => exact settles_installBaseline
  | recover => exact settles_recoverOperation

end Settles

end MinimalRouter.Slots
