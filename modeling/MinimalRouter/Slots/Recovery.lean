import MinimalRouter.Slots.Pointers

namespace MinimalRouter.Slots

open Goish Lib SlotManager
open Firmware (SlotState)

variable {m : SlotManager} {ok : Unit → Directory Root → Prop} {o : SlotOperation}

def settledRoot (r : Root) (state : SlotState) : Root :=
  { withPointers r state with state := some state, operation := none }

def recovered (r : Root) : Root :=
  match r.operation with
  | none => r
  | some o => settledRoot r (selected o r)

def SlotOperation.Sides (o : SlotOperation) (state : SlotState) : Prop :=
  state = o.old ∨ state = o.next

/-- The root from the start of an operation to its end, which is one of some states. -/
inductive Moment (o : SlotOperation) (S : SlotState → Prop) (b r : Root) : Prop
  | under (h : Under o r) (hstate : S (selected o r)) (hfence : r.installation = b.installation) :
      Moment o S b r
  | settled (state : SlotState) (hstate : S state) (h : SettledAt state r) (hvalid : o.Valid)
      (hfence : r.installation = b.installation) : Moment o S b r

theorem SlotOperation.Valid.journalState {state : SlotState} (h : o.Valid)
    (hstate : o.Sides state) : JournalState state := by
  rcases hstate with rfl | rfl
  · exact h.old
  · exact h.next

theorem settledAt_settledRoot {state : SlotState} (h : JournalState state) :
    SettledAt state (settledRoot r state) := ⟨rfl, rfl, rfl, rfl, h.current, h.previous⟩

namespace Under

theorem setPrevious (h : Under o r) (target : Option String) : Under o (r.setLink .previous target) :=
  ⟨h.operation, h.current, h.valid⟩

theorem setCurrent {state : SlotState} (h : Under o r) (hstate : o.Sides state) :
    Under o (r.setLink .current (target state.current)) := by
  refine ⟨h.operation, ?_, h.valid⟩
  rcases hstate with rfl | rfl
  · exact .inl rfl
  · exact .inr rfl

theorem putState (h : Under o r) (state : SlotState) : Under o (r.put (.state state)) :=
  ⟨h.operation, h.current, h.valid⟩

end Under

section Settling

variable {state : SlotState}

theorem keeps_restoreAndSave_bind (hs : Throughout G s) (hG : ∀ r, Moment o S b r → G r)
    (hunder : Under o s.root.now) (hfence : s.root.now.installation = b.installation)
    (hside : o.Sides state) (hnow : S (selected o s.root.now))
    (hset : S (selected o (s.root.now.setLink .current (target state.current))))
    (hk : ∀ t, Throughout G t →
      t.root = ⟨{ withPointers s.root.now state with state := some state }, []⟩ →
      Keeps digest G ok (fun _ => True) (k ()) t) : Keeps digest G ok (fun _ => True)
      ((restoreLinks state).mapError f >>= fun _ => (m.saveState state).mapError g >>= k) s := by
  have hboth := (hunder.setCurrent hside).setPrevious (target state.previous)
  have hlinks : Keeps digest G (fun _ d => Turns (withPointers s.root.now state) d ∧
      Proper state.current ∧ Proper state.previous) (fun _ => True)
      ((restoreLinks state).mapError f) s :=
    (keeps_restoreLinks hs (hG _ (.under (hunder.setCurrent hside) hset hfence))
      (hG _ (.under (hunder.setPrevious _) hnow hfence)) (hG _ (.under hboth hset hfence))).mapError
  refine hlinks.bind fun _ t ht hpointers => ?_
  have hroot : t.root.now = withPointers s.root.now state := congrArg Directory.now hpointers.1
  have hG' : G (t.root.now.put (.state state)) := by
    rw [hroot]
    exact hG _ (.under (hboth.putState state) hset hfence)
  have hsave : Keeps digest G (fun _ => Turns (t.root.now.put (.state state))) (fun _ => True)
      ((m.saveState state).mapError g) t :=
    (keeps_writeAtomicJson ht hG').mapError.mono (fun _ => id) (fun _ _ _ => id) fun _ _ _ => trivial
  refine hsave.bind fun _ u hu hturn => hk u hu ?_
  rw [hroot] at hturn
  exact hturn

theorem keeps_clear (hs : Throughout G s) (hG : ∀ r, Moment o S b r → G r) (hvalid : o.Valid)
    (hfence : r.installation = b.installation) (hside : o.Sides state) (hstate : S state)
    (hroot : s.root = ⟨{ withPointers r state with state := some state }, []⟩) :
    Keeps digest G (fun _ d => d = ⟨settledRoot r state, []⟩) (fun _ => True)
      (clearOperation.mapError f) s := by
  have hsettled : SettledAt state (settledRoot r state) :=
    settledAt_settledRoot (hvalid.journalState hside)
  have hG' : G { s.root.now with operation := none } := by
    rw [hroot]
    exact hG _ (.settled state hstate hsettled hvalid hfence)
  refine (keeps_clearOperation hs hG').mapError.mono (fun _ => id) (fun _ d _ hd => ?_)
    fun _ _ _ => trivial
  rw [hroot] at hd
  exact hd

theorem keeps_abortOperation (hs : Throughout G s) (hG : ∀ r, Moment o o.Sides b r → G r)
    (hunder : Under o s.root.now) (hfence : s.root.now.installation = b.installation) :
    Keeps digest G ok (fun _ => True) (m.abortOperation o.old primary) s := by
  refine keeps_restoreAndSave_bind hs hG hunder hfence (.inl rfl) (selected_eq_or _ _)
    (selected_eq_or _ _) fun t ht hroot => ?_
  refine (keeps_clear ht hG hunder.valid hfence (.inl rfl) (.inl rfl) hroot).bind fun _ u hu _ => ?_
  exact .fail hu trivial

def Recovers (before after : Directory Root) : Prop :=
  match before.now.operation with
  | none => after = before
  | some _ => after = ⟨recovered before.now, []⟩

theorem keeps_recoverOperation (hs : Throughout G s)
    (hunder : ∀ o, s.root.now.operation = some o → Under o s.root.now)
    (hG : ∀ o r, s.root.now.operation = some o →
      Moment o (· = selected o s.root.now) s.root.now r → G r) :
    Keeps digest G (fun _ => Recovers s.root) (fun _ => True) m.recoverOperation s := by
  refine .returns_bind hs returns_readOperation trivial fun found t ⟨hfound, _⟩ ht hroot => ?_
  unfold Recovers recovered
  rw [← hfound]
  cases found with
  | none => exact .pure ht hroot
  | some o =>
  have hnow := hunder o hfound.symm
  rw [← hroot] at hnow
  refine .returns_bind ht (returns_projectOperationState hnow) trivial
    fun state u hstate hu hroot' => ?_
  rw [hroot] at hstate
  subst hstate
  have hside : o.Sides (selected o s.root.now) := selected_eq_or o s.root.now
  have hroot2 : u.root = s.root := hroot'.trans hroot
  have hset : selected o (u.root.now.setLink .current (target (selected o s.root.now).current)) =
      selected o s.root.now := by
    rw [hroot2, ← (hunder o hfound.symm).current_eq]
    rfl
  rw [← hroot'] at hnow
  refine keeps_restoreAndSave_bind (b := s.root.now) hu (fun r => hG o r hfound.symm) hnow
    (by rw [hroot2]) hside (by rw [hroot2]) hset fun v hv hroot3 => ?_
  rw [hroot2] at hroot3
  exact keeps_clear hv (fun r => hG o r hfound.symm) hnow.valid rfl hside rfl hroot3

def Moves (digest : List UInt8 → List UInt8) (o : SlotOperation) (x : SlotProg Unit) : Prop :=
  ∀ (G : Root → Prop) (s : Store), Throughout G s → Under o s.root.now →
    (∀ r, Under o r → r.installation = s.root.now.installation → G r) →
    Keeps digest G (fun _ d => d = ⟨withPointers s.root.now o.next, []⟩)
      (fun d => Under o d.now ∧ d.now.installation = s.root.now.installation) x s

theorem keeps_beginOperation (hs : Throughout G s)
    (hG : o.Valid → G (s.root.now.put (.operation o))) :
    Keeps digest G (fun _ d => Turns (s.root.now.put (.operation o)) d ∧ o.Valid) (fun _ => True)
      (m.beginOperation o) s := by
  refine .returns_bind hs returns_validateOperation trivial fun _ t hvalid ht hroot => ?_
  rw [← hroot] at hG ⊢
  exact (keeps_writeAtomicJson ht (hG hvalid)).mono (fun _ => id) (fun _ _ _ hd => ⟨hd, hvalid⟩)
    fun _ _ _ => trivial

theorem keeps_saveAndClear {f : String → String} {primary : String → String}
    (hs : Throughout G s) (hG : ∀ r, Moment o o.Sides b r → G r) (hunder : Under o s.root.now)
    (hfence : r.installation = b.installation) (hroot : s.root = ⟨withPointers r o.next, []⟩) :
    Keeps digest G (fun _ d => d = ⟨settledRoot r o.next, []⟩) (fun _ => True)
      (do
        match ← (m.saveState o.next).result with
        | .error e => m.abortOperation o.old (primary e)
        | .ok _ => clearOperation.mapError f) s := by
  have hfence' : s.root.now.installation = b.installation := by
    rw [hroot]
    exact hfence
  have hsaved := hunder.putState o.next
  refine .result_bind (keeps_writeAtomicJson hs (hG _ (.under hsaved (selected_eq_or _ _) hfence')))
    (fun _ t ht hresult => ?_) fun e t ht hresult => ?_
  · rw [hroot] at hresult
    exact keeps_clear ht hG hunder.valid hfence (.inr rfl) (.inr rfl) hresult
  rcases hresult with hnow | hnow
  · exact keeps_abortOperation ht hG (hnow ▸ hunder) (hnow ▸ hfence')
  · exact keeps_abortOperation ht hG (hnow ▸ hsaved) (hnow ▸ hfence')

theorem keeps_commitOperation (ho : o = ⟨operationJournalVersion, kind, old, next⟩)
    (hs : Throughout G s) (hcurrent : s.root.now.current = target old.current)
    (hmoves : Moves digest o mutate) (hG : ∀ r, Moment o o.Sides s.root.now r → G r) :
    Keeps digest G (fun _ d => d = ⟨settledRoot s.root.now next, []⟩ ∧ o.Valid) (fun _ => True)
      (m.commitOperation kind old next mutate) s := by
  obtain rfl : old = o.old := by rw [ho]
  obtain rfl : next = o.next := by rw [ho]
  unfold commitOperation
  rw [← ho]
  have hbegun : o.Valid → Under o (s.root.now.put (.operation o)) := fun hvalid =>
    ⟨rfl, .inl hcurrent, hvalid⟩
  refine (keeps_beginOperation hs fun hvalid =>
    hG _ (.under (hbegun hvalid) (selected_eq_or _ _) rfl)).mapError.bind
    fun _ t ht ⟨hturn, hvalid⟩ => ?_
  have hnow : t.root.now = s.root.now.put (.operation o) := congrArg Directory.now hturn
  have hunder := hbegun hvalid
  rw [← hnow] at hunder
  have hfence : t.root.now.installation = s.root.now.installation := by rw [hnow]; rfl
  refine .result_bind (hmoves G t ht hunder fun r hr hf =>
    hG r (.under hr (selected_eq_or _ _) (hf.trans hfence))) (fun _ u hu hresult => ?_)
    fun e u hu hresult => keeps_abortOperation hu hG hresult.1 (hresult.2.trans hfence)
  have hmoved : Under o u.root.now := by
    rw [hresult]
    exact (hunder.setCurrent (.inr rfl)).setPrevious _
  refine (keeps_saveAndClear hu hG hmoved hfence hresult).mono (fun _ => id)
    (fun _ d _ hd => ⟨?_, hvalid⟩) fun _ _ => id
  rw [hd, hnow]
  rfl

end Settling

end MinimalRouter.Slots
