import MinimalRouter.Slots.Frame

namespace MinimalRouter.Slots

open Goish Lib SlotManager Attempt
open Firmware (SlotState)

section

variable (h : releaseVersionPattern version = true)

include h

theorem slash_not_mem : '/' ∉ version.toList := by
  obtain ⟨_, _, -, -, hchars⟩ := chars_of_pattern h
  exact fun hmem => absurd (hchars '/' hmem) (by decide)

theorem ne_empty_of_pattern : version ≠ "" := by
  rintro rfl
  exact absurd h (by decide)

theorem splitOn_linkTarget :
    (linkTarget version).toList.splitOn '/' = ["slots".toList, version.toList] := by
  have htext : (linkTarget version).toList = "slots".toList ++ '/' :: version.toList := by
    simp [linkTarget]
  rw [htext, Segments.splitOn_append, Segments.splitOn_of_not_mem (slash_not_mem h)]
  rfl

theorem clean_linkTarget : clean (linkTarget version).toList = (linkTarget version).toList := by
  obtain ⟨c, _, hversion, hdot, -⟩ := chars_of_pattern h
  have hhead : ((linkTarget version).toList.head? == some '/') = false := by simp [linkTarget]
  have helement : ∀ done, cleanElement false done version.toList = version.toList :: done := by
    intro done
    unfold cleanElement
    rw [hversion, if_neg (by simp [hdot]), if_neg (by simp [hdot])]
  unfold clean
  dsimp only
  rw [hhead, splitOn_linkTarget h]
  simp only [List.foldl_cons, List.foldl_nil, helement]
  simp [cleanElement, linkTarget, List.intercalate]

theorem dir_linkTarget : dir (linkTarget version).toList = "slots".toList := by
  have htext : (linkTarget version).toList.reverse =
      version.toList.reverse ++ '/' :: "slots".toList.reverse := by simp [linkTarget]
  unfold dir rsplitOnce
  rw [htext, splitOnce_append (fun hmem => slash_not_mem h (List.mem_reverse.mp hmem))]
  change clean ("slots".toList.reverse.reverse ++ ['/']) = "slots".toList
  decide

theorem base_linkTarget : base (linkTarget version).toList = version.toList := by
  have hlast : ((linkTarget version).toList.reverse.dropWhile (· == '/')).reverse =
      (linkTarget version).toList := by
    obtain ⟨_, z, hz⟩ := (List.eq_nil_or_concat' version.toList).resolve_left fun hnil =>
      ne_empty_of_pattern h (String.toList_eq_nil_iff.mp hnil)
    have hslash : z ≠ '/' := fun heq => slash_not_mem h (by simp [hz, heq])
    simp [linkTarget, hz, hslash]
  have hne : (linkTarget version).toList.isEmpty = false := by simp [linkTarget]
  unfold base
  dsimp only
  rw [hlast, hne, splitOn_linkTarget h]
  rfl

theorem targetVersion_linkTarget : targetVersion l (linkTarget version) = .ok version := by
  have habs : isAbs (linkTarget version).toList = false := by simp [isAbs, linkTarget]
  unfold targetVersion
  dsimp only
  rw [clean_linkTarget h, dir_linkTarget h, base_linkTarget h, habs, if_neg (by simp),
    String.ofList_toList, if_neg (by simp [h])]

end

structure JournalState (state : SlotState) : Prop where
  minimum : Proper state.minimumVersion
  current : Proper state.current
  previous : Proper state.previous

structure SlotOperation.Valid (o : SlotOperation) : Prop where
  old : JournalState o.old
  next : JournalState o.next
  transition : validateTransition o = .ok ()
  floor : validateFloor o = .ok ()

theorem SlotOperation.Valid.next_pattern {o : SlotOperation} (h : o.Valid) :
    releaseVersionPattern o.next.current = true := by
  refine h.next.current.resolve_left fun hempty => ?_
  have htransition := h.transition
  unfold validateTransition at htransition
  split at htransition
  · rw [if_pos (.inl hempty)] at htransition
    cases htransition
  split at htransition
  · rw [if_pos (.inl hempty)] at htransition
    cases htransition
  split at htransition
  · split at htransition
    · cases htransition
    · next h => exact h (or_iff_not_imp_left.mpr fun hprevious => .inl fun heq =>
        hprevious (heq.symm.trans hempty))
  · cases htransition

theorem returns_requireJournalSlot :
    Returns digest (requireJournalSlot version) d fun _ => Proper version := by
  unfold requireJournalSlot
  split
  · next h => exact .pure (.inl h)
  split
  · exact .fail
  · next h =>
    exact (Returns.of_framed framed_requireSlot.mapError).mono fun _ _ => .inr (not_not.mp h)

theorem returns_validateJournalState {state : SlotState} :
    Returns digest (validateJournalState state) d fun _ => JournalState state := by
  have hminimum : ∀ u, (if state.minimumVersion = "" then .ok ()
      else (parseReleaseVersion state.minimumVersion).map fun _ => ()) = Except.ok u →
      Proper state.minimumVersion := by
    intro u hu
    split at hu
    · next h => exact .inl h
    · obtain ⟨v, hv, -⟩ := Result.map_eq_ok.mp hu
      exact .inr (pattern_of_parse hv)
  refine (Returns.ofExcept hminimum).bind fun _ hminimum => ?_
  refine (Returns.each fun _ => returns_requireJournalSlot).bind fun _ hslots => ?_
  refine Returns.failIf.mono fun _ _ => ⟨hminimum, hslots _ ?_, hslots _ ?_⟩
  · exact List.mem_cons_self
  · exact List.mem_cons_of_mem _ List.mem_cons_self

theorem returns_validateOperation : Returns digest (validateOperation o) d fun _ => o.Valid := by
  refine Returns.failIf.bind fun _ _ => ?_
  refine returns_validateJournalState.mapError.bind fun _ hold => ?_
  refine returns_validateJournalState.mapError.bind fun _ hnext => ?_
  refine Returns.failIf.bind fun _ _ => ?_
  refine (Returns.ofExcept fun _ h => h).bind fun _ htransition => ?_
  exact .ofExcept fun _ hfloor => ⟨hold, hnext, htransition, hfloor⟩

structure Points (state : SlotState) (r : Root) : Prop where
  current : r.current = target state.current
  previous : r.previous = target state.previous
  properCurrent : Proper state.current
  properPrevious : Proper state.previous

/-- No operation is under way, and the pointers and the state file have one state. -/
structure SettledAt (state : SlotState) (r : Root) : Prop where
  operation : r.operation = none
  file : r.state = some state
  points : Points state r

/-- An operation is under way, and the current pointer is one of its two. -/
structure Under (o : SlotOperation) (r : Root) : Prop where
  operation : r.operation = some o
  current : r.current = target o.old.current ∨ r.current = target o.next.current
  valid : o.Valid

/-- The pointers agree with the state file, which may be missing at first. -/
structure Aligned (r : Root) : Prop where
  operation : r.operation = none
  points : Points (r.state.getD {}) r

theorem SettledAt.aligned {state : SlotState} (h : SettledAt state r) : Aligned r :=
  ⟨h.operation, by rw [h.file]; exact h.points⟩

def withFloor (installation : Option SlotState) (state : SlotState) : Except String SlotState :=
  match installation with
  | none => .ok { state with installationPending := false }
  | some intent => withIntent intent state

def observe (r : Root) : Except String SlotState :=
  let state := r.state.getD {}
  withFloor r.installation
    { state with pending := if state.pending = state.current then "" else state.pending }

theorem withIntent_pointers {state : SlotState} (h : withIntent intent state = .ok state') :
    state'.current = state.current ∧ state'.previous = state.previous ∧
      state'.pending = state.pending := by
  unfold withIntent at h
  dsimp only at h
  split at h
  · cases h
    exact ⟨rfl, rfl, rfl⟩
  split at h
  · cases h
  split at h
  · cases h
    exact ⟨rfl, rfl, rfl⟩
  · obtain ⟨_, -, rfl⟩ := Result.map_eq_ok.mp h
    exact ⟨rfl, rfl, rfl⟩

theorem observe_pointers {state : SlotState} (h : observe r = .ok state) :
    state.current = (r.state.getD {}).current ∧ state.previous = (r.state.getD {}).previous := by
  unfold observe withFloor at h
  dsimp only at h
  split at h
  · cases h
    exact ⟨rfl, rfl⟩
  · obtain ⟨hcurrent, hprevious, -⟩ := withIntent_pointers h
    exact ⟨hcurrent, hprevious⟩

theorem Aligned.points_of_observe {state : SlotState} (h : Aligned r) (ho : observe r = .ok state) :
    Points state r := by
  obtain ⟨hcurrent, hprevious⟩ := observe_pointers ho
  obtain ⟨hc, hp, hpc, hpp⟩ := h.points
  exact ⟨hcurrent ▸ hc, hprevious ▸ hp, hcurrent ▸ hpc, hprevious ▸ hpp⟩

def named (version : String) : Option String := if version = "" then none else some version

theorem returns_readLink : Returns digest
    (ask (.readLink l) ofExcept : SlotProg (Option String)) d
      fun v => v = d.now.link l := by
  refine .ask rfl fun s r t hs ht => .ofExcept fun v hv => ?_
  rw [ht.2 v hv]
  exact congrArg (fun d : Directory Root => d.now.link l) hs

theorem returns_linkVersion (hlink : d.now.link l = target version) (hproper : Proper version) :
    Returns digest (linkVersion l) d fun v => v = named version := by
  refine returns_readLink.bind fun v hv => ?_
  rw [hlink] at hv
  subst hv
  unfold target named
  by_cases hempty : version = ""
  · rw [if_pos hempty, if_pos hempty]
    exact .pure rfl
  rw [if_neg hempty, if_neg hempty]
  have htarget := targetVersion_linkTarget (l := l) (hproper.resolve_left hempty)
  refine (Returns.ofExcept fun v hv => Except.ok.inj (hv.symm.trans htarget)).bind fun v hv => ?_
  exact (Returns.of_framed framed_requireSlot.mapError).bind fun _ _ => .pure (congrArg some hv)

theorem withLinks_named (state : SlotState) :
    withLinks state (named state.current) (named state.previous) = { state with
        pending := if state.pending = state.current then "" else state.pending } := by
  obtain ⟨current, previous, pending, _⟩ := state
  unfold withLinks named
  dsimp only
  by_cases hc : current = ""
  · subst hc
    by_cases hp : previous = ""
    · subst hp
      by_cases hpending : pending = "" <;> simp [hpending]
    · by_cases hpending : pending = "" <;> simp [hp, hpending]
  by_cases hp : previous = ""
  · subst hp
    simp [hc]
  · simp [hc, hp]

theorem returns_readInstallation : Returns digest
    (ask .readInstallation ofExcept : SlotProg (Option SlotState)) d
      fun v => v = d.now.installation := by
  refine .ask rfl fun s r t hs ht => .ofExcept fun v hv => ?_
  rw [ht.2 v hv]
  exact congrArg (fun d : Directory Root => d.now.installation) hs

theorem returns_applyInstallationFloor {state : SlotState} :
    Returns digest (applyInstallationFloor state) d fun state' =>
      withFloor d.now.installation state = .ok state' := by
  refine returns_readInstallation.bind fun intent hintent => ?_
  subst hintent
  unfold withFloor
  cases d.now.installation with
  | none => exact .pure rfl
  | some => exact .ofExcept fun _ => id

theorem returns_stateWithoutOperation (h : Aligned d.now) :
    Returns digest stateWithoutOperation d fun state => observe d.now = .ok state := by
  have hstate : Returns digest
      (ask .readState ofExcept : SlotProg (Option SlotState)) d
        fun v => v = d.now.state := by
    refine .ask rfl fun s r t hs ht => .ofExcept fun v hv => ?_
    rw [ht.2 v hv]
    exact congrArg (fun d : Directory Root => d.now.state) hs
  refine hstate.bind fun state hs => ?_
  subst hs
  obtain ⟨hcurrent, hprevious, hpc, hpp⟩ := h.points
  refine (returns_linkVersion (l := .current) hcurrent hpc).bind fun c hc => ?_
  refine (returns_linkVersion (l := .previous) hprevious hpp).bind fun p hp => ?_
  rw [hc, hp, withLinks_named]
  exact returns_applyInstallationFloor

theorem returns_readOperation : Returns digest readOperation d fun o =>
    o = d.now.operation ∧ ∀ o', o = some o' → o'.Valid := by
  have hread : Returns digest
      (ask .readOperation ofExcept : SlotProg (Option SlotOperation)) d
        fun v => v = d.now.operation := by
    refine .ask rfl fun s r t hs ht => .ofExcept fun v hv => ?_
    rw [ht.2 v hv]
    exact congrArg (fun d : Directory Root => d.now.operation) hs
  refine hread.bind fun o ho => ?_
  cases o with
  | none => exact .pure ⟨ho, nofun⟩
  | some => exact returns_validateOperation.bind fun _ hvalid => .pure ⟨ho, by rintro _ ⟨⟩; exact hvalid⟩

theorem target_injective : Function.Injective target := by
  intro a b h
  unfold target linkTarget at h
  split at h
  · next ha =>
    split at h
    · next hb => exact ha.trans hb.symm
    · cases h
  split at h
  · cases h
  · exact String.append_right_inj _ |>.mp (Option.some.inj h)

def selected (o : SlotOperation) (r : Root) : SlotState :=
  if r.current = target o.next.current then o.next else o.old

theorem selected_eq_or (o : SlotOperation) (r : Root) :
    selected o r = o.old ∨ selected o r = o.next := by
  unfold selected
  split
  · exact .inr rfl
  · exact .inl rfl

theorem Under.current_eq (h : Under o r) : r.current = target (selected o r).current := by
  unfold selected
  split
  · next heq => exact heq
  · next hne => exact h.current.resolve_right hne

theorem projected_eq (h : Under o r) :
    projected o (named (selected o r).current) = .ok (selected o r) := by
  have hnext := ne_empty_of_pattern h.valid.next_pattern
  unfold selected
  split
  · unfold named
    rw [if_neg hnext]
    exact if_pos rfl
  · next hne =>
    have hdiffer : o.old.current ≠ o.next.current := fun heq =>
      hne (heq ▸ h.current.resolve_right hne)
    by_cases hold : o.old.current = ""
    · unfold named
      rw [if_pos hold]
      exact if_pos hold
    unfold named
    rw [if_neg hold]
    exact (if_neg hdiffer).trans (if_pos rfl)

theorem returns_projectOperationState (h : Under o d.now) :
    Returns digest (projectOperationState o) d fun state => state = selected o d.now := by
  have hproper : Proper (selected o d.now).current := by
    rcases selected_eq_or o d.now with hs | hs
    · rw [hs]
      exact h.valid.old.current
    · rw [hs]
      exact h.valid.next.current
  refine (Returns.of_framed framed_validateOperation).bind fun _ _ => ?_
  refine (returns_linkVersion (l := .current) h.current_eq hproper).bind fun c hc => ?_
  rw [hc, projected_eq h]
  exact .ofExcept fun _ hstate => (Except.ok.inj hstate).symm

end MinimalRouter.Slots
