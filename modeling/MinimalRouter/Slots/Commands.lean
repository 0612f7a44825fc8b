import MinimalRouter.Slots.Recovery

namespace MinimalRouter.Slots

open Goish Lib SlotManager
open Firmware (SlotState)

variable {m : SlotManager} {b : Root} {s t : Store}

def Sets (digest : List UInt8 → List UInt8) (l : Link) (version : String) (x : SlotProg Unit) : Prop :=
  ∀ (G : Root → Prop) (s : Store), Throughout G s → G (s.root.now.setLink l (target version)) →
    Keeps digest G (fun _ => Turns (s.root.now.setLink l (target version)))
      (MayTurn s.root.now (s.root.now.setLink l (target version))) x s

theorem Sets.mapError (h : Sets digest l version x) : Sets digest l version (x.mapError f) :=
  fun G s hs hG => (h G s hs hG).mapError

theorem sets_removeLink : Sets digest l "" (removeLink l) := fun _ _ hs hG => keeps_removeLink hs hG

theorem sets_swapLink (h : version ≠ "") : Sets digest l version (swapLink l version) := by
  unfold Sets target
  rw [if_neg h]
  intro G s hs hG
  exact (keeps_swapLink hs hG).mono (fun _ => id) (fun _ _ _ hd => hd.1) fun _ _ => id

theorem sets_previous : Sets digest .previous version
    (if version ≠ "" then (swapLink .previous version).mapError f else removeLink .previous) := by
  by_cases h : version = ""
  · rw [if_neg (not_not.mpr h), h]
    exact sets_removeLink
  · rw [if_pos h]
    exact (sets_swapLink h).mapError

theorem under_of_mayTurn (h : MayTurn r r' d) (hr : Under o r) (hr' : Under o r')
    (hfence : r.installation = b.installation) (hfence' : r'.installation = b.installation) :
    Under o d.now ∧ d.now.installation = b.installation := by
  rcases h with h | h
  · exact h ▸ ⟨hr, hfence⟩
  · exact h ▸ ⟨hr', hfence'⟩

theorem moves_in_turn (hx : Sets digest l v x) (hy : Sets digest l' v' y)
    (hfirst : ∀ r, Under o r → Under o (r.setLink l (target v)))
    (hsecond : ∀ r, Under o r → Under o (r.setLink l' (target v')))
    (hboth : ∀ r : Root, (r.setLink l (target v)).setLink l' (target v') = withPointers r o.next) :
    Moves digest o (do x; y) := by
  intro G s hs hunder hG
  have hone := hfirst _ hunder
  have hkept : ∀ (r : Root) l t, (r.setLink l t).installation = r.installation := by
    intro r l t
    cases l <;> rfl
  refine Keeps.bind ((hx G s hs (hG _ hone (hkept _ _ _))).mono (fun _ => id) (fun _ _ _ => id)
    fun _ _ h => under_of_mayTurn h hunder hone rfl (hkept _ _ _)) fun _ t ht hturn => ?_
  have hnow : t.root.now = s.root.now.setLink l (target v) := congrArg Directory.now hturn
  have hfence : t.root.now.installation = s.root.now.installation := by rw [hnow, hkept]
  rw [← hnow] at hone
  have htwo := hsecond _ hone
  refine (hy G t ht (hG _ htwo ((hkept _ _ _).trans hfence))).mono (fun _ => id) (fun _ d _ hd => ?_)
    fun _ _ h => under_of_mayTurn h hone htwo hfence ((hkept _ _ _).trans hfence)
  rw [hd, hnow, hboth]

theorem moves_previous_current (hx : Sets digest .previous o.next.previous x)
    (hy : Sets digest .current o.next.current y) : Moves digest o (do x; y) :=
  moves_in_turn hx hy (fun _ h => h.setPrevious _) (fun _ h => h.setCurrent (.inr rfl)) fun _ => rfl

theorem moves_current_previous (hx : Sets digest .current o.next.current x)
    (hy : Sets digest .previous o.next.previous y) : Moves digest o (do x; y) :=
  moves_in_turn hx hy (fun _ h => h.setCurrent (.inr rfl)) (fun _ h => h.setPrevious _) fun _ => rfl

theorem baselineVersion_ne_empty : baselineVersion crypto inventory ≠ "" := by
  intro h
  have hlength := congrArg String.length h
  simp [baselineVersion] at hlength

theorem moves_activatePointers (h : version ≠ "") (hcurrent : o.next.current = version)
    (hprevious : o.next.previous = old.current) :
    Moves digest o (activatePointers old version) := by
  subst hcurrent
  refine moves_previous_current ?_ (sets_swapLink h).mapError
  rw [hprevious]
  exact sets_previous

theorem moves_rollbackPointers (h : o.next.current ≠ "") :
    Moves digest o (rollbackPointers o.next) :=
  moves_current_previous (sets_swapLink h).mapError sets_previous

inductive Command
  | stage : Option FirmwareManifest → Command
  | activate : String → Command
  | rollback
  | beginInstallation : String → Command
  | installBaseline : FirmwareManifest → String → Command
  | recover

def Command.program (m : SlotManager) (crypto : Crypto) (arch : String) : Command → SlotProg Unit
  | stage manifest => m.stage crypto arch manifest
  | activate version => m.activate version
  | rollback => m.rollback
  | beginInstallation minimum => m.beginInstallation minimum
  | installBaseline inventory minimum => m.installBaseline crypto inventory minimum
  | recover => m.recoverOperation

inductive Journals (crypto : Crypto) (old : SlotState) : Command → SlotOperation → Prop
  | activate : old.current ≠ version →
      Journals crypto old (.activate version) ⟨operationJournalVersion, "activate", old,
        { old with
          previous := old.current, current := version, pending := "", minimumVersion := version }⟩
  | rollback : upgradeFloor old = .ok floor →
      Journals crypto old .rollback ⟨operationJournalVersion, "rollback", old, rolledBack old floor⟩
  | install : installationMinimum old proposed = .ok minimum →
      Journals crypto old (.installBaseline inventory proposed) ⟨operationJournalVersion, "install",
        old, { current := baselineVersion crypto inventory, minimumVersion := minimum }⟩

inductive Notes (old : SlotState) : Command → Document → Prop
  | stage {manifest : FirmwareManifest} :
      Notes old (.stage (some manifest)) (.state { old with pending := manifest.version })
  | activate : Notes old (.activate old.current) (.state { old with pending := "" })
  | begin {proposed minimum : String} : installationMinimum old proposed = .ok minimum →
      Notes old (.beginInstallation proposed) (.installation { minimumVersion := minimum })

inductive Leaves (crypto : Crypto) (c : Command) (s : Store) : Root → Prop
  | untouched {r : Root} (h : r ∈ s.root.views) : Leaves crypto c s r
  | recovering {b r : Root} {o : SlotOperation} (hb : b ∈ s.root.views) (ho : b.operation = some o)
      (h : Moment o (· = selected o b) b r) : Leaves crypto c s r
  | operating {r : Root} {old : SlotState} {o : SlotOperation}
      (hold : observe (recovered s.root.now) = .ok old) (ho : Journals crypto old c o)
      (h : Moment o o.Sides (recovered s.root.now) r) : Leaves crypto c s r
  | noted (hold : observe (recovered s.root.now) = .ok old) (hd : Notes old c d) :
      Leaves crypto c s ((recovered s.root.now).put d)
  | installed {old : SlotState} {o : SlotOperation} {inventory : FirmwareManifest}
      {proposed : String} (hc : c = .installBaseline inventory proposed)
      (hold : observe (recovered s.root.now) = .ok old) (ho : Journals crypto old c o)
      (hvalid : o.Valid) :
      Leaves crypto c s { settledRoot (recovered s.root.now) o.next with installation := none }

inductive Completes (crypto : Crypto) (c : Command) (s : Store) : Directory Root → Prop
  | recovers (hc : c = .recover) (h : Recovers s.root d) : Completes crypto c s d
  | committed {old : SlotState} {o : SlotOperation} (hc : c = .rollback ∨ ∃ v, c = .activate v)
      (hold : observe (recovered s.root.now) = .ok old) (ho : Journals crypto old c o)
      (hvalid : o.Valid) : Completes crypto c s ⟨settledRoot (recovered s.root.now) o.next, []⟩
  | noted (hold : observe (recovered s.root.now) = .ok old) (hd : Notes old c d) :
      Completes crypto c s ⟨(recovered s.root.now).put d, []⟩
  | installed {old : SlotState} {o : SlotOperation} {inventory : FirmwareManifest}
      {proposed : String} (hc : c = .installBaseline inventory proposed)
      (hold : observe (recovered s.root.now) = .ok old) (ho : Journals crypto old c o)
      (hvalid : o.Valid) : Completes crypto c s
        ⟨{ settledRoot (recovered s.root.now) o.next with installation := none }, []⟩

/-- Without a journal the pointers agree with the state file, and with one it is valid and knows
the current pointer. -/
structure Sound (r : Root) : Prop where
  idle : r.operation = none → Aligned r
  busy : ∀ o, r.operation = some o → Under o r

theorem Aligned.sound (h : Aligned r) : Sound r :=
  ⟨fun _ => h, fun o ho => by rw [h.operation] at ho; cases ho⟩

theorem Moment.sound (h : Moment o S b r) : Sound r := by
  cases h with
  | under h _ _ =>
    refine ⟨fun hnone => ?_, fun o' ho' => ?_⟩
    · rw [h.operation] at hnone
      cases hnone
    rw [h.operation] at ho'
    cases ho'
    exact h
  | settled _ _ h => exact h.aligned.sound

theorem Sound.recovered (h : Sound r) : Aligned (recovered r) := by
  unfold Slots.recovered
  cases ho : r.operation with
  | none => exact h.idle ho
  | some o =>
    exact (settledAt_settledRoot ((h.busy o ho).valid.journalState (selected_eq_or o r))).aligned

section Running

variable {ok : Unit → Directory Root → Prop}

theorem keeps_withLock (hs : Throughout G s)
    (hrun : ∀ t, Throughout G t → t.root = s.root → Keeps digest G ok (fun _ => True) run t) :
    Keeps digest G ok (fun _ => True) (m.withLock run) s := by
  refine .framed_bind hs framed_ensureRoot trivial fun _ t ht hroot => ?_
  refine .framed_bind ht (.call rfl) trivial fun _ u hu hroot' => ?_
  exact hrun u hu (hroot'.trans hroot)

theorem Recovers.now (h : Recovers d d') : d'.now = recovered d.now := by
  unfold Recovers at h
  unfold recovered
  split at h
  · rw [h]
  · next ho => rw [h, recovered, ho]

theorem throughout_leaves : Throughout (Leaves crypto c s) s := fun _ => .untouched

theorem keeps_note (ht : Throughout (Leaves crypto c s) t)
    (hnow : t.root.now = recovered s.root.now) (hold : observe (recovered s.root.now) = .ok old)
    (hd : Notes old c d) :
    Keeps digest (Leaves crypto c s) (fun _ => Completes crypto c s) (fun _ => True)
      (m.writeAtomicJson d) t := by
  have hG : Leaves crypto c s (t.root.now.put d) := by
    rw [hnow]
    exact .noted hold hd
  refine (keeps_writeAtomicJson ht hG).mono (fun _ => id) (fun _ d' _ hd' => ?_) fun _ _ _ => trivial
  rw [hd', hnow]
  exact .noted hold hd

theorem keeps_commitRelease (ht : Throughout (Leaves crypto (.stage (some manifest)) s) t)
    (hnow : t.root.now = recovered s.root.now) (hold : observe (recovered s.root.now) = .ok old) :
    Keeps digest (Leaves crypto (.stage (some manifest)) s)
      (fun _ => Completes crypto (.stage (some manifest)) s) (fun _ => True)
      (m.commitRelease old manifest.version) t := by
  have hremove : Framed (removeSlot manifest.version).result :=
    Framed.result (.call rfl)
  refine .framed_bind ht (Framed.result (.call rfl)) trivial
    fun synced u hu hroot => ?_
  rw [← hroot] at hnow
  cases synced with
  | error => exact .framed_bind hu hremove trivial fun _ v hv _ => .fail hv trivial
  | ok _ =>
  have hsave : Keeps digest (Leaves crypto (.stage (some manifest)) s)
      (fun result d => ∀ u, result = .ok u → Completes crypto (.stage (some manifest)) s d)
      (fun _ => True) (m.saveState { old with pending := manifest.version }).result u :=
    .result ((keeps_note hu hnow hold .stage).mono (fun _ => id) (fun _ _ _ hd _ _ => hd)
      fun _ _ => id) fun _ _ _ _ => nofun
  refine hsave.bind fun result v hv hresult => ?_
  cases result with
  | ok u => exact .pure hv (hresult u rfl)
  | error =>
    refine .framed_bind hv hremove trivial fun removed w hw _ => ?_
    refine .framed_bind hw (Framed.result (.call rfl)) trivial fun _ x hx _ => ?_
    cases removed with
    | ok | error => exact .fail hx trivial

variable (hsound : ∀ r ∈ s.root.views, Sound r)

include hsound

theorem keeps_recover (ht : Throughout (Leaves crypto c s) t)
    (hroot : t.root = s.root) :
    Keeps digest (Leaves crypto c s) (fun _ => Recovers s.root) (fun _ => True)
      m.recoverOperation t := by
  have hmem : s.root.now ∈ s.root.views := List.mem_cons_self
  rw [← hroot]
  refine keeps_recoverOperation ht ?_ fun o r ho hr => ?_
  · rw [hroot]
    exact (hsound _ hmem).busy
  · rw [hroot] at ho hr
    exact .recovering hmem ho hr

theorem returns_observe (ht : t.root.now = recovered s.root.now) :
    Returns digest stateWithoutOperation t.root fun old =>
      observe (recovered s.root.now) = .ok old := by
  have haligned := (hsound _ List.mem_cons_self).recovered
  rw [← ht] at haligned ⊢
  exact returns_stateWithoutOperation haligned

theorem keeps_recoverFirst
    (ht : Throughout (Leaves crypto c s) t) (hroot : t.root = s.root) :
    Keeps digest (Leaves crypto c s) (fun _ => Recovers s.root) (fun _ => True) m.recoverFirst t := by
  refine .framed_bind ht framed_checkInstallation trivial fun _ u hu hroot' => ?_
  exact (keeps_recover hsound hu (hroot'.trans hroot)).mapError

theorem current_of_observe
    (ht : t.root.now = recovered s.root.now) (hold : observe (recovered s.root.now) = .ok old) :
    t.root.now.current = target old.current := by
  rw [ht]
  exact ((hsound _ List.mem_cons_self).recovered.points_of_observe hold).current

theorem keeps_commit (ht : Throughout (Leaves crypto c s) t)
    (hnow : t.root.now = recovered s.root.now) (hold : observe (recovered s.root.now) = .ok old)
    (ho : Journals crypto old c ⟨operationJournalVersion, kind, old, next⟩)
    (hmoves : Moves digest ⟨operationJournalVersion, kind, old, next⟩ mutate) :
    Keeps digest (Leaves crypto c s) (fun _ d => d = ⟨settledRoot (recovered s.root.now) next, []⟩ ∧
        SlotOperation.Valid ⟨operationJournalVersion, kind, old, next⟩)
      (fun _ => True) (m.commitOperation kind old next mutate) t := by
  rw [← hnow]
  refine keeps_commitOperation rfl ht (current_of_observe hsound hnow hold) hmoves fun r hr => ?_
  rw [hnow] at hr
  exact .operating hold ho hr

theorem keeps_activate : Keeps digest (Leaves crypto (.activate version) s)
      (fun _ => Completes crypto (.activate version) s) (fun _ => True) (m.activate version) s := by
  refine keeps_withLock throughout_leaves fun t ht hroot => ?_
  refine (keeps_recoverFirst hsound ht hroot).bind fun _ t ht hrecovers => ?_
  refine .returns_bind ht .failIf trivial fun _ u hpattern hu hroot => ?_
  refine .framed_bind hu framed_requireSlot trivial fun _ v hv hroot' => ?_
  have hnow : v.root.now = recovered s.root.now := by rw [hroot', hroot, hrecovers.now]
  refine .returns_bind hv (returns_observe hsound hnow) trivial fun old w hold hw hroot'' => ?_
  rw [← hroot''] at hnow
  split
  · next hversion =>
    subst hversion
    exact keeps_note hw hnow hold .activate
  · next hversion =>
    refine .framed_bind hw .ofExcept trivial fun _ x hx hx' => ?_
    refine .framed_bind hx .ofExcept trivial fun _ y hy hy' => ?_
    rw [← hx', ← hy'] at hnow
    have hne := ne_empty_of_pattern (not_not.mp hpattern)
    refine (keeps_commit hsound hy hnow hold (.activate hversion)
      (moves_activatePointers hne rfl rfl)).mono (fun _ => id) (fun _ d _ hd => ?_) fun _ _ => id
    rw [hd.1]
    exact .committed (.inr ⟨_, rfl⟩) hold (.activate hversion) hd.2

theorem keeps_rollback :
    Keeps digest (Leaves crypto .rollback s) (fun _ => Completes crypto .rollback s)
      (fun _ => True) m.rollback s := by
  refine keeps_withLock throughout_leaves fun t ht hroot => ?_
  refine (keeps_recoverFirst hsound ht hroot).bind fun _ t ht hrecovers => ?_
  have hnow : t.root.now = recovered s.root.now := hrecovers.now
  refine .returns_bind ht (returns_observe hsound hnow) trivial fun old u hold hu hroot => ?_
  refine .returns_bind hu .failIf trivial fun _ v hprevious hv hroot' => ?_
  refine .framed_bind hv framed_requireSlot.mapError trivial fun _ w hw hroot'' => ?_
  refine .returns_bind hw (.ofExcept fun _ h => h) trivial fun floor x hfloor hx hx' => ?_
  rw [← hroot, ← hroot', ← hroot'', ← hx'] at hnow
  have hfloor' := Result.mapError_eq_ok.mp hfloor
  refine (keeps_commit hsound hx hnow hold (.rollback hfloor')
    (moves_rollbackPointers hprevious)).mono (fun _ => id) (fun _ d _ hd => ?_) fun _ _ => id
  rw [hd.1]
  exact .committed (.inl rfl) hold (.rollback hfloor') hd.2

theorem keeps_beginInstallation : Keeps digest (Leaves crypto (.beginInstallation proposed) s)
      (fun _ => Completes crypto (.beginInstallation proposed) s) (fun _ => True)
      (m.beginInstallation proposed) s := by
  refine keeps_withLock throughout_leaves fun t ht hroot => ?_
  refine (keeps_recover hsound ht hroot).bind fun _ t ht hrecovers => ?_
  have hnow : t.root.now = recovered s.root.now := hrecovers.now
  refine .returns_bind ht (returns_observe hsound hnow) trivial fun old u hold hu hroot => ?_
  refine .returns_bind hu (.ofExcept fun _ h => h) trivial fun minimum v hminimum hv hroot' => ?_
  rw [← hroot, ← hroot'] at hnow
  exact keeps_note hv hnow hold (.begin hminimum)

theorem keeps_stage : Keeps digest (Leaves crypto (.stage manifest) s)
      (fun _ => Completes crypto (.stage manifest) s) (fun _ => True)
      (m.stage crypto arch manifest) s := by
  refine keeps_withLock throughout_leaves fun t ht hroot => ?_
  refine (keeps_recoverFirst hsound ht hroot).bind fun _ t ht hrecovers => ?_
  have hnow : t.root.now = recovered s.root.now := hrecovers.now
  split
  · exact .fail ht trivial
  · next manifest hmanifest =>
    obtain rfl := (Option.filter_eq_some_iff.mp hmanifest).1
    refine .framed_bind ht .failIf trivial fun _ u hu hroot1 => ?_
    refine .framed_bind hu framed_validateReleaseCandidate.mapError trivial fun _ v hv hroot2 => ?_
    rw [← hroot1, ← hroot2] at hnow
    refine .returns_bind hv (returns_observe hsound hnow) trivial fun old t hold ht hroot1 => ?_
    refine .framed_bind ht .ofExcept trivial fun _ u hu hroot2 => ?_
    refine .framed_bind hu .ofExcept trivial fun _ v hv hroot3 => ?_
    refine .framed_bind hv (.call rfl) trivial fun _ w hw hroot4 => ?_
    refine .framed_bind hw .failIf trivial fun _ x hx hroot5 => ?_
    refine .framed_bind hx (.call rfl) trivial fun temp y hy hroot6 => ?_
    refine Keeps.andFinally ?_ (.call rfl)
    refine .framed_bind hy framed_copyRelease trivial fun _ z hz hroot7 => ?_
    rw [← hroot1, ← hroot2, ← hroot3, ← hroot4, ← hroot5, ← hroot6, ← hroot7] at hnow
    exact keeps_commitRelease hz hnow hold

theorem keeps_installBaseline : Keeps digest (Leaves crypto (.installBaseline inventory proposed) s)
      (fun _ => Completes crypto (.installBaseline inventory proposed) s) (fun _ => True)
      (m.installBaseline crypto inventory proposed) s := by
  refine keeps_withLock throughout_leaves fun t ht hroot => ?_
  refine (keeps_recover hsound ht hroot).bind fun _ t ht hrecovers => ?_
  have hnow : t.root.now = recovered s.root.now := hrecovers.now
  refine .returns_bind ht (returns_observe hsound hnow) trivial fun installed u hinstalled hu h1 => ?_
  refine .returns_bind hu (.ofExcept fun _ h => h) trivial fun minimum v hminimum hv h2 => ?_
  refine .framed_bind hv (.call rfl) trivial fun temp w hw h3 => ?_
  refine Keeps.andFinally ?_ (.call rfl)
  refine .framed_bind hw framed_copyInventory trivial fun _ x hx h4 => ?_
  refine .framed_bind hx framed_placeBaseline trivial fun _ y hy h5 => ?_
  rw [← h1, ← h2, ← h3, ← h4, ← h5] at hnow
  refine .returns_bind hy (returns_observe hsound hnow) trivial fun old z hold hz h6 => ?_
  rw [← h6] at hnow
  obtain rfl : installed = old := Except.ok.inj (hinstalled.symm.trans hold)
  refine (keeps_commit hsound hz hnow hold (.install hminimum)
    (moves_previous_current sets_removeLink (sets_swapLink baselineVersion_ne_empty))).bind
    fun _ t ht hd => ?_
  have hG : Leaves crypto (.installBaseline inventory proposed) s
      { t.root.now with installation := none } := by
    rw [hd.1]
    exact .installed rfl hold (.install hminimum) hd.2
  have hremove : Keeps digest (Leaves crypto (.installBaseline inventory proposed) s)
      (fun _ => Turns { t.root.now with installation := none })
      (MayTurn t.root.now { t.root.now with installation := none })
      (do Attempt.ask .removeInstallation Attempt.ofExcept; syncRoot) t :=
    keeps_changeAndSync ht hG (fun _ => id) fun _ _ ht => keeps_ofExcept_change ht rfl
  refine hremove.mono (fun _ => id) (fun _ d _ hturn => ?_) fun _ _ _ => trivial
  rw [hturn, hd.1]
  exact .installed rfl hold (.install hminimum) hd.2

theorem keeps_program : Keeps digest (Leaves crypto c s) (fun _ => Completes crypto c s)
    (fun _ => True) (c.program m crypto arch) s := by
  cases c with
  | stage => exact keeps_stage hsound
  | activate => exact keeps_activate hsound
  | rollback => exact keeps_rollback hsound
  | beginInstallation => exact keeps_beginInstallation hsound
  | installBaseline => exact keeps_installBaseline hsound
  | recover =>
    exact (keeps_recover hsound throughout_leaves rfl).mono (fun _ => id)
      (fun _ _ _ => .recovers rfl) fun _ _ => id

end Running

end MinimalRouter.Slots
