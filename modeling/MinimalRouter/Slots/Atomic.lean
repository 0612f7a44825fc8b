import MinimalRouter.Lib.Path
import MinimalRouter.Slots.Commands

namespace MinimalRouter.Slots

open Goish Lib SlotManager Prog
open Firmware (SlotState)

variable {digest : List UInt8 → List UInt8} {m : SlotManager} {o : SlotOperation} {r : Root}

theorem settledAt_put {state : SlotState} (hnone : r.operation = none) (h : Points state r) :
    SettledAt state (r.put (.state state)) :=
  ⟨hnone, rfl, h.current, h.previous, h.properCurrent, h.properPrevious⟩

theorem settledAt_installed (h : o.Valid) :
    SettledAt o.next { settledRoot r o.next with installation := none } :=
  ⟨rfl, rfl, rfl, rfl, h.next.current, h.next.previous⟩

theorem Points.mark {state : SlotState} (h : Points state r) (pending : String) :
    Points { state with pending } r :=
  ⟨h.current, h.previous, h.properCurrent, h.properPrevious⟩

theorem Aligned.fence (h : Aligned r) : Aligned (r.put (.installation intent)) :=
  have hpoints := h.points
  ⟨h.operation, hpoints.current, hpoints.previous, hpoints.properCurrent, hpoints.properPrevious⟩

theorem Leaves.sound (hsound : ∀ r ∈ s.root.views, Sound r) (h : Leaves crypto c s r) : Sound r := by
  have hrecovered := (hsound s.root.now List.mem_cons_self).recovered
  cases h with
  | untouched h => exact hsound r h
  | recovering _ _ h | operating _ _ h => exact h.sound
  | installed _ _ _ hvalid => exact (settledAt_installed hvalid).aligned.sound
  | noted hold hd =>
    have hpoints := hrecovered.points_of_observe hold
    cases hd with
    | stage | activate => exact (settledAt_put hrecovered.operation (hpoints.mark _)).aligned.sound
    | begin => exact hrecovered.fence.sound

section Runs

variable (m crypto arch digest)

/-- A command that has come to its end, with success or not, or has been cut off by a crash. -/
inductive After (c : Command) (s t : Store) : Prop
  | ended (h : Runs (Handles digest) (c.program m crypto arch) s result t)
  | crashed {u : Store} (h : Cut (Handles digest) Interrupts (c.program m crypto arch) s u)
      (hcrash : u.Crash t)

def Reachable (s : Store) : Prop :=
  ∃ steps, Path (fun s c t => After digest m crypto arch c s t) {} steps s

variable {m crypto arch digest}

theorem After.leaves (hsound : ∀ r ∈ s.root.views, Sound r) (h : After digest m crypto arch c s t) :
    ∀ r ∈ t.root.views, Leaves crypto c s r := by
  have hkeeps : Keeps digest (Leaves crypto c s) (fun _ => Completes crypto c s) (fun _ => True)
    (c.program m crypto arch) s := keeps_program hsound
  cases h with
  | ended h => exact hkeeps.cut h.cut
  | crashed h hcrash =>
    have hviews := hcrash.root.views
    rw [hviews]
    exact List.forall_mem_singleton.mpr (hkeeps.cut h _ hcrash.root.1)

theorem Reachable.sound (h : Reachable digest m crypto arch s) : ∀ r ∈ s.root.views, Sound r := by
  obtain ⟨_, hpath⟩ := h
  refine Path.invariant (I := fun _ s => ∀ r ∈ s.root.views, Sound r) (K := fun _ _ => True)
    (fun _ t c u ht _ hstep r hr => (hstep.leaves ht r hr).sound ht) ?_ hpath fun _ _ _ _ => trivial
  exact List.forall_mem_singleton.mpr (Aligned.mk rfl ⟨rfl, rfl, .inl rfl, .inl rfl⟩).sound

end Runs

inductive JournalOf (crypto : Crypto) (c : Command) (s : Store) (o : SlotOperation) : Prop
  | found (hb : b ∈ s.root.views) (ho : b.operation = some o)
  | own (hold : observe (recovered s.root.now) = .ok old) (ho : Journals crypto old c o)

/-- What is there once an interrupted command has been recovered: one of the two states of a
journal, or what the command found, or an activation of the current slot that had nothing to do but
to clear its mark. -/
inductive Outcome (crypto : Crypto) (c : Command) (s : Store) (r : Root) : Prop
  | journaled {o : SlotOperation} (ho : JournalOf crypto c s o)
      (h : SettledAt o.old r ∨ SettledAt o.next r)
  | before (h : r ∈ s.root.views) (haligned : Aligned r)
  | cleared (hold : observe (recovered s.root.now) = .ok old) (hc : c = .activate old.current)
      (h : SettledAt { old with pending := "" } r)

def Command.Swaps : Command → Prop
  | activate _ => True
  | rollback => True
  | installBaseline _ _ => True
  | _ => False

namespace Moment

theorem of_busy (h : Moment o S b r) (ho : r.operation = some o') :
    o' = o ∧ S (selected o r) ∧ r.installation = b.installation := by
  cases h with
  | under h hstate hfence =>
    rw [h.operation] at ho
    cases ho
    exact ⟨rfl, hstate, hfence⟩
  | settled _ _ h =>
    rw [h.operation] at ho
    cases ho

theorem of_idle (h : Moment o S b r) (hS : ∀ state, S state → o.Sides state)
    (ho : r.operation = none) : SettledAt o.old r ∨ SettledAt o.next r := by
  cases h with
  | under h =>
    rw [h.operation] at ho
    cases ho
  | settled state hstate h =>
    rcases hS state hstate with rfl | rfl
    · exact .inl h
    · exact .inr h

theorem mono (h : Moment o S b r) (hS : ∀ state, S state → S' state)
    (hfence : b.installation = b'.installation) : Moment o S' b' r := by
  cases h with
  | under h hstate hf => exact .under h (hS _ hstate) (hf.trans hfence)
  | settled state hstate h hvalid hf =>
    exact .settled state (hS _ hstate) h hvalid (hf.trans hfence)

theorem current (h : Moment o S b r) (hS : ∀ state, S state → o.Sides state) :
    r.current = target o.old.current ∨ r.current = target o.next.current := by
  cases h with
  | under h => exact h.current
  | settled state hstate h =>
    rcases hS state hstate with rfl | rfl
    · exact .inl h.points.current
    · exact .inr h.points.current

end Moment

theorem sides_of_selected : ∀ state, state = selected o b → o.Sides state := by
  rintro state rfl
  exact selected_eq_or o b

theorem put_operation (hd : Notes old c d) : (r.put d).operation = r.operation := by
  cases hd with
  | stage | activate | begin => rfl

/-- Where the current pointer may be: where the command found it, or at one of the two slots of a
journal. -/
inductive Stays (crypto : Crypto) (c : Command) (s : Store) (pointer : Option String) : Prop
  | unmoved (hb : b ∈ s.root.views) (ho : b.operation = none) (h : pointer = b.current)
  | journaled {o : SlotOperation} (ho : JournalOf crypto c s o)
      (h : pointer = target o.old.current ∨ pointer = target o.next.current)

theorem stays_recovered : Stays crypto c s (recovered s.root.now).current := by
  have hmem : s.root.now ∈ s.root.views := List.mem_cons_self
  unfold recovered
  cases ho : s.root.now.operation with
  | none => exact .unmoved hmem ho rfl
  | some o =>
    refine .journaled (.found hmem ho) ?_
    rcases selected_eq_or o s.root.now with h | h
    · exact .inl (congrArg (fun state : SlotState => target state.current) h)
    · exact .inr (congrArg (fun state : SlotState => target state.current) h)

inductive Ends (crypto : Crypto) (c : Command) (s : Store) (d : Directory Root) : Prop
  | next {old : SlotState} {o : SlotOperation} (hold : observe (recovered s.root.now) = .ok old)
      (ho : Journals crypto old c o) (h : SettledAt o.next d.now) (hdurable : d.past = [])
  | cleared (hold : observe (recovered s.root.now) = .ok old) (hc : c = .activate old.current)
      (h : SettledAt { old with pending := "" } d.now) (hdurable : d.past = [])

section

variable {s : Store} (hsound : ∀ r ∈ s.root.views, Sound r)

include hsound

theorem Leaves.busy (h : Leaves crypto c s r)
    (ho : r.operation = some o) : JournalOf crypto c s o ∧ ∀ r', Moment o (· = selected o r) r r' →
      Leaves crypto c s r' := by
  have hrecovered := (hsound s.root.now List.mem_cons_self).recovered
  cases h with
  | untouched h => exact ⟨.found h ho, fun r' hr' => .recovering h ho hr'⟩
  | recovering hb hbo h =>
    obtain ⟨rfl, hstate, hfence⟩ := h.of_busy ho
    refine ⟨.found hb hbo, fun r' hr' => .recovering hb hbo (hr'.mono ?_ hfence)⟩
    exact fun state heq => heq.trans hstate
  | operating hold hjournal h =>
    obtain ⟨rfl, -, hfence⟩ := h.of_busy ho
    refine ⟨.own hold hjournal, fun r' hr' => .operating hold hjournal (hr'.mono ?_ hfence)⟩
    exact sides_of_selected
  | installed => cases ho
  | noted _ hd =>
    rw [put_operation hd, hrecovered.operation] at ho
    cases ho

theorem Leaves.idle (hc : c.Swaps)
    (h : Leaves crypto c s r) (ho : r.operation = none) : Outcome crypto c s r := by
  have hrecovered := (hsound s.root.now List.mem_cons_self).recovered
  cases h with
  | untouched h => exact .before h ((hsound r h).idle ho)
  | recovering hb hbo h => exact .journaled (.found hb hbo) (h.of_idle sides_of_selected ho)
  | operating hold hjournal h => exact .journaled (.own hold hjournal) (h.of_idle (fun _ => id) ho)
  | installed _ hold hjournal hvalid =>
    exact .journaled (.own hold hjournal) (.inr (settledAt_installed hvalid))
  | noted hold hd =>
    cases hd with
    | stage | begin => cases hc
    | activate =>
      have hpoints := hrecovered.points_of_observe hold
      exact .cleared hold rfl (settledAt_put hrecovered.operation (hpoints.mark _))

theorem Leaves.stays (h : Leaves crypto c s r) : Stays crypto c s r.current := by
  cases h with
  | untouched h =>
    cases ho : r.operation with
    | none => exact .unmoved h ho rfl
    | some o => exact .journaled (.found h ho) ((hsound r h).busy o ho).current
  | recovering hb hbo h => exact .journaled (.found hb hbo) (h.current sides_of_selected)
  | operating hold hjournal h => exact .journaled (.own hold hjournal) (h.current fun _ => id)
  | installed _ hold hjournal => exact .journaled (.own hold hjournal) (.inr rfl)
  | noted _ hd =>
    have hstays : Stays crypto c s (recovered s.root.now).current := stays_recovered
    cases hd with
    | stage | activate | begin => exact hstays

theorem Leaves.of_recover
    (ht : ∀ r ∈ t.root.views, Leaves crypto c s r) (h : Leaves crypto .recover t r) :
    Leaves crypto c s r := by
  cases h with
  | untouched h => exact ht r h
  | recovering hb hbo h => exact ((ht _ hb).busy hsound hbo).2 r h
  | operating _ hjournal => cases hjournal
  | noted _ hd => cases hd
  | installed hc => cases hc

theorem Completes.ends (hc : c.Swaps)
    (h : Completes crypto c s d) : Ends crypto c s d := by
  have hrecovered := (hsound s.root.now List.mem_cons_self).recovered
  cases h with
  | recovers heq =>
    subst heq
    cases hc
  | committed _ hold ho hvalid => exact .next hold ho (settledAt_settledRoot hvalid.next) rfl
  | installed _ hold ho hvalid => exact .next hold ho (settledAt_installed hvalid) rfl
  | noted hold hd =>
    cases hd with
    | stage | begin => cases hc
    | activate =>
      have hpoints := hrecovered.points_of_observe hold
      exact .cleared hold rfl (settledAt_put hrecovered.operation (hpoints.mark _)) rfl

theorem leaves_of_recoveries (ht : ∀ r ∈ t.root.views, Leaves crypto c s r)
    (h : Relation.ReflTransGen (After digest m crypto arch .recover) t u) :
    ∀ r ∈ u.root.views, Leaves crypto c s r := by
  induction h with
  | refl => exact ht
  | tail _ hstep ih =>
    exact fun r hr => .of_recover hsound ih (hstep.leaves (fun r hr => (ih r hr).sound hsound) r hr)

theorem recover_outcome (hc : c.Swaps)
    (ht : ∀ r ∈ t.root.views, Leaves crypto c s r)
    (h : Runs (Handles digest) m.recoverOperation t (.ok ()) u) :
    Outcome crypto c s u.root.now := by
  have hsound' : ∀ r ∈ t.root.views, Sound r := fun r hr => (ht r hr).sound hsound
  have hkeeps : Keeps digest (Leaves crypto .recover t) (fun _ => Recovers t.root) (fun _ => True)
    m.recoverOperation t := keeps_recover hsound' throughout_leaves rfl
  have hrecovers : Recovers t.root u.root := hkeeps.runs h
  have hleaves : Leaves crypto c s u.root.now :=
    .of_recover hsound ht (hkeeps.cut h.cut _ List.mem_cons_self)
  refine hleaves.idle hsound hc ?_
  rw [hrecovers.now]
  exact (hsound' _ List.mem_cons_self).recovered.operation

end

theorem returns_recoverOperation (h : d.now.operation = none) :
    Returns digest m.recoverOperation d fun _ => True := by
  refine returns_readOperation.bind fun o ho => ?_
  obtain rfl : o = none := ho.1.trans h
  exact .pure trivial

theorem Outcome.operation (h : Outcome crypto c s r) : r.operation = none := by
  cases h with
  | journaled _ h =>
    rcases h with h | h
    · exact h.operation
    · exact h.operation
  | before _ h | cleared _ _ h => exact h.operation

theorem swap_crash_consistent (hs : Reachable digest m crypto arch s) (hc : c.Swaps) :
    (∀ t, Cut (Handles digest) Interrupts (c.program m crypto arch) s t →
      ∀ r ∈ t.root.views, Stays crypto c s r.current) ∧
    (∀ t, Runs (Handles digest) (c.program m crypto arch) s (.ok ()) t →
      Ends crypto c s t.root) ∧ ∀ t u, After digest m crypto arch c s t →
      Relation.ReflTransGen (After digest m crypto arch .recover) t u →
      (∀ v, Cut (Handles digest) Interrupts m.recoverOperation u v →
        ∀ r ∈ v.root.views, Stays crypto c s r.current) ∧
      ∀ v, Runs (Handles digest) m.recoverOperation u (.ok ()) v →
        Outcome crypto c s v.root.now ∧
        ∀ result w, Runs (Handles digest) m.recoverOperation v result w → w.root = v.root := by
  have hsound := hs.sound
  have hkeeps : Keeps digest (Leaves crypto c s) (fun _ => Completes crypto c s) (fun _ => True)
    (c.program m crypto arch) s := keeps_program hsound
  refine ⟨fun t ht r hr => (hkeeps.cut ht r hr).stays hsound,
    fun t ht => (hkeeps.runs ht).ends hsound hc, fun t u ht hu => ?_⟩
  have hleaves := leaves_of_recoveries hsound (ht.leaves hsound) hu
  refine ⟨fun v hv r hr => ?_, fun v hv => ?_⟩
  · have hrecover : Keeps digest (Leaves crypto .recover u) (fun _ => Recovers u.root)
      (fun _ => True) m.recoverOperation u :=
      keeps_recover (fun r hr => (hleaves r hr).sound hsound) throughout_leaves rfl
    exact (Leaves.of_recover hsound hleaves (hrecover.cut hv r hr)).stays hsound
  have houtcome := recover_outcome hsound hc hleaves hv
  refine ⟨houtcome, fun result w hw => ?_⟩
  exact (returns_recoverOperation houtcome.operation v rfl).cut hw.cut

def sampleManager : SlotManager := ⟨"/opt/minimalrouter", List.replicate 32 0⟩

def sampleCrypto : Crypto := ⟨id, fun _ => [], fun _ _ _ => true⟩

/-- A file system on which every step succeeds that can, over a source of files of zero bytes. -/
def fileSystem (s : Store) (q : Query) : q.Answer × Store :=
  let s := s.log q
  match q with
  | .installationExists => (.ok s.root.now.installation.isSome, s)
  | .readState => (.ok s.root.now.state, s)
  | .readOperation => (.ok s.root.now.operation, s)
  | .readInstallation => (.ok s.root.now.installation, s)
  | .rename d => (.ok (), s.changeRoot (s.root.now.put d))
  | .removeOperation => (.ok (), s.changeRoot { s.root.now with operation := none })
  | .removeInstallation => (.ok (), s.changeRoot { s.root.now with installation := none })
  | .syncRoot => (.ok (), { s with root := s.root.sync })
  | .readLink l => (.ok (s.root.now.link l), s)
  | .renameLink l target => (.ok (), s.changeRoot (s.root.now.setLink l (some target)))
  | .removeLink l => (.ok (), s.changeRoot (s.root.now.setLink l none))
  | .slotIsDir name => ((s.slots.now name).isSome, s)
  | .slotExists name => (.ok (s.slots.now name).isSome, s)
  | .mkdirTemp pattern =>
    match s.slots.now (pattern ++ "1") with
    | none => (.ok (pattern ++ "1"), s.setSlot (pattern ++ "1") (some fun _ => none))
    | some _ => (.error "file exists", s)
  | .lstat .source path => (if path = ".." then none else some 0o755, s)
  | .lstat (.slot name) path => (((s.slots.now name).bind (· path)).map FileEntry.mode, s)
  | .sha256 .source _ => (.ok (List.replicate 32 0), s)
  | .sha256 (.slot name) path =>
    (match (s.slots.now name).bind (· path) with
      | some file => .ok file.content
      | none => .error "no such file", s)
  | .walk _ => (.error "input/output error", s)
  | .copy name path =>
    match (s.slots.now name).filter fun tree => (tree path).isNone with
    | some tree => (.ok (), s.setSlot name
        (some (Function.update tree path (some ⟨List.replicate 32 0, 0o600⟩))))
    | none => (.error "file exists", s)
  | .chmodFile name path mode =>
    match s.slots.now name with
    | none => (.error "no such file", s)
    | some tree =>
      match tree path with
      | none => (.error "no such file", s)
      | some file =>
        (.ok (), s.setSlot name (some (Function.update tree path (some { file with mode }))))
  | .renameSlot temp final =>
    match s.slots.now final, s.slots.now temp with
    | none, some tree => (.ok (), s.changeSlots
        (Function.update (Function.update s.slots.now temp none) final (some tree)))
    | _, _ => (.error "file exists", s)
  | .syncSlots => (.ok (), { s with slots := s.slots.sync })
  | .removeSlot name => (.ok (), s.setSlot name none)
  | .ensureRoot | .lock | .createTemp _ | .symlink _ _ | .chmodDir _ _ _ | .syncTree _ => (.ok (), s)

theorem handles_fileSystem (s : Store) (q : Query) :
    Handles id s q (fileSystem s q).1 (fileSystem s q).2 := by
  cases q with
  | mkdirTemp =>
    simp only [fileSystem]
    split
    · next hnone => exact ⟨⟨"1", rfl⟩, hnone, rfl⟩
    · rfl
  | lstat loc =>
    cases loc with
    | source => exact ⟨rfl, fun h => if_pos h⟩
    | slot =>
      refine ⟨rfl, fun mode h => ?_⟩
      obtain ⟨file, hfile, rfl⟩ := Option.map_eq_some_iff.mp h
      obtain ⟨tree, htree, hpath⟩ := Option.bind_eq_some_iff.mp hfile
      exact ⟨tree, file, htree, hpath, rfl⟩
  | sha256 loc =>
    cases loc with
    | source => rfl
    | slot =>
      refine ⟨rfl, fun d h => ?_⟩
      simp only [fileSystem] at h
      split at h
      · next file hfile =>
        obtain ⟨tree, htree, hpath⟩ := Option.bind_eq_some_iff.mp hfile
        exact ⟨tree, file, htree, hpath, (Except.ok.inj h).symm⟩
      · cases h
  | walk loc =>
    cases loc with
    | source => rfl
    | slot => exact ⟨rfl, nofun⟩
  | copy =>
    simp only [fileSystem]
    split
    · next tree htree =>
      obtain ⟨htree, hpath⟩ := Option.filter_eq_some_iff.mp htree
      exact ⟨tree, _, htree, Option.isNone_iff_eq_none.mp hpath, rfl⟩
    · exact .inl rfl
  | chmodFile =>
    simp only [fileSystem]
    split
    · rfl
    · next tree htree =>
      split
      · rfl
      · next file hfile => exact ⟨tree, file, htree, hfile, rfl⟩
  | renameSlot =>
    simp only [fileSystem]
    split
    · next tree hfinal htemp => exact ⟨hfinal, tree, htemp, rfl⟩
    · rfl
  | _ => simp [fileSystem, Handles, Changes]

def sampleRelease (version : String) : FirmwareManifest where
  version
  files := some ⟨applianceFileRoles.map fun r =>
    (r.path "amd64", String.ofList (List.replicate 64 '0')), by decide +kernel⟩
  signature := String.ofList (List.replicate 128 '0')

def Command.result (c : Command) (s : Store) : Except String Unit :=
  ((c.program sampleManager sampleCrypto "amd64").exec fileSystem s).1

def Command.left (c : Command) (s : Store) : Store :=
  ((c.program sampleManager sampleCrypto "amd64").exec fileSystem s).2

theorem Command.runs_left (c : Command) (s : Store) : Runs (Handles id)
    (c.program sampleManager sampleCrypto "amd64") s (c.result s) (c.left s) :=
  runs_exec handles_fileSystem _ s

def Store.crashedAt (s : Store) (r : Root) : Store := { root := ⟨r, []⟩, slots := ⟨s.slots.now, []⟩ }

theorem Store.crash_crashedAt (s : Store) (hr : r ∈ s.root.views) : s.Crash (s.crashedAt r) :=
  ⟨⟨hr, rfl⟩, List.mem_cons_self, rfl⟩

/-! A release is staged and activated, and then the next one. -/

def staging (version : String) : Command := .stage (some (sampleRelease version))

def staged : Store := (staging "1.2.3").left {}

def activated : Store := (Command.activate "1.2.3").left staged

def upgradeStaged : Store := (staging "1.3.0").left activated

def upgraded : Store := (Command.activate "1.3.0").left upgradeStaged

def Store.shown (s : Store) : Except String SlotState := (SlotManager.state.exec fileSystem s).1

theorem Store.runs_shown (s : Store) : ∃ t, Runs (Handles id) SlotManager.state s s.shown t :=
  ⟨_, runs_exec handles_fileSystem _ s⟩

/-- The activation stops when it has replaced the pointer and not yet synchronised the root. -/
def interrupted : Store :=
  ((Command.activate "1.2.3").program sampleManager sampleCrypto "amd64").advance fileSystem 20 staged

theorem sample_commands_succeed :
    (Command.activate "1.2.3").result staged = .ok () ∧ activated.root.now.current = target "1.2.3" ∧
    activated.shown = .ok { current := "1.2.3", minimumVersion := "1.2.3" } ∧
    upgradeStaged.root.now.current ≠ target "1.3.0" ∧
    upgraded.root.now.current = target "1.3.0" ∧
    interrupted.root.views.map (·.current) = [target "1.2.3", none] ∧
    ∀ r ∈ interrupted.root.views, r.operation.isSome = true ∧
      Command.recover.result (interrupted.crashedAt r) = .ok () ∧
      (Command.recover.left (interrupted.crashedAt r)).root.now.current = r.current := by
  decide +kernel

/-- An activation that replaces the pointer ends with its version; cut off before the new pointer is
durable, it is completed or taken back by the recovery, after what the crash has left. -/
theorem staged_swap_crash_consistent : activated.root.now.current = target "1.2.3" ∧
      Ends sampleCrypto (.activate "1.2.3") staged activated.root ∧
      interrupted.root.views.map (·.current) = [target "1.2.3", none] ∧
      ∀ r ∈ interrupted.root.views, r.operation.isSome = true ∧
        Stays sampleCrypto (.activate "1.2.3") staged r.current ∧
        (Command.recover.left (interrupted.crashedAt r)).root.now.current = r.current ∧
        Outcome sampleCrypto (.activate "1.2.3") staged
          (Command.recover.left (interrupted.crashedAt r)).root.now := by
  obtain ⟨hok, hpointer, -, -, -, hviews, hrecover⟩ := sample_commands_succeed
  have hstaged : Reachable id sampleManager sampleCrypto "amd64" staged :=
    ⟨_, .single (.ended ((staging "1.2.3").runs_left {}))⟩
  have hcut : Cut (Handles id) Interrupts
      ((Command.activate "1.2.3").program sampleManager sampleCrypto "amd64") staged interrupted :=
    cut_advance handles_fileSystem 20 _ staged
  have hrun := (Command.activate "1.2.3").runs_left staged
  obtain ⟨hstays, hends, hcrash⟩ :=
    swap_crash_consistent (c := .activate "1.2.3") hstaged trivial
  rw [hok] at hrun
  refine ⟨hpointer, hends _ hrun, hviews, fun r hr => ?_⟩
  obtain ⟨hjournal, hok, hpointer⟩ := hrecover r hr
  have hrecovery := Command.recover.runs_left (interrupted.crashedAt r)
  rw [hok] at hrecovery
  have hafter : After id sampleManager sampleCrypto "amd64" (.activate "1.2.3") staged
      (interrupted.crashedAt r) := .crashed hcut (interrupted.crash_crashedAt hr)
  exact ⟨hjournal, hstays _ hcut r hr, hpointer, ((hcrash _ _ hafter .refl).2 _ hrecovery).1⟩

end MinimalRouter.Slots
