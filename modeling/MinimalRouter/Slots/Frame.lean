import MinimalRouter.Slots.Manager

namespace MinimalRouter.Slots

open Goish Lib
open Firmware (SlotState)

variable {α : Type} {s : Store}

def Query.changesRoot : Query → Bool
  | rename _ => true
  | removeOperation => true
  | removeInstallation => true
  | syncRoot => true
  | renameLink _ _ => true
  | removeLink _ => true
  | _ => false

theorem Writing.root (h : Writing s name path t) : t.root = s.root := by
  rcases h with rfl | ⟨_, _, _, _, rfl⟩
  · rfl
  · rfl

theorem PartlyRemoved.root (h : PartlyRemoved s name t) : t.root = s.root := by
  rcases h with rfl | ⟨_, _, _, _, rfl⟩
  · rfl
  · rfl

theorem Changes.root (h : Changes s t r done) (hdone : done.root = s.root) : t.root = s.root := by
  cases r with
  | ok => exact (congrArg Store.root h).trans hdone
  | error => exact congrArg Store.root h

theorem Handles.root (hq : q.changesRoot = false) (h : Handles digest s q r t) :
    t.root = s.root := by
  change t.root = (s.log q).root
  cases q with
  | rename | removeOperation | removeInstallation | syncRoot | renameLink | removeLink => cases hq
  | ensureRoot | lock | createTemp | symlink | chmodDir | syncTree => exact congrArg Store.root h
  | installationExists | readState | readOperation | readInstallation | readLink | slotIsDir
  | slotExists => exact congrArg Store.root h.1
  | mkdirTemp =>
    cases r with
    | ok =>
      obtain ⟨_, _, rfl⟩ := h
      rfl
    | error => exact congrArg Store.root h
  | lstat loc =>
    cases loc with
    | source | slot => exact congrArg Store.root h.1
  | sha256 loc | walk loc =>
    cases loc with
    | source => exact congrArg Store.root h
    | slot => exact congrArg Store.root h.1
  | copy =>
    cases r with
    | ok _ =>
      obtain ⟨_, _, _, _, rfl⟩ := h
      rfl
    | error => exact Writing.root h
  | chmodFile =>
    cases r with
    | ok _ =>
      obtain ⟨_, _, _, _, rfl⟩ := h
      rfl
    | error => exact congrArg Store.root h
  | renameSlot =>
    cases r with
    | ok _ =>
      obtain ⟨_, _, _, rfl⟩ := h
      rfl
    | error => exact congrArg Store.root h
  | syncSlots => exact Changes.root h rfl
  | removeSlot name =>
    cases r with
    | ok =>
      obtain rfl : t = (s.log (.removeSlot name)).setSlot name none := h
      rfl
    | error => exact PartlyRemoved.root h

theorem Interrupts.root (h : Interrupts s q t) : t.root = s.root := by
  cases q with
  | removeSlot => exact PartlyRemoved.root h
  | copy => exact Writing.root h
  | _ => cases h

def Framed (x : SlotProg α) : Prop :=
  Prog.Asks (fun q : Query => q.changesRoot = false) (fun _ => True) x

namespace Framed

variable {β : Type} {x : SlotProg α}

theorem pure : Framed (Pure.pure a : SlotProg α) := .ret trivial

theorem fail : Framed (Attempt.fail e : SlotProg α) := .ret trivial

theorem ofExcept : Framed (Attempt.ofExcept r : SlotProg α) := .ret trivial

theorem ask {k : q.Answer → SlotProg α} (hq : q.changesRoot = false) (hk : ∀ r, Framed (k r)) :
    Framed (Attempt.ask q k) := Prog.Asks.ask hq hk

theorem call {f : q.Answer → Except String α} (hq : q.changesRoot = false) :
    Framed (Attempt.ask q fun r => Attempt.ofExcept (f r)) := ask hq fun _ => ofExcept

theorem failIf [Decidable p] : Framed (Attempt.failIf p e : SlotProg PUnit) := by
  unfold Attempt.failIf
  split
  · exact fail
  · exact pure

theorem bind {f : α → SlotProg β} (hx : Framed x) (hf : ∀ a, Framed (f a)) : Framed (x >>= f) := by
  refine Prog.Asks.bind hx fun r _ => ?_
  cases r with
  | ok a => exact hf a
  | error => exact .ret trivial

theorem mapError (hx : Framed x) : Framed (x.mapError f) :=
  Prog.Asks.bind hx fun _ _ => .ret trivial

theorem result (hx : Framed x) : Framed x.result := Prog.Asks.bind hx fun _ _ => .ret trivial

theorem each {f : ι → SlotProg PUnit} (hf : ∀ i, Framed (f i)) : Framed (Attempt.each f is) := by
  induction is with
  | nil => exact pure
  | cons i is ih => exact bind (hf i) fun _ => ih

theorem meets (hx : Framed x) : x.Meets (Handles digest) Interrupts (fun t => t.root = s.root)
    (fun _ t => t.root = s.root) (fun t => t.root = s.root) s := by
  suffices h : ∀ u, u.root = s.root → x.Meets (Handles digest) Interrupts
      (fun t => t.root = s.root) (fun _ t => t.root = s.root) (fun t => t.root = s.root) u from h s rfl
  intro u hu
  unfold Framed at hx
  unfold Attempt.Meets
  induction hx generalizing u with
  | @ret r =>
    cases r with
    | ok | error => exact ⟨hu, hu⟩
  | ask hq _ ih =>
    exact ⟨hu, fun t ht => (Interrupts.root ht).trans hu,
      fun r t ht => ih r t ((Handles.root hq ht).trans hu)⟩

end Framed

section Framed

variable {m : SlotManager}

open SlotManager

theorem framed_ensureRoot : Framed m.ensureRoot := by
  unfold ensureRoot
  split
  · exact .fail
  · exact .call rfl

theorem framed_requireSlot : Framed (requireSlot version) := by
  unfold requireSlot
  split
  · exact .fail
  refine .ask rfl fun r => ?_
  cases r with
  | true => exact .pure
  | false => exact .fail

theorem framed_linkVersion : Framed (linkVersion l) := by
  refine .bind (.call rfl) fun target => ?_
  cases target with
  | none => exact .pure
  | some =>
    exact .bind .ofExcept fun _ => .bind framed_requireSlot.mapError fun _ => .pure

theorem framed_applyInstallationFloor {state : SlotState} :
    Framed (applyInstallationFloor state) := by
  refine .bind (.call rfl) fun intent => ?_
  cases intent with
  | none => exact .pure
  | some => exact .ofExcept

theorem framed_stateWithoutOperation : Framed stateWithoutOperation :=
  .bind (.call rfl) fun _ => .bind framed_linkVersion fun _ =>
    .bind framed_linkVersion fun _ => framed_applyInstallationFloor

theorem framed_requireJournalSlot : Framed (requireJournalSlot version) := by
  unfold requireJournalSlot
  split
  · exact .pure
  split
  · exact .fail
  · exact framed_requireSlot.mapError

theorem framed_validateJournalState {state : SlotState} : Framed (validateJournalState state) :=
  .bind .ofExcept fun _ => .bind (.each fun _ => framed_requireJournalSlot) fun _ => .failIf

theorem framed_validateOperation : Framed (validateOperation o) :=
  .bind .failIf fun _ => .bind framed_validateJournalState.mapError fun _ =>
    .bind framed_validateJournalState.mapError fun _ => .bind .failIf fun _ =>
      .bind .ofExcept fun _ => .ofExcept

theorem framed_projectOperationState : Framed (projectOperationState o) :=
  .bind framed_validateOperation fun _ => .bind framed_linkVersion fun _ => .ofExcept

theorem framed_checkInstallation : Framed checkInstallation :=
  .bind (.call rfl) fun _ => .failIf

theorem framed_verifyFile : Framed (verifyFile loc entry) := by
  unfold verifyFile
  dsimp only
  split
  · exact .fail
  split
  · exact .fail
  refine .ask rfl fun mode => ?_
  cases mode with
  | none => exact .fail
  | some =>
    refine .ask rfl fun actual => ?_
    cases actual with
    | error => exact .fail
    | ok => exact .failIf

theorem framed_validateFileMode : Framed (validateFileMode loc relative) := by
  refine .ask rfl fun mode => ?_
  cases mode with
  | none => exact .fail
  | some => exact .failIf

theorem framed_validateApplianceFileModes : Framed (validateApplianceFileModes loc paths) :=
  .bind .ofExcept fun _ => .each fun _ => framed_validateFileMode

theorem framed_validateReleaseCandidate :
    Framed (validateReleaseCandidate crypto arch loc manifest key) :=
  .bind (Framed.bind .ofExcept fun _ => .each fun _ => framed_verifyFile).mapError fun _ =>
    .bind framed_validateApplianceFileModes.mapError fun _ => Framed.ofExcept.mapError

theorem framed_copyFile : Framed (copyFile temp relative) :=
  .bind (.call rfl) fun _ => .bind (.call rfl) fun _ =>
    .each fun _ => .call rfl

theorem framed_copyRelease : Framed (m.copyRelease crypto arch manifest temp) :=
  .bind (.call rfl) fun _ => .bind (.each fun _ => framed_copyFile) fun _ =>
    .bind framed_validateReleaseCandidate.mapError fun _ =>
      .bind (Framed.call rfl).mapError fun _ =>
        (Framed.call rfl).mapError

theorem framed_hashFiles : Framed (hashFiles loc paths) := by
  induction paths with
  | nil => exact .pure
  | cons path paths ih =>
    exact .bind (.call rfl) fun _ => .bind ih fun _ => .pure

theorem framed_inspectLocalPayload : Framed (inspectLocalPayload loc) :=
  .bind (.call rfl) fun _ => .bind framed_hashFiles fun _ =>
    .bind framed_validateApplianceFileModes fun _ => .pure

theorem framed_copyInventory : Framed (copyInventory inventory temp) := by
  refine .bind (.call rfl) fun _ => .bind (.each fun _ => ?_) fun _ =>
    .bind framed_inspectLocalPayload fun _ => ?_
  · split
    · exact .fail
    · exact framed_copyFile
  split
  · exact .fail
  · exact (Framed.call rfl).mapError

theorem framed_placeBaseline : Framed (placeBaseline inventory temp version) := by
  refine .bind (.call rfl) fun _ => .bind ?_ fun _ => .call rfl
  split
  · exact .bind framed_inspectLocalPayload fun _ => .bind .failIf fun _ => .bind .failIf fun _ =>
      .call rfl
  · exact .call rfl

end Framed

section Returns

variable {β : Type} {x : SlotProg α}

/-- A program that leaves the root alone, and what its result says of the root. -/
def Returns (digest : List UInt8 → List UInt8) (x : SlotProg α) (d : Directory Root)
    (P : α → Prop) : Prop :=
  ∀ s : Store, s.root = d → x.Meets (Handles digest) Interrupts (fun t => t.root = d)
    (fun a t => t.root = d ∧ P a) (fun t => t.root = d) s

namespace Returns

theorem of_framed (h : Framed x) : Returns digest x d fun _ => True := by
  rintro s rfl
  exact h.meets.mono (fun _ => id) (fun _ _ _ ht => ⟨ht, trivial⟩) fun _ _ => id

theorem pure (h : P a) : Returns digest (Pure.pure a : SlotProg α) d P :=
  fun _ hs => .pure hs ⟨hs, h⟩

theorem fail : Returns digest (Attempt.fail e : SlotProg α) d P :=
  fun _ hs => .fail hs hs

theorem ofExcept (h : ∀ a, r = .ok a → P a) :
    Returns digest (Attempt.ofExcept r : SlotProg α) d P :=
  fun _ hs => .ofExcept hs (fun a ha => ⟨hs, h a ha⟩) fun _ _ => hs

theorem failIf [Decidable p] : Returns digest (Attempt.failIf p e : SlotProg PUnit) d fun _ => ¬p :=
  fun _ hs => .failIf hs (fun h => ⟨hs, h⟩) fun _ => hs

theorem ask {k : q.Answer → SlotProg α} (hq : q.changesRoot = false)
    (hk : ∀ s r t, s.root = d → Handles digest s q r t → Returns digest (k r) d P) :
    Returns digest (Attempt.ask q k) d P := fun s hs =>
  .ask hs (fun _ ht => (Interrupts.root ht).trans hs) fun r t ht =>
    hk s r t hs ht t ((Handles.root hq ht).trans hs)

theorem bind {f : α → SlotProg β} (hx : Returns digest x d P)
    (hf : ∀ a, P a → Returns digest (f a) d P') : Returns digest (x >>= f) d P' :=
  fun s hs => .bind (hx s hs) fun a t ht => hf a ht.2 t ht.1

theorem mapError (hx : Returns digest x d P) :
    Returns digest (x.mapError f) d P := fun s hs => (hx s hs).mapError

theorem mono (hx : Returns digest x d P) (h : ∀ a, P a → P' a) :
    Returns digest x d P' := fun s hs =>
  (hx s hs).mono (fun _ => id) (fun a _ _ ht => ⟨ht.1, h a ht.2⟩) fun _ _ => id

theorem each {f : ι → SlotProg PUnit} {Q : ι → Prop}
    (hf : ∀ i, Returns digest (f i) d fun _ => Q i) :
    Returns digest (Attempt.each f is) d fun _ => ∀ i ∈ is, Q i := by
  induction is with
  | nil => exact pure nofun
  | cons i is ih =>
    exact bind (hf i) fun _ hi => ih.mono fun _ his => List.forall_mem_cons.mpr ⟨hi, his⟩

end Returns

end Returns

section Throughout

variable {β : Type} {x : SlotProg α}

def Throughout (G : Root → Prop) (t : Store) : Prop := ∀ r ∈ t.root.views, G r

/-- The root at every moment of a program, at its success and at its failure. -/
def Keeps (digest : List UInt8 → List UInt8) (G : Root → Prop) (ok : α → Directory Root → Prop)
    (bad : Directory Root → Prop) (x : SlotProg α) (s : Store) : Prop :=
  x.Meets (Handles digest) Interrupts (Throughout G) (fun a t => ok a t.root)
    (fun t => bad t.root) s

theorem Throughout.of_root (h : Throughout G s) (ht : t.root = s.root) : Throughout G t := by
  unfold Throughout
  rwa [ht]

namespace Keeps

theorem bind {ok' : β → Directory Root → Prop} (hx : Keeps digest G ok bad x s)
    (hf : ∀ a t, Throughout G t → ok a t.root → Keeps digest G ok' bad (f a) t) :
    Keeps digest G ok' bad (x >>= f) s :=
  Attempt.Meets.bind (hx.mono (fun _ => id) (fun _ _ hC h => And.intro hC h) fun _ _ => id)
    fun a t ht => hf a t ht.1 ht.2

theorem mono (h : Keeps digest G ok bad x s) (hG : ∀ r, G r → G' r)
    (hok : ∀ a d, (∀ r ∈ d.views, G r) → ok a d → ok' a d)
    (hbad : ∀ d, (∀ r ∈ d.views, G r) → bad d → bad' d) : Keeps digest G' ok' bad' x s :=
  Attempt.Meets.mono h (fun _ ht r hr => hG r (ht r hr)) (fun a t ht => hok a t.root ht)
    fun t ht => hbad t.root ht

theorem of_returns (hs : Throughout G s) (hx : Returns digest x s.root P) :
    Keeps digest G (fun a d => d = s.root ∧ P a) (fun d => d = s.root) x s :=
  (hx s rfl).mono (fun _ ht => hs.of_root ht) (fun _ _ _ => id) fun _ _ => id

theorem of_framed (hs : Throughout G s) (hx : Framed x) :
    Keeps digest G (fun _ d => d = s.root) (fun d => d = s.root) x s :=
  hx.meets.mono (fun _ ht => hs.of_root ht) (fun _ _ _ => id) fun _ _ => id

theorem framed_bind {ok : β → Directory Root → Prop} (hs : Throughout G s) (hx : Framed x)
    (hbad : bad s.root)
    (hf : ∀ a t, Throughout G t → t.root = s.root → Keeps digest G ok bad (f a) t) :
    Keeps digest G ok bad (x >>= f) s :=
  bind ((of_framed hs hx).mono (fun _ => id) (fun _ _ _ => id) fun _ _ hd => hd ▸ hbad) hf

theorem returns_bind {ok : β → Directory Root → Prop} (hs : Throughout G s)
    (hx : Returns digest x s.root P) (hbad : bad s.root)
    (hf : ∀ a t, P a → Throughout G t → t.root = s.root → Keeps digest G ok bad (f a) t) :
    Keeps digest G ok bad (x >>= f) s :=
  bind ((of_returns hs hx).mono (fun _ => id) (fun _ _ _ => id) fun _ _ hd => hd ▸ hbad)
    fun a t hG h => hf a t h.2 hG h.1

theorem result {ok : Except String α → Directory Root → Prop}
    (h : Keeps digest G (fun a => ok (.ok a)) bad x s)
    (hbad : ∀ e d, (∀ r ∈ d.views, G r) → bad d → ok (.error e) d) :
    Keeps digest G ok bad' x.result s := Attempt.Meets.result h fun e t => hbad e t.root

theorem result_bind {f : Except String α → SlotProg β} {ok' : β → Directory Root → Prop}
    (h : Keeps digest G ok bad x s)
    (hok : ∀ a t, Throughout G t → ok a t.root → Keeps digest G ok' bad' (f (.ok a)) t)
    (herror : ∀ e t, Throughout G t → bad t.root → Keeps digest G ok' bad' (f (.error e)) t) :
    Keeps digest G ok' bad' (x.result >>= f) s := by
  have hresult : Keeps digest G (fun r d => (∀ a, r = .ok a → ok a d) ∧ ∀ e, r = .error e → bad d)
      bad' x.result s :=
    result (h.mono (fun _ => id) (fun a _ _ ha => ⟨fun _ h => Except.ok.inj h ▸ ha, nofun⟩)
      fun _ _ => id) fun _ _ _ hb => ⟨nofun, fun _ _ => hb⟩
  refine hresult.bind fun r t ht hr => ?_
  cases r with
  | ok a => exact hok a t ht (hr.1 a rfl)
  | error e => exact herror e t ht (hr.2 e rfl)

theorem mapError (h : Keeps digest G ok bad x s) :
    Keeps digest G ok bad (x.mapError f) s := Attempt.Meets.mapError h

theorem cut (h : Keeps digest G ok bad x s) (hcut : Prog.Cut (Handles digest) Interrupts x s t) :
    Throughout G t := Attempt.Meets.cut h hcut

theorem runs (h : Keeps digest G ok bad x s) (hrun : Prog.Runs (Handles digest) x s (.ok a) t) :
    ok a t.root :=
  have hmeets : x.Meets (Handles digest) Interrupts (Throughout G) (fun a t => ok a t.root)
    (fun t => bad t.root) s := h
  hmeets.runs hrun

theorem andFinally (h : Keeps digest G ok bad x s) (hy : Framed y) :
    Keeps digest G ok bad (x.andFinally y) s := by
  refine Attempt.Meets.andFinally (h.mono (fun _ => id) (fun _ d hd hok => And.intro hd hok)
    fun d hd hbad => And.intro hd hbad) (fun a t ht => ?_) fun t ht => ?_
  · exact hy.meets.mono (fun _ hu => Throughout.of_root ht.1 hu) (fun _ _ _ hu => hu ▸ ht.2)
      fun _ _ hu => hu ▸ ht.2
  · exact hy.meets.mono (fun _ hu => Throughout.of_root ht.1 hu) (fun _ _ _ hu => hu ▸ ht.2)
      fun _ _ hu => hu ▸ ht.2

theorem change {k : q.Answer → SlotProg α} (hs : Throughout G s) (hq : ∀ t, ¬Interrupts s q t)
    (hk : ∀ r t, Handles digest s q r t → Keeps digest G ok bad (k r) t) :
    Keeps digest G ok bad (Attempt.ask q k) s :=
  .ask hs (fun t ht => absurd ht (hq t)) hk

end Keeps

open SlotManager

def Turns (r : Root) (d : Directory Root) : Prop := d = ⟨r, []⟩

def MayTurn (before after : Root) (d : Directory Root) : Prop := d.now = before ∨ d.now = after

theorem keeps_ofExcept_change (h : Changes (s.log q) t r done)
    (hdone : done.root = s.root.change after) :
    (∃ e, (Attempt.ofExcept r : SlotProg Unit) = .fail e ∧ t.root = s.root) ∨
      ((Attempt.ofExcept r : SlotProg Unit) = pure () ∧ t.root = s.root.change after) := by
  cases r with
  | ok =>
    obtain rfl : t = done := h
    exact .inr ⟨rfl, hdone⟩
  | error e =>
    obtain rfl : t = s.log q := h
    exact .inl ⟨e, rfl, rfl⟩

variable {m : SlotManager}

def target (version : String) : Option String :=
  if version = "" then none else some (linkTarget version)

def Proper (version : String) : Prop := version = "" ∨ releaseVersionPattern version = true

theorem returns_requireSlot :
    Returns digest (requireSlot version) d fun _ => releaseVersionPattern version = true := by
  unfold requireSlot
  split
  · exact .fail
  · next hpattern =>
    rw [not_not] at hpattern
    refine .ask rfl fun _ r _ _ _ => ?_
    cases r with
    | true => exact .pure hpattern
    | false => exact .fail

def withPointers (r : Root) (state : SlotState) : Root :=
  (r.setLink .current (target state.current)).setLink .previous (target state.previous)

theorem joinErrors_eq_ok (h : joinErrors errors = .ok u) : errors = [] := by
  cases errors with
  | nil => rfl
  | cons => cases h

section

variable (hs : Throughout G s)

include hs

theorem keeps_syncRoot :
    Keeps digest G (fun _ d => d = ⟨s.root.now, []⟩) (fun d => d = s.root) syncRoot s := by
  refine .change hs (fun _ => id) fun r t ht => ?_
  cases r with
  | ok _ =>
    obtain rfl : t = { s.log .syncRoot with root := s.root.sync } := ht
    exact .ofExcept (Directory.forall_views_sync hs) (fun _ _ => rfl) nofun
  | error =>
    obtain rfl : t = s.log .syncRoot := ht
    exact .ofExcept hs nofun fun _ _ => rfl

theorem keeps_changeAndSync {k : q.Answer → SlotProg Unit} (hafter : G after)
    (hq : ∀ t, ¬Interrupts s q t)
    (hk : ∀ r t, Handles digest s q r t → (∃ e, k r = .fail e ∧ t.root = s.root) ∨
      (k r = pure () ∧ t.root = s.root.change after)) :
    Keeps digest G (fun _ => Turns after) (MayTurn s.root.now after)
      (do Attempt.ask q k; syncRoot) s := by
  have hchange : Keeps digest G (fun _ d => d = s.root.change after)
      (MayTurn s.root.now after) (Attempt.ask q k) s := by
    refine .change hs hq fun r t ht => ?_
    rcases hk r t ht with ⟨e, hfail, hroot⟩ | ⟨hdone, hroot⟩
    · rw [hfail]
      exact .fail (hs.of_root hroot) (.inl (by rw [hroot]))
    rw [hdone]
    refine .pure ?_ hroot
    unfold Throughout
    rw [hroot]
    exact Directory.forall_views_change hs hafter
  refine hchange.bind fun _ t hG ht => ?_
  refine (keeps_syncRoot hG).mono (fun _ => id) (fun _ d _ hd => ?_) fun d _ hd => .inr ?_
  · rw [ht] at hd
    exact hd
  · rw [hd, ht]
    rfl

theorem keeps_clearOperation (hG : G { s.root.now with operation := none }) :
    Keeps digest G (fun _ => Turns { s.root.now with operation := none })
      (MayTurn s.root.now { s.root.now with operation := none }) clearOperation s :=
  keeps_changeAndSync hs hG (fun _ => id) fun _ _ ht => keeps_ofExcept_change ht rfl

theorem keeps_removeLink (hG : G (s.root.now.setLink l none)) :
    Keeps digest G (fun _ => Turns (s.root.now.setLink l none))
      (MayTurn s.root.now (s.root.now.setLink l none)) (removeLink l) s :=
  keeps_changeAndSync hs hG (fun _ => id) fun _ _ ht => keeps_ofExcept_change ht rfl

theorem keeps_writeAtomicJson (hG : G (s.root.now.put d)) :
    Keeps digest G (fun _ => Turns (s.root.now.put d)) (MayTurn s.root.now (s.root.now.put d))
      (m.writeAtomicJson d) s := by
  refine .framed_bind hs framed_ensureRoot (.inl rfl) fun _ t hs ht => ?_
  rw [← ht] at hG ⊢
  refine .framed_bind hs (.call rfl) (.inl rfl) fun _ u hs hu => ?_
  rw [← hu] at hG ⊢
  exact keeps_changeAndSync hs hG (fun _ => id) fun _ _ ht => keeps_ofExcept_change ht rfl

theorem keeps_swapLink (hG : G (s.root.now.setLink l (some (linkTarget version)))) : Keeps digest G
      (fun _ d => Turns (s.root.now.setLink l (some (linkTarget version))) d ∧
        releaseVersionPattern version = true)
      (MayTurn s.root.now (s.root.now.setLink l (some (linkTarget version)))) (swapLink l version) s := by
  refine .returns_bind hs returns_requireSlot (.inl rfl) fun _ t hpattern hs ht => ?_
  rw [← ht] at hG ⊢
  refine .framed_bind hs (.call rfl) (.inl rfl) fun _ u hs hu => ?_
  rw [← hu] at hG ⊢
  have hchange : Keeps digest G (fun _ => Turns (u.root.now.setLink l (some (linkTarget version))))
      (MayTurn u.root.now (u.root.now.setLink l (some (linkTarget version))))
      (do Attempt.ask (.renameLink l (linkTarget version)) Attempt.ofExcept; syncRoot) u :=
    keeps_changeAndSync hs hG (fun _ => id) fun _ _ ht => keeps_ofExcept_change ht rfl
  exact hchange.mono (fun _ => id) (fun _ _ _ hd => ⟨hd, hpattern⟩) fun _ _ => id

theorem keeps_restoreLink (hG : G (s.root.now.setLink l (target version))) :
    Keeps digest G (fun _ d => Turns (s.root.now.setLink l (target version)) d ∧ Proper version)
      (MayTurn s.root.now (s.root.now.setLink l (target version))) (restoreLink l version) s := by
  unfold restoreLink target at *
  split
  · next h =>
    rw [if_pos h] at hG
    exact (keeps_removeLink hs hG).mono (fun _ => id) (fun _ _ _ hd => ⟨hd, .inl h⟩) fun _ _ => id
  · next h =>
    rw [if_neg h] at hG
    exact (keeps_swapLink hs hG).mono (fun _ => id) (fun _ _ _ hd => ⟨hd.1, .inr hd.2⟩)
      fun _ _ => id

theorem keeps_restoreLink_result (hG : G (s.root.now.setLink l (target version))) : Keeps digest G
      (fun r d => MayTurn s.root.now (s.root.now.setLink l (target version)) d ∧
        (errorOf r = [] → Turns (s.root.now.setLink l (target version)) d ∧ Proper version))
      bad (restoreLink l version).result s := by
  refine .result ((keeps_restoreLink hs hG).mono (fun _ => id) (fun _ d _ hd => ?_)
    fun _ _ => id) fun e d _ hd => ⟨hd, nofun⟩
  exact ⟨.inr (by rw [hd.1]), fun _ => hd⟩

theorem keeps_restoreLinks {state : SlotState}
    (hcurrent : G (s.root.now.setLink .current (target state.current)))
    (hprevious : G (s.root.now.setLink .previous (target state.previous)))
    (hboth : G (withPointers s.root.now state)) : Keeps digest G
      (fun _ d => Turns (withPointers s.root.now state) d ∧ Proper state.current ∧
        Proper state.previous) (fun _ => True) (restoreLinks state) s := by
  refine (keeps_restoreLink_result hs hcurrent).bind fun first t ht ⟨hmay, hfirst⟩ => ?_
  have hG : G (t.root.now.setLink .previous (target state.previous)) := by
    rcases hmay with hmay | hmay
    · rw [hmay]
      exact hprevious
    · rw [hmay]
      exact hboth
  refine (keeps_restoreLink_result ht hG).bind fun second u hu ⟨_, hsecond⟩ => ?_
  refine .ofExcept hu (fun _ hjoin => ?_) fun _ _ => trivial
  obtain ⟨hno, hno'⟩ := List.append_eq_nil_iff.mp (joinErrors_eq_ok hjoin)
  obtain ⟨hturn, hproper⟩ := hfirst hno
  obtain ⟨hturn', hproper'⟩ := hsecond hno'
  rw [hturn] at hturn'
  exact ⟨hturn', hproper, hproper'⟩

end

end Throughout

end MinimalRouter.Slots
