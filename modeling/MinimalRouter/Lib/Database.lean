import Mathlib.Logic.Function.Basic

/-! A database that several connections share: a transaction works on the snapshot that its first
statement takes, one connection writes at a time, and only on a snapshot that is the last one. -/

universe u v

namespace MinimalRouter.Lib

structure Transaction (α : Type u) where
  version : Nat
  (base value : α)
  writing : Bool := false

inductive Session (α : Type u) : Type u
  | idle | begun
  | active : Transaction α → Session α

/-- The last committed value, how many commits led to it, and the connections: what each has open,
and the version that each has read last. -/
structure Database (ι : Type v) (α : Type u) where
  value : α
  version : Nat := 0
  session : ι → Session α := fun _ => .idle
  readAt : ι → Nat := fun _ => 0

namespace Database

variable {ι : Type v} {α : Type u} {db : Database ι α}

def view (db : Database ι α) (i : ι) : Transaction α :=
  match db.session i with
  | .active tx => tx
  | _ => { version := db.version, base := db.value, value := db.value }

structure Consistent (db : Database ι α) : Prop where
  writer_unique : ∀ i j tx tx', db.session i = .active tx → tx.writing = true →
    db.session j = .active tx' → tx'.writing = true → i = j
  version_le : ∀ i tx, db.session i = .active tx → tx.version ≤ db.version
  current : ∀ i tx, db.session i = .active tx → tx.writing = true → tx.version = db.version
  base_eq : ∀ i tx, db.session i = .active tx → tx.version = db.version → tx.base = db.value
  value_eq : ∀ i tx, db.session i = .active tx → tx.writing = false → tx.value = tx.base
  readAt_le : ∀ i, db.readAt i ≤ db.version

theorem view_of_active (h : db.session i = .active tx) : db.view i = tx := by
  simp [view, h]

theorem view_of_begun (h : db.session i = .begun) :
    db.view i = { version := db.version, base := db.value, value := db.value } := by
  simp [view, h]

theorem view_of_idle (h : db.session i = .idle) :
    db.view i = { version := db.version, base := db.value, value := db.value } := by
  simp [view, h]

structure Fits (db : Database ι α) (i : ι) (tx : Transaction α) : Prop where
  version_le : tx.version ≤ db.version
  current : tx.writing = true → tx.version = db.version
  base_eq : tx.version = db.version → tx.base = db.value
  value_eq : tx.writing = false → tx.value = tx.base
  alone : tx.writing = true → ∀ j tx', db.session j = .active tx' → tx'.writing = true → j = i

namespace Consistent

theorem fresh (value : α) : ({ value } : Database ι α).Consistent := by
  refine ⟨fun _ _ _ _ h => ?_, fun _ _ h => ?_, fun _ _ h => ?_, fun _ _ h => ?_, fun _ _ h => ?_,
    fun _ => Nat.le_refl _⟩
  all_goals cases h

theorem fits (h : db.Consistent) (hi : db.session i = .active tx) : db.Fits i tx where
  version_le := h.version_le i tx hi
  current := h.current i tx hi
  base_eq := h.base_eq i tx hi
  value_eq := h.value_eq i tx hi
  alone hw j tx' hj hw' := h.writer_unique j i tx' tx hj hw' hi hw

theorem fits_view (h : db.Consistent) : db.Fits i (db.view i) := by
  have hfresh : db.Fits i { version := db.version, base := db.value, value := db.value } :=
    ⟨Nat.le_refl _, (nomatch ·), fun _ => rfl, fun _ => rfl, (nomatch ·)⟩
  cases hs : db.session i with
  | active => exact view_of_active hs ▸ h.fits hs
  | idle => exact view_of_idle hs ▸ hfresh
  | begun => exact view_of_begun hs ▸ hfresh

end Consistent

section Statements

variable [DecidableEq ι]

def setSession (db : Database ι α) (i : ι) (s : Session α) : Database ι α :=
  { db with session := Function.update db.session i s }

def begin (db : Database ι α) (i : ι) : Database ι α := db.setSession i .begun

def read (db : Database ι α) (i : ι) : Database ι α :=
  let session :=
    match db.session i with
    | .begun => .active (db.view i)
    | s => s
  { db.setSession i session with readAt := Function.update db.readAt i (db.view i).version }

structure Writable (db : Database ι α) (i : ι) : Prop where
  inside : db.session i ≠ .idle
  current : (db.view i).version = db.version
  alone : ∀ j tx, db.session j = .active tx → tx.writing = true → j = i

def write (f : α → α) (db : Database ι α) (i : ι) : Database ι α :=
  db.setSession i (.active { db.view i with value := f (db.view i).value, writing := true })

def rollback (db : Database ι α) (i : ι) : Database ι α := db.setSession i .idle

def commit (db : Database ι α) (i : ι) : Database ι α :=
  let closed := db.setSession i .idle
  match db.session i with
  | .active tx =>
    if tx.writing then { closed with value := tx.value, version := db.version + 1 } else closed
  | _ => closed

@[simp] theorem setSession_self (s : Session α) : (db.setSession i s).session i = s :=
  Function.update_self ..

@[simp] theorem setSession_of_ne (hne : j ≠ i) (s : Session α) :
    (db.setSession i s).session j = db.session j := Function.update_of_ne hne ..

@[simp] theorem readAt_read : (db.read i).readAt i = (db.view i).version :=
  Function.update_self ..

theorem session_read_of_begun (h : db.session i = .begun) :
    (db.read i).session i = .active (db.view i) := by
  simp [read, h]

theorem session_read_of_ne_begun (h : db.session i ≠ .begun) :
    (db.read i).session i = db.session i := by
  cases hs : db.session i with
  | begun => exact absurd hs h
  | idle | active => simp [read, hs]

theorem commit_of_writing (hi : db.session i = .active tx) (hw : tx.writing = true) :
    db.commit i = { db.rollback i with value := tx.value, version := db.version + 1 } := by
  simp [commit, hi, hw, rollback]

theorem commit_of_not_writing (h : ∀ tx, db.session i = .active tx → tx.writing = false) :
    db.commit i = db.rollback i := by
  unfold commit
  split
  next tx hi => rw [if_neg (by simp [h tx hi])]; rfl
  next => rfl

def Opens (db db' : Database ι α) : Prop :=
  ∀ j tx, db'.session j = .active tx →
    tx.base = (db.view j).base ∧ tx.version = (db.view j).version

theorem opens_setSession (hs : ∀ tx, s = .active tx →
    tx.base = (db.view i).base ∧ tx.version = (db.view i).version) :
    db.Opens (db.setSession i s) := by
  intro j tx hj
  by_cases hji : j = i
  · subst hji
    exact hs tx ((setSession_self s).symm.trans hj)
  rw [setSession_of_ne hji] at hj
  rw [view_of_active hj]
  exact ⟨rfl, rfl⟩

theorem opens_begin : db.Opens (db.begin i) := opens_setSession fun _ hs => nomatch hs

theorem opens_rollback : db.Opens (db.rollback i) := opens_setSession fun _ hs => nomatch hs

theorem opens_read : db.Opens (db.read i) := by
  refine opens_setSession (s := match db.session i with
    | .begun => .active (db.view i)
    | s => s) fun tx hs => ?_
  split at hs
  · cases hs
    exact ⟨rfl, rfl⟩
  · rw [view_of_active hs]
    exact ⟨rfl, rfl⟩

theorem opens_write (f : α → α) : db.Opens (db.write f i) := by
  refine opens_setSession fun tx hs => ?_
  cases hs
  exact ⟨rfl, rfl⟩

namespace Consistent

theorem setSession (h : db.Consistent) (hs : ∀ tx, s = .active tx → db.Fits i tx) :
    (db.setSession i s).Consistent := by
  have hcases : ∀ j tx, (db.setSession i s).session j = .active tx →
      j = i ∧ s = .active tx ∨ j ≠ i ∧ db.session j = .active tx := by
    intro j tx hj
    by_cases hji : j = i
    · subst hji
      exact .inl ⟨rfl, by rwa [setSession_self] at hj⟩
    · exact .inr ⟨hji, by rwa [setSession_of_ne hji] at hj⟩
  refine ⟨?_, ?_, ?_, ?_, ?_, h.readAt_le⟩
  · intro j k tx tx' hj hw hk hw'
    rcases hcases j tx hj with ⟨rfl, hs₁⟩ | ⟨-, hj'⟩ <;>
      rcases hcases k tx' hk with ⟨rfl, hs₂⟩ | ⟨-, hk'⟩
    · rfl
    · exact ((hs tx hs₁).alone hw k tx' hk' hw').symm
    · exact (hs tx' hs₂).alone hw' j tx hj' hw
    · exact h.writer_unique j k tx tx' hj' hw hk' hw'
  · intro j tx hj
    rcases hcases j tx hj with ⟨-, hs'⟩ | ⟨-, hj⟩
    · exact (hs tx hs').version_le
    · exact h.version_le j tx hj
  · intro j tx hj
    rcases hcases j tx hj with ⟨-, hs'⟩ | ⟨-, hj⟩
    · exact (hs tx hs').current
    · exact h.current j tx hj
  · intro j tx hj
    rcases hcases j tx hj with ⟨-, hs'⟩ | ⟨-, hj⟩
    · exact (hs tx hs').base_eq
    · exact h.base_eq j tx hj
  intro j tx hj
  rcases hcases j tx hj with ⟨-, hs'⟩ | ⟨-, hj⟩
  · exact (hs tx hs').value_eq
  · exact h.value_eq j tx hj

theorem begin (h : db.Consistent) : (db.begin i).Consistent := h.setSession fun _ hs => nomatch hs

theorem rollback (h : db.Consistent) : (db.rollback i).Consistent :=
  h.setSession fun _ hs => nomatch hs

theorem read (h : db.Consistent) : (db.read i).Consistent := by
  have hsession : (db.setSession i (match db.session i with
      | .begun => .active (db.view i)
      | s => s)).Consistent := by
    refine h.setSession fun tx hs => ?_
    split at hs
    · cases hs
      exact h.fits_view
    · exact h.fits hs
  refine { hsession with readAt_le := fun j => ?_ }
  by_cases hji : j = i
  · subst hji
    exact Nat.le_trans (Nat.le_of_eq <| Function.update_self j _ db.readAt) h.fits_view.version_le
  · exact Nat.le_trans (Nat.le_of_eq <| Function.update_of_ne hji _ db.readAt) (h.readAt_le j)

theorem write (h : db.Consistent) (hw : db.Writable i) : (db.write f i).Consistent := by
  refine h.setSession fun tx hs => ?_
  cases hs
  exact ⟨h.fits_view.version_le, fun _ => hw.current, h.fits_view.base_eq, (nomatch ·),
    fun _ => hw.alone⟩

theorem commit (h : db.Consistent) : (db.commit i).Consistent := by
  have hclosed := h.rollback (i := i)
  unfold Database.commit
  split
  next tx hi =>
    split
    next hw =>
      have hopen : ∀ j tx', (db.rollback i).session j = .active tx' →
          tx'.writing = false ∧ tx'.version < db.version + 1 := by
        intro j tx' hj
        refine ⟨?_, Nat.lt_succ_of_le (hclosed.version_le j tx' hj)⟩
        by_contra hw'
        by_cases hji : j = i
        · subst hji
          exact nomatch (setSession_self _).symm.trans hj
        · have hj' : db.session j = .active tx' := (setSession_of_ne hji _).symm.trans hj
          exact hji (h.writer_unique j i tx' tx hj' (by simpa using hw') hi hw)
      exact
        { writer_unique := fun j k tx' _ hj hw' => nomatch (hopen j tx' hj).1.symm.trans hw'
          version_le := fun j tx' hj => Nat.le_of_lt (hopen j tx' hj).2
          current := fun j tx' hj hw' => nomatch (hopen j tx' hj).1.symm.trans hw'
          base_eq := fun j tx' hj hv => absurd hv (Nat.ne_of_lt (hopen j tx' hj).2)
          value_eq := hclosed.value_eq
          readAt_le := fun j => Nat.le_succ_of_le (h.readAt_le j) }
    next => exact hclosed
  next => exact hclosed

end Consistent

end Statements

end Database

end MinimalRouter.Lib
