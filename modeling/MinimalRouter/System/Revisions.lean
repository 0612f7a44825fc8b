import MinimalRouter.Config.Facts
import MinimalRouter.System.Writers

universe u

namespace MinimalRouter.System.Writers

open Config Lib Attempt.Plan Database
open Apply (RevisionChain)

variable {ι : Type u} [DecidableEq ι] {db : Database ι Store}

theorem executes_cases (h : Executes i db q r db') :
    db' = db ∨ db' = db.begin i ∨ db' = db.read i ∨ db' = db.rollback i ∨
      (db.Writable i ∧ db' = db.write q.effect i) ∨ q = .commit ∧ db' = db.commit i := by
  cases q <;> cases r <;> simp only [Executes] at h <;> simp [h]

theorem executes_write (hq : q.isWrite = true) (h : Executes i db q (.ok row) db') :
    db.Writable i ∧ db' = db.write q.effect i := by
  cases q <;> first | exact h | cases hq

theorem executes_frame (hne : i ≠ j) (h : Executes i db q r db') :
    db'.session j = db.session j ∧ db'.readAt j = db.readAt j := by
  have hsession (s : Session Store) : (db.setSession i s).session j = db.session j :=
    setSession_of_ne hne.symm s
  rcases executes_cases h with rfl | rfl | rfl | rfl | ⟨-, rfl⟩ | ⟨-, rfl⟩
  · exact ⟨rfl, rfl⟩
  · exact ⟨hsession _, rfl⟩
  · exact ⟨hsession _, Function.update_of_ne hne.symm ..⟩
  · exact ⟨hsession _, rfl⟩
  · exact ⟨hsession _, rfl⟩
  unfold commit
  split
  · split
    · exact ⟨hsession _, rfl⟩
    · exact ⟨hsession _, rfl⟩
  · exact ⟨hsession _, rfl⟩

theorem executes_value (hq : q ≠ .commit) (h : Executes i db q r db') :
    db'.value = db.value ∧ db'.version = db.version := by
  rcases executes_cases h with rfl | rfl | rfl | rfl | ⟨-, rfl⟩ | ⟨hc, -⟩
  · exact ⟨rfl, rfl⟩
  · exact ⟨rfl, rfl⟩
  · exact ⟨rfl, rfl⟩
  · exact ⟨rfl, rfl⟩
  · exact ⟨rfl, rfl⟩
  · exact absurd hc hq

def lastRevision (row : Option SystemConfig) : Revision := (row.map (·.revision)).getD 0

/-- The revisions of the table are numbered by the commits that wrote them, and so are those of the
snapshots. -/
structure Sound (base : Nat) (db : Database ι Store) : Prop where
  consistent : db.Consistent
  chain : RevisionChain db.value.rows
  numbered : lastRevision db.value.latest = base + db.version
  snapshots : ∀ i tx, db.session i = .active tx → lastRevision tx.base.latest = base + tx.version
  started : db.value.rows = [] → db.version = 0

omit [DecidableEq ι] in
theorem Sound.view_numbered (h : Sound base db) :
    lastRevision (db.view i).base.latest = base + (db.view i).version := by
  cases hs : db.session i with
  | active tx => exact view_of_active hs ▸ h.snapshots i tx hs
  | idle => exact view_of_idle hs ▸ h.numbered
  | begun => exact view_of_begun hs ▸ h.numbered

omit [DecidableEq ι] in
theorem Sound.keep (h : Sound base db) (hconsistent : db'.Consistent) (hopens : db.Opens db')
    (hvalue : db'.value = db.value) (hversion : db'.version = db.version) : Sound base db' where
  consistent := hconsistent
  chain := hvalue ▸ h.chain
  numbered := by rw [hvalue, hversion, h.numbered]
  snapshots i tx hi := by
    obtain ⟨hbase, hv⟩ := hopens i tx hi
    rw [hbase, hv, h.view_numbered]
  started hrows := hversion ▸ h.started (hvalue ▸ hrows)

theorem Sound.rollback (h : Sound base db) : Sound base (db.rollback i) :=
  h.keep h.consistent.rollback opens_rollback rfl rfl

theorem Sound.executes {q : Statement} {r : q.Answer} (h : Sound base db)
    (hq : q ≠ .commit) (hexec : Executes i db q r db') : Sound base db' := by
  rcases executes_cases hexec with rfl | rfl | rfl | rfl | ⟨hw, rfl⟩ | ⟨hc, -⟩
  · exact h
  · exact h.keep h.consistent.begin opens_begin rfl rfl
  · exact h.keep h.consistent.read opens_read rfl rfl
  · exact h.rollback
  · exact h.keep (h.consistent.write hw) (opens_write _) rfl rfl
  · exact absurd hc hq

/-- The next revision after the one with a number, as the processes count. -/
def Follows (base version : Nat) (cfg : SystemConfig) : Prop :=
  cfg.revision = wrappingAdd (base + version)

/-- A transaction that has put one revision on top of its snapshot, which follows what the process
had read. -/
def Proposes (base version : Nat) (tx : Transaction Store) : Prop :=
  ∃ cfg kept, tx.value.rows = cfg :: kept ∧ kept <+: tx.base.rows ∧
    kept.head? = tx.base.rows.head? ∧ Follows base version cfg

section Outlines

def Rely (i : ι) (db db' : Database ι Store) : Prop :=
  db'.session i = db.session i ∧ db'.readAt i = db.readAt i

def May (base : Nat) (i : ι) (db : Database ι Store) (q : Statement) : Prop :=
  q = .commit → ∀ tx, db.session i = .active tx → tx.writing = true →
    Proposes base (db.readAt i) tx

def outlines (base : Nat) : Parallel.Proof ι Statement (Database ι Store) where
  ready i db := db.session i = .idle
  rely := Rely
  invariant := Sound base
  may := May base
  rely_refl _ _ := ⟨rfl, rfl⟩
  rely_trans h h' := ⟨h'.1.trans h.1, h'.2.trans h.2⟩
  ready_stable h hst := hst.1.trans h

abbrev Planned (base : Nat) (i : ι) {α : Type} (ok : α → Database ι Store → Prop)
    (bad : Database ι Store → Prop) (x : WriterProg α) (db : Database ι Store) : Prop :=
  x.Plan (Executes i) (Rely i) (Sound base) (May base i) ok bad db

def Clean (i : ι) (db : Database ι Store) : Prop :=
  db.session i = .begun ∨ ∃ tx, db.session i = .active tx ∧ tx.value.rows = tx.base.rows

def Inserted (base : Nat) (i : ι) (db : Database ι Store) : Prop :=
  ∃ tx, db.session i = .active tx ∧ Proposes base (db.readAt i) tx

variable {α : Type}

theorem planned_query (q : Statement) {ok : q.Row → Database ι Store → Prop} (hq : q ≠ .commit)
    (hroll : q ≠ .rollback)
    (hok : ∀ t row u, Rely i db t → Sound base t → Executes i t q (.ok row) u → ok row u)
    (hbad : ∀ t, Rely i db t → bad t) : Planned base i ok bad (query context q) db := by
  refine ask fun t hrely hsound => ⟨fun h => absurd h hq, fun r u hexec _ => ?_⟩
  refine ofExcept (fun row hr => ?_) fun e hr => ?_
  · cases r with
    | ok =>
      cases hr
      exact hok t row u hrely hsound hexec
    | error => cases hr
  cases r with
  | ok => cases hr
  | error =>
    have hu : u = t := by
      cases q <;> first | exact absurd rfl hroll | simpa only [Executes] using hexec
    exact hu ▸ hbad t hrely

section

omit [DecidableEq ι]

theorem Clean.rely (h : Clean i db) (hrely : Rely i db t) : Clean i t := by
  unfold Clean
  rw [hrely.1]
  exact h

theorem Clean.view_rows (h : Clean i db) : (db.view i).value.rows = (db.view i).base.rows := by
  rcases h with h | ⟨_, h, hrows⟩
  · rw [view_of_begun h]
  · rw [view_of_active h, hrows]

theorem Inserted.rely (h : Inserted base i db) (hrely : Rely i db t) : Inserted base i t := by
  unfold Inserted
  rw [hrely.1, hrely.2]
  exact h

end

theorem Clean.read (h : Clean i db) : Clean i (db.read i) := by
  rcases h with h | ⟨tx, h, hrows⟩
  · rw [Clean, session_read_of_begun h, view_of_begun h]
    exact .inr ⟨_, rfl, rfl⟩
  · rw [Clean, session_read_of_ne_begun (by simp [h])]
    exact .inr ⟨tx, h, hrows⟩

theorem session_write (f : Store → Store) : (db.write f i).session i =
    .active { db.view i with value := f (db.view i).value, writing := true } :=
  setSession_self _

theorem Sound.read_latest (h : Sound base db)
    (hrows : (db.view i).value.rows = (db.view i).base.rows) :
    lastRevision (db.view i).value.latest = base + (db.read i).readAt i := by
  rw [readAt_read, ← h.view_numbered (i := i), Store.latest, Store.latest, hrows]

theorem planned_latest_clean (hclean : Clean i db) :
    Planned base i (fun row t => Clean i t ∧ lastRevision row = base + t.readAt i) (fun _ => True)
      (query context .latest) db := by
  refine planned_query .latest (by simp) (by simp) (fun t row u hrely hsound hexec => ?_)
    fun _ _ => trivial
  obtain ⟨rfl, rfl⟩ := hexec
  have ht := hclean.rely hrely
  exact ⟨ht.read, hsound.read_latest ht.view_rows⟩

def Prepared (base : Nat) (i : ι) (cfg : SystemConfig) (db : Database ι Store) : Prop :=
  Clean i db ∧ Follows base (db.readAt i) cfg

omit [DecidableEq ι] in
theorem Prepared.rely (h : Prepared base i cfg db) (hrely : Rely i db t) :
    Prepared base i cfg t := ⟨h.1.rely hrely, hrely.2 ▸ h.2⟩

theorem planned_write (q : Statement) {I I' : Database ι Store → Prop} (hq : q.isWrite = true)
    (hdb : I db) (hrely : ∀ t, I db → Rely i db t → I t)
    (hok : ∀ t, I t → I' (t.write q.effect i)) :
    Planned base i (fun _ t => I' t) (fun _ => True) (query context q) db := by
  refine planned_query q (by rintro rfl; cases hq) (by rintro rfl; cases hq)
    (fun t row u hr _ hexec => ?_) fun _ _ => trivial
  obtain ⟨-, rfl⟩ := executes_write hq hexec
  exact hok t (hrely t hdb hr)

theorem planned_insert (h : Prepared base i cfg db) :
    Planned base i (fun _ t => Inserted base i t) (fun _ => True)
      (query context (.insertRevision cfg)) db := by
  refine planned_write (.insertRevision cfg) rfl h (fun t h hrely => h.rely hrely) fun t ht => ?_
  refine ⟨_, session_write _, cfg, (t.view i).base.rows, ?_, List.prefix_rfl, rfl, ht.2⟩
  exact congrArg (cfg :: ·) ht.1.view_rows

theorem planned_before (q : Statement) (hq : q.isWrite = true)
    (hrows : ∀ s, (q.effect s).rows = s.rows) (h : Prepared base i cfg db) :
    Planned base i (fun _ t => Prepared base i cfg t) (fun _ => True) (query context q) db := by
  refine planned_write q hq h (fun t h hrely => h.rely hrely) fun t ht => ⟨?_, ht.2⟩
  exact .inr ⟨_, session_write _, (hrows _).trans ht.1.view_rows⟩

theorem Proposes.effect {q : Statement} (hq : q.insertsRevision = false) (h : Proposes base v tx) :
    Proposes base v { tx with value := q.effect tx.value, writing := true } := by
  obtain ⟨cfg, kept, hrows, hprefix, hhead, hfollows⟩ := h
  cases q with
  | insertRevision => cases hq
  | pruneRevisions =>
    refine ⟨cfg, kept.take 99, ?_, (List.take_prefix 99 kept).trans hprefix, ?_, hfollows⟩
    · simp [Statement.effect, hrows]
    · rw [List.head?_take, if_neg (by decide), hhead]
  | _ => exact ⟨cfg, kept, hrows, hprefix, hhead, hfollows⟩

theorem planned_after (q : Statement) (hq : q.isWrite = true)
    (hne : q.insertsRevision = false) (h : Inserted base i db) :
    Planned base i (fun _ t => Inserted base i t) (fun _ => True) (query context q) db := by
  refine planned_write q hq h (fun t h hrely => h.rely hrely) fun t ht => ?_
  obtain ⟨_, htx, hproposes⟩ := ht
  refine ⟨_, session_write _, ?_⟩
  rw [view_of_active htx]
  exact hproposes.effect hne

theorem session_commit : (db.commit i).session i = .idle := by
  unfold commit
  split
  · split
    · exact setSession_self _
    · exact setSession_self _
  · exact setSession_self _

theorem planned_commit (h : Inserted base i db) :
    Planned base i (fun _ t => t.session i = .idle) (fun _ => True) (query context .commit) db := by
  refine ask fun t hrely hsound => ⟨fun _ tx htx _ => ?_, fun r u hexec _ => ?_⟩
  · obtain ⟨_, htx', hproposes⟩ := h.rely hrely
    cases htx'.symm.trans htx
    exact hproposes
  refine ofExcept (fun row hr => ?_) fun _ _ => trivial
  cases r with
  | ok =>
    have hu : u = t.commit i := hexec
    exact hu ▸ session_commit
  | error => cases hr

theorem planned_transaction (hidle : db.session i = .idle)
    (hbody : ∀ t, Clean i t → t.readAt i = db.readAt i →
      Planned base i (fun _ u => u.session i = .idle) (fun _ => True) body t) :
    Planned base i (fun _ t => t.session i = .idle) (fun t => t.session i = .idle)
      (transaction context body) db := by
  have hbegin : Planned base i (fun _ t => Clean i t ∧ t.readAt i = db.readAt i)
      (fun t => t.session i = .idle) (query context .begin) db := by
    refine planned_query .begin (by simp) (by simp) (fun t row u hrely _ hexec => ?_) fun t hrely =>
      hrely.1.trans hidle
    have hu : u = t.begin i := hexec
    subst hu
    exact ⟨.inl (setSession_self _), hrely.2⟩
  refine bind hbegin fun _ t ht => ?_
  refine result_bind (hbody t ht.1 ht.2) (fun a t ht => pure ht) ?_
  intro e t _
  have hrollback : Planned base i (fun _ t => t.session i = .idle) (fun t => t.session i = .idle)
      (query id .rollback) t := by
    refine ask fun u _ _ => ⟨(nomatch ·), fun r v hexec _ => ?_⟩
    have hv : v.session i = .idle := by
      cases r <;> exact (show v = u.rollback i from hexec) ▸ setSession_self _
    exact ofExcept (fun _ _ => hv) fun _ _ => hv
  exact result_bind hrollback (fun _ t ht => fail ht)
    fun _ t ht => fail ht

theorem wrappingAdd_of_checkedAdd (h : some r' = Store.checkedAdd r) : r' = wrappingAdd r := by
  unfold Store.checkedAdd at h
  split at h
  · next hlt =>
    cases h
    exact (Nat.mod_eq_of_lt hlt).symm
  · cases h

theorem wrappingAdd_of_checkAdvance (h : checkAdvance current cfg = .ok ()) :
    cfg.revision = wrappingAdd (lastRevision current) := by
  cases current with
  | none =>
    change (if cfg.revision ≠ 1 then _ else _) = _ at h
    split at h
    · cases h
    · next hone => exact not_not.mp hone
  | some current =>
    change (if some cfg.revision = Store.checkedAdd current.revision then _ else _) = _ at h
    split at h
    · next heq => exact wrappingAdd_of_checkedAdd heq
    · cases h

theorem planned_saveConfig (cfg : SystemConfig) (hidle : db.session i = .idle) :
    Planned base i (fun _ t => t.session i = .idle) (fun t => t.session i = .idle)
      (saveConfig rules cfg) db := by
  refine ofExcept_bind hidle fun _ _ => ?_
  have hlatest : Planned base i
      (fun row t => t.session i = .idle ∧ lastRevision row = base + t.readAt i)
      (fun t => t.session i = .idle)
      (query (wrapf "failed to inspect current revision") .latest) db := by
    refine planned_query .latest (by simp) (by simp) (fun t row u hrely hsound hexec => ?_)
      fun t hrely => hrely.1.trans hidle
    obtain ⟨rfl, rfl⟩ := hexec
    have hidle := hrely.1.trans hidle
    refine ⟨(session_read_of_ne_begun (by simp [hidle])).trans hidle, ?_⟩
    exact hsound.read_latest (by rw [view_of_idle hidle])
  refine bind hlatest fun row t ⟨hidle, hrow⟩ => ?_
  refine ofExcept_bind hidle fun _ hadvance => ?_
  refine planned_transaction hidle fun u hclean hread => ?_
  have hfollows : Follows base (u.readAt i) cfg := by
    rw [Follows, hread, ← hrow]
    exact wrappingAdd_of_checkAdvance hadvance
  refine bind (planned_insert ⟨hclean, hfollows⟩) fun _ _ hins => ?_
  refine bind (planned_after .pruneRevisions rfl rfl hins) fun _ _ hins => ?_
  exact planned_commit hins

theorem planned_commitInitialSetup (now : Goish.Reading) (cfg : SystemConfig) (hash : String)
    (hidle : db.session i = .idle) :
    Planned base i (fun _ t => t.session i = .idle) (fun t => t.session i = .idle)
      (commitInitialSetup rules now cfg hash) db := by
  refine ofExcept_bind hidle fun _ _ => ?_
  refine planned_transaction hidle fun t hclean _ => ?_
  have hadmins : Planned base i (fun _ t => Clean i t) (fun _ => True) (query id .admins) t := by
    refine planned_query .admins (by simp) (by simp) (fun t row u hrely _ hexec => ?_)
      fun _ _ => trivial
    obtain ⟨rfl, -⟩ := hexec
    exact (hclean.rely hrely).read
  refine bind hadmins fun _ t hclean => ?_
  refine failIf_bind trivial fun _ => ?_
  refine bind (planned_latest_clean hclean) fun row t hrow => ?_
  obtain ⟨hclean, hrow⟩ := hrow
  cases row with
  | none => exact fail trivial
  | some =>
    refine failIf_bind trivial fun hadvance => ?_
    have hfollows : Follows base (t.readAt i) { cfg with updatedAt := nowUtc now } := by
      rw [Follows, ← hrow]
      exact wrappingAdd_of_checkedAdd (not_not.mp hadvance)
    refine bind (planned_insert ⟨hclean, hfollows⟩) fun _ _ hins => ?_
    refine bind (planned_after (.insertAdministrator hash) rfl rfl hins)
      fun _ _ hins => ?_
    refine bind (planned_after .deleteSessions rfl rfl hins) fun _ _ hins => ?_
    exact planned_commit hins

theorem planned_storeCredentials (hash : Option String) (clear : Bool) (h : Inserted base i db) :
    Planned base i (fun _ t => Inserted base i t) (fun _ => True) (storeCredentials hash clear) db :=
  match hash with
  | some hash => planned_after (.storeRecoveredCredentials hash clear) rfl rfl h
  | none => pure h

theorem planned_recoverySaveConfig (now : Goish.Reading) (current next : SystemConfig)
    (hash : Option String) (clear : Bool) (hidle : db.session i = .idle) :
    Planned base i (fun _ t => t.session i = .idle) (fun t => t.session i = .idle)
      (recoverySaveConfig rules now current next hash clear) db := by
  refine ofExcept_bind hidle fun _ _ => ?_
  refine ofExcept_bind hidle fun _ _ => ?_
  refine failIf_bind hidle fun hnext => ?_
  refine planned_transaction hidle fun t hclean _ => ?_
  refine bind (planned_latest_clean hclean) fun row t hrow => ?_
  obtain ⟨hclean, hrow⟩ := hrow
  cases row with
  | none => exact fail trivial
  | some =>
  refine failIf_bind trivial fun hstored => ?_
  have hfollows : Follows base (t.readAt i) { next with updatedAt := nowUtc now } := by
    have hcurrent : base + t.readAt i = current.revision := hrow.symm.trans (not_not.mp hstored)
    rw [Follows, hcurrent]
    exact not_not.mp hnext
  refine bind (planned_before (.insertSnapshot _) rfl (fun _ => rfl)
    ⟨hclean, hfollows⟩) fun _ _ hprep => ?_
  refine bind (planned_before .pruneSnapshots rfl (fun _ => rfl) hprep)
    fun _ _ hprep => ?_
  refine bind (planned_insert hprep) fun _ _ hins => ?_
  refine bind (planned_after .pruneRevisions rfl rfl hins) fun _ _ hins => ?_
  refine bind (planned_storeCredentials hash clear hins) fun _ _ hins => ?_
  refine bind (planned_after .deleteSessions rfl rfl hins) fun _ _ hins => ?_
  refine bind (planned_commit hins) fun _ _ hdone => ?_
  exact pure hdone

theorem planned_call (c : Call) (hidle : db.session i = .idle) :
    Planned base i (fun _ t => t.session i = .idle) (fun t => t.session i = .idle)
      (c.program rules) db := by
  cases c with
  | saveConfig cfg => exact planned_saveConfig cfg hidle
  | commitInitialSetup now cfg hash => exact planned_commitInitialSetup now cfg hash hidle
  | recoverySaveConfig now current next hash clear =>
    exact bind (planned_recoverySaveConfig now current next hash clear hidle)
      fun _ _ h => pure h

end Outlines

section Runs

abbrev World (ι : Type u) :=
  Parallel ι (Prog Statement Statement.Answer (Except String Unit)) (Database ι Store)

/-- A process that dies leaves its transaction to be rolled back. -/
abbrev Step (rules : Rules) :
    World ι → Parallel.Label ι Statement Call → World ι → Prop :=
  Parallel.Step (Call.program rules) Executes fun i db => db.rollback i

def World.fresh (s : Store) : World ι := ⟨{ value := s }, fun _ => none⟩

def World.rows (w : World ι) : List SystemConfig := w.shared.value.rows

abbrev WriterStep (ι : Type u) := Transition (World ι) (Parallel.Label ι Statement Call)

/-- The revisions go up by one from row to row, none is there twice, and what is stored on top of a
row was made from it. -/
structure Kept (e : WriterStep ι) : Prop where
  chain : RevisionChain e.after.rows
  distinct : (e.after.rows.map (·.revision)).Nodup
  onTop : e.after.rows = e.before.rows ∨ ∃ cfg kept, e.after.rows = cfg :: kept ∧
    kept <+: e.before.rows ∧ kept.head? = e.before.rows.head? ∧
    ∀ last ∈ e.before.rows.head?, cfg.revision = last.revision + 1

/-- A commit is made by a process that no other one has overtaken since it read the latest revision,
and before the revisions are used up. -/
def Timely (e : WriterStep ι) : Prop :=
  e.after.shared.version = e.before.shared.version ∨
    e.before.shared.readAt e.label.place = e.before.shared.version ∧
      lastRevision e.before.shared.value.latest + 1 < 2 ^ 64

instance (e : WriterStep ι) : Decidable (Timely e) := inferInstanceAs (Decidable (_ ∨ _ ∧ _))

variable {l : Parallel.Label ι Statement Call}

structure Running (base : Nat) (w : World ι) : Prop where
  sound : Sound base w.shared
  outlined : (outlines base).Outlined Executes w

theorem commits_cases (db : Database ι Store) (i : ι) :
    (∃ tx, db.session i = .active tx ∧ tx.writing = true ∧
      db.commit i = { db.rollback i with value := tx.value, version := db.version + 1 }) ∨
      db.commit i = db.rollback i := by
  by_cases h : ∀ tx, db.session i = .active tx → tx.writing = false
  · exact .inr (commit_of_not_writing h)
  push Not at h
  obtain ⟨tx, htx, hw⟩ := h
  have hw : tx.writing = true := by simpa using hw
  exact .inl ⟨tx, htx, hw, commit_of_writing htx hw⟩

theorem nodup_revisions (h : RevisionChain cfgs) : (cfgs.map (·.revision)).Nodup :=
  List.nodup_iff_count_le_one.mpr h.count_le_one

theorem step_cases (h : Running base w) (hstep : Step rules w l w') :
    Sound base w'.shared ∧ w'.shared.value = w.shared.value ∧ w'.shared.version = w.shared.version ∨
      ∃ tx, w.shared.session l.place = .active tx ∧ tx.writing = true ∧
        Proposes base (w.shared.readAt l.place) tx ∧ w'.shared =
          { w.shared.rollback l.place with value := tx.value, version := w.shared.version + 1 } := by
  cases hstep with
  | start | finish => exact .inl ⟨h.sound, rfl, rfl⟩
  | stop => exact .inl ⟨h.sound.rollback, rfl, rfl⟩
  | ask i q k r s hrunning hexec =>
    have hmay := h.outlined.may_of_running h.sound hrunning
    by_cases hq : q = .commit
    · subst hq
      cases r with
      | error => exact .inl (by rw [show s = w.shared from hexec]; exact ⟨h.sound, rfl, rfl⟩)
      | ok =>
        have hs : s = w.shared.commit i := hexec
        subst hs
        rcases commits_cases w.shared i with ⟨tx, htx, hw, heq⟩ | heq
        · exact .inr ⟨tx, htx, hw, hmay rfl tx htx hw, heq⟩
        · exact .inl (by rw [heq]; exact ⟨h.sound.rollback, rfl, rfl⟩)
    · exact .inl ⟨h.sound.executes hq hexec, executes_value hq hexec⟩

omit [DecidableEq ι] in
theorem revision_eq_iff (h : Sound base db) (hv : v ≤ db.version) (hfollows : Follows base v cfg) :
    cfg.revision = lastRevision db.value.latest + 1 ↔
      v = db.version ∧ lastRevision db.value.latest + 1 < 2 ^ 64 := by
  rw [hfollows, h.numbered]
  constructor
  · intro heq
    have heq' : (base + v + 1) % 2 ^ 64 = base + db.version + 1 := heq
    have hle := Nat.mod_le (base + v + 1) (2 ^ 64)
    have hlt := Nat.mod_lt (base + v + 1) (y := 2 ^ 64) (by decide)
    exact ⟨by omega, heq' ▸ hlt⟩
  · rintro ⟨rfl, hlt⟩
    exact Nat.mod_eq_of_lt hlt

theorem kept_iff_timely (h : Running base w) (hstep : Step rules w l w') :
    Kept ⟨w, l, w'⟩ ↔ Timely ⟨w, l, w'⟩ := by
  rcases step_cases h hstep with ⟨hsound, hvalue, hversion⟩ | ⟨tx, htx, hw, hproposes, heq⟩
  · have hrows : w'.rows = w.rows := congrArg Store.rows hvalue
    refine iff_of_true ⟨hsound.chain, nodup_revisions hsound.chain, .inl hrows⟩ (.inl hversion)
  have hfits := h.sound.consistent.fits htx
  have hbase : tx.base = w.shared.value := hfits.base_eq (hfits.current hw)
  obtain ⟨cfg, kept, hrows, hprefix, hhead, hfollows⟩ := hproposes
  rw [hbase] at hprefix hhead
  have hrows' : w'.rows = cfg :: kept := by rw [World.rows, heq]; exact hrows
  have hkept : RevisionChain kept := h.sound.chain.prefix hprefix
  have hiff := revision_eq_iff h.sound (h.sound.consistent.readAt_le l.place) hfollows
  have hempty : w.shared.value.rows = [] →
      cfg.revision = lastRevision w.shared.value.latest + 1 := by
    intro hnil
    have hv := h.sound.started hnil
    have hread := h.sound.consistent.readAt_le l.place
    refine hiff.mpr ⟨by omega, ?_⟩
    rw [Store.latest, hnil]
    decide
  have htop : (∀ last ∈ kept.head?, cfg.revision = last.revision + 1) ↔
      cfg.revision = lastRevision w.shared.value.latest + 1 := by
    rw [hhead]
    cases hr : w.shared.value.rows with
    | nil => exact iff_of_true (by simp) (hempty hr)
    | cons => simp [Store.latest, lastRevision, hr]
  have hversion : w'.shared.version ≠ w.shared.version := heq ▸ Nat.succ_ne_self _
  constructor
  · intro hkeeps
    have hchain : RevisionChain (cfg :: kept) := hrows' ▸ hkeeps.chain
    exact .inr (hiff.mp (htop.mp (List.isChain_cons.mp hchain).1))
  intro htimely
  have hnext := hiff.mpr (htimely.resolve_left hversion)
  have hchain : RevisionChain (cfg :: kept) := List.isChain_cons.mpr ⟨htop.mpr hnext, hkept⟩
  exact ⟨hrows' ▸ hchain, hrows' ▸ nodup_revisions hchain,
    .inr ⟨cfg, kept, hrows', hprefix, hhead, hhead ▸ htop.mpr hnext⟩⟩

theorem Sound.of_timely (h : Running base w) (hstep : Step rules w l w')
    (htimely : Timely ⟨w, l, w'⟩) : Sound base w'.shared := by
  have hkept := (kept_iff_timely h hstep).mpr htimely
  rcases step_cases h hstep with ⟨hsound, -⟩ | ⟨tx, htx, hw, hproposes, heq⟩
  · exact hsound
  obtain ⟨_, _, hrows, -, -, hfollows⟩ := hproposes
  have hversion : w'.shared.version ≠ w.shared.version := heq ▸ Nat.succ_ne_self _
  obtain ⟨hread, hlt⟩ := htimely.resolve_left hversion
  have hlast := (revision_eq_iff h.sound (h.sound.consistent.readAt_le l.place) hfollows).mpr
    ⟨hread, hlt⟩
  have hconsistent : w'.shared.Consistent := by
    rw [heq, ← commit_of_writing htx hw]
    exact h.sound.consistent.commit
  refine ⟨hconsistent, hkept.chain, ?_, ?_, ?_⟩
  · rw [heq, Store.latest]
    change lastRevision tx.value.rows.head? = base + (w.shared.version + 1)
    rw [hrows, ← Nat.add_assoc, ← h.sound.numbered]
    exact hlast
  · intro j tx' hj
    rw [heq] at hj
    obtain ⟨hbase, hv⟩ := opens_rollback j tx' hj
    rw [hbase, hv, h.sound.view_numbered]
  intro hnil
  rw [heq] at hnil
  exact nomatch hrows.symm.trans hnil

theorem Running.step (h : Running base w) (hstep : Step rules w l w')
    (htimely : Timely ⟨w, l, w'⟩) : Running base w' := by
  have hsound := Sound.of_timely h hstep htimely
  refine ⟨hsound, h.outlined.step ?_ ?_ ?_ ?_ hstep h.sound hsound⟩
  · exact fun hne _ _ hexec => executes_frame hne hexec
  · exact fun hne => ⟨setSession_of_ne (Ne.symm hne) _, rfl⟩
  · exact fun i db => setSession_self _
  · exact fun i c db _ hidle => (planned_call c hidle).outline

theorem Running.fresh (hs : RevisionChain s.rows) :
    Running (lastRevision s.latest) (World.fresh s : World ι) := by
  refine ⟨⟨.fresh s, hs, rfl, fun i tx h => ?_, fun _ => rfl⟩, fun i => rfl⟩
  cases h

/-- However the statements of the processes interleave, the revisions are kept in order in every
state of a run exactly when every commit of the run is timely. -/
theorem revisions_kept_iff {s : Store} {steps : List (WriterStep ι)} (hs : RevisionChain s.rows)
    (hrun : Path (Step rules) (World.fresh s) steps w) :
    (∀ e ∈ steps, Kept e) ↔ ∀ e ∈ steps, Timely e :=
  hrun.forall_iff (fun _ _ _ h hstep => kept_iff_timely h hstep)
    (fun _ _ _ h hstep htimely => h.step hstep htimely) (Running.fresh hs)

inductive Writer
  | routerd | console
  deriving DecidableEq

def Writer.other : Writer → Writer
  | routerd => console
  | console => routerd

def tryWrite (i : Writer) (db : Database Writer Store) (f : Store → Store) :
    Except String Unit × Database Writer Store :=
  match db.session i, db.session i.other with
  | .idle, _ => (.error "cannot write outside of a transaction", db)
  | _, .active ⟨_, _, _, true⟩ => (.error "database is locked", db)
  | _, _ =>
    if (db.view i).version = db.version then (.ok (), db.write f i)
    else (.error "database is locked", db)

def answer (i : Writer) (db : Database Writer Store) :
    (q : Statement) → q.Answer × Database Writer Store
  | .begin => (.ok (), db.begin i)
  | .latest => (.ok (db.view i).value.latest, db.read i)
  | .admins => (.ok (db.view i).value.adminConfigured.toNat, db.read i)
  | .insertRevision cfg => tryWrite i db (Statement.insertRevision cfg).effect
  | .pruneRevisions => tryWrite i db Statement.pruneRevisions.effect
  | .insertSnapshot s => tryWrite i db (Statement.insertSnapshot s).effect
  | .pruneSnapshots => tryWrite i db Statement.pruneSnapshots.effect
  | .insertAdministrator hash => tryWrite i db (Statement.insertAdministrator hash).effect
  | .storeRecoveredCredentials hash clear =>
    tryWrite i db (Statement.storeRecoveredCredentials hash clear).effect
  | .deleteSessions => tryWrite i db Statement.deleteSessions.effect
  | .commit => (.ok (), db.commit i)
  | .rollback => (.ok (), db.rollback i)

theorem tryWrite_cases (i : Writer) (db : Database Writer Store) (f : Store → Store) :
    db.Writable i ∧ tryWrite i db f = (.ok (), db.write f i) ∨
      ∃ e, tryWrite i db f = (.error e, db) := by
  unfold tryWrite
  split
  next => exact .inr ⟨_, rfl⟩
  next => exact .inr ⟨_, rfl⟩
  next hidle hother =>
  split
  next hversion =>
    refine .inl ⟨⟨hidle, hversion, fun j tx hj hw => ?_⟩, rfl⟩
    by_contra hne
    have hj' : j = i.other := by cases i <;> cases j <;> first | rfl | exact absurd rfl hne
    subst hj'
    exact hother tx.version tx.base tx.value (by rw [hj, ← hw])
  next => exact .inr ⟨_, rfl⟩

theorem executes_answer (i : Writer) (db : Database Writer Store) (q : Statement) :
    Executes i db q (answer i db q).1 (answer i db q).2 := by
  cases q with
  | begin | commit | rollback => rfl
  | latest | admins => exact ⟨rfl, rfl⟩
  | _ =>
    simp only [answer]
    obtain ⟨hw, heq⟩ | ⟨e, heq⟩ := tryWrite_cases i db _
    · rw [heq]
      exact ⟨hw, rfl⟩
    · rw [heq]
      rfl

abbrev runFrom (s : Store) (ts : List (Writer × Option Call)) : List (WriterStep Writer) :=
  (World.fresh s).steps (Call.program (releaseRules samplePlatform)) answer ts

theorem path_runFrom (s : Store) (ts : List (Writer × Option Call)) :
    ∃ w, Path (Step (releaseRules samplePlatform)) (World.fresh s) (runFrom s ts) w :=
  ⟨_, Parallel.path_steps executes_answer ts⟩

def inTurn : List (Writer × Option Call) :=
  let next := { sampleConfig with revision := 2 }
  [(Writer.routerd, some (Call.saveConfig sampleConfig))] ++ List.replicate 6 (Writer.routerd, none) ++
    [(Writer.console, some (Call.recoverySaveConfig ⟨0, 0, 0⟩ sampleConfig next none false))] ++
    List.replicate 9 (Writer.console, none)

theorem revisions_kept_in_turn : RevisionChain [] ∧ ∀ e ∈ runFrom {} inTurn, Kept e := by
  obtain ⟨w, hrun⟩ := path_runFrom {} inTurn
  exact ⟨.nil, (revisions_kept_iff .nil hrun).mpr (by decide +kernel)⟩

/-- Both start from the first revision, and the console is done before the service inserts what it
has checked. -/
def overtaking : List (Writer × Option Call) :=
  let next := { sampleConfig with revision := 2 }
  [(Writer.routerd, some (Call.saveConfig next)), (.routerd, none),
    (.console, some (.recoverySaveConfig ⟨0, 0, 0⟩ sampleConfig next none false))] ++
    List.replicate 9 (Writer.console, none) ++ List.replicate 5 (Writer.routerd, none)

theorem console_overtakes_service : RevisionChain [sampleConfig] ∧
      (∃ w, Path (Step (releaseRules samplePlatform)) (World.fresh { rows := [sampleConfig] })
        (runFrom { rows := [sampleConfig] } overtaking) w) ∧
      ∃ e ∈ runFrom { rows := [sampleConfig] } overtaking,
        e.after.rows.map (·.revision) = [2, 2, 1] ∧ ¬ Kept e := by
  refine ⟨.singleton _, path_runFrom _ _, ?_⟩
  have hany : (runFrom { rows := [sampleConfig] } overtaking).any
      (fun e => e.after.rows.map (·.revision) = [2, 2, 1]) = true := by
    decide +kernel
  obtain ⟨e, he, hrows⟩ := List.any_eq_true.mp hany
  have hrows := of_decide_eq_true hrows
  refine ⟨e, he, hrows, fun hkept => ?_⟩
  have hdistinct := hkept.distinct
  rw [hrows] at hdistinct
  exact absurd hdistinct (by decide)

end Runs

end MinimalRouter.System.Writers
