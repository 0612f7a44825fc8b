import MinimalRouter.Auth.Sessions

namespace MinimalRouter.Auth

open Goish Config Lib Lib.Prog Lib.Result Database

section Copies

variable (b : Basis) (w : World)

def World.generation : Option Nat := w.db.authGeneration

/-- The manager has a copy of the session that was issued under a generation, or a login is about to
put one there. -/
inductive World.InMemory (id : String) (g : Nat) : Prop
  | cached (h : w.manager.sessions id = some s) (hg : s.authGeneration = g)
  | creating (h : s ∈ w.creating) (hid : s.id = id) (hg : s.authGeneration = g)

def World.Stored (id : String) (g : Nat) : Prop :=
  ∃ row, w.db.sessions (b.sessionLookupKey id) = some row ∧ row.authGeneration = g

def World.Holds (id : String) (g : Nat) : Prop := w.InMemory id g ∨ w.Stored b id g

/-- What a step can do to the copies of sessions: a new one is of the current generation, and is of a
session that was just drawn or is stored. -/
structure Evolves (drew : List String) (w' : World) : Prop where
  memory : ∀ id g, w'.InMemory id g →
    w.InMemory id g ∨ w.generation = some g ∧ (id ∈ drew ∨ w.Stored b id g)
  stored : ∀ id g, w'.Stored b id g → w.Stored b id g ∨ w.generation = some g ∧ id ∈ drew
  generation : ∀ g, w.generation = some g → ∃ g', w'.generation = some g' ∧ g ≤ g'

end Copies

section Database

variable {db : Database}

structure Lessens (db db' : Database) : Prop where
  rows : ∀ key row, db'.sessions key = some row → db.sessions key = some row
  generation : ∀ g, db.authGeneration = some g → ∃ g', db'.authGeneration = some g' ∧ g ≤ g'

theorem Lessens.of_admin (hadmin : db'.admin = db.admin)
    (hrows : ∀ key row, db'.sessions key = some row → db.sessions key = some row) : Lessens db db' where
  rows := hrows
  generation g hg := ⟨g, by rw [authGeneration, hadmin]; exact hg, Nat.le_refl g⟩

theorem Lessens.refl (db : Database) : Lessens db db := .of_admin rfl fun _ _ h => h

theorem lessens_deleteSession (id : String) : Lessens db (db.deleteSession b id) := by
  refine .of_admin rfl fun key row hrow => ?_
  simp only [deleteSession, Database.setSession] at hrow
  split at hrow
  · cases hrow
  · exact hrow

theorem rows_setSession (h : (db.setSession key (some row)).sessions key' = some row') :
    key' = key ∧ row' = row ∨ db.sessions key' = some row' := by
  simp only [Database.setSession] at h
  split at h
  · next hkey => exact .inl ⟨hkey, (Option.some.inj h).symm⟩
  · exact .inr h

theorem createSession_eq_ok (h : db.createSession b s = .ok db') :
    db' = db.setSession (b.sessionLookupKey s.id) (some (rowOf s)) := by
  unfold createSession at h
  dsimp only at h
  split at h
  · cases h
  · exact (Except.ok.inj h).symm

theorem createSessionIfGenerationCurrent_eq_ok
    (h : db.createSessionIfGenerationCurrent b s = .ok (some db')) :
    db.authGeneration = some s.authGeneration ∧ db.createSession b s = .ok db' := by
  unfold createSessionIfGenerationCurrent getAuthGeneration at h
  cases hgeneration : db.authGeneration with
  | none =>
    rw [hgeneration] at h
    cases h
  | some =>
    rw [hgeneration] at h
    simp only [bind_eq_ok] at h
    obtain ⟨_, hcurrent, h⟩ := h
    cases hcurrent
    split at h
    · cases h
    · next hsame =>
      simp only [ne_eq, not_not] at hsame
      obtain ⟨_, hcreated, h⟩ := bind_eq_ok.mp h
      cases h
      exact ⟨congrArg some hsame, hcreated⟩

structure Renewed (db db' : Database) : Prop where
  nothing : ∀ key, db'.sessions key = none
  advanced : ∃ g', db'.authGeneration = some g' ∧ ∀ g, db.authGeneration = some g → g < g'

theorem Renewed.lessens (h : Renewed db db') : Lessens db db' where
  rows key row hrow := nomatch (h.nothing key).symm.trans hrow
  generation g hg := by
    obtain ⟨g', hg', hlt⟩ := h.advanced
    exact ⟨g', hg', Nat.le_of_lt (hlt g hg)⟩

theorem lessens_cleanExpiredSessions (now : Time) : Lessens db (db.cleanExpiredSessions b now) :=
  .of_admin rfl fun _ _ hrow => (Option.filter_eq_some_iff.mp hrow).1

theorem renewed_updateAuthentication
    (hupdate : ∀ admin next admin', update admin next = .ok admin' → admin'.authGeneration = next)
    (h : db.updateAuthentication update = .ok db') : Renewed db db' := by
  unfold updateAuthentication at h
  dsimp only at h
  split at h
  · cases h
  obtain ⟨admin, hadmin, h⟩ := bind_eq_ok.mp h
  cases h
  refine ⟨fun _ => rfl, admin.authGeneration, rfl, fun g hg => ?_⟩
  rw [hupdate _ _ _ hadmin, hg]
  exact Nat.lt_succ_self _

theorem renewed_setAdminHash {hash : String} (h : db.setAdminHash hash = .ok db') :
    Renewed db db' := by
  refine renewed_updateAuthentication (fun admin next admin' h => ?_) h
  cases h
  rfl

theorem renewed_updateTotp (h : db.updateTotp secret = .ok db') : Renewed db db' := by
  refine renewed_updateAuthentication (fun admin next admin' h => ?_) h
  cases admin with
  | none => cases h
  | some =>
    cases h
    rfl

theorem advanced_storeRecoveredCredentials (hash : String) (clearTotp : Bool) :
    ∃ g', (db.storeRecoveredCredentials hash clearTotp).authGeneration = some g' ∧
      ∀ g, db.authGeneration = some g → g < g' := by
  cases hadmin : db.admin with
  | none =>
    refine ⟨1, by simp [storeRecoveredCredentials, authGeneration, hadmin], ?_⟩
    simp [authGeneration, hadmin]
  | some admin =>
    refine ⟨admin.authGeneration + 1, ?_, ?_⟩
    · simp [storeRecoveredCredentials, authGeneration, hadmin]
    · simp [authGeneration, hadmin]

theorem renewed_recoveryResetAuthentication (hash : String) (disableTotp : Bool) :
    Renewed db (db.recoveryResetAuthentication hash disableTotp) :=
  ⟨fun _ => rfl, advanced_storeRecoveredCredentials hash disableTotp⟩

theorem renewed_commitInitialSetup {hash : String}
    (h : db.commitInitialSetup b now cfg hash = .ok db') : Renewed db db' := by
  obtain ⟨_, hstore, h⟩ := bind_eq_ok.mp h
  cases h
  refine ⟨fun _ => rfl, 1, rfl, fun g hg => ?_⟩
  have hadmin : db.admin = none := by
    unfold Store.commitInitialSetup at hstore
    obtain ⟨-, -, hstore⟩ := bind_eq_ok.mp hstore
    cases hadmin : db.admin with
    | none => rfl
    | some =>
      rw [hadmin] at hstore
      cases hstore
  simp [authGeneration, hadmin] at hg

/-- The revision of the recovery console: no session stays stored, and a new password is a change of
the credential. -/
theorem recoverySaveConfig_eq_ok {hash : Option String}
    (h : db.recoverySaveConfig b now current next hash clearTotp = .ok db') :
    (∀ key, db'.sessions key = none) ∧
      (hash.isSome = true → Renewed db db') ∧ (hash = none → db'.authGeneration = db.authGeneration) := by
  unfold recoverySaveConfig at h
  simp only [bind_eq_ok] at h
  obtain ⟨-, -, -, -, h⟩ := h
  split at h
  · cases h
  split at h
  · cases h
  split at h
  · cases h
  cases h
  refine ⟨fun _ => rfl, fun hsome => ?_, fun hnone => ?_⟩
  · obtain ⟨hash, rfl⟩ := Option.isSome_iff_exists.mp hsome
    exact ⟨fun _ => rfl, @advanced_storeRecoveredCredentials { db with .. } hash clearTotp⟩
  · subst hnone
    rfl

theorem lessens_recoverySaveConfig {hash : Option String}
    (h : db.recoverySaveConfig b now current next hash clearTotp = .ok db') : Lessens db db' := by
  obtain ⟨hnothing, hrenewed, hsame⟩ := recoverySaveConfig_eq_ok h
  cases hash with
  | some => exact (hrenewed rfl).lessens
  | none =>
    refine ⟨fun key row hrow => ?_, fun g hg => ⟨g, (hsame rfl).trans hg, Nat.le_refl g⟩⟩
    cases (hnothing key).symm.trans hrow

end Database

section Sections

variable {db : Database} {m : Manager}

structure Created (b : Basis) (db : Database) (s : Session) (h : Host) : Prop where
  drawn : s.id ∈ h.drew
  current : db.authGeneration = some s.authGeneration
  row : h.db = db.setSession (b.sessionLookupKey s.id) (some (rowOf s))

theorem created_createSessionWithMode (readOnly : Bool) :
    (m.createSessionWithMode readOnly).wp (host b) (fun c h => c = (none, m) ∧ h.db = db ∨
        ∃ s, Created b db s h ∧ s.lastSeen = s.createdAt ∧ c = (some s, m.cacheSession s)) ⟨db, []⟩ := by
  rintro id _ rfl
  cases id with
  | error => exact .inl ⟨rfl, rfl⟩
  | ok =>
    rintro csrfToken _ rfl
    cases csrfToken with
    | error => exact .inl ⟨rfl, rfl⟩
    | ok =>
      rintro generation _ ⟨rfl, hgeneration⟩
      cases generation with
      | error => exact .inl ⟨rfl, rfl⟩
      | ok g =>
        rintro now _ rfl created h hcreated
        rcases hcreated with ⟨⟨e, rfl⟩, rfl⟩ | ⟨rfl, _, hdb, rfl⟩
        · exact .inl ⟨rfl, rfl⟩
        · refine .inr ⟨_, ⟨?_, hgeneration g rfl, createSession_eq_ok hdb⟩, rfl, rfl⟩
          simp [Except.toOption]

theorem created_insertSession (readOnly : Bool) (expected : Nat) :
    (insertSession readOnly expected).wp (host b) (fun r h => (∃ e, r = .error e) ∧ h.db = db ∨
        ∃ s, Created b db s h ∧ s.lastSeen = s.createdAt ∧ r = .ok s) ⟨db, []⟩ := by
  rintro id _ rfl
  cases id with
  | error e => exact .inl ⟨⟨e, rfl⟩, rfl⟩
  | ok =>
  rintro csrfToken _ rfl
  cases csrfToken with
  | error e => exact .inl ⟨⟨e, rfl⟩, rfl⟩
  | ok =>
    rintro now _ rfl created h hcreated
    rcases hcreated with ⟨hfailed, rfl⟩ | ⟨rfl, _, hdb, rfl⟩
    · cases created with
      | error e => exact .inl ⟨⟨e, rfl⟩, rfl⟩
      | ok current =>
        cases current with
        | false => exact .inl ⟨⟨_, rfl⟩, rfl⟩
        | true => exact absurd rfl hfailed
    obtain ⟨hcurrent, hrow⟩ := createSessionIfGenerationCurrent_eq_ok hdb
    refine .inr ⟨_, ⟨?_, hcurrent, createSession_eq_ok hrow⟩, rfl, rfl⟩
    simp [Except.toOption]

theorem sessions_remove {id : String} (h : (m.remove id).sessions id' = some s) :
    m.sessions id' = some s := by
  simp only [Manager.remove, Manager.setSession, Manager.setPersisted] at h
  split at h
  · cases h
  · exact h

theorem sessions_removeExpired {id : String} (h : (m.removeExpired now).sessions id = some s) :
    m.sessions id = some s := by
  simp only [Manager.removeExpired] at h
  split at h
  · cases h
  · exact h

theorem sessions_setSession {id : String} (h : (m.setSession id (some s)).sessions id' = some s') :
    m.sessions id' = some s' ∨ id' = id ∧ s' = s := by
  simp only [Manager.setSession] at h
  split at h
  · next hid => exact .inr ⟨hid, (Option.some.inj h).symm⟩
  · exact .inl h

@[simp] theorem sessions_reserveLastSeenPersistence (id : String) (now : Time) :
    (m.reserveLastSeenPersistence id now).2.sessions = m.sessions := by
  unfold Manager.reserveLastSeenPersistence
  dsimp only
  split <;> rfl

@[simp] theorem sessions_dropReservation (id : String) (t : Time) :
    (m.dropReservation id t).sessions = m.sessions := by
  unfold Manager.dropReservation
  split <;> rfl

structure Accepted (b : Basis) (m : Manager) (db : Database) (id : String) (s : Session) : Prop where
  current : db.authGeneration = some s.authGeneration
  copy : (∃ c, m.sessions id = some c ∧ c.authGeneration = s.authGeneration ∧
      c.createdAt = s.createdAt ∧ expired c.createdAt c.lastSeen s.lastSeen = false) ∨
    ∃ row, db.sessions (b.sessionLookupKey id) = some row ∧
      row.authGeneration = s.authGeneration ∧ row.createdAt = s.createdAt ∧
      expired row.createdAt row.lastSeen s.lastSeen = false

inductive Validated (b : Basis) (m : Manager) (db : Database) (id : String) :
    Except String (Session × Bool) → Manager → Database → Prop
  | rejected (hcache : ∀ id' s, m'.sessions id' = some s → m.sessions id' = some s)
      (hdb : Lessens db db') : Validated b m db id (.error e) m' db'
  | accepted (h : Accepted b m db id s)
      (hcache : ∀ id' s', m'.sessions id' = some s' → m.sessions id' = some s' ∨ id' = id ∧ s' = s) :
      Validated b m db id (.ok (s, due)) m' db

theorem wp_deleteSession {α : Type} {id : String} {a : α} {post : α → Host → Prop}
    (hpost : ∀ db', Lessens h.db db' → post a { h with db := db' }) :
    (Prog.ask (StoreQuery.deleteSession id) fun _ => .ret a).wp (host b) post h := by
  intro r h' hr
  rcases hr with ⟨-, rfl⟩ | ⟨-, rfl⟩
  · exact hpost _ (.refl _)
  · exact hpost _ (lessens_deleteSession id)

theorem sessions_of_getSession {id : String} (h : db.getSession b id = .ok row) :
    db.sessions (b.sessionLookupKey id) = some row := by
  unfold getSession at h
  split at h
  · cases h
  · next hsome => exact hsome.trans (congrArg some (Except.ok.inj h))

theorem validated_validateLocked (id : String) :
    (m.validateLocked id).wp (host b) (fun c h => Validated b m db id c.1 c.2 h.db) ⟨db, []⟩ := by
  rintro now _ rfl
  dsimp only
  split
  · next cached hcached =>
    rintro current _ ⟨rfl, hcurrent⟩
    cases current with
    | error => exact .rejected (fun _ _ hs => hs) (.refl _)
    | ok g =>
      dsimp only
      split
      · exact wp_deleteSession fun db' hdb => .rejected (fun _ _ => sessions_remove) hdb
      · next hvalid =>
        simp only [not_or, ne_eq, not_not, Bool.not_eq_true] at hvalid
        refine .accepted ⟨?_, .inl ⟨cached, hcached, rfl, rfl, hvalid.2⟩⟩ fun id' s' hs => ?_
        · exact hvalid.1 ▸ hcurrent g rfl
        · rw [sessions_reserveLastSeenPersistence] at hs
          exact sessions_setSession hs
  rintro row _ ⟨rfl, hrow⟩
  cases row with
  | error => exact .rejected (fun _ _ hs => hs) (.refl _)
  | ok row =>
    rintro current _ ⟨rfl, hcurrent⟩
    dsimp only
    split
    · exact wp_deleteSession fun db' hdb => .rejected (fun _ _ hs => hs) hdb
    · next hvalid =>
      simp only [not_or, ne_eq, not_not, Bool.not_eq_true] at hvalid
      have hstored := sessions_of_getSession (hrow row rfl)
      refine .accepted ⟨?_, .inr ⟨row, hstored, rfl, rfl, hvalid.2⟩⟩ fun id' s' hs => ?_
      · cases current with
        | error => cases hvalid.1
        | ok g => exact (hcurrent g rfl).trans hvalid.1
      · rw [sessions_reserveLastSeenPersistence] at hs
        exact sessions_setSession hs

theorem validated_validateSession (id : String) :
    (m.validateSession id).wp (host b) (fun c h => Validated b m db id c.1 c.2 h.db) ⟨db, []⟩ := by
  unfold Manager.validateSession
  split
  · exact .rejected (fun _ _ hs => hs) (.refl _)
  · exact validated_validateLocked id

theorem destroyed_destroySession (id : String) : (m.destroySession id).wp (host b) (fun c h =>
      c.2 = m ∧ h.db = db ∧ (c.1 = .ok () → id = "") ∨
        c = (.ok (), m.remove id) ∧ h.db = db.deleteSession b id) ⟨db, []⟩ := by
  unfold Manager.destroySession
  split
  · next hempty => exact .inl ⟨rfl, rfl, fun _ => String.isEmpty_iff.mp hempty⟩
  intro r h hr
  rcases hr with ⟨⟨e, rfl⟩, rfl⟩ | ⟨rfl, rfl⟩
  · exact .inl ⟨rfl, rfl, nofun⟩
  · exact .inr ⟨rfl, rfl⟩

theorem destroyed_destroyAllSessions : m.destroyAllSessions.wp (host b) (fun c h =>
      c.2 = m ∧ h.db = db ∧ c.1 ≠ .ok () ∨
        c = (.ok (), {}) ∧ h.db = db.deleteAllSessions) ⟨db, []⟩ := by
  intro r h hr
  rcases hr with ⟨⟨e, rfl⟩, rfl⟩ | ⟨rfl, rfl⟩
  · exact .inl ⟨rfl, rfl, nofun⟩
  · exact .inr ⟨rfl, rfl⟩

end Sections

section Step

def Event.creates (e : Event) : Option Session :=
  match e.op, e.outcome with
  | .createSessionWithMode _, .created s => s
  | .insertSession _ _, .inserted r => r.toOption
  | _, _ => none

def Event.accepts (e : Event) : Option (String × Session) :=
  match e.op, e.outcome with
  | .validateSession id, .validated r => r.toOption.map fun s => (id, s)
  | _, _ => none

variable {w w' : World}

structure Fewer (w w' : World) : Prop where
  cache : ∀ id s, w'.manager.sessions id = some s →
    w.manager.sessions id = some s ∨ s ∈ w.creating ∧ s.id = id
  creating : ∀ s ∈ w'.creating, s ∈ w.creating
  db : Lessens w.db w'.db
  refreshing : ∀ r ∈ w'.refreshing, r ∈ w.refreshing

inductive Changes (b : Basis) (w : World) (e : Event) (w' : World) : Prop
  | fewer (h : Fewer w w') (haccepts : e.accepts = none) (hcreates : e.creates = none)
  | created (h : Created b w.db s ⟨w'.db, e.drew⟩) (hnew : s.lastSeen = s.createdAt)
      (haccepts : e.accepts = none) (hcreates : e.creates = some s)
      (hcache : ∀ id s', w'.manager.sessions id = some s' →
        w.manager.sessions id = some s' ∨ id = s.id ∧ s' = s)
      (hcreating : ∀ s' ∈ w'.creating, s' ∈ w.creating ∨ s' = s)
      (hrefreshing : w'.refreshing = w.refreshing)
  | accepted {id : String} (h : Accepted b w.manager w.db id s)
      (haccepts : e.accepts = some (id, s)) (hcreates : e.creates = none) (hdb : w'.db = w.db)
      (hcache : ∀ id' s', w'.manager.sessions id' = some s' →
        w.manager.sessions id' = some s' ∨ id' = id ∧ s' = s) (hcreating : w'.creating = w.creating)
      (hrefreshing : ∀ r ∈ w'.refreshing, r ∈ w.refreshing ∨ r = (id, s.lastSeen))
  | refreshed {id : String} (ht : (id, t) ∈ w.refreshing) (haccepts : e.accepts = none)
      (hcreates : e.creates = none) (hdb : w'.db = w.db.updateSessionLastSeen b id t)
      (hcache : w'.manager = w.manager) (hcreating : w'.creating = w.creating)
      (hrefreshing : ∀ r ∈ w'.refreshing, r ∈ w.refreshing)

theorem Fewer.of_db {db : Database} (h : Lessens w.db db) : Fewer w { w with db } :=
  ⟨fun _ _ => .inl, fun _ hs => hs, h, fun _ hr => hr⟩

theorem Changes.of_db (h : Lessens w.db db) (haccepts : e.accepts = none)
    (hcreates : e.creates = none) : Changes b w e { w with db } :=
  .fewer (.of_db h) haccepts hcreates

theorem Changes.of_stores (h : Stores change w.db r db)
    (hdone : ∀ {db'}, change = .ok db' → Lessens w.db db') (haccepts : e.accepts = none)
    (hcreates : e.creates = none) : Changes b w e { w with db } := by
  cases h with
  | done h => exact .of_db (hdone h) haccepts hcreates
  | failed => exact .of_db (.refl _) haccepts hcreates

theorem mem_of_mem_removed {α : Type} {a r : α} {before after all : List α}
    (h : all = before ++ a :: after) (hr : r ∈ before ++ after) : r ∈ all := by
  rw [h]
  simp only [List.mem_append, List.mem_cons] at hr ⊢
  tauto

theorem changes_createSessionWithMode (h : Runs (host b)
      (w.manager.createSessionWithMode readOnly) ⟨w.db, []⟩ (result, manager) ⟨db, drew⟩) :
    Changes b w ⟨.createSessionWithMode readOnly, drew, .created result⟩
      { w with db, manager } := by
  rcases wp_sound (created_createSessionWithMode _) h with ⟨hm, hdb⟩ | ⟨s, hcreated, hnew, hm⟩
  · cases hm
    cases hdb
    exact .of_db (.refl _) rfl rfl
  · cases hm
    exact .created hcreated hnew rfl rfl (fun _ _ => sessions_setSession) (fun _ => .inl) rfl

theorem changes_insertSession
    (h : Runs (host b) (insertSession readOnly expected) ⟨w.db, []⟩ result ⟨db, drew⟩) :
    Changes b w ⟨.insertSession readOnly expected, drew, .inserted result⟩
      { w with db, creating := w.creating ++ result.toOption.toList } := by
  rcases wp_sound (created_insertSession _ _) h with ⟨⟨e, rfl⟩, hdb⟩ | ⟨s, hcreated, hnew, rfl⟩
  · cases hdb
    refine .fewer ⟨fun _ _ => .inl, ?_, .refl _, fun _ hr => hr⟩ rfl rfl
    simp [Except.toOption]
  · refine .created hcreated hnew rfl rfl (fun _ _ => .inl) (fun s' hs => ?_) rfl
    simpa [Except.toOption] using hs

theorem changes_cacheSession {s : Session} (h : w.creating = before ++ s :: after) :
    Changes b w ⟨.cacheSession s, [], .created (some s)⟩
      { w with manager := w.manager.cacheSession s, creating := before ++ after } := by
  refine .fewer ⟨fun id s' hs => ?_, fun _ => mem_of_mem_removed h, .refl _, fun _ hr => hr⟩ rfl rfl
  rcases sessions_setSession hs with hs | ⟨rfl, rfl⟩
  · exact .inl hs
  · exact .inr ⟨by simp [h], rfl⟩

theorem changes_validateSession {id : String} {result : Except String (Session × Bool)}
    (h : Runs (host b) (w.manager.validateSession id) ⟨w.db, []⟩ (result, manager) ⟨db, drew⟩) :
    Changes b w ⟨.validateSession id, [], .validated (result.map (·.1))⟩ { w with
      db, manager
      refreshing := w.refreshing ++
        (result.toOption.filter (·.2)).toList.map fun s => (id, s.1.lastSeen) } := by
  cases wp_sound (validated_validateSession _) h with
  | rejected hcache hdb =>
    refine .fewer ⟨fun id s hs => .inl (hcache id s hs), fun _ hs => hs, hdb, ?_⟩ rfl rfl
    simp [Except.toOption]
  | @accepted s due _ haccepted hcache =>
    refine .accepted haccepted rfl rfl rfl hcache rfl fun r hr => ?_
    cases due with
    | false => exact .inl (by simpa [Except.toOption] using hr)
    | true =>
      have hr : r ∈ w.refreshing ∨ (id, s.lastSeen) = r := by simpa [Except.toOption] using hr
      exact hr.imp_right Eq.symm

theorem changes_updateSessionLastSeen {id : String} {unrefreshed : List (String × Time)}
    (h : w.refreshing = before ++ (id, t) :: after)
    (hstore : Stores (.ok (w.db.updateSessionLastSeen b id t)) w.db result db) :
    Changes b w ⟨.updateSessionLastSeen id t, [], .done result⟩
      { w with db, refreshing := before ++ after, unrefreshed } := by
  cases hstore with
  | done hdb =>
    cases hdb
    exact .refreshed (by simp [h]) rfl rfl rfl rfl rfl fun _ => mem_of_mem_removed h
  | failed =>
    exact .fewer ⟨fun _ _ => .inl, fun _ hs => hs, .refl _, fun _ => mem_of_mem_removed h⟩ rfl rfl

theorem changes_destroySession {id : String}
    (h : Runs (host b) (w.manager.destroySession id) ⟨w.db, []⟩ (result, manager) ⟨db, drew⟩) :
    Changes b w ⟨.destroySession id, [], .done result⟩ { w with db, manager } := by
  rcases wp_sound (destroyed_destroySession _) h with ⟨hm, hdb, -⟩ | ⟨hc, hdb⟩
  · cases hm
    cases hdb
    exact .of_db (.refl _) rfl rfl
  cases hc
  cases hdb
  exact .fewer ⟨fun _ _ hs => .inl (sessions_remove hs), fun _ hs => hs, lessens_deleteSession _,
    fun _ hr => hr⟩ rfl rfl

theorem changes_destroyAllSessions
    (h : Runs (host b) w.manager.destroyAllSessions ⟨w.db, []⟩ (result, manager) ⟨db, drew⟩) :
    Changes b w ⟨.destroyAllSessions, [], .done result⟩ { w with db, manager } := by
  rcases wp_sound destroyed_destroyAllSessions h with ⟨hm, hdb, -⟩ | ⟨hc, hdb⟩
  · cases hm
    cases hdb
    exact .of_db (.refl _) rfl rfl
  cases hc
  cases hdb
  exact .fewer ⟨nofun, fun _ hs => hs, .of_admin rfl nofun, fun _ hr => hr⟩ rfl rfl

theorem changes_of_steps (h : Steps b w e w') : Changes b w e w' := by
  cases h with
  | createSessionWithMode h => exact changes_createSessionWithMode h
  | insertSession h => exact changes_insertSession h
  | cacheSession h => exact changes_cacheSession h
  | validateSession h => exact changes_validateSession h
  | updateSessionLastSeen h hstore => exact changes_updateSessionLastSeen h hstore
  | dropReservation =>
    refine .fewer ⟨fun id s hs => .inl ?_, fun _ hs => hs, .refl _, fun _ hr => hr⟩ rfl rfl
    simpa using hs
  | destroySession h => exact changes_destroySession h
  | destroyAllSessions h => exact changes_destroyAllSessions h
  | removeExpired =>
    exact .fewer ⟨fun _ _ hs => .inl (sessions_removeExpired hs), fun _ hs => hs, .refl _,
      fun _ hr => hr⟩ rfl rfl
  | cleanExpiredSessions h =>
    exact .of_stores h (fun hdb => Except.ok.inj hdb ▸ lessens_cleanExpiredSessions _) rfl rfl
  | setAdminHash h => exact .of_stores h (fun hdb => (renewed_setAdminHash hdb).lessens) rfl rfl
  | setAdminTotpSecret h => exact .of_stores h (fun hdb => (renewed_updateTotp hdb).lessens) rfl rfl
  | clearAdminTotpSecret h =>
    exact .of_stores h (fun hdb => (renewed_updateTotp hdb).lessens) rfl rfl
  | commitInitialSetup h =>
    exact .of_stores h (fun hdb => (renewed_commitInitialSetup hdb).lessens) rfl rfl
  | recoveryResetAuthentication h =>
    exact .of_stores h (fun hdb => Except.ok.inj hdb ▸
      (renewed_recoveryResetAuthentication _ _).lessens) rfl rfl
  | recoverySaveConfig h => exact .of_stores h lessens_recoverySaveConfig rfl rfl
  | restart => exact .fewer ⟨nofun, nofun, .refl _, nofun⟩ rfl rfl

theorem Created.rows {id : String} {row : SessionRow} (hkey : b.sessionLookupKey.Injective)
    (h : Created b w.db s ⟨db, drew⟩) (hrow : db.sessions (b.sessionLookupKey id) = some row) :
    id = s.id ∧ row = rowOf s ∨ w.db.sessions (b.sessionLookupKey id) = some row := by
  have hdb : db = w.db.setSession (b.sessionLookupKey s.id) (some (rowOf s)) := h.row
  rw [hdb] at hrow
  exact (rows_setSession hrow).imp_left fun h => ⟨hkey h.1, h.2⟩

theorem Created.admin (h : Created b w.db s ⟨db, drew⟩) : db.admin = w.db.admin := by
  have hdb : db = w.db.setSession (b.sessionLookupKey s.id) (some (rowOf s)) := h.row
  rw [hdb]
  rfl

theorem rows_updateSessionLastSeen {db : Database} {id : String}
    (h : (db.updateSessionLastSeen b id t).sessions key = some row) :
    db.sessions key = some row ∨ key = b.sessionLookupKey id ∧
      ∃ row', db.sessions key = some row' ∧ row = { row' with lastSeen := t.seconds } := by
  simp only [updateSessionLastSeen, Database.setSession] at h
  split at h
  · next hkey =>
    obtain ⟨row', hrow', rfl⟩ := Option.map_eq_some_iff.mp h
    exact .inr ⟨hkey, row', hkey ▸ hrow', rfl⟩
  · exact .inl h

theorem generation_of_admin (h : w'.db.admin = w.db.admin) (g : Nat)
    (hg : w.generation = some g) : ∃ g', w'.generation = some g' ∧ g ≤ g' := by
  refine ⟨g, ?_, Nat.le_refl g⟩
  rw [World.generation, authGeneration, h]
  exact hg

theorem evolves_of_steps (hkey : b.sessionLookupKey.Injective) (h : Steps b w e w') :
    Evolves b w e.drew w' := by
  cases changes_of_steps h with
  | fewer h =>
    refine ⟨fun id g hmem => .inl ?_, ?_, h.db.generation⟩
    · cases hmem with
      | creating hs hid hg => exact .creating (h.creating _ hs) hid hg
      | cached hs hg =>
        rcases h.cache _ _ hs with hs | ⟨hs, hid⟩
        · exact .cached hs hg
        · exact .creating hs hid hg
    · rintro id g ⟨row, hrow, hg⟩
      exact .inl ⟨row, h.db.rows _ _ hrow, hg⟩
  | @created s h _ _ _ hcache hcreating _ =>
    refine ⟨fun id g hmem => ?_, ?_, generation_of_admin h.admin⟩
    · cases hmem with
      | cached hs hg =>
        rcases hcache _ _ hs with hs | ⟨rfl, rfl⟩
        · exact .inl (.cached hs hg)
        · exact .inr ⟨hg ▸ h.current, .inl h.drawn⟩
      | creating hs hid hg =>
        rcases hcreating _ hs with hs | rfl
        · exact .inl (.creating hs hid hg)
        · exact .inr ⟨hg ▸ h.current, .inl (hid ▸ h.drawn)⟩
    rintro id g ⟨row, hrow, hg⟩
    rcases h.rows hkey hrow with ⟨rfl, rfl⟩ | hrow
    · exact .inr ⟨hg ▸ h.current, h.drawn⟩
    · exact .inl ⟨row, hrow, hg⟩
  | accepted h _ _ hdb hcache hcreating _ =>
    refine ⟨fun id g hmem => ?_, ?_, generation_of_admin (congrArg admin hdb)⟩
    · cases hmem with
      | creating hs hid hg => exact .inl (.creating (hcreating ▸ hs) hid hg)
      | cached hs hg =>
        rcases hcache _ _ hs with hs | ⟨rfl, rfl⟩
        · exact .inl (.cached hs hg)
        rcases h.copy with ⟨c, hc, hsame, -⟩ | ⟨row, hrow, hsame, -⟩
        · exact .inl (.cached hc (hsame.trans hg))
        · exact .inr ⟨hg ▸ h.current, .inr ⟨row, hrow, hsame.trans hg⟩⟩
    · rintro id g ⟨row, hrow, hg⟩
      exact .inl ⟨row, hdb ▸ hrow, hg⟩
  | refreshed _ _ _ hdb hcache hcreating _ =>
    refine ⟨fun id g hmem => .inl ?_, ?_, generation_of_admin (by rw [hdb]; rfl)⟩
    · cases hmem with
      | creating hs hid hg => exact .creating (hcreating ▸ hs) hid hg
      | cached hs hg => exact .cached (hcache ▸ hs) hg
    rintro id g ⟨row, hrow, hg⟩
    rw [hdb] at hrow
    rcases rows_updateSessionLastSeen hrow with hrow | ⟨-, row', hrow', rfl⟩
    · exact .inl ⟨row, hrow, hg⟩
    · exact .inl ⟨row', hrow', hg⟩

end Step

section Run

abbrev History := List (Transition World Event)

variable {w : World} {steps rest : History} {id : String}

def Event.names (e : Event) : List String :=
  match e.op with
  | .destroySession id => id :: e.drew
  | _ => e.drew

/-- The random generator gives no identifier that was drawn, revoked or held before. -/
def Fresh (b : Basis) (steps : History) : Prop :=
  ∀ past e rest, steps = past ++ e :: rest → ∀ id ∈ e.label.drew,
    (∀ m ∈ past, id ∉ m.label.names) ∧ ∀ m ∈ past ++ [e], ∀ g, ¬ m.before.Holds b id g

/-- The identifier that a call gets from its caller. -/
def Operation.given : Operation → Option String
  | .validateSession id => some id
  | .destroySession id => some id
  | _ => none

/-- No call is given an identifier before the login that drew it has returned: a login reveals the
identifier by its answer, and `creating` are the logins that have drawn one and not answered. -/
def Unrevealed (steps : History) : Prop :=
  ∀ e ∈ steps, ∀ s ∈ e.before.creating, e.label.op.given ≠ some s.id

/-- No copy of the session is left that could be accepted, now or later. -/
structure Stale (b : Basis) (id : String) (w : World) : Prop where
  unstored : ∀ g, ¬ w.Stored b id g
  outdated : ∀ g, w.InMemory id g → ∃ g', w.generation = some g' ∧ g < g'

theorem Stale.step (h : Stale b id w) (hstep : Evolves b w drew w') (hdrew : id ∉ drew) :
    Stale b id w' where
  unstored g hstored := by
    rcases hstep.stored id g hstored with hstored | ⟨-, hdrawn⟩
    · exact h.unstored g hstored
    · exact hdrew hdrawn
  outdated g hmem := by
    rcases hstep.memory id g hmem with hmem | ⟨-, hdrawn | hstored⟩
    · obtain ⟨g', hg', hlt⟩ := h.outdated g hmem
      obtain ⟨g'', hg'', hle⟩ := hstep.generation g' hg'
      exact ⟨g'', hg'', Nat.lt_of_lt_of_le hlt hle⟩
    · exact absurd hdrawn hdrew
    · exact absurd hstored (h.unstored g)

theorem accepts_of_validated {e : Event} (hop : e.op = .validateSession id)
    (haccepts : e.outcome = .validated (.ok s)) : e.accepts = some (id, s) := by
  simp [Event.accepts, hop, haccepts, Except.toOption]

theorem held_of_accepted (h : Steps b w e w') (hop : e.op = .validateSession id)
    (haccepts : e.outcome = .validated (.ok s)) : ∃ g, w.generation = some g ∧ w.Holds b id g := by
  have hs := accepts_of_validated hop haccepts
  cases changes_of_steps h with
  | accepted h hs' =>
    obtain ⟨rfl, rfl⟩ := Prod.mk.inj (Option.some.inj (hs.symm.trans hs'))
    refine ⟨_, h.current, ?_⟩
    rcases h.copy with ⟨c, hc, hsame, -⟩ | ⟨row, hrow, hsame, -⟩
    · exact .inl (.cached hc hsame)
    · exact .inr ⟨row, hrow, hsame⟩
  | fewer _ hnone | created _ _ hnone | refreshed _ hnone => cases hnone.symm.trans hs

theorem rejects_empty (h : Steps b w e w') (hop : e.op = .validateSession "") :
    e.outcome ≠ .validated (.ok s) := by
  cases h with
  | validateSession h =>
    cases hop
    cases h
    nofun
  | _ => cases hop

theorem Stale.rejects (h : Stale b id w) (hstep : Steps b w e w') (hop : e.op = .validateSession id) :
    e.outcome ≠ .validated (.ok s) := by
  intro haccepts
  obtain ⟨g, hg, hheld⟩ := held_of_accepted hstep hop haccepts
  rcases hheld with hmem | hstored
  · obtain ⟨_, hg', hlt⟩ := h.outdated g hmem
    rw [hg] at hg'
    cases hg'
    exact Nat.lt_irrefl g hlt
  · exact h.unstored g hstored

theorem Evolves.holds (h : Evolves b w drew w') (hheld : w'.Holds b id g) :
    w.Holds b id g ∨ w.generation = some g ∧ id ∈ drew := by
  rcases hheld with hmem | hstored
  · rcases h.memory id g hmem with hmem | ⟨hcurrent, hdrawn | hstored⟩
    · exact .inl (.inl hmem)
    · exact .inr ⟨hcurrent, hdrawn⟩
    · exact .inl (.inr hstored)
  rcases h.stored id g hstored with hstored | hdrawn
  · exact .inl (.inr hstored)
  · exact .inr hdrawn

theorem Fresh.of_append (h : Fresh b (past ++ rest)) : Fresh b past :=
  fun before e after hsplit => h before e (after ++ rest) (by simp [hsplit])

def Event.changesCredentials (e : Event) : Bool :=
  match e.op, e.outcome with
  | .setAdminHash _, .done (.ok _) => true
  | .setAdminTotpSecret _, .done (.ok _) => true
  | .clearAdminTotpSecret, .done (.ok _) => true
  | .recoveryResetAuthentication _ _, .done (.ok _) => true
  | _, _ => false

theorem renewed_of_stores (h : Stores change db r db') (hr : r = .ok ())
    (hchange : ∀ db', change = .ok db' → Renewed db db') : Renewed db db' := by
  cases h with
  | done h => exact hchange _ h
  | failed => cases hr

theorem renewed_of_steps (h : Steps b w e w') (he : e.changesCredentials = true) :
    Renewed w.db w'.db := by
  have hok : ∀ {op : Operation} {r : Except String Unit},
      Event.changesCredentials ⟨op, [], .done r⟩ = true → r = .ok () := by
    intro op r hr
    cases r with
    | ok => rfl
    | error => cases op <;> cases hr
  cases h with
  | setAdminHash h => exact renewed_of_stores h (hok he) fun db' => renewed_setAdminHash
  | setAdminTotpSecret h
  | clearAdminTotpSecret h => exact renewed_of_stores h (hok he) fun db' => renewed_updateTotp
  | recoveryResetAuthentication h =>
    refine renewed_of_stores h (hok he) fun db' hdb => ?_
    cases hdb
    exact renewed_recoveryResetAuthentication _ _
  | _ => cases he

section

variable {b : Basis} (hkey : b.sessionLookupKey.Injective)

include hkey

theorem Stale.path (h : Stale b id w)
    (hpath : Path (Steps b) w steps w') (hdrew : ∀ m ∈ steps, id ∉ m.label.drew) : Stale b id w' :=
  Path.invariant (I := fun _ w => Stale b id w) (K := fun _ e => id ∉ e.label.drew)
    (fun past t l u hI hK hstep => hI.step (evolves_of_steps hkey hstep) hK) h hpath
    fun past e rest hsplit => hdrew e (by simp [hsplit])

theorem dated_of_path (hpath : Path (Steps b) { db } steps w)
    (h : w.InMemory id g) : ∃ g', w.generation = some g' ∧ g ≤ g' := by
  refine Path.invariant (I := fun _ w => ∀ id g, w.InMemory id g →
      ∃ g', w.generation = some g' ∧ g ≤ g') (K := fun _ _ => True)
    (fun past t l u hI _ hstep id g hmem => ?_) ?_ hpath (fun _ _ _ _ => trivial) id g h
  · have hevolves := evolves_of_steps hkey hstep
    rcases hevolves.memory id g hmem with hmem | ⟨hcurrent, -⟩
    · obtain ⟨g', hg', hle⟩ := hI id g hmem
      obtain ⟨g'', hg'', hle'⟩ := hevolves.generation g' hg'
      exact ⟨g'', hg'', Nat.le_trans hle hle'⟩
    · exact hevolves.generation g hcurrent
  intro id g hmem
  cases hmem with
  | cached h | creating h => cases h

theorem generation_path (hpath : Path (Steps b) w steps w')
    (hg : w.generation = some g) : ∃ g', w'.generation = some g' ∧ g ≤ g' := by
  refine Path.invariant (I := fun _ w => ∃ g', w.generation = some g' ∧ g ≤ g')
    (K := fun _ _ => True) (fun past t l u hI _ hstep => ?_) ⟨g, hg, Nat.le_refl g⟩ hpath
    fun _ _ _ _ => trivial
  obtain ⟨g', hg', hle⟩ := hI
  obtain ⟨g'', hg'', hle'⟩ := (evolves_of_steps hkey hstep).generation g' hg'
  exact ⟨g'', hg'', Nat.le_trans hle hle'⟩

theorem held_unique (hpath : Path (Steps b) { db } steps w)
    (hfresh : Fresh b steps) (h : w.Holds b id g) (h' : w.Holds b id g') : g = g' := by
  refine Path.invariant (I := fun _ w => ∀ id g g', w.Holds b id g → w.Holds b id g' → g = g')
    (K := fun _ e => ∀ id ∈ e.label.drew, ∀ g, ¬ e.before.Holds b id g)
    (fun past t l u hI hK hstep id g g' h h' => ?_) ?_ hpath
    (fun past e rest hsplit id hid => (hfresh past e rest hsplit id hid).2 e (by simp))
    id g g' h h'
  · have hevolves := evolves_of_steps hkey hstep
    rcases hevolves.holds h with h | ⟨hcurrent, hdrawn⟩ <;>
      rcases hevolves.holds h' with h' | ⟨hcurrent', hdrawn'⟩
    · exact hI id g g' h h'
    · exact absurd h (hK id hdrawn' g)
    · exact absurd h' (hK id hdrawn g')
    · exact Option.some.inj (hcurrent.symm.trans hcurrent')
  intro id g g' h h'
  have hstored : ∀ g, World.Holds b { db } id g → World.Stored b { db } id g := by
    rintro g (hmem | hstored)
    · cases hmem with
      | cached h | creating h => cases h
    · exact hstored
  obtain ⟨_, hrow, rfl⟩ := hstored g h
  obtain ⟨_, hrow', rfl⟩ := hstored g' h'
  cases hrow.symm.trans hrow'
  rfl

theorem held_once (hpath : Path (Steps b) { db } steps w)
    (hfresh : Fresh b steps) (hsteps : steps = past ++ m :: rest)
    (hm : m.before.Holds b id g ∨ m.after.Holds b id g) (h : w.Holds b id g') : g' = g := by
  obtain ⟨hpast, hstep⟩ := hpath.split hsteps
  have hevolves := evolves_of_steps hkey hstep
  have hpath' : Path (Steps b) { db } (past ++ [m]) m.after := .snoc hpast hstep
  have hwhole : Fresh b ((past ++ [m]) ++ rest) := by simpa [hsteps] using hfresh
  have hfresh' := hwhole.of_append
  -- the identifier was held or drawn by then, so that it is not drawn again
  have hdrew : ∀ l ∈ rest, id ∉ l.label.drew := by
    intro l hl hdrawn
    obtain ⟨before, after, rfl⟩ := List.append_of_mem hl
    obtain ⟨hnames, hheld⟩ := hfresh (past ++ m :: before) l after (by simp [hsteps]) id hdrawn
    have hbefore : ∀ g, ¬ m.before.Holds b id g := hheld m (by simp)
    rcases hm with hm | hm
    · exact hbefore g hm
    rcases hevolves.holds hm with hm | ⟨-, hmdrew⟩
    · exact hbefore g hm
    refine hnames m (by simp) ?_
    unfold Event.names
    split
    · exact List.mem_cons_of_mem _ hmdrew
    · exact hmdrew
  have hafter : ∀ g', m.after.Holds b id g' → g' = g := by
    intro g' hg'
    rcases hm with hm | hm
    · rcases hevolves.holds hg' with hg' | ⟨-, hdrawn⟩
      · exact held_unique hkey hpast hfresh'.of_append hg' hm
      · exact absurd hm ((hfresh' past m [] rfl id hdrawn).2 m (by simp) g)
    · exact held_unique hkey hpath' hfresh' hg' hm
  refine Path.invariant (I := fun _ w => ∀ g', w.Holds b id g' → g' = g)
    (K := fun _ e => id ∉ e.label.drew) (fun _ t l u hI hK hstep g' hg' => ?_) hafter
    (hpath.rest_of_split hsteps) (fun _ e _ hsplit => hdrew e (by simp [hsplit])) g' h
  rcases (evolves_of_steps hkey hstep).holds hg' with hg' | ⟨-, hdrawn⟩
  · exact hI g' hg'
  · exact absurd hdrawn hK

theorem Stale.of_less (hpath : Path (Steps b) { db } steps w)
    (hunstored : ∀ g, ¬ w'.Stored b id g)
    (hless : ∀ g, w'.InMemory id g → w.InMemory id g ∧ w.generation ≠ some g)
    (hsame : w'.generation = w.generation) : Stale b id w' where
  unstored := hunstored
  outdated g hmem := by
    obtain ⟨hbefore, hne⟩ := hless g hmem
    obtain ⟨g', hg', hle⟩ := dated_of_path hkey hpath hbefore
    refine ⟨g', hsame.trans hg', Nat.lt_of_le_of_ne hle ?_⟩
    rintro rfl
    exact hne hg'

theorem stale_of_destroyed (hpath : Path (Steps b) { db } steps w) (h : Steps b w e w')
    (hop : e.op = .destroySession id) (hdone : e.outcome = .done (.ok ())) (hid : id ≠ "")
    (hunrevealed : ∀ s ∈ w.creating, e.op.given ≠ some s.id) : Stale b id w' := by
  cases h with
  | @destroySession _ result manager db h =>
    cases hop
    rcases wp_sound (destroyed_destroySession _) h with ⟨-, -, hempty⟩ | ⟨hc, hdb⟩
    · exact absurd (hempty (Outcome.done.inj hdone)) hid
    cases hc
    cases hdb
    refine .of_less hkey hpath ?_ (fun g hmem => ?_) rfl
    · rintro g ⟨_, hrow, -⟩
      simp at hrow
    cases hmem with
    | cached hs => simp [Manager.remove, Manager.setSession, Manager.setPersisted] at hs
    | creating hs hsid => exact absurd (congrArg some hsid.symm) (hunrevealed _ hs)
  | _ => cases hop

end

theorem not_drawn_of_named (hfresh : Fresh b steps) (hsteps : steps = past ++ e :: rest)
    (hnames : id ∈ e.label.names) : ∀ m ∈ rest, id ∉ m.label.drew := by
  intro m hm hdrawn
  obtain ⟨before, after, rfl⟩ := List.append_of_mem hm
  exact (hfresh (past ++ e :: before) m after (by simp [hsteps]) id hdrawn).1 e (by simp) hnames

/-- In every run of a manager: a session issued under an earlier generation is not accepted after the
credential changed, and a destroyed session is not accepted any more. -/
theorem revoked_sessions_rejected (hkey : b.sessionLookupKey.Injective) {db : Database}
    (hpath : Path (Steps b) { db } steps w') (hfresh : Fresh b steps)
    (hunrevealed : Unrevealed steps) :
    (∀ (past : History) e (between : History) v (late : History),
      steps = past ++ e :: (between ++ v :: late) →
      e.label.changesCredentials = true → ∃ changed, e.after.generation = some changed ∧
        (∀ g, e.before.generation = some g → g < changed) ∧
        ∀ id g s, (∃ m ∈ past ++ e :: between, m.before.Holds b id g ∨ m.after.Holds b id g) →
          g < changed → v.label.op = .validateSession id → v.label.outcome ≠ .validated (.ok s)) ∧
    (∀ (past : History) e (between : History) v (late : History) id s,
      steps = past ++ e :: (between ++ v :: late) →
      e.label.op = .destroySession id → e.label.outcome = .done (.ok ()) →
      v.label.op = .validateSession id → v.label.outcome ≠ .validated (.ok s)) := by
  refine ⟨fun past e between v late hsteps hchanges => ?_,
    fun past e between v late id s hsteps hop hdone hvalidate => ?_⟩
  · obtain ⟨-, hstep⟩ := hpath.split hsteps
    obtain ⟨changed, hchanged, hlt⟩ := (renewed_of_steps hstep hchanges).advanced
    refine ⟨changed, hchanged, hlt, ?_⟩
    rintro id g s ⟨m, hm, hheld⟩ hearlier hvalidate haccepts
    have hsteps' : steps = (past ++ e :: between) ++ v :: late := by simp [hsteps]
    obtain ⟨hbefore, hv⟩ := hpath.split hsteps'
    obtain ⟨_, hcurrent, hvheld⟩ := held_of_accepted hv hvalidate haccepts
    obtain ⟨_, _, hsplit⟩ := List.append_of_mem hm
    have hsame := held_once hkey hbefore (hsteps' ▸ hfresh).of_append hsplit hheld hvheld
    obtain ⟨_, hcurrent', _⟩ := generation_path hkey
      ((hpath.rest_of_split hsteps).split rfl).1 hchanged
    cases hcurrent.symm.trans hcurrent'
    omega
  obtain ⟨hbefore, hstep⟩ := hpath.split hsteps
  obtain ⟨hbetween, hv⟩ := (hpath.rest_of_split hsteps).split rfl
  by_cases hid : id = ""
  · subst hid
    exact rejects_empty hv hvalidate
  have hstale := stale_of_destroyed hkey hbefore hstep hop hdone hid
    (hunrevealed e (by simp [hsteps]))
  have hnames : id ∈ e.label.names := by simp [Event.names, hop]
  have hdrew := not_drawn_of_named hfresh hsteps hnames
  exact (hstale.path hkey hbetween fun m hm => hdrew m (by simp [hm])).rejects hv hvalidate

def Event.revokesAll (e : Event) : Bool :=
  match e.op, e.outcome with
  | .destroyAllSessions, .done (.ok _) => true
  | .recoverySaveConfig _ _ _ _, .done (.ok _) => true
  | _, _ => false

/-- Nothing is left that the operation would miss: what the manager keeps of a session issued under
the current generation. -/
def Covers (w : World) : Operation → Prop
  | .destroyAllSessions => ∀ s ∈ w.creating, w.generation ≠ some s.authGeneration
  | .recoverySaveConfig _ _ hash _ => hash = none → ∀ id g, w.InMemory id g → w.generation ≠ some g
  | _ => True

theorem World.InMemory.of_db {db : Database} (h : World.InMemory { w with db } id g) :
    w.InMemory id g := by
  cases h with
  | cached hs hg => exact .cached hs hg
  | creating hs hid hg => exact .creating hs hid hg

theorem stale_of_revokesAll (hkey : b.sessionLookupKey.Injective)
    (hpath : Path (Steps b) { db } steps w) (h : Steps b w e w')
    (hall : e.revokesAll = true) (hcovers : Covers w e.op) (id : String) : Stale b id w' := by
  cases h with
  | @destroyAllSessions result manager db h =>
    rcases wp_sound destroyed_destroyAllSessions h with ⟨-, -, hfailed⟩ | ⟨hc, hdb⟩
    · cases result with
      | error => cases hall
      | ok => exact absurd rfl hfailed
    cases hc
    cases hdb
    refine .of_less hkey hpath (by rintro g ⟨row, hrow, -⟩; cases hrow) (fun g hmem => ?_) rfl
    cases hmem with
    | cached hs => cases hs
    | creating hs hid hg => exact ⟨.creating hs hid hg, hg ▸ hcovers _ hs⟩
  | @recoverySaveConfig now current next hash clearTotp result db h =>
    cases h with
    | failed => cases hall
    | done h =>
    obtain ⟨hnothing, hrenewed, hsame⟩ := recoverySaveConfig_eq_ok h
    have hunstored : ∀ g, ¬ World.Stored b { w with db } id g := by
      rintro g ⟨row, hrow, -⟩
      rw [hnothing] at hrow
      cases hrow
    cases hash with
    | none =>
      exact .of_less hkey hpath hunstored
        (fun g hmem => ⟨hmem.of_db, hcovers rfl id g hmem.of_db⟩) (hsame rfl)
    | some =>
      refine ⟨hunstored, fun g hmem => ?_⟩
      obtain ⟨g', hg', hle⟩ := dated_of_path hkey hpath hmem.of_db
      obtain ⟨g'', hg'', hlt⟩ := (hrenewed rfl).advanced
      exact ⟨g'', hg'', Nat.lt_of_le_of_lt hle (hlt g' hg')⟩
  | _ => cases hall

/-- In every run of a manager in which the operations that revoke all sessions miss no copy in
memory: after such an operation no session is accepted whose row was stored before it. -/
theorem all_sessions_rejected (hkey : b.sessionLookupKey.Injective) {db : Database}
    (hpath : Path (Steps b) { db } steps w') (hfresh : Fresh b steps)
    (hcovers : ∀ e ∈ steps, Covers e.before e.label.op) :
    ∀ past e between v late id g s, steps = past ++ e :: (between ++ v :: late) →
      e.label.revokesAll = true → (∃ m ∈ past ++ [e], m.before.Stored b id g) →
      v.label.op = .validateSession id → v.label.outcome ≠ .validated (.ok s) := by
  rintro past e between v late id g s hsteps hall ⟨m, hm, hstored⟩ hvalidate
  obtain ⟨hbefore, hstep⟩ := hpath.split hsteps
  obtain ⟨hbetween, hv⟩ := (hpath.rest_of_split hsteps).split rfl
  have hstale := stale_of_revokesAll hkey hbefore hstep hall (hcovers e (by simp [hsteps])) id
  refine (hstale.path hkey hbetween fun l hl hdrawn => ?_).rejects hv hvalidate
  obtain ⟨before, after, rfl⟩ := List.append_of_mem hl
  have hheld := (hfresh (past ++ e :: before) l (after ++ v :: late) (by simp [hsteps]) id hdrawn).2
  refine hheld m ?_ g (.inr hstored)
  simp only [List.mem_append, List.mem_cons, List.not_mem_nil, or_false] at hm ⊢
  tauto

end Run

def Basis.plain : Basis where
  rules := { validate := fun _ => .ok (), validateScenarioSafety := fun _ => .ok ()
             migrateLegacyFields := fun cfg => cfg }
  sessionLookupKey id := id
  textBefore _ _ := false

def steady (h : Host) : (q : StoreQuery) → q.Answer × Host
  | .now => (⟨1000000000, 0, 0⟩, h)
  | .randomHex _ =>
    let value := if h.drew.isEmpty then "login" else "token"
    (.ok value, { h with drew := h.drew ++ [value] })
  | .getAuthGeneration => (h.db.getAuthGeneration, h)
  | .createSession s =>
    match h.db.createSession .plain s with
    | .ok db => (.ok (), { h with db })
    | .error e => (.error e, h)
  | .createSessionIfGenerationCurrent s =>
    match h.db.createSessionIfGenerationCurrent .plain s with
    | .ok (some db) => (.ok true, { h with db })
    | .ok none => (.ok false, h)
    | .error e => (.error e, h)
  | .getSession id => (h.db.getSession .plain id, h)
  | .deleteSession id => (.ok (), { h with db := h.db.deleteSession .plain id })
  | .deleteAllSessions => (.ok (), { h with db := h.db.deleteAllSessions })

theorem host_steady (h : Host) (q : StoreQuery) :
    host .plain h q (steady h q).1 (steady h q).2 := by
  cases q with
  | now | randomHex => rfl
  | getAuthGeneration =>
    refine ⟨rfl, fun g hg => ?_⟩
    simp only [steady, getAuthGeneration] at hg
    split at hg
    · cases hg
    · next hsome => exact hsome.trans (congrArg some (Except.ok.inj hg))
  | createSession =>
    simp only [steady]
    split
    · next db hdb => exact .inr ⟨rfl, db, hdb, rfl⟩
    · next e he => exact .inl ⟨⟨e, rfl⟩, rfl⟩
  | createSessionIfGenerationCurrent =>
    simp only [steady]
    split
    · next db hdb => exact .inr ⟨rfl, db, hdb, rfl⟩
    · exact .inl ⟨nofun, rfl⟩
    · exact .inl ⟨nofun, rfl⟩
  | getSession => exact ⟨rfl, fun row hrow => hrow⟩
  | deleteSession | deleteAllSessions => exact .inr ⟨rfl, rfl⟩

theorem runs_steady {α : Type} {p : Section α} (h : (p.exec steady ⟨db, []⟩).2.drew = []) :
    Runs (host .plain) p ⟨db, []⟩ (p.exec steady ⟨db, []⟩).1 ⟨(p.exec steady ⟨db, []⟩).2.db, []⟩ := by
  have hruns := runs_exec host_steady p ⟨db, []⟩
  generalize p.exec steady ⟨db, []⟩ = run at *
  obtain ⟨a, _, drew⟩ := run
  cases h
  exact hruns

theorem fresh_of_first {rest : History} (hrest : rest.all (·.label.drew.isEmpty) = true)
    (hnone : ∀ id g, ¬ e.before.Holds b id g) : Fresh b (e :: rest) := by
  intro past m later hsplit id hid
  cases past with
  | nil =>
    cases hsplit
    refine ⟨fun m hm => absurd hm List.not_mem_nil, fun m hm g => ?_⟩
    cases List.mem_singleton.mp hm
    exact hnone id g
  | cons =>
    obtain ⟨-, hmem⟩ := List.cons.inj hsplit
    have hempty := List.all_eq_true.mp hrest m (by simp [hmem])
    rw [List.isEmpty_iff.mp hempty] at hid
    cases hid

def configured : World where
  db := { configRevisions := [{ revision := 1 }], admin := some { passwordHash := "hash" } }

theorem configured_holds (id : String) (g : Nat) : ¬ configured.Holds .plain id g := by
  rintro (hmem | ⟨_, hrow, -⟩)
  · cases hmem with
    | cached h | creating h => cases h
  · cases hrow

def loginStored : Transition World Event :=
  let run := (insertSession false 1).exec steady ⟨configured.db, []⟩
  ⟨configured, ⟨.insertSession false 1, run.2.drew, .inserted run.1⟩,
    { configured with db := run.2.db, creating := run.1.toOption.toList }⟩

theorem steps_loginStored : Steps .plain configured loginStored.label loginStored.after :=
  .insertSession (runs_exec host_steady _ _)

def loginSession : Session :=
  { id := "login", csrfToken := "token", readOnly := false, authGeneration := 1
    createdAt := ⟨1000000000, 0, some 0⟩, lastSeen := ⟨1000000000, 0, some 0⟩ }

theorem creating_loginStored : loginStored.after.creating = [] ++ loginSession :: [] := by
  decide +kernel

def loginCached (w : World) : Transition World Event :=
  ⟨w, ⟨.cacheSession loginSession, [], .created (some loginSession)⟩,
    { w with manager := w.manager.cacheSession loginSession, creating := [] }⟩

def loginValidated (w : World) : Transition World Event :=
  let run := (w.manager.validateSession "login").exec steady ⟨w.db, []⟩
  ⟨w, ⟨.validateSession "login", [], .validated (run.1.1.map (·.1))⟩,
    { w with
      db := run.2.db, manager := run.1.2
      refreshing := w.refreshing ++
        (run.1.1.toOption.filter (·.2)).toList.map fun s => ("login", s.1.lastSeen) }⟩

def loginDestroyed (w : World) : Transition World Event :=
  let run := (w.manager.destroySession "login").exec steady ⟨w.db, []⟩
  ⟨w, ⟨.destroySession "login", [], .done run.1.1⟩, { w with db := run.2.db, manager := run.1.2 }⟩

theorem steps_loginValidated
    (h : ((w.manager.validateSession "login").exec steady ⟨w.db, []⟩).2.drew = []) :
    Steps .plain w (loginValidated w).label (loginValidated w).after :=
  .validateSession (runs_steady h)

theorem steps_loginDestroyed
    (h : ((w.manager.destroySession "login").exec steady ⟨w.db, []⟩).2.drew = []) :
    Steps .plain w (loginDestroyed w).label (loginDestroyed w).after :=
  .destroySession (runs_steady h)

theorem steps_loginCached (h : w.creating = [] ++ loginSession :: []) :
    Steps .plain w (loginCached w).label (loginCached w).after :=
  .cacheSession h

def loggedIn : Transition World Event := loginCached loginStored.after

def loggedOut : Transition World Event := loginDestroyed loggedIn.after

def rehashed : Transition World Event :=
  let change := loggedIn.after.db.setAdminHash "new"
  ⟨loggedIn.after, ⟨.setAdminHash "new", [], .done (change.map fun _ => ())⟩,
    { loggedIn.after with db := change.toOption.getD {} }⟩

def loginThen (t : Transition World Event) : History :=
  [loginStored, loggedIn, t, loginValidated t.after]

theorem unrevealed_loginThen (h : t.before.creating = []) (h' : t.after.creating = []) :
    Unrevealed (loginThen t) := by
  intro e he s hs
  simp only [loginThen, List.mem_cons, List.not_mem_nil, or_false] at he
  rcases he with rfl | rfl | rfl | rfl
  · cases hs
  · nofun
  · cases h ▸ hs
  · cases h' ▸ hs

theorem revoked_sessions_rejected_at_loggedOut :
    loggedOut.label.outcome = .done (.ok ()) ∧ rehashed.label.outcome = .done (.ok ()) ∧
      ∀ t ∈ [loggedOut, rehashed],
        (loginValidated t.after).label.outcome ≠ .validated (.ok loginSession) := by
  refine ⟨rfl, rfl, List.forall_mem_cons.mpr ⟨?_, List.forall_mem_singleton.mpr ?_⟩⟩
  · have hpath : Path (Steps .plain) configured (loginThen loggedOut) _ :=
      .cons steps_loginStored (.cons (steps_loginCached creating_loginStored)
        (.cons (steps_loginDestroyed (by decide +kernel))
          (.single (steps_loginValidated (by decide +kernel)))))
    exact (revoked_sessions_rejected (fun _ _ h => h) hpath (fresh_of_first rfl configured_holds)
      (unrevealed_loginThen rfl rfl)).2 [loginStored, loggedIn] loggedOut [] _ [] "login" _
      rfl rfl rfl rfl
  · have hpath : Path (Steps .plain) configured (loginThen rehashed) _ :=
      .cons steps_loginStored (.cons (steps_loginCached creating_loginStored)
        (.cons (.setAdminHash (.done rfl)) (.single (steps_loginValidated (by decide +kernel)))))
    obtain ⟨_, hchanged, -, hrejected⟩ := (revoked_sessions_rejected (fun _ _ h => h) hpath
      (fresh_of_first rfl configured_holds) (unrevealed_loginThen rfl rfl)).1
      [loginStored, loggedIn] rehashed [] _ [] rfl rfl
    cases hchanged
    exact hrejected "login" 1 _ ⟨loggedIn, by simp, .inr (.inl (.cached rfl rfl))⟩ (by decide) rfl

def recovered (w : World) (hash : Option String) : Transition World Event :=
  let change := w.db.recoverySaveConfig .plain ⟨0, 0, 0⟩ { revision := 1 } { revision := 2 } hash true
  ⟨w, ⟨.recoverySaveConfig { revision := 1 } { revision := 2 } hash true, [],
    .done (change.map fun _ => ())⟩, { w with db := change.toOption.getD {} }⟩

theorem steps_recovered (hash : Option String) :
    Steps .plain loggedIn.after (recovered loggedIn.after hash).label
      (recovered loggedIn.after hash).after := by
  refine @Steps.recoverySaveConfig _ _ ⟨0, 0, 0⟩ _ _ _ _ _ _ (.done ?_)
  cases hash <;> rfl

def recoveredLogin (hash : Option String) : History :=
  [loginStored, loggedIn, recovered loggedIn.after hash,
    loginValidated (recovered loggedIn.after hash).after]

theorem recovered_session_accepted : ∃ w', Path (Steps .plain) configured (recoveredLogin none) w' ∧
      Fresh .plain (recoveredLogin none) ∧
      ∃ past e between v late s, recoveredLogin none = past ++ e :: (between ++ v :: late) ∧
        e.label.revokesAll = true ∧ (∃ m ∈ past ++ [e], m.before.Stored .plain "login" 1) ∧
        v.label.op = .validateSession "login" ∧ v.label.outcome = .validated (.ok s) := by
  refine ⟨_, .cons steps_loginStored (.cons (steps_loginCached creating_loginStored)
    (.cons (steps_recovered none) (.single (steps_loginValidated (by decide +kernel))))), ?_, ?_⟩
  · exact fresh_of_first rfl configured_holds
  · refine ⟨[loginStored, loggedIn], _, [], _, [], loginSession, rfl, rfl, ?_, rfl, rfl⟩
    exact ⟨loggedIn, by simp, _, rfl, rfl⟩

theorem all_sessions_rejected_at_newPassword :
    (recovered loggedIn.after (some "new")).label.outcome = .done (.ok ()) ∧
      (loginValidated (recovered loggedIn.after (some "new")).after).label.outcome ≠
        .validated (.ok loginSession) := by
  have hpath : Path (Steps .plain) configured (recoveredLogin (some "new")) _ :=
    .cons steps_loginStored (.cons (steps_loginCached creating_loginStored)
      (.cons (steps_recovered (some "new"))
        (.single (steps_loginValidated (by decide +kernel)))))
  have hfresh : Fresh .plain (recoveredLogin (some "new")) :=
    fresh_of_first rfl configured_holds
  refine ⟨rfl, all_sessions_rejected (fun _ _ h => h) hpath hfresh (fun e he => ?_)
    [loginStored, loggedIn] _ [] _ [] "login" 1 loginSession rfl rfl
    ⟨loggedIn, by simp, _, rfl, rfl⟩ rfl⟩
  simp only [recoveredLogin, List.mem_cons, List.not_mem_nil, or_false] at he
  rcases he with rfl | rfl | rfl | rfl
  · trivial
  · trivial
  · exact nofun
  · trivial

end MinimalRouter.Auth
