import MinimalRouter.Config.Store
import MinimalRouter.Lib.Interaction
import MinimalRouter.Lib.Path

namespace MinimalRouter.Auth

open Goish Config Lib

structure Session where
  (id csrfToken : String)
  readOnly : Bool
  authGeneration : Nat
  (createdAt lastSeen : Time)
  deriving DecidableEq

structure SessionRow where
  csrfToken : String
  readOnly : Bool
  authGeneration : Nat
  (createdAt lastSeen : Time)

structure AdminCredentials where
  passwordHash : String
  totpSecret : Option String := none
  authGeneration : Nat := 1

/-- The tables that sessions depend on.  Sessions are stored under a digest of their identifier. -/
structure Database where
  configRevisions : List SystemConfig := []
  admin : Option AdminCredentials := none
  sessions : String → Option SessionRow := fun _ => none

def idleTimeout : Int := 30 * 60 * 1000000000

def absoluteTimeout : Int := 8 * 60 * 60 * 1000000000

def sessionLastSeenPersistInterval : Int := 60 * 1000000000

def errNoRows : String := "sql: no rows in result set"

def errUnauthorized : String := "unauthorized or expired session"

def errGenerationChanged : String := "authentication credentials changed; please log in again"

/-- The code that the sessions rest on: the digest of identifiers, and the order of times as text. -/
structure Basis where
  rules : Rules
  sessionLookupKey : String → String
  textBefore : Time → Time → Bool

namespace Database

variable (b : Basis) (db : Database)

def authGeneration : Option Nat := db.admin.map (·.authGeneration)

def getAuthGeneration : Except String Nat :=
  match db.authGeneration with
  | none => .error errNoRows
  | some generation => .ok generation

def deleteAllSessions : Database := { db with sessions := fun _ => none }

def setSession (key : String) (row : Option SessionRow) : Database :=
  { db with sessions := fun k => if k = key then row else db.sessions k }

def rowOf (s : Session) : SessionRow :=
  { csrfToken := s.csrfToken, readOnly := s.readOnly, authGeneration := s.authGeneration
    createdAt := s.createdAt.seconds, lastSeen := s.lastSeen.seconds }

def createSession (s : Session) : Except String Database :=
  let key := b.sessionLookupKey s.id
  match db.sessions key with
  | some _ => .error "UNIQUE constraint failed: sessions.id"
  | none => .ok (db.setSession key (some (rowOf s)))

def createSessionIfGenerationCurrent (s : Session) : Except String (Option Database) := do
  let current ← db.getAuthGeneration
  if current ≠ s.authGeneration then return none
  return some (← db.createSession b s)

def getSession (id : String) : Except String SessionRow :=
  match db.sessions (b.sessionLookupKey id) with
  | none => .error errNoRows
  | some row => .ok row

def updateSessionLastSeen (id : String) (lastSeen : Time) : Database :=
  let key := b.sessionLookupKey id
  db.setSession key ((db.sessions key).map ({ · with lastSeen := lastSeen.seconds }))

def deleteSession (id : String) : Database := db.setSession (b.sessionLookupKey id) none

def cleanExpiredSessions (now : Time) : Database :=
  let stale := fun (row : SessionRow) =>
    b.textBefore row.lastSeen (now.add (-idleTimeout)).seconds ||
      b.textBefore row.createdAt (now.add (-absoluteTimeout)).seconds
  { db with sessions := fun key => (db.sessions key).filter (!stale ·) }

def updateAuthentication (update : Option AdminCredentials → Nat → Except String AdminCredentials) :
    Except String Database := do
  let generation := db.authGeneration.getD 0
  if generation = 2 ^ 64 - 1 then throw "authentication generation exhausted"
  let admin ← update db.admin (generation + 1)
  return { db with admin := some admin }.deleteAllSessions

def setAdminHash (hash : String) : Except String Database :=
  db.updateAuthentication fun admin next =>
    .ok ⟨hash, admin.bind (·.totpSecret), next⟩

def updateTotp (secret : Option String) : Except String Database :=
  db.updateAuthentication fun
    | none, _ => .error errNoRows
    | some admin, next => .ok { admin with totpSecret := secret, authGeneration := next }

def setAdminTotpSecret (secret : String) : Except String Database := db.updateTotp (some secret)

def clearAdminTotpSecret : Except String Database := db.updateTotp none

def commitInitialSetup (now : Reading) (cfg : SystemConfig) (passwordHash : String) :
    Except String Database := do
  let store ← Store.commitInitialSetup b.rules (.ok ()) now ⟨db.configRevisions, db.admin.isSome⟩ cfg
  return { db with
    configRevisions := store.rows
    admin := some { passwordHash } }.deleteAllSessions

def storeRecoveredCredentials (hash : String) (clearTotp : Bool) : Database :=
  { db with admin := match db.admin with
    | none => some { passwordHash := hash }
    | some admin => some {
        passwordHash := hash
        totpSecret := if clearTotp then none else admin.totpSecret
        authGeneration := admin.authGeneration + 1 } }

def recoveryResetAuthentication (passwordHash : String) (disableTotp : Bool) : Database :=
  (db.storeRecoveredCredentials passwordHash disableTotp).deleteAllSessions

def recoverySaveConfig (now : Reading) (current next : SystemConfig) (passwordHash : Option String)
    (clearTotp : Bool) : Except String Database := do
  (b.rules.validate current).mapError ("current recovery configuration is invalid: " ++ ·)
  (b.rules.validate next).mapError ("recovery configuration is invalid: " ++ ·)
  if next.revision ≠ (current.revision + 1) % 2 ^ 64 then
    throw "recovery configuration revision must advance exactly once"
  match db.configRevisions.head? with
  | none => throw ("inspect current recovery revision: " ++ errNoRows)
  | some stored =>
    if stored.revision ≠ current.revision then
      throw "canonical configuration changed during recovery"
    let next := { next with updatedAt := ⟨now.wall, 0, none⟩ }
    let saved := { db with configRevisions := (next :: db.configRevisions).take 100 }
    let credited := match passwordHash with
      | none => saved
      | some hash => saved.storeRecoveredCredentials hash clearTotp
    return credited.deleteAllSessions

end Database

inductive StoreQuery
  | now
  | randomHex : Nat → StoreQuery
  | getAuthGeneration
  | createSession : Session → StoreQuery
  | createSessionIfGenerationCurrent : Session → StoreQuery
  | getSession : String → StoreQuery
  | deleteSession : String → StoreQuery
  | deleteAllSessions

abbrev StoreQuery.Answer : StoreQuery → Type
  | now => Reading
  | randomHex _ => Except String String
  | getAuthGeneration => Except String Nat
  | createSessionIfGenerationCurrent _ => Except String Bool
  | getSession _ => Except String SessionRow
  | _ => Except String Unit

abbrev Section := Prog StoreQuery StoreQuery.Answer

structure Manager where
  sessions : String → Option Session := fun _ => none
  lastPersisted : String → Option Time := fun _ => none

def expired (createdAt lastSeen now : Time) : Bool :=
  decide (now.sub createdAt > absoluteTimeout) || decide (now.sub lastSeen > idleTimeout)

namespace Manager

variable (m : Manager)

def setSession (id : String) (s : Option Session) : Manager :=
  { m with sessions := fun k => if k = id then s else m.sessions k }

def setPersisted (id : String) (t : Option Time) : Manager :=
  { m with lastPersisted := fun k => if k = id then t else m.lastPersisted k }

def remove (id : String) : Manager := (m.setSession id none).setPersisted id none

def removeExpired (now : Time) : Manager :=
  let stale := fun id => (m.sessions id).any fun s => expired s.createdAt s.lastSeen now
  { sessions := fun id => if stale id then none else m.sessions id
    lastPersisted := fun id => if stale id then none else m.lastPersisted id }

def reserveLastSeenPersistence (id : String) (now : Time) : Bool × Manager :=
  let recent := (m.lastPersisted id).any fun last =>
    !now.before last && decide (now.sub last < sessionLastSeenPersistInterval)
  if recent then (false, m) else (true, m.setPersisted id (some now))

def dropReservation (id : String) (lastSeen : Time) : Manager :=
  if (m.lastPersisted id).map (·.wall) = some lastSeen.wall then m.setPersisted id none else m

def cacheSession (s : Session) : Manager :=
  (m.setSession s.id (some s)).setPersisted s.id (some s.createdAt)

def createSessionWithMode (readOnly : Bool) : Section (Option Session × Manager) :=
  .ask (.randomHex 32) fun
    | .error _ => .ret (none, m)
    | .ok id => .ask (.randomHex 32) fun
      | .error _ => .ret (none, m)
      | .ok csrfToken => .ask .getAuthGeneration fun
        | .error _ => .ret (none, m)
        | .ok authGeneration => .ask .now fun now =>
          let session : Session :=
            { id, csrfToken, readOnly, authGeneration, createdAt := now.now, lastSeen := now.now }
          .ask (.createSession session) fun
            | .error _ => .ret (none, m)
            | .ok _ => .ret (some session, m.cacheSession session)

def dropSession (id : String) : Section Manager :=
  .ask (.deleteSession id) fun _ => .ret (m.remove id)

def validateLocked (id : String) : Section (Except String (Session × Bool) × Manager) :=
  .ask .now fun now =>
    match m.sessions id with
    | some cached => .ask .getAuthGeneration fun
      | .error _ => .ret (.error errUnauthorized, m)
      | .ok current =>
        if cached.authGeneration ≠ current ∨ expired cached.createdAt cached.lastSeen now.now then
          (m.dropSession id).bind fun m => .ret (.error errUnauthorized, m)
        else
          let session := { cached with lastSeen := now.now }
          let (due, m) := (m.setSession id (some session)).reserveLastSeenPersistence id now.now
          .ret (.ok (session, due), m)
    | none => .ask (.getSession id) fun
      | .error _ => .ret (.error errUnauthorized, m)
      | .ok row => .ask .getAuthGeneration fun current =>
        if current.toOption ≠ some row.authGeneration ∨
            expired row.createdAt row.lastSeen now.now then
          .ask (.deleteSession id) fun _ => .ret (.error errUnauthorized, m)
        else
          let session : Session := {
            id, csrfToken := row.csrfToken, readOnly := row.readOnly
            authGeneration := row.authGeneration, createdAt := row.createdAt, lastSeen := now.now }
          let cached := (m.setSession id (some session)).setPersisted id (some row.lastSeen)
          let (due, m) := cached.reserveLastSeenPersistence id now.now
          .ret (.ok (session, due), m)

def validateSession (id : String) : Section (Except String (Session × Bool) × Manager) :=
  if id.isEmpty then .ret (.error errUnauthorized, m) else m.validateLocked id

def destroySession (id : String) : Section (Except String Unit × Manager) :=
  if id.isEmpty then .ret (.ok (), m)
  else .ask (.deleteSession id) fun
    | .error e => .ret (.error e, m)
    | .ok _ => .ret (.ok (), m.remove id)

def destroyAllSessions : Section (Except String Unit × Manager) :=
  .ask .deleteAllSessions fun
    | .error e => .ret (.error e, m)
    | .ok _ => .ret (.ok (), {})

end Manager

/-- The part of a login before the manager is locked: the row of the new session, if the generation
that the password was verified under is still current. -/
def insertSession (readOnly : Bool) (expectedGeneration : Nat) : Section (Except String Session) :=
  .ask (.randomHex 32) fun
    | .error e => .ret (.error e)
    | .ok id => .ask (.randomHex 32) fun
      | .error e => .ret (.error e)
      | .ok csrfToken => .ask .now fun now =>
        let session : Session := {
          id, csrfToken, readOnly, authGeneration := expectedGeneration
          createdAt := now.now, lastSeen := now.now }
        .ask (.createSessionIfGenerationCurrent session) fun
          | .error e => .ret (.error e)
          | .ok false => .ret (.error errGenerationChanged)
          | .ok true => .ret (.ok session)

/-- The database in the course of a critical section, with the random values drawn so far. -/
structure Host where
  db : Database
  drew : List String := []

def host (b : Basis) : Prog.Handler StoreQuery StoreQuery.Answer Host
  | h, .now, _, h' => h' = h
  | h, .randomHex _, r, h' => h' = { h with drew := h.drew ++ r.toOption.toList }
  | h, .getAuthGeneration, r, h' => h' = h ∧ ∀ g, r = .ok g → h.db.authGeneration = some g
  | h, .createSession s, r, h' =>
    (∃ e, r = .error e) ∧ h' = h ∨
      r = .ok () ∧ ∃ db, h.db.createSession b s = .ok db ∧ h' = { h with db }
  | h, .createSessionIfGenerationCurrent s, r, h' =>
    r ≠ .ok true ∧ h' = h ∨
      r = .ok true ∧ ∃ db, h.db.createSessionIfGenerationCurrent b s = .ok (some db) ∧
        h' = { h with db }
  | h, .getSession id, r, h' => h' = h ∧ ∀ row, r = .ok row → h.db.getSession b id = .ok row
  | h, .deleteSession id, r, h' =>
    (∃ e, r = .error e) ∧ h' = h ∨ r = .ok () ∧ h' = { h with db := h.db.deleteSession b id }
  | h, .deleteAllSessions, r, h' =>
    (∃ e, r = .error e) ∧ h' = h ∨ r = .ok () ∧ h' = { h with db := h.db.deleteAllSessions }

/-- The database and the session manager of a running daemon, with the calls that are between two
steps: logins whose row is stored but not cached, and refreshes of stored times. -/
structure World where
  db : Database
  manager : Manager := {}
  creating : List Session := []
  (refreshing unrefreshed : List (String × Time) := [])

/-- The steps: each store method and each critical section of the manager is one of them. -/
inductive Operation
  | createSessionWithMode : Bool → Operation
  | insertSession : Bool → Nat → Operation
  | cacheSession : Session → Operation
  | validateSession : String → Operation
  | updateSessionLastSeen : String → Time → Operation
  | dropReservation : String → Time → Operation
  | destroySession : String → Operation
  | destroyAllSessions | removeExpired | cleanExpiredSessions
  | setAdminHash : String → Operation
  | setAdminTotpSecret : String → Operation
  | clearAdminTotpSecret
  | commitInitialSetup : SystemConfig → String → Operation
  | recoveryResetAuthentication : String → Bool → Operation
  | recoverySaveConfig : SystemConfig → SystemConfig → Option String → Bool → Operation
  | restart

inductive Outcome
  | none
  | created : Option Session → Outcome
  | inserted : Except String Session → Outcome
  | validated : Except String Session → Outcome
  | done : Except String Unit → Outcome

structure Event where
  op : Operation
  drew : List String := []
  outcome : Outcome := .none

inductive Stores (change : Except String Database) (db : Database) :
    Except String Unit → Database → Prop
  | done (h : change = .ok db') : Stores change db (.ok ()) db'
  | failed : Stores change db (.error e) db

open Prog

inductive Steps (b : Basis) (w : World) : Event → World → Prop
  | createSessionWithMode {readOnly : Bool} {result : Option Session} {manager : Manager}
      {db : Database} {drew : List String}
      (h : Runs (host b) (w.manager.createSessionWithMode readOnly) ⟨w.db, []⟩ (result, manager)
        ⟨db, drew⟩) :
      Steps b w ⟨.createSessionWithMode readOnly, drew, .created result⟩ { w with db, manager }
  | insertSession {readOnly : Bool} {expected : Nat} {result : Except String Session}
      {db : Database} {drew : List String}
      (h : Runs (host b) (insertSession readOnly expected) ⟨w.db, []⟩ result ⟨db, drew⟩) :
      Steps b w ⟨.insertSession readOnly expected, drew, .inserted result⟩
        { w with db, creating := w.creating ++ result.toOption.toList }
  | cacheSession {s : Session} {before after : List Session}
      (h : w.creating = before ++ s :: after) :
      Steps b w ⟨.cacheSession s, [], .created (some s)⟩
        { w with manager := w.manager.cacheSession s, creating := before ++ after }
  | validateSession {id : String} {result : Except String (Session × Bool)} {manager : Manager}
      {db : Database}
      (h : Runs (host b) (w.manager.validateSession id) ⟨w.db, []⟩ (result, manager) ⟨db, []⟩) :
      Steps b w ⟨.validateSession id, [], .validated (result.map (·.1))⟩ { w with
        db, manager
        refreshing := w.refreshing ++
          (result.toOption.filter (·.2)).toList.map fun s => (id, s.1.lastSeen) }
  | updateSessionLastSeen {id : String} {t : Time} {before after : List (String × Time)}
      {result : Except String Unit} {db : Database}
      (h : w.refreshing = before ++ (id, t) :: after)
      (hstore : Stores (.ok (w.db.updateSessionLastSeen b id t)) w.db result db) :
      Steps b w ⟨.updateSessionLastSeen id t, [], .done result⟩ { w with
        db
        refreshing := before ++ after
        unrefreshed := match result with
          | .ok _ => w.unrefreshed
          | .error _ => w.unrefreshed ++ [(id, t)] }
  | dropReservation {id : String} {t : Time} {before after : List (String × Time)}
      (h : w.unrefreshed = before ++ (id, t) :: after) :
      Steps b w ⟨.dropReservation id t, [], .none⟩
        { w with manager := w.manager.dropReservation id t, unrefreshed := before ++ after }
  | destroySession {id : String} {result : Except String Unit} {manager : Manager} {db : Database}
      (h : Runs (host b) (w.manager.destroySession id) ⟨w.db, []⟩ (result, manager) ⟨db, []⟩) :
      Steps b w ⟨.destroySession id, [], .done result⟩ { w with db, manager }
  | destroyAllSessions {result : Except String Unit} {manager : Manager} {db : Database}
      (h : Runs (host b) w.manager.destroyAllSessions ⟨w.db, []⟩ (result, manager) ⟨db, []⟩) :
      Steps b w ⟨.destroyAllSessions, [], .done result⟩ { w with db, manager }
  | removeExpired {now : Reading} :
      Steps b w ⟨.removeExpired, [], .none⟩ { w with manager := w.manager.removeExpired now.now }
  | cleanExpiredSessions {now : Reading} {result : Except String Unit} {db : Database}
      (h : Stores (.ok (w.db.cleanExpiredSessions b now.now)) w.db result db) :
      Steps b w ⟨.cleanExpiredSessions, [], .done result⟩ { w with db }
  | setAdminHash {hash : String} {result : Except String Unit} {db : Database}
      (h : Stores (w.db.setAdminHash hash) w.db result db) :
      Steps b w ⟨.setAdminHash hash, [], .done result⟩ { w with db }
  | setAdminTotpSecret {secret : String} {result : Except String Unit} {db : Database}
      (h : Stores (w.db.setAdminTotpSecret secret) w.db result db) :
      Steps b w ⟨.setAdminTotpSecret secret, [], .done result⟩ { w with db }
  | clearAdminTotpSecret {result : Except String Unit} {db : Database}
      (h : Stores w.db.clearAdminTotpSecret w.db result db) :
      Steps b w ⟨.clearAdminTotpSecret, [], .done result⟩ { w with db }
  | commitInitialSetup {now : Reading} {cfg : SystemConfig} {hash : String}
      {result : Except String Unit} {db : Database}
      (h : Stores (w.db.commitInitialSetup b now cfg hash) w.db result db) :
      Steps b w ⟨.commitInitialSetup cfg hash, [], .done result⟩ { w with db }
  | recoveryResetAuthentication {hash : String} {disableTotp : Bool} {result : Except String Unit}
      {db : Database}
      (h : Stores (.ok (w.db.recoveryResetAuthentication hash disableTotp)) w.db result db) :
      Steps b w ⟨.recoveryResetAuthentication hash disableTotp, [], .done result⟩ { w with db }
  | recoverySaveConfig {now : Reading} {current next : SystemConfig} {hash : Option String}
      {clearTotp : Bool} {result : Except String Unit} {db : Database}
      (h : Stores (w.db.recoverySaveConfig b now current next hash clearTotp) w.db result db) :
      Steps b w ⟨.recoverySaveConfig current next hash clearTotp, [], .done result⟩ { w with db }
  | restart : Steps b w ⟨.restart, [], .none⟩ { db := w.db }

end MinimalRouter.Auth
