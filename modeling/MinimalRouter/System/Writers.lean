import MinimalRouter.Apply.Canon
import MinimalRouter.Lib.Database
import MinimalRouter.Lib.Parallel

universe u

namespace MinimalRouter.System.Writers

open Goish Config Lib
open Apply (RevisionChain)

structure Snapshot where
  id : String
  revision : Revision
  config : SystemConfig

inductive Statement
  | begin | latest | admins
  | insertRevision : SystemConfig → Statement
  | pruneRevisions
  | insertSnapshot : Snapshot → Statement
  | pruneSnapshots
  | insertAdministrator : String → Statement
  | storeRecoveredCredentials : String → Bool → Statement
  | deleteSessions | commit | rollback

namespace Statement

abbrev Row : Statement → Type
  | latest => Option SystemConfig
  | admins => Nat
  | _ => Unit

abbrev Answer (q : Statement) := Except String q.Row

def isWrite : Statement → Bool
  | begin => false
  | latest => false
  | admins => false
  | commit => false
  | rollback => false
  | _ => true

def insertsRevision : Statement → Bool
  | insertRevision _ => true
  | _ => false

def effect : Statement → Store → Store
  | insertRevision cfg, s => { s with rows := cfg :: s.rows }
  | pruneRevisions, s => { s with rows := s.rows.take 100 }
  | insertAdministrator _, s => { s with adminConfigured := true }
  | storeRecoveredCredentials _ _, s => { s with adminConfigured := true }
  | _, s => s

end Statement

abbrev WriterProg := Attempt Statement Statement.Answer String

def query (context : String → String) (q : Statement) : WriterProg q.Row :=
  Attempt.ask q fun r => Attempt.ofExcept (r.mapError context)

def wrapf (context err : String) : String := context ++ ": " ++ err

/-- A transaction that is not committed is rolled back when it goes out of scope. -/
def transaction {α : Type} (context : String → String) (body : WriterProg α) : WriterProg α := do
  query context .begin
  match ← body.result with
  | .ok a => pure a
  | .error e => do
    let _ ← (query id .rollback).result
    Attempt.fail e

def checkAdvance (current : Option SystemConfig) (cfg : SystemConfig) : Except String Unit :=
  Store.checkAdvance { rows := current.toList } cfg

def nowUtc (now : Reading) : Time := ⟨now.wall, 0, none⟩

def saveConfig (rules : Rules) (cfg : SystemConfig) : WriterProg Unit := do
  .ofExcept ((rules.validate cfg).mapError (wrapf "refusing to persist invalid configuration"))
  let current ← query (wrapf "failed to inspect current revision") .latest
  .ofExcept (checkAdvance current cfg)
  transaction (wrapf "failed to begin transaction") do
    query (wrapf "failed to insert config revision") (.insertRevision cfg)
    query (wrapf "failed to prune config revisions") .pruneRevisions
    query (wrapf "failed to commit config transaction") .commit

def commitInitialSetup (rules : Rules) (now : Reading) (cfg : SystemConfig)
    (passwordHash : String) : WriterProg Unit := do
  .ofExcept ((rules.validate cfg).mapError (wrapf "refusing invalid initial configuration"))
  transaction id do
    let existing ← query id .admins
    .failIf (existing ≠ 0) "administrator is already configured"
    match ← query id .latest with
    | none => .fail "sql: no rows in result set"
    | some current => do
      .failIf (some cfg.revision ≠ Store.checkedAdd current.revision)
        "initial configuration revision must advance exactly once"
      query id (.insertRevision { cfg with updatedAt := nowUtc now })
      query id (.insertAdministrator passwordHash)
      query id .deleteSessions
      query id .commit

def wrappingAdd (r : Revision) : Revision := (r + 1) % 2 ^ 64

def storeCredentials (passwordHash : Option String) (clearTotp : Bool) : WriterProg Unit :=
  match passwordHash with
  | some hash =>
    query (wrapf "store factory-reset administrator credentials")
      (.storeRecoveredCredentials hash clearTotp)
  | none => pure ()

def recoverySaveConfig (rules : Rules) (now : Reading) (current next : SystemConfig)
    (passwordHash : Option String) (clearTotp : Bool) : WriterProg Snapshot := do
  .ofExcept ((rules.validate current).mapError (wrapf "current recovery configuration is invalid"))
  .ofExcept ((rules.validate next).mapError (wrapf "recovery configuration is invalid"))
  .failIf (next.revision ≠ wrappingAdd current.revision)
    "recovery configuration revision must advance exactly once"
  let snapshot : Snapshot := ⟨"snap-" ++ toString now.wall, current.revision, current⟩
  transaction (wrapf "begin recovery transaction") do
    match ← query (wrapf "inspect current recovery revision") .latest with
    | none => .fail (wrapf "inspect current recovery revision" "sql: no rows in result set")
    | some stored => do
      .failIf (stored.revision ≠ current.revision) "canonical configuration changed during recovery"
      query (wrapf "insert recovery snapshot") (.insertSnapshot snapshot)
      query (wrapf "prune recovery snapshots") .pruneSnapshots
      query (wrapf "insert recovered configuration")
        (.insertRevision { next with updatedAt := nowUtc now })
      query (wrapf "prune recovered configuration revisions") .pruneRevisions
      storeCredentials passwordHash clearTotp
      query (wrapf "revoke sessions during recovery") .deleteSessions
      query (wrapf "commit recovery transaction") .commit
      pure snapshot

inductive Call
  | saveConfig : SystemConfig → Call
  | commitInitialSetup : Reading → SystemConfig → String → Call
  | recoverySaveConfig : Reading → SystemConfig → SystemConfig → Option String → Bool → Call

def Call.program (rules : Rules) : Call → WriterProg Unit
  | saveConfig cfg => Writers.saveConfig rules cfg
  | commitInitialSetup now cfg hash => Writers.commitInitialSetup rules now cfg hash
  | recoverySaveConfig now current next hash clear => do
    let _ ← Writers.recoverySaveConfig rules now current next hash clear
    pure ()

section Handler

variable {ι : Type u} [DecidableEq ι]

def Executes (i : ι) : Prog.Handler Statement Statement.Answer (Database ι Store) :=
  fun db q r db' =>
    match q, r with
    | .rollback, _ => db' = db.rollback i
    | _, .error _ => db' = db
    | .begin, .ok _ => db' = db.begin i
    | .latest, .ok row => db' = db.read i ∧ row = (db.view i).value.latest
    | .admins, .ok n => db' = db.read i ∧ n = (db.view i).value.adminConfigured.toNat
    | .commit, .ok _ => db' = db.commit i
    | q, .ok _ => db.Writable i ∧ db' = db.write q.effect i

end Handler

end MinimalRouter.System.Writers
