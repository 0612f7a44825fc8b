import MinimalRouter.Config.Policy
import MinimalRouter.Lib.Result

namespace MinimalRouter.Config

open Goish Lib.Result

/-- The rows of the revision table, newest first, and whether there is an administrator. -/
structure Store where
  rows : List SystemConfig := []
  adminConfigured : Bool := false

namespace Store

def latest (s : Store) : Option SystemConfig := s.rows.head?

def checkedAdd (r : Revision) : Option Revision := if r + 1 < 2 ^ 64 then some (r + 1) else none

def checkAdvance (s : Store) (cfg : SystemConfig) : Except String Unit :=
  match s.latest with
  | some current =>
    if some cfg.revision = checkedAdd current.revision then .ok ()
    else .error "configuration revision must advance exactly once"
  | none =>
    if cfg.revision ≠ 1 then .error "initial configuration revision must be 1" else .ok ()

def insert (s : Store) (cfg : SystemConfig) : Store :=
  { s with rows := (cfg :: s.rows).take 100 }

def saveConfig (rules : Rules) (database : Except String Unit) (s : Store) (cfg : SystemConfig) :
    Except String Store := do
  (rules.validate cfg).mapError ("refusing to persist invalid configuration: " ++ ·)
  s.checkAdvance cfg
  database
  return s.insert cfg

def commitInitialSetup (rules : Rules) (database : Except String Unit) (now : Reading) (s : Store)
    (cfg : SystemConfig) : Except String Store := do
  (rules.validate cfg).mapError ("refusing invalid initial configuration: " ++ ·)
  if s.adminConfigured then throw "administrator is already configured"
  match s.latest with
  | none => throw "sql: no rows in result set"
  | some current =>
    if some cfg.revision ≠ checkedAdd current.revision then
      throw "initial configuration revision must advance exactly once"
    database
    return ⟨{ cfg with updatedAt := ⟨now.wall, 0, none⟩ } :: s.rows, true⟩

def getLatestConfig (rules : Rules) (s : Store) : Except String SystemConfig :=
  match s.latest with
  | none => .error "failed to read latest config: sql: no rows in result set"
  | some row =>
    let cfg := rules.migrateLegacyFields row
    match rules.validate cfg with
    | .error e => .error ("stored configuration failed validation: " ++ e)
    | .ok _ => .ok cfg

theorem revision_of_checkAdvance {s : Store} (hs : s.latest = some current)
    (h : s.checkAdvance cfg = .ok ()) : cfg.revision = current.revision + 1 := by
  simp only [checkAdvance, hs, checkedAdd] at h
  split at h
  · split at * <;> simp_all
  · cases h

theorem saveConfig_eq_ok (h : saveConfig rules database s cfg = .ok t) :
    rules.validate cfg = .ok () ∧ s.checkAdvance cfg = .ok () ∧ t = s.insert cfg := by
  simp only [saveConfig, bind_eq_ok, mapError_eq_ok] at h
  obtain ⟨_, hvalid, _, hadvance, _, _, hstored⟩ := h
  cases hstored
  exact ⟨hvalid, hadvance, rfl⟩

theorem getLatestConfig_eq_ok {s : Store} (h : s.getLatestConfig rules = .ok cfg) :
    ∃ row, s.latest = some row ∧ cfg = rules.migrateLegacyFields row := by
  unfold getLatestConfig at h
  cases hlatest : s.latest with
  | none => simp [hlatest] at h
  | some row =>
    simp only [hlatest] at h
    split at h
    · cases h
    · exact ⟨row, rfl, (Except.ok.inj h).symm⟩

end Store

end MinimalRouter.Config
