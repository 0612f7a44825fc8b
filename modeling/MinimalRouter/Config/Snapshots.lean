import Mathlib.Data.Prod.Lex
import Mathlib.Data.String.Basic
import MinimalRouter.Config.Facts
import MinimalRouter.Lib.Retention

namespace MinimalRouter.Config

open Goish Lib Lib.Result

def snapshotKindAutomatic : String := "automatic"

def snapshotKindManual : String := "manual"

def snapshotRetentionPerKind : Nat := 20

/-- A row; the checksum is the digest that its text spells, if it spells one. -/
structure Snapshot where
  id : String
  revision : Nat
  createdAt : String
  checksum : Option (BitVec 256)
  (kind label configJson : String)
  deriving DecidableEq

def Snapshot.rank (s : Snapshot) : Nat ×ₗ String ×ₗ String :=
  toLex (s.revision, toLex (s.createdAt, s.id))

structure Snapshots where
  rows : List Snapshot := []
  nodup : (rows.map (·.id)).Nodup := by exact List.nodup_nil

namespace Snapshots

structure Codec where
  marshal : SystemConfig → Except String String
  sha256 : String → BitVec 256

structure Draw where
  unixNano : Int
  (entropy createdAt : String)
  database : Except String Unit := .ok ()

def Draw.id (draw : Draw) : String := "snap-" ++ toString draw.unixNano ++ "-" ++ draw.entropy

variable {s : Snapshots}

def sameKind (kind : String) (row : Snapshot) : Bool :=
  (kind == snapshotKindManual) == (row.kind == snapshotKindManual)

def prune (kind : String) (rows : List Snapshot) : List Snapshot :=
  let kept := (top Snapshot.rank snapshotRetentionPerKind (rows.filter (sameKind kind))).map (·.id)
  rows.filter fun row => !sameKind kind row || kept.contains row.id

def insert (s : Snapshots) (row : Snapshot) : Except String Snapshots :=
  if h : row.id ∈ s.rows.map (·.id) then .error "failed to insert snapshot"
  else .ok ⟨prune row.kind (row :: s.rows),
    List.Nodup.sublist (List.filter_sublist.map _) (List.nodup_cons.mpr ⟨h, s.nodup⟩)⟩

def createSnapshotKind (codec : Codec) (draw : Draw) (s : Snapshots) (cfg : SystemConfig)
    (kind label : String) : Except String (Snapshot × Snapshots) := do
  let data ← (codec.marshal cfg).mapError ("failed to marshal config for snapshot: " ++ ·)
  if 2 ^ 63 ≤ cfg.revision then throw "snapshot revision exceeds SQLite range"
  let row : Snapshot := {
    id := draw.id, revision := cfg.revision, createdAt := draw.createdAt,
    checksum := some (codec.sha256 data), kind, label, configJson := data }
  let s' ← s.insert row
  draw.database
  return ({ row with configJson := "" }, s')

def createSnapshot (codec : Codec) (draw : Draw) (s : Snapshots) (cfg : SystemConfig) :
    Except String (Snapshot × Snapshots) :=
  s.createSnapshotKind codec draw cfg snapshotKindAutomatic ""

def validateSnapshotLabel (label : String) : Except String Unit :=
  if 80 < label.length then .error "snapshot name must be at most 80 characters"
  else if hasControl label then .error "snapshot name cannot contain control characters"
  else .ok ()

def createManualSnapshot (codec : Codec) (draw : Draw) (s : Snapshots) (cfg : SystemConfig)
    (label : String) : Except String (Snapshot × Snapshots) := do
  let name := trim label
  validateSnapshotLabel name
  s.createSnapshotKind codec draw cfg snapshotKindManual name

def getSnapshot (codec : Codec) (s : Snapshots) (id : String) : Except String Snapshot :=
  match s.rows.find? (·.id == id) with
  | none => .error "snapshot not found"
  | some snap =>
    if snap.checksum = some (codec.sha256 snap.configJson) then .ok snap
    else .error "snapshot integrity check failed"

def above (s : Snapshots) (kind : String) (cfg : SystemConfig) (draw : Draw) : Nat :=
  s.rows.countP fun row =>
    decide (toLex (cfg.revision, toLex (draw.createdAt, draw.id)) < row.rank) && sameKind kind row

theorem mem_prune {rows : List Snapshot} (hnodup : (rows.map (·.id)).Nodup) (hrow : row ∈ rows) :
    row ∈ prune kind rows ↔ sameKind kind row = false ∨
      rows.countP (fun y => decide (row.rank < y.rank) && sameKind kind y) <
        snapshotRetentionPerKind :=
  mem_retain hnodup (fun _ _ h => congrArg (fun r => (ofLex (ofLex r).2).2) h)
    hrow

theorem createSnapshotKind_eq_ok (h : s.createSnapshotKind codec draw cfg kind label = .ok r) :
    ∃ data, codec.marshal cfg = .ok data ∧ draw.id ∉ s.rows.map (·.id) ∧ r.1.id = draw.id ∧
      r.1.kind = kind ∧ r.2.rows = prune kind (⟨draw.id, cfg.revision, draw.createdAt,
        some (codec.sha256 data), kind, label, data⟩ :: s.rows) := by
  obtain ⟨data, hdata, h⟩ := bind_eq_ok.mp h
  split at h
  · cases h
  obtain ⟨_, hinsert, h⟩ := bind_eq_ok.mp h
  obtain ⟨-, -, h⟩ := bind_eq_ok.mp h
  cases h
  unfold insert at hinsert
  split at hinsert
  · cases hinsert
  next hnew =>
    cases hinsert
    exact ⟨data, mapError_eq_ok.mp hdata, hnew, rfl, rfl, rfl⟩

/-- What a later read finds under the new identifier, and what stays of the other kind. -/
theorem find_created (h : s.createSnapshotKind codec draw cfg kind label = .ok r) :
    r.1.kind = kind ∧ (∀ other ∈ s.rows, sameKind kind other = false → other ∈ r.2.rows) ∧
      ∃ data, codec.marshal cfg = .ok data ∧ r.2.rows.find? (·.id == r.1.id) =
        if s.above kind cfg draw < snapshotRetentionPerKind then some ⟨draw.id, cfg.revision,
          draw.createdAt, some (codec.sha256 data), kind, label, data⟩ else none := by
  obtain ⟨data, hdata, hnew, hid, hkind, hrows⟩ := createSnapshotKind_eq_ok h
  let row : Snapshot := ⟨draw.id, cfg.revision, draw.createdAt, some (codec.sha256 data), kind, label, data⟩
  have hnodup : ((row :: s.rows).map (·.id)).Nodup := List.nodup_cons.mpr ⟨hnew, s.nodup⟩
  refine ⟨hkind, fun other hother hkind' => ?_, data, hdata, ?_⟩
  · rw [hrows]
    exact (mem_prune hnodup (List.mem_cons_of_mem _ hother)).mpr (.inl hkind')
  have hkept : row ∈ r.2.rows ↔ s.above kind cfg draw < snapshotRetentionPerKind := by
    rw [hrows, mem_prune hnodup List.mem_cons_self, List.countP_cons_of_neg (by simp)]
    exact or_iff_right (by simp [sameKind, row])
  have hsole : ∀ other ∈ r.2.rows, other.id = draw.id → other = row := by
    intro other hother hother'
    rw [hrows] at hother
    rcases List.mem_cons.mp (List.mem_filter.mp hother).1 with h | h
    · exact h
    · exact absurd (hother' ▸ List.mem_map_of_mem h) hnew
  rw [hid]
  cases hfind : r.2.rows.find? (·.id == draw.id) with
  | none =>
    refine (if_neg fun habove => ?_).symm
    exact List.find?_eq_none.mp hfind row (hkept.mpr habove) (beq_self_eq_true draw.id)
  | some other =>
    have hmem := List.mem_of_find?_eq_some hfind
    obtain rfl := hsole other hmem (by simpa using List.find?_some hfind)
    exact (if_pos (hkept.mp hmem)).symm

theorem snapshot_durable_iff {r : Snapshot × Snapshots}
    (h : s.createSnapshot codec draw cfg = .ok r ∨
      ∃ label, s.createManualSnapshot codec draw cfg label = .ok r) :
    ((∃ snap, r.2.getSnapshot codec r.1.id = .ok snap ∧ codec.marshal cfg = .ok snap.configJson) ∧
      ∀ row ∈ s.rows, sameKind r.1.kind row = false → row ∈ r.2.rows) ↔
    s.above r.1.kind cfg draw < snapshotRetentionPerKind := by
  obtain ⟨kind, label, h⟩ : ∃ kind label, s.createSnapshotKind codec draw cfg kind label = .ok r := by
    rcases h with h | ⟨label, h⟩
    · exact ⟨_, _, h⟩
    · obtain ⟨-, -, h⟩ := bind_eq_ok.mp h
      exact ⟨_, _, h⟩
  obtain ⟨rfl, hothers, _, hdata, hfind⟩ := find_created h
  rw [and_iff_left hothers, getSnapshot, hfind]
  by_cases habove : s.above r.1.kind cfg draw < snapshotRetentionPerKind
  · rw [if_pos habove]
    exact iff_of_true ⟨_, if_pos rfl, hdata⟩ habove
  · rw [if_neg habove]
    exact iff_of_false (fun ⟨_, hget, _⟩ => nomatch hget) habove

def sampleCodec : Codec := ⟨fun cfg => .ok (toString cfg.revision), fun text => .ofNat 256 text.length⟩

def stored (kind : String) (unixNano : Int) : Snapshot where
  id := Draw.id ⟨unixNano, "5f3a91c4", "", .ok ()⟩
  revision := sampleConfig.revision
  createdAt := "2026-01-01T00:00:00Z"
  checksum := some (sampleCodec.sha256 (toString sampleConfig.revision))
  kind
  label := ""
  configJson := toString sampleConfig.revision

/-- An automatic snapshot and as many manual ones as are kept, all of one second. -/
def newYear : Snapshots where
  rows := stored snapshotKindAutomatic 1767225600000000000 ::
    (List.range 20).map fun i => stored snapshotKindManual (1767225600010000000 + 10000000 * i)
  nodup := by decide +kernel

def nextDay : Draw := ⟨1767312000000000000, "9b02e6d1", "2026-01-02T00:00:00Z", .ok ()⟩

def dayBefore : Draw := ⟨1767139200000000000, "9b02e6d1", "2025-12-31T00:00:00Z", .ok ()⟩

theorem createdAt_newYear : ∀ row ∈ newYear.rows, row.revision = sampleConfig.revision ∧
    row.createdAt = "2026-01-01T00:00:00Z" := by
  simp [newYear, stored]

theorem above_nextDay : newYear.above kind sampleConfig nextDay = 0 := by
  refine List.countP_eq_zero.mpr fun row hrow => ?_
  obtain ⟨hrevision, hcreated⟩ := createdAt_newYear row hrow
  have hlater : ¬nextDay.createdAt < "2026-01-01T00:00:00Z" := by decide +kernel
  have hother : nextDay.createdAt ≠ "2026-01-01T00:00:00Z" := by decide +kernel
  simp [Snapshot.rank, Prod.Lex.toLex_lt_toLex, hrevision, hcreated, hlater, hother]

theorem above_dayBefore : newYear.above snapshotKindManual sampleConfig dayBefore = 20 := by
  have hcount : newYear.above snapshotKindManual sampleConfig dayBefore =
      newYear.rows.countP (sameKind snapshotKindManual) := by
    refine List.countP_congr fun row hrow => ?_
    obtain ⟨hrevision, hcreated⟩ := createdAt_newYear row hrow
    have hearlier : dayBefore.createdAt < "2026-01-01T00:00:00Z" := by decide +kernel
    simp [Snapshot.rank, Prod.Lex.toLex_lt_toLex, hrevision, hcreated, hearlier]
  exact hcount.trans (by decide +kernel)

theorem created_newYear (draw : Draw) (hnew : draw.id ∉ newYear.rows.map (·.id))
    (h : draw.database = .ok ()) :
    ∃ r, newYear.createManualSnapshot sampleCodec draw sampleConfig "" = .ok r :=
  ⟨_, bind_eq_ok.mpr ⟨_, rfl, bind_eq_ok.mpr ⟨_, rfl, bind_eq_ok.mpr ⟨_, dif_neg hnew,
    bind_eq_ok.mpr ⟨_, h, rfl⟩⟩⟩⟩⟩

/-- In a full table a further manual snapshot takes the place of another manual one. -/
theorem snapshot_durable_in_full_table :
    ∃ r, newYear.createManualSnapshot sampleCodec nextDay sampleConfig "" = .ok r ∧
      (∃ snap, r.2.getSnapshot sampleCodec r.1.id = .ok snap ∧
        sampleCodec.marshal sampleConfig = .ok snap.configJson) ∧
      ∀ row ∈ newYear.rows, sameKind r.1.kind row = false → row ∈ r.2.rows := by
  obtain ⟨r, h⟩ := created_newYear nextDay (by decide +kernel) rfl
  exact ⟨r, h, (snapshot_durable_iff (.inr ⟨_, h⟩)).mpr (by rw [above_nextDay]; decide)⟩

/-- After the clock was set back, a manual snapshot is gone as soon as it was created. -/
theorem snapshot_lost_after_step_back :
    ∃ r, newYear.createManualSnapshot sampleCodec dayBefore sampleConfig "" = .ok r ∧
      r.2.getSnapshot sampleCodec r.1.id = .error "snapshot not found" := by
  obtain ⟨r, h⟩ := created_newYear dayBefore (by decide +kernel) rfl
  obtain ⟨-, -, hkind⟩ := bind_eq_ok.mp h
  obtain ⟨-, -, _, -, hfind⟩ := find_created hkind
  rw [above_dayBefore] at hfind
  exact ⟨r, h, by rw [getSnapshot, hfind]; rfl⟩

end Snapshots

end MinimalRouter.Config
