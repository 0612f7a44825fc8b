import MinimalRouter.Config.Snapshots

namespace MinimalRouter.Recovery

open Goish Config Lib

/-- The store as the console finds it, what decodes its texts, and how it answers a save. -/
structure Manager where
  rules : Rules
  codec : Snapshots.Codec
  unmarshal : String → Except String SystemConfig
  parseRfc3339 : String → Option Time
  now : Time
  getLatestConfig : Except String SystemConfig
  snapshots : Snapshots
  recoverySaveConfig : SystemConfig → SystemConfig → Except String Snapshot

namespace Manager

variable (m : Manager)

def latest : Except String SystemConfig :=
  m.getLatestConfig.mapError ("read canonical configuration: " ++ ·)

def listSnapshots : List Snapshot :=
  (m.snapshots.rows.insertionSort fun a b => b.rank ≤ a.rank).map ({ · with configJson := "" })

/-- What the store is asked to save, and the snapshot it made of the current configuration. -/
def restoreSnapshot (id : String) : Except String (Snapshot × SystemConfig) := do
  let current ← m.latest
  let target ← m.snapshots.getSnapshot m.codec (trim id)
  let decoded ← (m.unmarshal target.configJson).mapError ("decode snapshot: " ++ ·)
  let restored := { m.rules.migrateLegacyFields decoded with
    revision := current.revision + 1, updatedAt := m.now }
  (m.rules.validate restored).mapError ("snapshot configuration is no longer valid: " ++ ·)
  (m.rules.validateScenarioSafety restored).mapError ("snapshot scenario is no longer safe: " ++ ·)
  let undo ← m.recoverySaveConfig current restored
  return (undo, restored)

def snapshotNewer (candidate current : String) : Bool :=
  match m.parseRfc3339 candidate, m.parseRfc3339 current with
  | some c, some d => c.after d
  | _, _ => decide (current < candidate)

def latestOf (first : Snapshot) (candidates : List Snapshot) : Snapshot :=
  candidates.foldl (fun latest candidate =>
    if m.snapshotNewer candidate.createdAt latest.createdAt then candidate else latest) first

/-- The snapshot of the current configuration, what was saved and the identifier it was read
from. -/
def restoreLatestSnapshot : Except String (Snapshot × SystemConfig × String) :=
  match m.listSnapshots with
  | [] => .error "no recovery snapshots are available"
  | first :: candidates =>
    let id := (m.latestOf first candidates).id
    (m.restoreSnapshot id).map fun (undo, restored) => (undo, restored, id)

end Manager

section Newest

variable {m : Manager}

theorem latestOf_mem (first : Snapshot) (candidates : List Snapshot) :
    m.latestOf first candidates = first ∨ m.latestOf first candidates ∈ candidates := by
  induction candidates generalizing first with
  | nil => exact .inl rfl
  | cons candidate candidates ih =>
    rcases ih (if m.snapshotNewer candidate.createdAt first.createdAt then candidate else first) with
      h | h
    · rw [Manager.latestOf, List.foldl_cons]
      rw [Manager.latestOf] at h
      rw [h]
      split
      · exact .inr List.mem_cons_self
      · exact .inl rfl
    · exact .inr (List.mem_cons_of_mem _ h)

/-- A newer candidate takes the first place for good, as the first entry does not come again. -/
theorem latestOf_eq_first_iff (hfirst : ∀ x ∈ candidates, x ≠ first) :
    m.latestOf first candidates = first ↔
      ∀ x ∈ candidates, m.snapshotNewer x.createdAt first.createdAt = false := by
  induction candidates with
  | nil => exact iff_of_true rfl nofun
  | cons candidate candidates ih =>
    obtain ⟨hne, hrest⟩ := List.forall_mem_cons.mp hfirst
    rw [List.forall_mem_cons, Manager.latestOf, List.foldl_cons, ← Manager.latestOf]
    cases hnewer : m.snapshotNewer candidate.createdAt first.createdAt with
    | false => simpa using ih hrest
    | true =>
      refine iff_of_false (fun h => ?_) nofun
      rcases latestOf_mem candidate candidates with h' | h'
      · exact hne (h'.symm.trans h)
      · exact hrest _ (h ▸ h') rfl

theorem listSnapshots_sorted : m.listSnapshots.Pairwise (fun a b => b.rank < a.rank) := by
  have : Std.Total fun a b : Snapshot => b.rank ≤ a.rank := ⟨fun a b => le_total b.rank a.rank⟩
  have : IsTrans Snapshot fun a b => b.rank ≤ a.rank := ⟨fun a b c hab hbc => hbc.trans hab⟩
  have hperm := List.perm_insertionSort (fun a b : Snapshot => b.rank ≤ a.rank) m.snapshots.rows
  have hids := List.pairwise_map.mp ((hperm.map (·.id)).nodup_iff.mpr m.snapshots.nodup)
  refine List.pairwise_map.mpr ?_
  refine ((List.pairwise_insertionSort _ _).and hids).imp fun {a b} h => ?_
  refine lt_of_le_of_ne h.1 fun hrank => h.2 ?_
  exact congrArg (fun r => (ofLex (ofLex r).2).2) hrank.symm

/-- The first entry of the listing has the greatest rank, and it is the one restored exactly when
no other stored snapshot has a newer time stamp. -/
theorem restores_first_iff (hlist : m.listSnapshots = first :: candidates) :
    (∀ x ∈ candidates, x.rank < first.rank) ∧ ∃ latest ∈ m.listSnapshots, m.restoreLatestSnapshot =
        (m.restoreSnapshot latest.id).map (fun r => (r.1, r.2, latest.id)) ∧ (latest = first ↔
        ∀ x ∈ m.listSnapshots, x ≠ first →
          m.snapshotNewer x.createdAt first.createdAt = false) := by
  have hsorted := listSnapshots_sorted (m := m)
  rw [hlist] at hsorted
  have hbelow := (List.pairwise_cons.mp hsorted).1
  have hne : ∀ x ∈ candidates, x ≠ first := fun x hx heq => lt_irrefl _ (heq ▸ hbelow x hx)
  refine ⟨hbelow, m.latestOf first candidates, ?_, ?_, ?_⟩
  · rw [hlist]
    exact List.mem_cons.mpr (latestOf_mem first candidates)
  · rw [Manager.restoreLatestSnapshot, hlist]
  rw [latestOf_eq_first_iff hne, hlist]
  refine ⟨fun h x hx hx' => h x ((List.mem_cons.mp hx).resolve_left hx'), fun h x hx => ?_⟩
  exact h x (List.mem_cons_of_mem _ hx) (hne x hx)

/-- Revision 7 was captured while the clock was a year ahead, revision 8 after it was corrected. -/
def sampleManager (first : String) : Manager where
  rules := ⟨fun _ => .ok (), fun _ => .ok (), id⟩
  codec := ⟨fun cfg => .ok (toString cfg.revision), fun text => .ofNat 256 text.length⟩
  unmarshal text := .ok { system := { hostname := "router-" ++ text } }
  parseRfc3339 text := ([("2025-12-31T00:00:00Z", 1767139200), ("2026-01-01T00:00:00Z", 1767225600),
    ("2027-01-01T00:00:00Z", 1798761600)].lookup text).map (⟨· * 1000000000, 0, none⟩)
  now := ⟨0, 0, none⟩
  getLatestConfig := .ok { revision := 8 }
  snapshots := {
    rows := [⟨"snap-1", 7, first, some 1, "automatic", "", "7"⟩,
      ⟨"snap-2", 8, "2026-01-01T00:00:00Z", some 1, "automatic", "", "8"⟩]
    nodup := by simp }
  recoverySaveConfig _ _ := .ok ⟨"snap-3", 8, "2026-01-02T00:00:00Z", some 1, "automatic", "", "8"⟩

theorem restores_first_in_order : ∃ first candidates,
    (sampleManager "2025-12-31T00:00:00Z").listSnapshots = first :: candidates ∧
      first.id = "snap-2" ∧ (∀ x ∈ candidates, x.rank < first.rank) ∧
      ((sampleManager "2025-12-31T00:00:00Z").restoreLatestSnapshot.map fun r =>
        (r.2.1.system.hostname, r.2.1.revision, r.2.2)) = .ok ("router-8", 9, first.id) := by
  have hlist : (sampleManager "2025-12-31T00:00:00Z").listSnapshots = _ := rfl
  obtain ⟨hbelow, _, -, hrestore, hiff⟩ := restores_first_iff hlist
  obtain rfl := hiff.mpr (by decide +kernel)
  exact ⟨_, _, hlist, rfl, hbelow, by rw [hrestore]; decide +kernel⟩

theorem restores_stale_snapshot :
    ((sampleManager "2027-01-01T00:00:00Z").listSnapshots.map (·.id)) = ["snap-2", "snap-1"] ∧
      ((sampleManager "2027-01-01T00:00:00Z").restoreLatestSnapshot.map (·.2.2)) =
        .ok "snap-1" := by
  decide +kernel

end Newest

/-- 32-bit arithmetic, without a result where it would wrap. -/
def add32 (a b : Nat) : Option Nat := if a + b < 2 ^ 32 then some (a + b) else none

def sub32 (a b : Nat) : Option Nat := if b ≤ a then some (a - b) else none

theorem add32_eq (h : a + b < 2 ^ 32) : add32 a b = some (a + b) := if_pos h

theorem sub32_eq (h : b ≤ a) : sub32 a b = some (a - b) := if_pos h

def dhcpRange (network : IPNet) (gateway : IP) : Option (Nat × Nat) := do
  let block : Block 32 := ⟨network.ip.to4.getD 0, min network.ones 32⟩
  let firstUsable ← add32 block.base.toNat 1
  let lastUsable ← sub32 block.last.toNat 1
  let preferredStart ← add32 block.base.toNat 100
  let preferredEnd ← add32 block.base.toNat 200
  let preferred := fun g => decide (preferredStart ≤ g ∧ g ≤ preferredEnd)
  match (gateway.to4.map BitVec.toNat).filter preferred with
  | none => some (preferredStart, preferredEnd)
  | some gw =>
    let below ← sub32 gw firstUsable
    let above ← sub32 lastUsable gw
    if below ≤ above then
      let start ← add32 gw 1
      let limit ← sub32 (← add32 start 101) 1
      some (start, min limit lastUsable)
    else
      let stop ← sub32 gw 1
      let size ← add32 (← sub32 stop firstUsable) 1
      if 101 < size then
        let start ← add32 (← sub32 stop 101) 1
        some (start, stop)
      else some (firstUsable, stop)

/-- The pool lies between the network and the broadcast address and leaves the gateway out. -/
def IsPool (base broadcast gateway : Nat) (r : Nat × Nat) : Prop :=
  r.1 ≤ r.2 ∧ r.2 - r.1 + 1 ≤ 101 ∧ base < r.1 ∧ r.2 < broadcast ∧
    ¬(r.1 ≤ gateway ∧ gateway ≤ r.2)

theorem dhcpRange_isPool {base gateway : BitVec 32} (hip : network.ip = .v4 base)
    (hbase : (Block.mk base network.ones).Aligned) (hones : 16 ≤ network.ones ∧ network.ones ≤ 24)
    (hgateway : base.toNat < gateway.toNat ∧
      gateway.toNat < (Block.mk base network.ones).last.toNat) :
    ∃ r, dhcpRange network (.v4 gateway) = some r ∧
      IsPool base.toNat (Block.mk base network.ones).last.toNat gateway.toNat r := by
  have hmin : min network.ones 32 = network.ones := by omega
  have hlast := hbase.toNat_last (by show network.ones ≤ 32; omega)
  have hlt := (Block.mk base network.ones).last.isLt
  have hsize : 2 ^ 8 ≤ 2 ^ (32 - network.ones) := Nat.pow_le_pow_right (by decide) (by omega)
  simp only [dhcpRange, hip, IP.to4, Option.getD_some, hmin, Option.map_some]
  generalize (Block.mk base network.ones).last.toNat = last at *
  generalize base.toNat = b, gateway.toNat = g, 2 ^ (32 - network.ones) = size at *
  simp only [add32_eq (show b + 1 < 2 ^ 32 by omega), sub32_eq (show 1 ≤ last by omega),
    add32_eq (show b + 100 < 2 ^ 32 by omega), add32_eq (show b + 200 < 2 ^ 32 by omega),
    Option.bind_eq_bind, Option.bind_some, Option.filter_some, decide_eq_true_eq]
  by_cases hin : b + 100 ≤ g ∧ g ≤ b + 200
  · simp only [if_pos hin, sub32_eq (show b + 1 ≤ g by omega),
      sub32_eq (show g ≤ last - 1 by omega), Option.bind_some]
    split
    · -- at most half of the network is below the gateway, so there is room for the pool above it
      have hstart : add32 (g + 1) 101 = some (g + 1 + 101) := add32_eq (by omega)
      simp only [add32_eq (show g + 1 < 2 ^ 32 by omega), hstart, Option.bind_some,
        sub32_eq (show 1 ≤ g + 1 + 101 by omega)]
      exact ⟨_, rfl, by simp only [IsPool]; omega⟩
    have hcount : add32 (g - 1 - (b + 1)) 1 = some (g - 1 - (b + 1) + 1) := add32_eq (by omega)
    simp only [sub32_eq (show 1 ≤ g by omega), sub32_eq (show b + 1 ≤ g - 1 by omega), hcount,
      Option.bind_some]
    split
    · simp only [sub32_eq (show 101 ≤ g - 1 by omega), Option.bind_some,
        add32_eq (show g - 1 - 101 + 1 < 2 ^ 32 by omega)]
      exact ⟨_, rfl, by simp only [IsPool]; omega⟩
    · exact ⟨_, rfl, by simp only [IsPool]; omega⟩
  · rw [if_neg hin]
    exact ⟨_, rfl, by simp only [IsPool]; omega⟩

theorem dhcpRange_isPool_top : ∃ r, dhcpRange ⟨.v4 0xffffff00#32, 24, 32⟩ (.v4 0xffffff7f#32) =
    some r ∧ IsPool 0xffffff00 0xffffffff 0xffffff7f r :=
  @dhcpRange_isPool ⟨.v4 0xffffff00#32, 24, 32⟩ _ _ rfl rfl (by decide) (by decide)

end MinimalRouter.Recovery
