import MinimalRouter.Auth.Revocation

namespace MinimalRouter.Auth

open Goish Config Lib Lib.Prog Lib.Result

variable {id : String} {w : World}

/-- The times of a copy of a session: in the cache, with a login that will put it there, or stored. -/
inductive World.Copy (b : Basis) (w : World) (id : String) (createdAt lastSeen : Time) : Prop
  | cached (h : w.manager.sessions id = some s) (hc : s.createdAt = createdAt)
      (hl : s.lastSeen = lastSeen)
  | creating (h : s ∈ w.creating) (hid : s.id = id) (hc : s.createdAt = createdAt)
      (hl : s.lastSeen = lastSeen)
  | stored (h : w.db.sessions (b.sessionLookupKey id) = some row) (hc : row.createdAt = createdAt)
      (hl : row.lastSeen = lastSeen)

def Database.Textual (db : Database) : Prop :=
  ∀ key row, db.sessions key = some row → row.createdAt.mono = none ∧ row.lastSeen.mono = none

inductive Origin (b : Basis) (w : World) (e : Event) (id : String) (c l : Time) : Prop
  | kept (h : w.Copy b id c l)
  | refreshed (h : w.Copy b id c l') (ht : (id, t) ∈ w.refreshing) (hl : l = t.seconds)
  | created (h : e.creates = some s) (hid : s.id = id)
      (ht : c = s.createdAt ∧ l = s.lastSeen ∨ c = s.createdAt.seconds ∧ l = s.lastSeen.seconds)
  | accepted (h : e.accepts = some (id, s)) (hcopy : w.Copy b id c l') (hl : l = s.lastSeen)

structure Redates (b : Basis) (w : World) (e : Event) (w' : World) : Prop where
  copies : ∀ id c l, w'.Copy b id c l → Origin b w e id c l
  refreshing : ∀ id t, (id, t) ∈ w'.refreshing →
    (id, t) ∈ w.refreshing ∨ ∃ s, e.accepts = some (id, s) ∧ t = s.lastSeen
  accepts : ∀ id s, e.accepts = some (id, s) →
    ∃ l, w.Copy b id s.createdAt l ∧ expired s.createdAt l s.lastSeen = false
  creates : ∀ s, e.creates = some s → s.id ∈ e.drew ∧ s.lastSeen = s.createdAt
  textual : w.db.Textual → w'.db.Textual

theorem Created.textual (h : Created b w.db s ⟨db, drew⟩) (htext : w.db.Textual) : db.Textual := by
  intro key row hrow
  have hdb : db = w.db.setSession (b.sessionLookupKey s.id) (some (Database.rowOf s)) := h.row
  rw [hdb] at hrow
  rcases rows_setSession hrow with ⟨-, rfl⟩ | hrow
  · exact ⟨rfl, rfl⟩
  · exact htext key row hrow

theorem textual_updateSessionLastSeen {db : Database} (h : db.Textual) :
    (db.updateSessionLastSeen b id t).Textual := by
  intro key row hrow
  rcases rows_updateSessionLastSeen hrow with hrow | ⟨-, row', hrow', rfl⟩
  · exact h key row hrow
  · exact ⟨(h key row' hrow').1, rfl⟩

theorem Accepted.exists_copy (h : Accepted b w.manager w.db id s) :
    ∃ l, w.Copy b id s.createdAt l ∧ expired s.createdAt l s.lastSeen = false := by
  rcases h.copy with ⟨c, hc, -, hsame, hvalid⟩ | ⟨row, hrow, -, hsame, hvalid⟩
  · exact ⟨c.lastSeen, .cached hc hsame rfl, hsame ▸ hvalid⟩
  · exact ⟨row.lastSeen, .stored hrow hsame rfl, hsame ▸ hvalid⟩

theorem origin_of_changes (hkey : b.sessionLookupKey.Injective) (h : Changes b w e w')
    (hcopy : w'.Copy b id c l) : Origin b w e id c l := by
  cases h with
  | fewer h =>
    cases hcopy with
    | stored hrow hc hl => exact .kept (.stored (h.db.rows _ _ hrow) hc hl)
    | creating hs hid hc hl => exact .kept (.creating (h.creating _ hs) hid hc hl)
    | cached hs hc hl =>
      rcases h.cache _ _ hs with hs | ⟨hs, hid⟩
      · exact .kept (.cached hs hc hl)
      · exact .kept (.creating hs hid hc hl)
  | created h _ _ hcreates hcache hcreating _ =>
    cases hcopy with
    | cached hs hc hl =>
      rcases hcache _ _ hs with hs | ⟨rfl, rfl⟩
      · exact .kept (.cached hs hc hl)
      · exact .created hcreates rfl (.inl ⟨hc.symm, hl.symm⟩)
    | creating hs hid hc hl =>
      rcases hcreating _ hs with hs | rfl
      · exact .kept (.creating hs hid hc hl)
      · exact .created hcreates hid (.inl ⟨hc.symm, hl.symm⟩)
    | stored hrow hc hl =>
      rcases h.rows hkey hrow with ⟨rfl, rfl⟩ | hrow
      · exact .created hcreates rfl (.inr ⟨hc.symm, hl.symm⟩)
      · exact .kept (.stored hrow hc hl)
  | accepted h haccepts _ hdb hcache hcreating _ =>
    cases hcopy with
    | stored hrow hc hl => exact .kept (.stored (hdb ▸ hrow) hc hl)
    | creating hs hid hc hl => exact .kept (.creating (hcreating ▸ hs) hid hc hl)
    | cached hs hc hl =>
      rcases hcache _ _ hs with hs | ⟨rfl, rfl⟩
      · exact .kept (.cached hs hc hl)
      · obtain ⟨_, hcopy, -⟩ := h.exists_copy
        exact .accepted haccepts (hc ▸ hcopy) hl.symm
  | refreshed ht _ _ hdb hcache hcreating =>
    cases hcopy with
    | cached hs hc hl => exact .kept (.cached (hcache ▸ hs) hc hl)
    | creating hs hid hc hl => exact .kept (.creating (hcreating ▸ hs) hid hc hl)
    | stored hrow hc hl =>
      rw [hdb] at hrow
      rcases rows_updateSessionLastSeen hrow with hrow | ⟨hid, _, hrow', rfl⟩
      · exact .kept (.stored hrow hc hl)
      · cases hkey hid
        exact .refreshed (.stored hrow' hc rfl) ht hl.symm

theorem redates_of_steps (hkey : b.sessionLookupKey.Injective) (h : Steps b w e w') :
    Redates b w e w' := by
  have hchanges := changes_of_steps h
  have hcopies : ∀ id c l, w'.Copy b id c l → Origin b w e id c l :=
    fun _ _ _ => origin_of_changes hkey hchanges
  cases hchanges with
  | fewer h haccepts hcreates =>
    refine ⟨hcopies, fun id t ht => .inl (h.refreshing _ ht), fun id s hs => ?_, fun s hs => ?_, ?_⟩
    · cases haccepts.symm.trans hs
    · cases hcreates.symm.trans hs
    · exact fun htext key row hrow => htext key row (h.db.rows key row hrow)
  | created h hnew haccepts hcreates _ _ hrefreshing =>
    refine ⟨hcopies, fun id t ht => .inl (hrefreshing ▸ ht), fun id s hs => ?_, fun s hs => ?_,
      h.textual⟩
    · cases haccepts.symm.trans hs
    · cases hcreates.symm.trans hs
      exact ⟨h.drawn, hnew⟩
  | accepted h haccepts hcreates hdb _ _ hrefreshing =>
    refine ⟨hcopies, fun id t ht => ?_, fun id s hs => ?_, fun s hs => ?_, fun htext => hdb ▸ htext⟩
    · rcases hrefreshing _ ht with ht | heq
      · exact .inl ht
      · cases heq
        exact .inr ⟨_, haccepts, rfl⟩
    · cases haccepts.symm.trans hs
      exact h.exists_copy
    · cases hcreates.symm.trans hs
  | refreshed _ haccepts hcreates hdb _ _ hrefreshing =>
    refine ⟨hcopies, fun id t ht => .inl (hrefreshing _ ht), fun id s hs => ?_, fun s hs => ?_, ?_⟩
    · cases haccepts.symm.trans hs
    · cases hcreates.symm.trans hs
    · exact fun htext => hdb ▸ textual_updateSessionLastSeen htext

structure Moment where
  reading : Reading
  elapsed : Nat

/-- Moments of one process.  No clock is set back: each advances at least by the time that passes. -/
structure Ticks (a b : Moment) : Prop where
  elapsed : a.elapsed ≤ b.elapsed
  wall : (b.elapsed : Int) - a.elapsed ≤ b.reading.wall - a.reading.wall
  mono : (b.elapsed : Int) - a.elapsed ≤ b.reading.mono - a.reading.mono

theorem Ticks.refl (m : Moment) : Ticks m m := ⟨Nat.le_refl _, by omega, by omega⟩

structure Past (t : Time) (start : Nat) (m : Moment) : Prop where
  wall : (m.elapsed : Int) - start ≤ m.reading.wall - t.wall
  mono : ∀ k, t.mono = some k → (m.elapsed : Int) - start ≤ m.reading.mono - k

theorem Past.ticks (h : Past t start m) (hticks : Ticks m m') : Past t start m' := by
  have hwall := h.wall
  have hticksWall := hticks.wall
  refine ⟨by omega, fun k hk => ?_⟩
  have hmono := h.mono k hk
  have hticksMono := hticks.mono
  omega

theorem Past.later (h : Past t start m) (hle : start ≤ start') : Past t start' m := by
  have hwall := h.wall
  refine ⟨by omega, fun k hk => ?_⟩
  have hmono := h.mono k hk
  omega

theorem Past.now (m : Moment) : Past m.reading.now m.elapsed m := by
  refine ⟨by simp [Reading.now], fun k hk => ?_⟩
  cases hk
  omega

theorem Past.seconds (h : Past t start m) : Past t.seconds start m := by
  have hwall := h.wall
  refine ⟨?_, nofun⟩
  simp only [Time.seconds]
  omega

theorem Past.restart (h : Past t start m) (ht : t.mono = none)
    (hwall : (m'.elapsed : Int) - m.elapsed ≤ m'.reading.wall - m.reading.wall) : Past t start m' := by
  have hpast := h.wall
  refine ⟨by omega, fun k hk => ?_⟩
  rw [ht] at hk
  cases hk

theorem Past.le_of_sub (h : Past t start m) (hd : d < 2 ^ 63 - 1) (hsub : m.reading.now.sub t ≤ d) :
    (m.elapsed : Int) - start ≤ d := by
  have hwall := h.wall
  unfold Time.sub at hsub
  cases hmono : t.mono with
  | none =>
    simp only [Reading.now, hmono] at hsub
    have hle := Int.le_trans (Int.le_max_right _ _) hsub
    rcases Int.le_total (2 ^ 63 - 1) (m.reading.wall - t.wall) with hfar | hnear
    · rw [Int.min_eq_left hfar] at hle
      exact absurd hd (Int.not_lt.mpr hle)
    · rw [Int.min_eq_right hnear] at hle
      exact Int.le_trans hwall hle
  | some k =>
    simp only [Reading.now, hmono] at hsub
    exact Int.le_trans (h.mono k hmono) hsub

section Runs

structure Clocked where
  world : World
  now : Moment

structure ClockedEvent where
  event : Event
  read : Moment

/-- The steps with the clock.  A validation reads it under the lock of the manager; a login may have
read it some time before its row is stored. -/
inductive ClockedStep (b : Basis) (s : Clocked) : ClockedEvent → Clocked → Prop
  | step {read now : Moment} (h : Steps b s.world e world)
      (hop : e.op ≠ .restart) (hticks : Ticks s.now now) (hread : Ticks read now)
      (hcreates : ∀ x, e.creates = some x → x.createdAt = read.reading.now)
      (haccepts : ∀ id x, e.accepts = some (id, x) → x.lastSeen = read.reading.now ∧ read = now) :
      ClockedStep b s ⟨e, read⟩ ⟨world, now⟩
  | restart {read now : Moment} (helapsed : s.now.elapsed ≤ now.elapsed)
      (hwall : (now.elapsed : Int) - s.now.elapsed ≤ now.reading.wall - s.now.reading.wall) :
      ClockedStep b s ⟨⟨.restart, [], .none⟩, read⟩ ⟨{ db := s.world.db }, now⟩

abbrev ClockedHistory := List (Transition Clocked ClockedEvent)

def ClockedEvent.creates (id : String) (e : ClockedEvent) : Option Nat :=
  (e.event.creates.filter fun s => decide (s.id = id)).map fun _ => e.read.elapsed

def ClockedEvent.accepts (id : String) (e : ClockedEvent) : Option Nat :=
  (e.event.accepts.filter fun s => decide (s.1 = id)).map fun _ => e.read.elapsed

def ClockedEvent.uses (id : String) (e : ClockedEvent) : Option Nat := (e.creates id).or (e.accepts id)

def latest (f : ClockedEvent → Option Nat) (steps : ClockedHistory) : Option Nat :=
  steps.foldl (fun last e => (f e.label).or last) none

theorem latest_snoc : latest f (past ++ [e]) = (f e.label).or (latest f past) := by
  unfold latest
  rw [List.foldl_append]
  rfl

def DrawnOnce (steps : ClockedHistory) : Prop :=
  ∀ past e rest, steps = past ++ e :: rest →
    ∀ id ∈ e.label.event.drew, ∀ m ∈ past, id ∉ m.label.event.drew

structure Aged (b : Basis) (id : String) (past : ClockedHistory) (s : Clocked) : Prop where
  copies : ∀ c l, s.world.Copy b id c l → ∃ k p, latest (·.creates id) past = some k ∧
    latest (·.uses id) past = some p ∧ Past c k s.now ∧ Past l p s.now
  refreshing : ∀ t, (id, t) ∈ s.world.refreshing → ∃ k p, latest (·.creates id) past = some k ∧
    latest (·.uses id) past = some p ∧ Past t p s.now
  uses : ∀ p, latest (·.uses id) past = some p → p ≤ s.now.elapsed
  drawn : ∀ k, latest (·.creates id) past = some k → ∃ m ∈ past, id ∈ m.label.event.drew
  textual : s.world.db.Textual

variable {label : ClockedEvent}

theorem latest_of_not_creates (past : ClockedHistory) (s s' : Clocked) (hnot : label.creates id = none) :
    latest (·.creates id) (past ++ [⟨s, label, s'⟩]) = latest (·.creates id) past ∧
      latest (·.uses id) (past ++ [⟨s, label, s'⟩]) = (label.accepts id).or (latest (·.uses id) past) := by
  rw [latest_snoc, latest_snoc]
  simp [ClockedEvent.uses, hnot]

theorem creates_eq_none (h : label.creates id = none) (hx : label.event.creates = some x) :
    x.id ≠ id := by
  rintro rfl
  simp [ClockedEvent.creates, hx] at h

theorem accepts_eq_some (h : label.event.accepts = some (id, x)) :
    label.accepts id = some label.read.elapsed := by
  simp [ClockedEvent.accepts, h]

theorem Aged.later {read : Moment} (h : Aged b id past s)
    (hstep : ClockedStep b s ⟨e, read⟩ ⟨world, now⟩) (hp : latest (·.uses id) past = some p) :
    ∃ p', ((ClockedEvent.accepts id ⟨e, read⟩).or (latest (·.uses id) past)) = some p' ∧ p ≤ p' := by
  cases haccepts : ClockedEvent.accepts id ⟨e, read⟩ with
  | none => exact ⟨p, hp, Nat.le_refl p⟩
  | some =>
    obtain ⟨⟨id', x⟩, hx, rfl⟩ := Option.map_eq_some_iff.mp haccepts
    obtain ⟨hx, -⟩ := Option.filter_eq_some_iff.mp hx
    refine ⟨_, rfl, ?_⟩
    cases hstep with
    | restart => cases hx
    | step _ _ hticks _ _ hread =>
      obtain ⟨-, rfl⟩ := hread id' x hx
      exact Nat.le_trans (h.uses p hp) hticks.elapsed

theorem Aged.restart {read : Moment} (h : Aged b id past s) (helapsed : s.now.elapsed ≤ now.elapsed)
    (hwall : (now.elapsed : Int) - s.now.elapsed ≤ now.reading.wall - s.now.reading.wall) :
    Aged b id (past ++ [⟨s, ⟨⟨.restart, [], .none⟩, read⟩, ⟨{ db := s.world.db }, now⟩⟩])
      ⟨{ db := s.world.db }, now⟩ := by
  obtain ⟨hlatest, huses⟩ := latest_of_not_creates past s ⟨{ db := s.world.db }, now⟩
    (show ClockedEvent.creates id ⟨⟨.restart, [], .none⟩, read⟩ = none from rfl)
  refine ⟨fun c l hcopy => ?_, fun _ ht => (nomatch ht), fun p hp => ?_, fun k hk => ?_, h.textual⟩
  · cases hcopy with
    | cached hs | creating hs => cases hs
    | stored hrow hc hl =>
      obtain ⟨hcmono, hlmono⟩ := h.textual _ _ hrow
      obtain ⟨k, p, hk, hp, hck, hlp⟩ := h.copies c l (.stored hrow hc hl)
      rw [hlatest, huses]
      exact ⟨k, p, hk, hp, hck.restart (hc ▸ hcmono) hwall, hlp.restart (hl ▸ hlmono) hwall⟩
  · rw [huses] at hp
    exact Nat.le_trans (h.uses p hp) helapsed
  rw [hlatest] at hk
  obtain ⟨m, hm, hdrew⟩ := h.drawn k hk
  exact ⟨m, List.mem_append_left _ hm, hdrew⟩

section

variable {b : Basis} (hkey : b.sessionLookupKey.Injective)

include hkey

theorem drew_of_creates (h : Steps b w e w') {read : Moment}
    (hcreates : ClockedEvent.creates id ⟨e, read⟩ = some k) : id ∈ e.drew := by
  obtain ⟨x, hx, -⟩ := Option.map_eq_some_iff.mp hcreates
  obtain ⟨hx, hid⟩ := Option.filter_eq_some_iff.mp hx
  rw [← of_decide_eq_true hid]
  exact ((redates_of_steps hkey h).creates x hx).1

theorem Aged.created {read : Moment} (h : Aged b id past s)
    (hsteps : Steps b s.world e world) (hread : Ticks read now)
    (hcreated : ∀ x, e.creates = some x → x.createdAt = read.reading.now)
    (hfresh : ∀ m ∈ past, id ∉ m.label.event.drew)
    (hcreates : ClockedEvent.creates id ⟨e, read⟩ = some k) :
    Aged b id (past ++ [⟨s, ⟨e, read⟩, ⟨world, now⟩⟩]) ⟨world, now⟩ := by
  have hredates := redates_of_steps hkey hsteps
  have hnone : ∀ k, latest (·.creates id) past ≠ some k := by
    intro k hk
    obtain ⟨m, hm, hdrew⟩ := h.drawn k hk
    exact hfresh m hm hdrew
  have huncopied : ∀ c l, ¬ s.world.Copy b id c l := by
    intro c l hcopy
    obtain ⟨k, _, hk, _⟩ := h.copies c l hcopy
    exact hnone k hk
  obtain ⟨x, hx, rfl⟩ := Option.map_eq_some_iff.mp hcreates
  obtain ⟨hx, hid⟩ := Option.filter_eq_some_iff.mp hx
  have hlatest : latest (·.creates id) (past ++ [⟨s, ⟨e, read⟩, ⟨world, now⟩⟩]) = some read.elapsed := by
    rw [latest_snoc, hcreates, Option.some_or]
  have huses : latest (·.uses id) (past ++ [⟨s, ⟨e, read⟩, ⟨world, now⟩⟩]) = some read.elapsed := by
    rw [latest_snoc, ClockedEvent.uses, hcreates, Option.some_or, Option.some_or]
  have hpast : Past read.reading.now read.elapsed now := (Past.now read).ticks hread
  refine ⟨fun c l hcopy => ⟨_, _, hlatest, huses, ?_⟩, fun t ht => ?_, fun p hp => ?_, fun _ _ => ?_,
    hredates.textual h.textual⟩
  · cases hredates.copies id c l hcopy with
    | kept hcopy | refreshed hcopy _ _ | accepted _ hcopy _ => exact absurd hcopy (huncopied _ _)
    | @created y hy hid ht =>
      have hdate := hcreated y hy
      rw [(hredates.creates y hy).2, hdate] at ht
      rcases ht with ⟨rfl, rfl⟩ | ⟨rfl, rfl⟩
      · exact ⟨hpast, hpast⟩
      · exact ⟨hpast.seconds, hpast.seconds⟩
  · rcases hredates.refreshing id t ht with ht | ⟨y, hy, -⟩
    · obtain ⟨k, _, hk, _⟩ := h.refreshing t ht
      exact absurd hk (hnone k)
    · obtain ⟨l, hcopy, -⟩ := hredates.accepts id y hy
      exact absurd hcopy (huncopied _ _)
  · obtain rfl := Option.some.inj (huses.symm.trans hp)
    exact hread.elapsed
  · refine ⟨_, List.mem_append_right _ (List.mem_singleton_self _), ?_⟩
    exact drew_of_creates hkey hsteps hcreates

theorem Aged.kept {read : Moment} (h : Aged b id past s)
    (hsteps : Steps b s.world e world) (hop : e.op ≠ .restart) (hticks : Ticks s.now now)
    (hread : Ticks read now) (hcreated : ∀ x, e.creates = some x → x.createdAt = read.reading.now)
    (haccepted : ∀ id x, e.accepts = some (id, x) → x.lastSeen = read.reading.now ∧ read = now)
    (hcreates : ClockedEvent.creates id ⟨e, read⟩ = none) :
    Aged b id (past ++ [⟨s, ⟨e, read⟩, ⟨world, now⟩⟩]) ⟨world, now⟩ := by
  have hredates := redates_of_steps hkey hsteps
  have hstep : ClockedStep b s ⟨e, read⟩ ⟨world, now⟩ :=
    .step hsteps hop hticks hread hcreated haccepted
  obtain ⟨hlatest, huses⟩ := latest_of_not_creates past s ⟨world, now⟩ hcreates
  -- the time of a session that has just been accepted
  have hnow : ∀ x, e.accepts = some (id, x) →
      (ClockedEvent.accepts id ⟨e, read⟩).or (latest (·.uses id) past) = some now.elapsed ∧
        Past x.lastSeen now.elapsed now := by
    intro x hx
    obtain ⟨hlast, rfl⟩ := haccepted id x hx
    rw [accepts_eq_some hx, Option.some_or, hlast]
    exact ⟨rfl, Past.now read⟩
  refine ⟨fun c l hcopy => ?_, fun t ht => ?_, fun p hp => ?_, fun k hk => ?_,
    hredates.textual h.textual⟩
  · rw [hlatest, huses]
    cases hredates.copies id c l hcopy with
    | kept hcopy =>
      obtain ⟨k, p, hk, hp, hc, hl⟩ := h.copies c l hcopy
      obtain ⟨p', hp', hle⟩ := h.later hstep hp
      exact ⟨k, p', hk, hp', hc.ticks hticks, (hl.ticks hticks).later hle⟩
    | @refreshed l' t hcopy ht hl =>
      obtain ⟨k, p, hk, -, hc, -⟩ := h.copies c _ hcopy
      obtain ⟨-, p, -, hp, hl'⟩ := h.refreshing _ ht
      obtain ⟨p', hp', hle⟩ := h.later hstep hp
      rw [hl]
      exact ⟨k, p', hk, hp', hc.ticks hticks, ((hl'.ticks hticks).later hle).seconds⟩
    | created hx hid => exact absurd hid (creates_eq_none hcreates hx)
    | accepted hx hcopy hl =>
      obtain ⟨k, p, hk, -, hc, -⟩ := h.copies c _ hcopy
      obtain ⟨hp', hpast⟩ := hnow _ hx
      rw [hl]
      exact ⟨k, now.elapsed, hk, hp', hc.ticks hticks, hpast⟩
  · rw [hlatest, huses]
    rcases hredates.refreshing id t ht with ht | ⟨x, hx, rfl⟩
    · obtain ⟨k, p, hk, hp, hl⟩ := h.refreshing t ht
      obtain ⟨p', hp', hle⟩ := h.later hstep hp
      exact ⟨k, p', hk, hp', (hl.ticks hticks).later hle⟩
    obtain ⟨l, hcopy, -⟩ := hredates.accepts id x hx
    obtain ⟨k, -, hk, -, -, -⟩ := h.copies _ _ hcopy
    exact ⟨k, now.elapsed, hk, hnow x hx⟩
  · rw [huses] at hp
    cases haccepts : ClockedEvent.accepts id ⟨e, read⟩ with
    | none =>
      rw [haccepts, Option.none_or] at hp
      exact Nat.le_trans (h.uses p hp) hticks.elapsed
    | some =>
      rw [haccepts, Option.some_or] at hp
      cases hp
      obtain ⟨_, -, rfl⟩ := Option.map_eq_some_iff.mp haccepts
      exact hread.elapsed
  rw [hlatest] at hk
  obtain ⟨m, hm, hdrew⟩ := h.drawn k hk
  exact ⟨m, List.mem_append_left _ hm, hdrew⟩

theorem aged_of_path {steps : ClockedHistory}
    (hempty : ∀ key, db.sessions key = none) (hpath : Path (ClockedStep b) ⟨{ db }, start⟩ steps s)
    (hfresh : DrawnOnce steps) : Aged b id steps s := by
  refine Path.invariant (I := fun past s => Aged b id past s)
    (K := fun past e => ∀ id ∈ e.label.event.drew, ∀ m ∈ past, id ∉ m.label.event.drew)
    (fun past s label s' hI hK hstep => ?_) ?_ hpath hfresh
  · cases hstep with
    | restart helapsed hwall => exact hI.restart helapsed hwall
    | @step e world read now hsteps hop hticks hread hcreated haccepted =>
      cases hcreates : ClockedEvent.creates id ⟨e, read⟩ with
      | none => exact hI.kept hkey hsteps hop hticks hread hcreated haccepted hcreates
      | some =>
        have hdrew : id ∈ e.drew := drew_of_creates hkey hsteps hcreates
        exact hI.created hkey hsteps hread hcreated (hK id hdrew) hcreates
  refine ⟨fun c l hcopy => ?_, fun _ ht => (nomatch ht), nofun, nofun, fun key row hrow => ?_⟩
  · cases hcopy with
    | cached hs | creating hs => cases hs
    | stored hrow _ _ => cases (hempty _).symm.trans hrow
  · cases (hempty key).symm.trans hrow

theorem Aged.accepted (h : Aged b id past s)
    (hstep : ClockedStep b s label s') (haccepts : label.event.accepts = some (id, x)) :
    (∃ k, latest (·.creates id) past = some k ∧ (label.read.elapsed : Int) - k ≤ absoluteTimeout) ∧
      ∃ p, latest (·.uses id) past = some p ∧ (label.read.elapsed : Int) - p ≤ idleTimeout := by
  cases hstep with
  | restart => cases haccepts
  | step hsteps _ hticks _ _ haccepted =>
    obtain ⟨hlast, rfl⟩ := haccepted id x haccepts
    obtain ⟨l, hcopy, hvalid⟩ := (redates_of_steps hkey hsteps).accepts id x haccepts
    obtain ⟨k, p, hk, hp, hck, hlp⟩ := h.copies _ _ hcopy
    rw [expired, hlast, Bool.or_eq_false_iff, decide_eq_false_iff_not, decide_eq_false_iff_not,
      Int.not_lt, Int.not_lt] at hvalid
    exact ⟨⟨k, hk, (hck.ticks hticks).le_of_sub (by decide) hvalid.1⟩,
      ⟨p, hp, (hlp.ticks hticks).le_of_sub (by decide) hvalid.2⟩⟩

end

end Runs

/-- A session that is accepted was created within the last eight hours, and used or created within
the last half hour. -/
theorem session_lifetime (hkey : b.sessionLookupKey.Injective) {db : Database} {start : Moment}
    {steps past rest : ClockedHistory} {s : Clocked} {e : Transition Clocked ClockedEvent} {x : Session}
    (hempty : ∀ key, db.sessions key = none)
    (hpath : Path (ClockedStep b) ⟨{ db }, start⟩ steps s) (hfresh : DrawnOnce steps)
    (hsteps : steps = past ++ e :: rest) (haccepts : e.label.event.accepts = some (id, x)) :
    (∃ k, latest (·.creates id) past = some k ∧ (e.label.read.elapsed : Int) - k ≤ absoluteTimeout) ∧
      ∃ p, latest (·.uses id) past = some p ∧ (e.label.read.elapsed : Int) - p ≤ idleTimeout := by
  obtain ⟨hbefore, hstep⟩ := hpath.split hsteps
  have hpast : DrawnOnce past := fun before m after hm =>
    hfresh before m (after ++ e :: rest) (by rw [hsteps, hm, List.append_assoc, List.cons_append])
  have haged : Aged b id past e.before := aged_of_path hkey hempty hbefore hpast
  exact haged.accepted hkey hstep haccepts

def loginMoment : Moment := ⟨⟨1000000000, 0, 0⟩, 0⟩

def atLogin (e : Transition World Event) : Transition Clocked ClockedEvent :=
  ⟨⟨e.before, loginMoment⟩, ⟨e.label, loginMoment⟩, ⟨e.after, loginMoment⟩⟩

theorem clockedStep_atLogin (e : Transition World Event) (h : Steps .plain e.before e.label e.after)
    (hop : e.label.op ≠ .restart)
    (hcreates : e.label.creates.all (fun x => decide (x.createdAt = loginMoment.reading.now)) = true)
    (haccepts : e.label.accepts.all (fun x => decide (x.2.lastSeen = loginMoment.reading.now)) = true) :
    ClockedStep .plain (atLogin e).before (atLogin e).label (atLogin e).after := by
  refine .step h hop (.refl _) (.refl _) (fun x hx => ?_) fun id x hx => ⟨?_, rfl⟩
  · rw [hx] at hcreates
    exact of_decide_eq_true hcreates
  · rw [hx] at haccepts
    exact of_decide_eq_true haccepts

def firstRequest : ClockedHistory :=
  [atLogin loginStored, atLogin loggedIn, atLogin (loginValidated loggedIn.after)]

theorem drawnOnce_firstRequest : DrawnOnce firstRequest := by
  intro past e rest hsteps id hid m hm
  rcases past with _ | ⟨_, past⟩
  · cases hm
  obtain ⟨rfl, hrest⟩ := List.cons.inj hsteps
  have hmem : e ∈ [atLogin loggedIn, atLogin (loginValidated loggedIn.after)] := by
    rw [hrest]
    simp
  rcases List.mem_cons.mp hmem with rfl | hlast
  · cases hid
  · cases List.mem_singleton.mp hlast
    cases hid

theorem session_lifetime_at_firstRequest :
    ∃ p, latest (·.uses "login") [atLogin loginStored, atLogin loggedIn] = some p ∧
      (loginMoment.elapsed : Int) - p ≤ idleTimeout := by
  have hpath : Path (ClockedStep .plain) ⟨configured, loginMoment⟩ firstRequest
      (atLogin (loginValidated loggedIn.after)).after :=
    .cons (clockedStep_atLogin loginStored steps_loginStored (fun h => nomatch h) rfl rfl)
      (.cons (clockedStep_atLogin loggedIn (steps_loginCached creating_loginStored)
          (fun h => nomatch h) rfl rfl)
        (.single (clockedStep_atLogin (loginValidated loggedIn.after)
          (steps_loginValidated (by decide +kernel)) (fun h => nomatch h) rfl rfl)))
  have hsplit : firstRequest =
      [atLogin loginStored, atLogin loggedIn] ++ atLogin (loginValidated loggedIn.after) :: [] := rfl
  exact (session_lifetime (x := loginSession) (fun _ _ h => h) (fun _ => rfl) hpath
    drawnOnce_firstRequest hsplit rfl).2

end MinimalRouter.Auth
