import MinimalRouter.Slots.Atomic
import MinimalRouter.Slots.Durable

namespace MinimalRouter.Slots

open Goish Lib SlotManager
open Firmware (SlotState)

def rank (version : String) : Option ParsedReleaseVersion := (parseReleaseVersion version).toOption

def Below : Option ParsedReleaseVersion → Option ParsedReleaseVersion → Prop
  | none, _ => True
  | some _, none => False
  | some a, some b => (a.compare b).isLE = true

theorem Below.refl : Below a a := by
  cases a with
  | none => trivial
  | some => exact Std.ReflCmp.isLE_rfl

theorem Below.trans (hab : Below a b) (hbc : Below b c) : Below a c := by
  cases a with
  | none => trivial
  | some =>
    cases b with
    | none => cases hab
    | some =>
      cases c with
      | none => cases hbc
      | some => exact Std.TransCmp.isLE_trans hab hbc

theorem rank_empty : rank "" = none := by decide

theorem rank_of_pattern (h : releaseVersionPattern version = true) :
    ∃ parsed, parseReleaseVersion version = .ok parsed ∧ rank version = some parsed := by
  obtain ⟨parsed, hparsed, -⟩ := parse_of_pattern h
  exact ⟨parsed, hparsed, by rw [rank, hparsed]; rfl⟩

theorem compare_of_pattern (hl : releaseVersionPattern left = true)
    (hr : releaseVersionPattern right = true) : ∃ a b, rank left = some a ∧ rank right = some b ∧
      compareReleaseVersions left right = .ok (a.compare b) := by
  obtain ⟨a, ha, hra⟩ := rank_of_pattern hl
  obtain ⟨b, hb, hrb⟩ := rank_of_pattern hr
  exact ⟨a, b, hra, hrb, compareVersions_eq_ok.mpr ⟨a, ha, b, hb, rfl⟩⟩

theorem patterns_of_compare (h : compareReleaseVersions left right = .ok ordering) :
    releaseVersionPattern left = true ∧ releaseVersionPattern right = true := by
  obtain ⟨a, ha, b, hb, -⟩ := compareVersions_eq_ok.mp h
  exact ⟨pattern_of_parse ha, pattern_of_parse hb⟩

theorem highest_spec (ha : releaseVersionPattern a = true) (hb : releaseVersionPattern b = true):
    ∃ f, highest a b = .ok f ∧ releaseVersionPattern f = true ∧
      ∀ β, Below (rank f) β ↔ Below (rank a) β ∧ Below (rank b) β := by
  obtain ⟨pb, pa, hrb, hra, hcompare⟩ := compare_of_pattern hb ha
  unfold highest
  rw [hcompare]
  by_cases hgt : pb.compare pa = .gt
  · refine ⟨b, congrArg Except.ok (if_pos hgt), hb, fun β => ⟨fun h => ⟨?_, h⟩, And.right⟩⟩
    refine Below.trans ?_ h
    rw [hra, hrb]
    exact Ordering.isLE_of_eq_lt (Std.OrientedCmp.lt_of_gt hgt)
  refine ⟨a, congrArg Except.ok (if_neg hgt), ha, fun β => ⟨fun h => ⟨h, ?_⟩, And.left⟩⟩
  refine Below.trans ?_ h
  rw [hra, hrb]
  exact Ordering.isLE_iff_ne_gt.mpr hgt

structure Versioned (state : SlotState) : Prop where
  minimum : Proper state.minimumVersion
  current : Proper state.current

def Caps (state : SlotState) (β : Option ParsedReleaseVersion) : Prop :=
  Below (rank state.minimumVersion) β ∧
    (isBootstrap state.current = false → Below (rank state.current) β)

theorem below_of_empty (h : version = "") : Below (rank version) β := by
  rw [h, rank_empty]
  trivial

theorem parse_minimum {state : SlotState} (h : Versioned state) :
    (if state.minimumVersion = "" then .ok ()
      else (parseReleaseVersion state.minimumVersion).map fun _ => ()) = Except.ok () := by
  split
  · rfl
  · next hne =>
    obtain ⟨_, hparsed, -⟩ := parse_of_pattern (h.minimum.resolve_left hne)
    rw [hparsed]
    rfl

theorem knownFloor_eq {state : SlotState} (h : Versioned state) :
    knownFloor state = if isBootstrap state.current = true ∨ state.current = "" then
        .ok state.minimumVersion else if state.minimumVersion = "" then .ok state.current
      else highest state.minimumVersion state.current := by
  unfold knownFloor upgradeFloor
  dsimp only
  rw [parse_minimum h]
  dsimp only
  by_cases hboot : isBootstrap state.current = true
  · have hnone : isBootstrap state.current = true ∨ state.current = "" := .inl hboot
    rw [if_pos hboot, if_pos hnone]
    by_cases hmin : state.minimumVersion = ""
    · rw [if_pos hmin, hmin]
    · rw [if_neg hmin]
  rw [if_neg hboot]
  by_cases hcurrent : state.current = ""
  · have hnone : isBootstrap state.current = true ∨ state.current = "" := .inr hcurrent
    rw [if_pos hcurrent, if_pos hnone]
  rw [if_neg hcurrent, if_neg (not_or.mpr ⟨hboot, hcurrent⟩)]
  by_cases hmin : state.minimumVersion = ""
  · obtain ⟨_, hparsed, -⟩ := parse_of_pattern (h.current.resolve_left hcurrent)
    rw [if_pos hmin, if_pos hmin, hparsed]
    rfl
  rw [if_neg hmin, if_neg hmin]
  cases highest state.minimumVersion state.current with
  | ok | error => rfl

theorem knownFloor_spec {state : SlotState} (h : Versioned state) :
    ∃ f, knownFloor state = .ok f ∧ Proper f ∧ ∀ β, Below (rank f) β ↔ Caps state β := by
  rw [knownFloor_eq h]
  by_cases hnone : isBootstrap state.current = true ∨ state.current = ""
  · rw [if_pos hnone]
    refine ⟨_, rfl, h.minimum, fun β => ⟨fun hb => ⟨hb, fun hno => ?_⟩, And.left⟩⟩
    rcases hnone with hboot | hempty
    · rw [hboot] at hno
      cases hno
    · exact below_of_empty hempty
  rw [if_neg hnone]
  obtain ⟨hboot, hcurrent⟩ := not_or.mp hnone
  have hpattern := h.current.resolve_left hcurrent
  by_cases hmin : state.minimumVersion = ""
  · rw [if_pos hmin]
    refine ⟨_, rfl, h.current, fun β => ⟨fun hb => ⟨below_of_empty hmin, fun _ => hb⟩, fun hb => ?_⟩⟩
    exact hb.2 (Bool.eq_false_iff.mpr hboot)
  rw [if_neg hmin]
  obtain ⟨f, hf, hfp, hbound⟩ := highest_spec (h.minimum.resolve_left hmin) hpattern
  refine ⟨f, hf, .inr hfp, fun β => (hbound β).trans ⟨fun hb => ⟨hb.1, fun _ => hb.2⟩, fun hb => ?_⟩⟩
  exact ⟨hb.1, hb.2 (Bool.eq_false_iff.mpr hboot)⟩

theorem withFloor_spec {state : SlotState} (h : Proper state.minimumVersion)
    (hintent : ∀ i, installation = some i → Proper i.minimumVersion) :
    ∃ state', withFloor installation state = .ok state' ∧ state'.current = state.current ∧
      Proper state'.minimumVersion ∧ ∀ β, Below (rank state'.minimumVersion) β ↔
        Below (rank state.minimumVersion) β ∧
          ∀ i, installation = some i → Below (rank i.minimumVersion) β := by
  unfold withFloor
  cases installation with
  | none => exact ⟨_, rfl, rfl, h, fun β => ⟨fun hb => ⟨hb, nofun⟩, And.left⟩⟩
  | some i =>
  have hforall : ∀ β, (∀ i', some i = some i' → Below (rank i'.minimumVersion) β) ↔
      Below (rank i.minimumVersion) β := fun β =>
    ⟨fun hall => hall i rfl, fun hb i' hi' => by cases hi'; exact hb⟩
  simp only [hforall]
  unfold withIntent
  dsimp only
  by_cases hi : i.minimumVersion = ""
  · rw [if_pos hi]
    exact ⟨_, rfl, rfl, h, fun β => ⟨fun hb => ⟨hb, below_of_empty hi⟩, And.left⟩⟩
  have hpattern := (hintent i rfl).resolve_left hi
  obtain ⟨_, hparsed, -⟩ := parse_of_pattern hpattern
  rw [if_neg hi, hparsed]
  dsimp only
  by_cases hmin : state.minimumVersion = ""
  · rw [if_pos hmin]
    exact ⟨_, rfl, rfl, .inr hpattern, fun β => ⟨fun hb => ⟨below_of_empty hmin, hb⟩, And.right⟩⟩
  rw [if_neg hmin]
  obtain ⟨f, hf, hfp, hbound⟩ := highest_spec (h.resolve_left hmin) hpattern
  rw [hf]
  exact ⟨_, rfl, rfl, .inr hfp, hbound⟩

theorem below_of_atLeast (h : atLeast version floor lowered = .ok u) :
    Below (rank floor) (rank version) := by
  unfold atLeast at h
  split at h
  · next hempty => exact below_of_empty hempty
  split at h
  · cases h
  next c hc =>
  split at h
  · cases h
  next hlt =>
  obtain ⟨hv, hf⟩ := patterns_of_compare hc
  obtain ⟨a, b, ha, hb, hcompare⟩ := compare_of_pattern hv hf
  obtain rfl : a.compare b = c := Except.ok.inj (hcompare.symm.trans hc)
  rw [ha, hb]
  refine Ordering.isLE_iff_ne_gt.mpr fun hgt => hlt (Std.OrientedCmp.lt_of_gt hgt)

theorem below_of_installationMinimum {state : SlotState} (hf : knownFloor state = .ok f)
    (h : installationMinimum state proposed = .ok minimum) :
    Below (rank f) (rank minimum) ∧ Proper minimum := by
  unfold installationMinimum at h
  rw [hf] at h
  dsimp only at h
  split at h
  · split at h
    · next hempty =>
      cases h
      exact ⟨below_of_empty hempty, .inl rfl⟩
    · cases h
  split at h
  · cases h
  next parsed hparsed =>
  obtain ⟨u, hlast, rfl⟩ := Result.map_eq_ok.mp h
  exact ⟨below_of_atLeast hlast, .inr (pattern_of_parse hparsed)⟩

theorem floor_of_valid {o : SlotOperation} (h : o.Valid) (hf : knownFloor o.old = .ok f) :
    Below (rank f) (rank o.next.minimumVersion) ∧
      (o.kind = "activate" → validateForwardUpgrade o.next.current f = .ok ()) := by
  have hfloor := h.floor
  have hold : ∀ f', oldFloor o = .ok f' → f' = f := by
    intro f' hf'
    unfold oldFloor at hf'
    split at hf'
    · exact Except.ok.inj (hf'.symm.trans hf)
    have hup := Result.mapError_eq_ok.mp hf'
    unfold knownFloor at hf
    rw [hup] at hf
    exact Except.ok.inj hf
  unfold validateFloor at hfloor
  dsimp only at hfloor
  split at hfloor
  · cases hfloor
  next f' hf' =>
  obtain rfl := hold f' hf'
  split at hfloor
  · cases hfloor
  split at hfloor
  · cases hfloor
  next hlast =>
  refine ⟨below_of_atLeast hlast, fun hkind => ?_⟩
  rw [if_pos hkind] at hfloor
  exact hfloor

section Roots

variable {b : Root}

def base (r : Root) : SlotState :=
  match r.operation with
  | none => r.state.getD {}
  | some o => selected o r

def observed (r : Root) : Except String SlotState :=
  match r.operation with
  | none => observe r
  | some o => withFloor r.installation (selected o r)

structure Floored (r : Root) : Prop where
  base : Versioned (base r)
  intent : ∀ i, r.installation = some i → Proper i.minimumVersion

structure Bounds (r : Root) (β : Option ParsedReleaseVersion) : Prop where
  base : Caps (base r) β
  intent : ∀ i, r.installation = some i → Below (rank i.minimumVersion) β

structure Shows (r : Root) (state : SlotState) (f : String) : Prop where
  current : state.current = (Slots.base r).current
  versioned : Versioned state
  minimum : ∀ β, Below (rank state.minimumVersion) β ↔
    Below (rank (Slots.base r).minimumVersion) β ∧
      ∀ i, r.installation = some i → Below (rank i.minimumVersion) β
  floor : knownFloor state = .ok f
  proper : Proper f
  bounds : ∀ β, Below (rank f) β ↔ Bounds r β

theorem shows_of_withFloor {state : SlotState} (h : Floored r)
    (hcurrent : state.current = (base r).current)
    (hminimum : state.minimumVersion = (base r).minimumVersion) :
    ∃ state' f, withFloor r.installation state = .ok state' ∧ Shows r state' f := by
  have hproper : Proper state.minimumVersion := hminimum ▸ h.base.minimum
  obtain ⟨state', hstate', hcurrent', hproper', hbound⟩ := withFloor_spec hproper h.intent
  have hversioned : Versioned state' := ⟨hproper', by rw [hcurrent', hcurrent]; exact h.base.current⟩
  obtain ⟨f, hf, hfp, hfloor⟩ := knownFloor_spec hversioned
  rw [hminimum] at hbound
  refine ⟨state', f, hstate', hcurrent'.trans hcurrent, hversioned, hbound, hf, hfp, fun β => ?_⟩
  rw [hfloor β, Caps, hbound β, hcurrent', hcurrent]
  exact ⟨fun ⟨⟨hm, hi⟩, hc⟩ => ⟨⟨hm, hc⟩, hi⟩, fun ⟨⟨hm, hc⟩, hi⟩ => ⟨⟨hm, hi⟩, hc⟩⟩

theorem exists_shows (h : Floored r) : ∃ state f, observed r = .ok state ∧ Shows r state f := by
  cases ho : r.operation with
  | none =>
    have hbase : base r = r.state.getD {} := by rw [base, ho]
    obtain ⟨state, f, hstate, hshows⟩ : ∃ state f, observe r = .ok state ∧ Shows r state f :=
      shows_of_withFloor h (by rw [hbase]) (by rw [hbase])
    exact ⟨state, f, by rw [observed, ho]; exact hstate, hshows⟩
  | some o =>
    have hbase : base r = selected o r := by rw [base, ho]
    obtain ⟨state, f, hstate, hshows⟩ := shows_of_withFloor h (congrArg SlotState.current hbase.symm)
      (congrArg SlotState.minimumVersion hbase.symm)
    exact ⟨state, f, by rw [observed, ho]; exact hstate, hshows⟩

theorem base_recovered (r : Root) : base (recovered r) = base r := by
  unfold recovered
  cases ho : r.operation with
  | none => rfl
  | some => simp only [base, ho, settledRoot, Option.getD_some]

theorem installation_recovered (r : Root) : (recovered r).installation = r.installation := by
  unfold recovered
  cases ho : r.operation with
  | none | some => rfl

theorem bounds_recovered : Bounds (recovered r) β ↔ Bounds r β := by
  constructor
  · rintro ⟨hbase, hintent⟩
    exact ⟨base_recovered r ▸ hbase, installation_recovered r ▸ hintent⟩
  · rintro ⟨hbase, hintent⟩
    exact ⟨(base_recovered r).symm ▸ hbase, (installation_recovered r).symm ▸ hintent⟩

theorem Floored.recovered (h : Floored r) : Floored (recovered r) :=
  ⟨(base_recovered r).symm ▸ h.base, (installation_recovered r).symm ▸ h.intent⟩

theorem Moment.base {S : SlotState → Prop} (h : Moment o S b r) :
    S (base r) ∧ o.Valid ∧ r.installation = b.installation := by
  cases h with
  | under h hstate hfence =>
    refine ⟨?_, h.valid, hfence⟩
    rw [Slots.base, h.operation]
    exact hstate
  | settled state hstate h hvalid hfence =>
    refine ⟨?_, hvalid, hfence⟩
    rw [Slots.base, h.operation, h.file]
    exact hstate

theorem Floored.of_moment (hb : Floored b) (hS : ∀ state, S state → o.Sides state)
    (h : Moment o S b r) : Floored r := by
  obtain ⟨hstate, hvalid, hfence⟩ := h.base
  have hjournal := hvalid.journalState (hS _ hstate)
  exact ⟨⟨hjournal.minimum, hjournal.current⟩, hfence ▸ hb.intent⟩

theorem shows_observe (h : Floored b) (hnone : b.operation = none) (hold : observe b = .ok old) :
    ∃ f, Shows b old f := by
  obtain ⟨state, f, hstate, hshows⟩ := exists_shows h
  rw [observed, hnone] at hstate
  obtain rfl : state = old := Except.ok.inj (hstate.symm.trans hold)
  exact ⟨f, hshows⟩

theorem Shows.bounds_of_base (h : Shows b old f) (hcurrent : (Slots.base r).current = old.current)
    (hminimum : (Slots.base r).minimumVersion = old.minimumVersion) (hr : Bounds r β) :
    Bounds b β := by
  obtain ⟨⟨hm, hc⟩, -⟩ := hr
  rw [hminimum, h.minimum β] at hm
  rw [hcurrent, h.current] at hc
  exact ⟨⟨hm.1, hc⟩, hm.2⟩

theorem base_putState {state : SlotState} (h : b.operation = none) :
    base (b.put (.state state)) = state := by
  change (match b.operation with | none => state | some o => selected o _) = state
  rw [h]

theorem Notes.raises (hb : Floored b) (hnone : b.operation = none) (hold : observe b = .ok old)
    (hd : Notes old c d) : Floored (b.put d) ∧ ∀ β, Bounds (b.put d) β → Bounds b β := by
  obtain ⟨f, hshows⟩ := shows_observe hb hnone hold
  have hmark : ∀ pending, Floored (b.put (.state { old with pending })) ∧
      ∀ β, Bounds (b.put (.state { old with pending })) β → Bounds b β := by
    intro pending
    have hbase : base (b.put (.state { old with pending })) = { old with pending } :=
      base_putState hnone
    refine ⟨⟨?_, hb.intent⟩, fun β => hshows.bounds_of_base ?_ ?_⟩
    · rw [hbase]
      exact ⟨hshows.versioned.minimum, hshows.versioned.current⟩
    · rw [hbase]
    · rw [hbase]
  cases hd with
  | stage | activate => exact hmark _
  | @begin _ minimum hminimum =>
    obtain ⟨hraised, hproper⟩ := below_of_installationMinimum hshows.floor hminimum
    refine ⟨⟨hb.base, ?_⟩, fun β hbounds => ?_⟩
    · rintro i ⟨⟩
      exact hproper
    have hintent : Below (rank minimum) β := hbounds.intent { minimumVersion := minimum } rfl
    rw [← hshows.bounds β]
    exact hraised.trans hintent

theorem eq_now {s : Store} (hpast : s.root.past = []) (h : b ∈ s.root.views) : b = s.root.now := by
  rw [Directory.views, hpast] at h
  exact List.mem_singleton.mp h

theorem Leaves.raises (hpast : s.root.past = []) (hsound : Sound s.root.now)
    (hfloored : Floored s.root.now) (h : Leaves crypto c s r) :
    Floored r ∧ ∀ β, Bounds r β → Bounds s.root.now β := by
  have hnone := hsound.recovered.operation
  have hb := hfloored.recovered
  cases h with
  | untouched h =>
    obtain rfl := eq_now hpast h
    exact ⟨hfloored, fun _ => id⟩
  | @recovering b _ o hmem ho h =>
    obtain rfl := eq_now hpast hmem
    refine ⟨hfloored.of_moment sides_of_selected h, fun β hbounds => ?_⟩
    obtain ⟨hstate, -, hfence⟩ := h.base
    have hbase : Slots.base r = Slots.base s.root.now := by rw [hstate, Slots.base, ho]
    exact ⟨hbase ▸ hbounds.base, hfence ▸ hbounds.intent⟩
  | @operating _ old o hold ho h =>
    refine ⟨hb.of_moment (fun _ => id) h, fun β hbounds => bounds_recovered.mp ?_⟩
    obtain ⟨f, hshows⟩ := shows_observe hb hnone hold
    obtain ⟨hstate, hvalid, -⟩ := h.base
    have hoold : o.old = old := by cases ho <;> rfl
    rcases hstate with hstate | hstate
    · exact hshows.bounds_of_base (by rw [hstate, hoold]) (by rw [hstate, hoold]) hbounds
    have hraised := (floor_of_valid hvalid (hoold ▸ hshows.floor)).1
    rw [← hshows.bounds β]
    exact hraised.trans (hstate ▸ hbounds.base.1)
  | noted hold hd =>
    obtain ⟨hput, hbounds⟩ := hd.raises hb hnone hold
    exact ⟨hput, fun β hβ => bounds_recovered.mp (hbounds β hβ)⟩
  | @installed old o _ _ _ hold ho hvalid =>
    obtain ⟨f, hshows⟩ := shows_observe hb hnone hold
    have hoold : o.old = old := by cases ho <;> rfl
    refine ⟨⟨⟨hvalid.next.minimum, hvalid.next.current⟩, nofun⟩, fun β hbounds =>
      bounds_recovered.mp ?_⟩
    have hraised := (floor_of_valid hvalid (hoold ▸ hshows.floor)).1
    rw [← hshows.bounds β]
    exact hraised.trans hbounds.base.1

theorem Leaves.activates (hpast : s.root.past = []) (hsound : Sound s.root.now)
    (hfloored : Floored s.root.now) (h : Leaves crypto (.activate version) s r)
    (hr : (base r).current = version) (hs : (base s.root.now).current ≠ version) :
    ∃ f, (∀ β, Below (rank f) β ↔ Bounds s.root.now β) ∧
      validateForwardUpgrade version f = .ok () := by
  have hnone := hsound.recovered.operation
  have hb := hfloored.recovered
  cases h with
  | untouched h =>
    obtain rfl := eq_now hpast h
    exact absurd hr hs
  | @recovering b _ o hmem ho h =>
    obtain rfl := eq_now hpast hmem
    have hbase : Slots.base r = Slots.base s.root.now := by rw [h.base.1, Slots.base, ho]
    exact absurd (hbase ▸ hr) hs
  | @operating _ old o hold ho h =>
    obtain ⟨f, hshows⟩ := shows_observe hb hnone hold
    obtain ⟨hstate, hvalid, -⟩ := h.base
    cases ho with
    | activate =>
      rcases hstate with hstate | hstate
      · rw [hstate, hshows.current, base_recovered] at hr
        exact absurd hr hs
      · exact ⟨f, fun β => (hshows.bounds β).trans bounds_recovered,
          (floor_of_valid hvalid hshows.floor).2 rfl⟩
  | noted hold hd =>
    obtain ⟨f, hshows⟩ := shows_observe hb hnone hold
    cases hd with
    | activate =>
      rw [base_putState hnone] at hr
      rw [← base_recovered, ← hshows.current] at hs
      exact absurd rfl hs
  | installed hc => cases hc

end Roots

/-- A command whose synchronisations succeed and that has come to its end, with success or not, or
has been cut off by a crash. -/
inductive Passes (digest : List UInt8 → List UInt8) (m : SlotManager) (crypto : Crypto)
    (arch : String) (c : Command) (s t : Store) : Prop
  | ended (h : Prog.Runs (Durable digest) (c.program m crypto arch) s result t)
  | crashed (h : Prog.Cut (Durable digest) Interrupts (c.program m crypto arch) s u)
      (hcrash : u.Crash t)

theorem Passes.after (h : Passes digest m crypto arch c s t) : After digest m crypto arch c s t := by
  cases h with
  | ended h => exact .ended (h.mono fun _ _ _ _ => And.left)
  | crashed h hcrash => exact .crashed (h.mono fun _ _ _ _ => And.left) hcrash

theorem Passes.past (hs : s.root.past = []) (h : Passes digest m crypto arch c s t) :
    t.root.past = [] := by
  cases h with
  | ended h =>
    exact (settles_program s hs).ends (P := fun t => t.root.past = []) h (fun _ => id) id
  | crashed h hcrash => exact hcrash.root.2

/-- Between commands nothing is left to be synchronised, and the floor is known. -/
structure Quiet (s : Store) : Prop where
  past : s.root.past = []
  sound : Sound s.root.now
  floored : Floored s.root.now

theorem Quiet.views (h : Quiet s) : ∀ r ∈ s.root.views, Sound r := by
  rw [Directory.views, h.past]
  exact List.forall_mem_singleton.mpr h.sound

theorem Passes.leaves (hs : Quiet s) (h : Passes digest m crypto arch c s t) :
    Leaves crypto c s t.root.now := h.after.leaves hs.views _ List.mem_cons_self

theorem Passes.quiet (hs : Quiet s) (h : Passes digest m crypto arch c s t) :
    Quiet t ∧ ∀ β, Bounds t.root.now β → Bounds s.root.now β := by
  obtain ⟨hfloored, hbounds⟩ := (h.leaves hs).raises hs.past hs.sound hs.floored
  exact ⟨⟨h.past hs.past, (h.leaves hs).sound hs.views, hfloored⟩, hbounds⟩

theorem quiet_fresh : Quiet {} :=
  ⟨rfl, (Aligned.mk rfl ⟨rfl, rfl, .inl rfl, .inl rfl⟩).sound, ⟨.inl rfl, .inl rfl⟩, nofun⟩

theorem quiet_of_path (hs : Quiet s)
    (h : Path (fun s c t => Passes digest m crypto arch c s t) s steps t) :
    Quiet t ∧ ∀ β, Bounds t.root.now β → Bounds s.root.now β := by
  induction h with
  | nil => exact ⟨hs, fun _ => id⟩
  | snoc _ hstep ih =>
    obtain ⟨hquiet, hbounds⟩ := hstep.quiet ih.1
    exact ⟨hquiet, fun β hβ => ih.2 β (hbounds β hβ)⟩

def Observes (digest : List UInt8 → List UInt8) (s : Store) (state : SlotState) : Prop :=
  ∃ t, Prog.Runs (Handles digest) SlotManager.state s (.ok state) t

theorem returns_state (h : Sound d.now) :
    Returns digest SlotManager.state d fun state => observed d.now = .ok state := by
  refine returns_readOperation.bind fun o ho => ?_
  unfold observed
  rw [← ho.1]
  cases o with
  | none => exact returns_stateWithoutOperation (h.idle ho.1.symm)
  | some o =>
    refine (returns_projectOperationState (h.busy o ho.1.symm)).bind fun state hstate => ?_
    subst hstate
    exact returns_applyInstallationFloor

theorem Observes.shows {state : SlotState} (hs : Quiet s) (h : Observes digest s state) :
    ∃ f, Shows s.root.now state f := by
  obtain ⟨t, ht⟩ := h
  obtain ⟨state', f, hstate', hshows⟩ := exists_shows hs.floored
  have hruns := (returns_state hs.sound s rfl).runs ht
  obtain rfl : state' = state := Except.ok.inj (hstate'.symm.trans hruns.2)
  exact ⟨f, hshows⟩

def NotLower (f f' : String) : Prop :=
  f = "" ∨ ∃ ordering, compareReleaseVersions f' f = .ok ordering ∧ ordering ≠ .lt

def Exceeds (version f : String) : Prop := f = "" ∨ compareReleaseVersions version f = .ok .gt

theorem empty_of_rank (hf : Proper f) (h : rank f = none) : f = "" := by
  refine hf.resolve_right fun hpattern => ?_
  obtain ⟨_, -, hrank⟩ := rank_of_pattern hpattern
  rw [h] at hrank
  cases hrank

theorem notLower_of_below (hf : Proper f) (hf' : Proper f') (h : Below (rank f) (rank f')) :
    NotLower f f' := by
  rcases hf with hempty | hpattern
  · exact .inl hempty
  have hpattern' : releaseVersionPattern f' = true := by
    refine hf'.resolve_left fun hempty => ?_
    obtain ⟨_, -, hrank⟩ := rank_of_pattern hpattern
    rw [hrank, hempty, rank_empty] at h
    cases h
  obtain ⟨b, a, hb, ha, hcompare⟩ := compare_of_pattern hpattern' hpattern
  rw [ha, hb] at h
  refine .inr ⟨_, hcompare, fun hlt => ?_⟩
  exact Ordering.isLE_iff_ne_gt.mp h (Std.OrientedCmp.gt_of_lt hlt)

theorem exceeds_of_below (hf : Proper f) (hforward : validateForwardUpgrade version g = .ok ())
    (h : Below (rank f) (rank g)) : Exceeds version f := by
  unfold validateForwardUpgrade at hforward
  split at hforward
  · next hempty =>
    rw [hempty, rank_empty] at h
    refine .inl (empty_of_rank hf ?_)
    cases hrank : rank f with
    | none => rfl
    | some =>
      rw [hrank] at h
      cases h
  split at hforward
  · cases hforward
  next ordering hordering =>
  split at hforward
  · next hgt =>
    subst hgt
    rcases hf with hempty | hpattern
    · exact .inl hempty
    obtain ⟨hversion, hg⟩ := patterns_of_compare hordering
    obtain ⟨v, a, hv, ha, hcompare⟩ := compare_of_pattern hversion hpattern
    obtain ⟨v', b, hv', hb, hcompare'⟩ := compare_of_pattern hversion hg
    obtain rfl : v = v' := Option.some.inj (hv.symm.trans hv')
    have hvb : v.compare b = .gt := Except.ok.inj (hcompare'.symm.trans hordering)
    rw [ha, hb] at h
    refine .inr ?_
    rw [hcompare, Std.OrientedCmp.gt_of_lt (Std.TransCmp.lt_of_isLE_of_lt h (Std.OrientedCmp.lt_of_gt hvb))]
  · cases hforward

theorem base_of_pointer (h : Sound r) :
    r.current = target version ↔ (base r).current = version := by
  have hcurrent : r.current = target (base r).current := by
    unfold base
    cases ho : r.operation with
    | none => exact (h.idle ho).points.current
    | some o => exact (h.busy o ho).current_eq
  rw [hcurrent]
  exact ⟨fun heq => target_injective heq, fun heq => by rw [heq]⟩

/-- From a fresh root, over any commands and crashes: the floor is always known, it is never lower
later than earlier, and what an activation makes current exceeds every floor seen before. -/
theorem floor_never_lowered {past rest : List (Transition Store Command)}
    (hpast : Path (fun s c t => Passes digest m crypto arch c s t) {} past s)
    (hrest : Path (fun s c t => Passes digest m crypto arch c s t) s rest t) :
    (∀ state, Observes digest t state → ∃ f, knownFloor state = .ok f) ∧
    (∀ state state' f f', Observes digest s state → Observes digest t state' →
      knownFloor state = .ok f → knownFloor state' = .ok f' → NotLower f f') ∧
    ∀ version u, Passes digest m crypto arch (.activate version) t u →
      t.root.now.current ≠ target version → u.root.now.current = target version →
      ∀ state f, Observes digest s state → knownFloor state = .ok f → Exceeds version f := by
  obtain ⟨hs, -⟩ := quiet_of_path quiet_fresh hpast
  obtain ⟨ht, hbounds⟩ := quiet_of_path hs hrest
  refine ⟨fun state hstate => ?_, fun state state' f f' hstate hstate' hf hf' => ?_,
    fun version u hu hbefore hafter state f hstate hf => ?_⟩
  · obtain ⟨f, hshows⟩ := hstate.shows ht
    exact ⟨f, hshows.floor⟩
  · obtain ⟨g, hshows⟩ := hstate.shows hs
    obtain ⟨g', hshows'⟩ := hstate'.shows ht
    obtain rfl : g = f := Except.ok.inj (hshows.floor.symm.trans hf)
    obtain rfl : g' = f' := Except.ok.inj (hshows'.floor.symm.trans hf')
    refine notLower_of_below hshows.proper hshows'.proper ((hshows.bounds _).mpr (hbounds _ ?_))
    exact (hshows'.bounds _).mp .refl
  obtain ⟨g, hshows⟩ := hstate.shows hs
  obtain rfl : g = f := Except.ok.inj (hshows.floor.symm.trans hf)
  have hafter' := (base_of_pointer (hu.quiet ht).1.sound).mp hafter
  have hbefore' := fun heq => hbefore ((base_of_pointer ht.sound).mpr heq)
  obtain ⟨h, hh, hforward⟩ :=
    (hu.leaves ht).activates ht.past ht.sound ht.floored hafter' hbefore'
  refine exceeds_of_below hshows.proper hforward ((hshows.bounds _).mpr (hbounds _ ?_))
  exact (hh _).mp .refl

theorem durable_fileSystem (s : Store) (q : Query) :
    Durable id s q (fileSystem s q).1 (fileSystem s q).2 :=
  ⟨handles_fileSystem s q, by cases q <;> trivial⟩

abbrev Performs : Command → Store → Store → Prop := Passes id sampleManager sampleCrypto "amd64"

theorem Command.passes_left (c : Command) (s : Store) : Performs c s (c.left s) :=
  .ended (Prog.runs_exec durable_fileSystem _ s)

theorem upgrade_floor_never_lowered :
    Observes id activated { current := "1.2.3", minimumVersion := "1.2.3" } ∧
      knownFloor { current := "1.2.3", minimumVersion := "1.2.3" } = .ok "1.2.3" ∧
      upgraded.root.now.current = target "1.3.0" ∧ Exceeds "1.3.0" "1.2.3" ∧
      ∀ state f, Observes id upgradeStaged state → knownFloor state = .ok f →
        NotLower "1.2.3" f := by
  obtain ⟨-, -, hshown, hbefore, hafter, -⟩ := sample_commands_succeed
  obtain ⟨t, ht⟩ := activated.runs_shown
  rw [hshown] at ht
  have hobserves : Observes id activated { current := "1.2.3", minimumVersion := "1.2.3" } := ⟨t, ht⟩
  have hfloor : knownFloor { current := "1.2.3", minimumVersion := "1.2.3" } = .ok "1.2.3" := by
    decide +kernel
  have hstage : Performs (staging "1.2.3") {} staged := Command.passes_left _ _
  have hactivate : Performs (.activate "1.2.3") staged activated := Command.passes_left _ _
  have hnext : Performs (staging "1.3.0") activated upgradeStaged := Command.passes_left _ _
  have hupgrade : Performs (.activate "1.3.0") upgradeStaged upgraded := Command.passes_left _ _
  obtain ⟨-, hkept, hexceeds⟩ := floor_never_lowered (.snoc (.single hstage) hactivate) (.single hnext)
  exact ⟨hobserves, hfloor, hafter, hexceeds _ _ hupgrade hbefore hafter _ _ hobserves hfloor,
    fun state f hstate hf => hkept _ _ _ _ hobserves hstate hfloor hf⟩

end MinimalRouter.Slots
