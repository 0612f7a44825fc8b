import MinimalRouter.Goish.Time

namespace MinimalRouter.Api

open Goish

def auditThrottleWindow : Int := 60 * 1000000000

def auditThrottlePerSource : Nat := 10

def auditThrottleGlobal : Nat := 120

def auditThrottleMaxSources : Nat := 1024

structure AuditThrottle where
  windowStart : Option Time := none
  total : Nat := 0
  perSource : List (String × Nat) := []
  suppressed : Nat := 0
  marked : Bool := false

structure Decision where
  (record markSuppression : Bool := false)
  previousSuppressed : Nat := 0
  previousWindowStart : Option Time := none
  deriving DecidableEq

namespace AuditThrottle

variable (t : AuditThrottle)

def expired (now : Time) : Bool :=
  match t.windowStart with
  | none => true
  | some start => decide (auditThrottleWindow ≤ now.sub start) || now.before start

def count (key : String) (decision : Decision) : AuditThrottle × Decision :=
  let count := t.perSource.lookup key
  if auditThrottleGlobal ≤ t.total || auditThrottlePerSource ≤ count.getD 0 ||
      count.isNone && auditThrottleMaxSources ≤ t.perSource.length then
    ({ t with suppressed := t.suppressed + 1, marked := true },
      { decision with markSuppression := !t.marked })
  else
    ({ t with
        perSource := (key, count.getD 0 + 1) :: t.perSource.filter (·.1 != key)
        total := t.total + 1 },
      { decision with record := true })

def admitCall (key : String) (now : Time) : AuditThrottle × Decision :=
  if t.expired now then
    count { windowStart := some now } key
      (if 0 < t.suppressed then
        { previousSuppressed := t.suppressed, previousWindowStart := t.windowStart } else {})
  else t.count key {}

structure Entry where
  key : String
  opens : Bool
  decision : Decision
  deriving DecidableEq

def run (t : AuditThrottle) : List (String × Time) → List Entry
  | [] => []
  | (key, now) :: calls =>
    ⟨key, t.expired now, (t.admitCall key now).2⟩ :: run (t.admitCall key now).1 calls

end AuditThrottle

open AuditThrottle

/-- The counters tell how the calls of the open window ended. -/
structure Tally (w : List Entry) (t : AuditThrottle) : Prop where
  total : t.total = w.countP (·.decision.record)
  source : ∀ key, (t.perSource.lookup key).getD 0 =
    w.countP fun e => e.decision.record && e.key == key
  suppressed : t.suppressed = w.countP (!·.decision.record)
  marked : t.marked = decide (0 < t.suppressed)
  marks : w.countP (·.decision.markSuppression) = if 0 < t.suppressed then 1 else 0
  total_le : t.total ≤ auditThrottleGlobal
  source_le : ∀ key, (t.perSource.lookup key).getD 0 ≤ auditThrottlePerSource

theorem tally_nil (start : Option Time) : Tally [] { windowStart := start } where
  total := rfl
  source _ := rfl
  suppressed := rfl
  marked := rfl
  marks := rfl
  total_le := Nat.zero_le _
  source_le _ := Nat.zero_le _

theorem lookup_filter_ne {sources : List (String × Nat)} (h : key' ≠ key) :
    (sources.filter (·.1 != key)).lookup key' = sources.lookup key' := by
  induction sources with
  | nil => rfl
  | cons source sources ih =>
    rw [List.filter_cons, List.lookup_cons]
    split
    · rw [List.lookup_cons, ih]
    · next hsame =>
      have hne : (key' == source.1) = false := by simp_all
      rw [ih, hne]

theorem tally_count (h : Tally w t) (hd : d.record = false ∧ d.markSuppression = false) :
    Tally (w ++ [⟨key, opens, (t.count key d).2⟩]) (t.count key d).1 := by
  unfold count
  dsimp only
  split
  · exact {
      total := by simp [h.total, hd]
      source := by simp [h.source, hd]
      suppressed := by simp [h.suppressed, hd]
      marked := by simp
      marks := by
        rw [List.countP_append, h.marks, h.marked]
        by_cases hpos : 0 < t.suppressed <;> simp [hpos]
      total_le := h.total_le
      source_le := h.source_le }
  · next hfree =>
    simp only [Bool.or_eq_true, decide_eq_true_eq, not_or, Nat.not_le] at hfree
    have hother : ∀ key', key' ≠ key → (((key, (t.perSource.lookup key).getD 0 + 1) ::
        t.perSource.filter (·.1 != key)).lookup key') = t.perSource.lookup key' := by
      intro key' hne
      rw [List.lookup_cons, beq_false_of_ne hne, lookup_filter_ne hne]
    exact {
      total := by simp [h.total]
      source := by
        intro key'
        by_cases hkey : key' = key
        · subst hkey
          simp [h.source]
        · rw [hother key' hkey, h.source]
          simp [Ne.symm hkey]
      suppressed := by simp [h.suppressed]
      marked := h.marked
      marks := by simp [h.marks, hd]
      total_le := hfree.1.1
      source_le := by
        intro key'
        by_cases hkey : key' = key
        · subst hkey
          simpa using Nat.succ_le_of_lt hfree.1.2
        · rw [hother key' hkey]
          exact h.source_le key' }

theorem tally_run (h : Tally w t)
    (hrun : run t calls = more ++ rest) (hmore : ∀ e ∈ more, e.opens = false) :
    ∃ t' calls', Tally (w ++ more) t' ∧ rest = run t' calls' := by
  induction more generalizing t w calls with
  | nil => exact ⟨t, calls, by simpa using h, hrun.symm⟩
  | cons e more ih =>
    obtain ⟨hopens, hothers⟩ := List.forall_mem_cons.mp hmore
    cases calls with
    | nil => cases hrun
    | cons call =>
      obtain ⟨rfl, htail⟩ := List.cons.inj hrun
      have hcounted : t.admitCall call.1 call.2 = t.count call.1 {} := if_neg (by simpa using hopens)
      rw [hcounted] at htail
      rw [hcounted]
      obtain ⟨t', calls', htally, hrest⟩ := ih (tally_count h ⟨rfl, rfl⟩) htail hothers
      exact ⟨t', calls', by simpa using htally, hrest⟩

theorem run_split (hrun : run t calls = past ++ rest) : ∃ t' calls', rest = run t' calls' := by
  induction past generalizing t calls with
  | nil => exact ⟨t, calls, hrun.symm⟩
  | cons e past ih =>
    cases calls with
    | nil => cases hrun
    | cons => exact ih (List.cons.inj hrun).2

theorem reports_of_opens (hrun : run t calls = e :: rest) (hopens : e.opens = true) :
    e.decision.previousSuppressed = t.suppressed ∧
      ∃ t' calls', Tally [e] t' ∧ rest = run t' calls' := by
  cases calls with
  | nil => cases hrun
  | cons call calls =>
    obtain ⟨rfl, rfl⟩ := List.cons.inj hrun
    refine ⟨?_, (t.admitCall call.1 call.2).1, calls, ?_, rfl⟩
    · rw [admitCall, if_pos hopens, count]
      split <;> split <;> first | rfl | (dsimp only; omega)
    rw [admitCall, if_pos hopens]
    refine tally_count (tally_nil _) ?_
    split <;> exact ⟨rfl, rfl⟩

/-- In every window of every sequence of calls: the bounds on what is recorded, one mark if anything
was suppressed, and every call recorded or counted in the report of the next window. -/
theorem throttle_conserves {calls : List (String × Time)} {e : Entry}
    (hrun : run {} calls = past ++ (e :: w) ++ rest) (hopens : e.opens = true)
    (hwindow : ∀ x ∈ w, x.opens = false) :
    (e :: w).countP (·.decision.record) ≤ auditThrottleGlobal ∧
    (∀ key, (e :: w).countP (fun x => x.decision.record && x.key == key) ≤ auditThrottlePerSource) ∧
    (e :: w).countP (·.decision.markSuppression) =
      (if (e :: w).all (·.decision.record) then 0 else 1) ∧ ∀ next ∈ rest.head?, next.opens = true →
      (e :: w).length = (e :: w).countP (·.decision.record) + next.decision.previousSuppressed := by
  rw [List.append_assoc] at hrun
  obtain ⟨_, _, hrest⟩ := run_split hrun
  obtain ⟨-, _, _, hfirst, hrest₁⟩ := reports_of_opens hrest.symm hopens
  obtain ⟨_, _, htally, hrest₂⟩ := tally_run hfirst hrest₁.symm hwindow
  rw [List.singleton_append] at htally
  refine ⟨htally.total ▸ htally.total_le, fun key => htally.source key ▸ htally.source_le key, ?_,
    fun next hnext hnextOpens => ?_⟩
  · rw [htally.marks, htally.suppressed]
    by_cases hall : (e :: w).all (·.decision.record) = true
    · rw [if_pos hall, if_neg]
      rw [Nat.not_lt, Nat.le_zero, List.countP_eq_zero]
      simpa using hall
    rw [if_neg hall, if_pos]
    rw [List.countP_pos_iff]
    simpa only [Bool.not_eq_true, List.all_eq_false, Bool.not_eq_true'] using hall
  obtain ⟨others, rfl⟩ : ∃ others, rest = next :: others := by
    cases rest with
    | nil => cases hnext
    | cons x others => exact ⟨others, by rw [← Option.some.inj hnext]⟩
  rw [(reports_of_opens hrest₂.symm hnextOpens).1, htally.suppressed]
  simpa using List.length_eq_countP_add_countP (·.decision.record) (l := e :: w)

def sampleCalls : List (String × Time) :=
  List.replicate 11 ("auth.unauthorized", ⟨0, 0, none⟩) ++
    [("auth.unauthorized", ⟨auditThrottleWindow, 0, none⟩)]

theorem throttle_conserves_sampleCalls : ∃ e w next,
    run {} sampleCalls = [] ++ (e :: w) ++ [next] ∧ next.decision.previousSuppressed = 1 ∧
      (e :: w).length = (e :: w).countP (·.decision.record) + next.decision.previousSuppressed := by
  have hrun : run {} sampleCalls = [] ++
      (⟨"auth.unauthorized", true, { record := true }⟩ ::
        (List.replicate 9 ⟨"auth.unauthorized", false, { record := true }⟩ ++
          [⟨"auth.unauthorized", false, { markSuppression := true }⟩])) ++
      [⟨"auth.unauthorized", true, ⟨true, false, 1, some ⟨0, 0, none⟩⟩⟩] := by
    decide +kernel
  exact ⟨_, _, _, hrun, rfl, (throttle_conserves hrun rfl (by decide)).2.2.2 _ rfl rfl⟩

end MinimalRouter.Api
