import Mathlib.Algebra.Order.Group.Int
import MinimalRouter.Auth.Limiter

namespace MinimalRouter.Auth

open Goish Lib

variable {l : PersistentRateLimiter}

def wholeSeconds (t : Int) : Int := t - t % 1000000000

theorem wholeSeconds_le (t : Int) : wholeSeconds t ≤ t := by
  unfold wholeSeconds
  omega

theorem lt_wholeSeconds_add (t : Int) : t < wholeSeconds t + 1000000000 := by
  unfold wholeSeconds
  omega

theorem wholeSeconds_idem (t : Int) : wholeSeconds (wholeSeconds t) = wholeSeconds t := by
  unfold wholeSeconds
  omega

def TextOrder (textBefore : Time → Time → Bool) : Prop :=
  ∀ a b, a.offset = b.offset → textBefore a b = true → a.wall < b.wall

/-- A window that was opened by a reading of this clock, or that has been read from the table. -/
structure Dated (start : Time) (clock : Reading) : Prop where
  offset : start.offset = clock.offset
  wall : start.wall ≤ clock.wall
  mono : ∀ m, start.mono = some m → m ≤ clock.mono ∧ clock.mono - m ≤ clock.wall - start.wall

theorem Dated.follows (h : Dated start a) (hab : Follows a b) : Dated start b := by
  obtain ⟨hoffset, _⟩ := hab
  refine ⟨h.offset.trans hoffset.symm, by have := h.wall; omega, fun m hm => ?_⟩
  obtain ⟨_, _⟩ := h.mono m hm
  omega

theorem Dated.now (a : Reading) : Dated a.now a := by
  refine ⟨rfl, Int.le_refl _, fun m hm => ?_⟩
  cases hm
  exact ⟨Int.le_refl _, by simp [Reading.now]⟩

theorem Dated.seconds (h : Dated start a) : Dated start.seconds a :=
  ⟨h.offset, Int.le_trans (wholeSeconds_le _) h.wall, nofun⟩

theorem Dated.sub_le {now : Reading} (h : Dated start now) :
    now.now.sub start ≤ now.wall - start.wall := by
  have hwall := h.wall
  unfold Time.sub
  cases hm : start.mono with
  | none =>
    refine max_le ?_ (min_le_right _ _)
    have : (0 : Int) ≤ now.now.wall - start.wall := Int.sub_nonneg.mpr hwall
    exact Int.le_trans (by decide) this
  | some m => exact (h.mono m hm).2

theorem Dated.not_before {now : Reading} (h : Dated start now) : now.now.before start = false := by
  unfold Time.before
  cases hm : start.mono with
  | none => exact decide_eq_false (Int.not_lt.mpr h.wall)
  | some m => exact decide_eq_false (Int.not_lt.mpr (h.mono m hm).1)

theorem Dated.lapsed {now : Reading} (h : Dated start now) (hover : l.lapsed now.now start = true) :
    start.wall + l.window < now.wall := by
  have hsub := h.sub_le
  rw [PersistentRateLimiter.lapsed, h.not_before, Bool.or_false, decide_eq_true_eq] at hover
  omega

def PersistentRateLimiter.bound (l : PersistentRateLimiter) : Int := max l.limit 1

def PersistentRateLimiter.reach (l : PersistentRateLimiter) : Int := l.window - 1000000000

def inStretch (x length : Int) (times : List Int) : Int :=
  times.countP fun t => decide (x ≤ t ∧ t ≤ x + length)

def since (x : Int) (times : List Int) : Int := times.countP fun t => decide (x ≤ t)

theorem inStretch_le_since : inStretch x length times ≤ since x times := by
  refine Int.ofNat_le.mpr (List.countP_mono_left fun t _ h => ?_)
  simp only [decide_eq_true_eq] at h ⊢
  exact h.1

theorem since_append : since x (times ++ times') = since x times + since x times' := by
  unfold since
  rw [List.countP_append]
  exact Int.natCast_add _ _

theorem since_le_length : since x times ≤ times.length := Int.ofNat_le.mpr List.countP_le_length

theorem since_eq_zero (h : ∀ t ∈ times, t < x) : since x times = 0 := by
  have hzero : times.countP (fun t => decide (x ≤ t)) = 0 := by
    refine List.countP_eq_zero.mpr fun t ht => ?_
    simp only [decide_eq_true_eq]
    exact Int.not_le.mpr (h t ht)
  exact congrArg Int.ofNat hzero

theorem inStretch_snoc (h : ∀ x, inStretch x length times ≤ bound)
    (ht : ∀ x, t ≤ x + length → since x times + 1 ≤ bound) :
    ∀ x, inStretch x length (times ++ [t]) ≤ bound := by
  intro x
  have happend : inStretch x length (times ++ [t]) =
      inStretch x length times + inStretch x length [t] := by
    unfold inStretch
    rw [List.countP_append]
    exact Int.natCast_add _ _
  rw [happend]
  by_cases hin : x ≤ t ∧ t ≤ x + length
  · have hone : inStretch x length [t] = 1 := by simp [inStretch, hin]
    have hle : inStretch x length times ≤ since x times := inStretch_le_since
    have := ht x hin.2
    omega
  have hzero : inStretch x length [t] = 0 := by simp [inStretch, hin]
  have := h x
  omega

def Counts.put (c : Counts) (ip : String) (b : Bucket) : Counts :=
  ⟨Function.update c.cache ip (some b),
    Function.update c.rows ip (some { b with windowStart := b.windowStart.seconds })⟩

@[simp] theorem cache_put {c : Counts} : (c.put ip b).cache ip = some b :=
  Function.update_self _ _ _

@[simp] theorem rows_put {c : Counts} :
    (c.put ip b).rows ip = some { b with windowStart := b.windowStart.seconds } :=
  Function.update_self _ _ _

/-- A bucket of the window that was opened at some time, of which the table may hold a record. -/
structure Same (opened : Int) (recent : List Int) (b : Bucket) : Prop where
  wall : b.windowStart.wall ≤ opened
  second : wholeSeconds b.windowStart.wall = wholeSeconds opened
  counted : (recent.length : Int) ≤ b.attempts

/-- A bucket of a later window, in which nothing has been let through. -/
structure Newer (l : PersistentRateLimiter) (opened : Int) (times : List Int) (b : Bucket) : Prop where
  wall : opened + l.reach < b.windowStart.wall
  past : ∀ t ∈ times, t ≤ b.windowStart.wall
  counted : 1 ≤ b.attempts

/-- The calls that have been let through, divided at the opening of the last window of them. -/
structure Account (l : PersistentRateLimiter) (ip : String) (w : Limited) (opened : Int)
    (older recent : List Int) : Prop where
  spread : ∀ x, inStretch x l.reach (older ++ recent) ≤ 2 * l.bound
  recentLe : (recent.length : Int) ≤ l.bound
  olderLe : ∀ x, opened ≤ x + l.reach → since x older ≤ l.bound
  olderBefore : ∀ t ∈ older, t ≤ opened
  past : ∀ t ∈ older ++ recent, t ≤ w.clock.wall
  started : opened ≤ w.clock.wall
  row : ∀ b, w.counts.rows ip = some b → Dated b.windowStart w.clock ∧ b.windowStart.mono = none ∧
    b.windowStart.wall = wholeSeconds opened ∧ (recent.length : Int) ≤ b.attempts
  gone : w.counts.rows ip = none → opened + l.reach < w.clock.wall
  cached : ∀ b, w.counts.cache ip = some b → Dated b.windowStart w.clock ∧
    (Same opened recent b ∨ Newer l opened (older ++ recent) b)

namespace Account

section

variable (h : Account l ip ⟨c, clock⟩ opened older recent)

include h

theorem later (hle : (clock.wall : Int) ≤ now.wall)
    (hdated : ∀ t, Dated t clock → t.mono = none → Dated t now)
    (hcached : ∀ b, cache ip = some b → Dated b.windowStart now ∧
      (Same opened recent b ∨ Newer l opened (older ++ recent) b)) :
    Account l ip ⟨⟨cache, c.rows⟩, now⟩ opened older recent where
  spread := h.spread
  recentLe := h.recentLe
  olderLe := h.olderLe
  olderBefore := h.olderBefore
  past t ht := Int.le_trans (h.past t ht) hle
  started := Int.le_trans h.started hle
  row b hb := ⟨hdated _ (h.row b hb).1 (h.row b hb).2.1, (h.row b hb).2⟩
  gone hnone := Int.lt_of_lt_of_le (h.gone hnone) hle
  cached := hcached

theorem follows (hf : Follows clock now) : Account l ip ⟨c, now⟩ opened older recent :=
  h.later (Int.ofNat_le.mpr hf.wall) (fun _ ht _ => ht.follows hf)
    fun b hb => ⟨(h.cached b hb).1.follows hf, (h.cached b hb).2⟩

theorem recache (hrows : c'.rows ip = c.rows ip)
    (hcache : ∀ b, c'.cache ip = some b → Dated b.windowStart clock ∧
      (Same opened recent b ∨ Newer l opened (older ++ recent) b)) :
    Account l ip ⟨c', clock⟩ opened older recent :=
  { h with
    row := fun b hb => h.row b (hrows.symm.trans hb)
    gone := fun hnone => h.gone (hrows.symm.trans hnone)
    cached := hcache }

theorem restart (hoffset : now.offset = clock.offset) (hwall : clock.wall ≤ now.wall) :
    Account l ip ⟨{ rows := c.rows }, now⟩ opened older recent := by
  have hle : (clock.wall : Int) ≤ now.wall := Int.ofNat_le.mpr hwall
  refine h.later hle (fun t ht hmono => ?_) nofun
  exact ⟨ht.offset.trans hoffset.symm, Int.le_trans ht.wall hle, fun m hm => nomatch hmono.symm.trans hm⟩

theorem clean (htext : TextOrder textBefore) :
    Account l ip ⟨{ c with rows := l.cleanExpiredRateLimitBuckets textBefore clock.now c.rows }, clock⟩
      opened older recent := by
  refine { h with row := fun b hb => h.row b (Option.filter_eq_some_iff.mp hb).1, gone := fun hnone => ?_ }
  cases hrow : c.rows ip with
  | none => exact h.gone hrow
  | some b =>
    obtain ⟨hdated, -, hwall, -⟩ := h.row b hrow
    have hbefore : textBefore b.windowStart (clock.now.add (-l.window)).seconds = true := by
      simpa [PersistentRateLimiter.cleanExpiredRateLimitBuckets, hrow] using hnone
    have hlt := htext _ _ hdated.offset hbefore
    have hnow : (clock.now.add (-l.window)).seconds.wall = wholeSeconds (clock.wall - l.window) := rfl
    rw [hwall, hnow] at hlt
    show opened + (l.window - 1000000000) < clock.wall
    unfold wholeSeconds at hlt
    omega

theorem view (hview : c.view ip = some b) :
    Dated b.windowStart clock ∧ (Same opened recent b ∨ Newer l opened (older ++ recent) b) := by
  unfold Counts.view at hview
  split at hview
  · next b' hcache =>
    cases hview
    exact h.cached b hcache
  obtain ⟨hdated, -, hwall, hcounted⟩ := h.row b hview
  refine ⟨hdated, .inl ⟨?_, ?_, hcounted⟩⟩
  · rw [hwall]
    exact wholeSeconds_le opened
  · rw [hwall]
    exact wholeSeconds_idem opened

theorem lapsed (hover : ∀ b, c.view ip = some b → l.lapsed clock.now b.windowStart = true) :
    opened + l.reach < clock.wall := by
  cases hview : c.view ip with
  | none =>
    refine h.gone ?_
    unfold Counts.view at hview
    split at hview
    · cases hview
    · exact hview
  | some b =>
    obtain ⟨hdated, hsame | hnewer⟩ := h.view hview
    · have hlast := hdated.lapsed (hover b hview)
      have hsecond := lt_wholeSeconds_add opened
      rw [← hsame.second] at hsecond
      have hle := wholeSeconds_le b.windowStart.wall
      show opened + (l.window - 1000000000) < clock.wall
      omega
    · exact Int.lt_of_lt_of_le hnewer.wall hdated.wall

theorem turn (hdated : Dated b.windowStart clock)
    (hnewer : Newer l opened (older ++ recent) b) :
    Account l ip ⟨c.put ip b, clock⟩ b.windowStart.wall (older ++ recent) [(clock.wall : Int)] := by
  have hwall := hnewer.wall
  have hbound : 1 ≤ l.bound := le_max_right _ _
  have hold : ∀ x, b.windowStart.wall ≤ x + l.reach → since x (older ++ recent) ≤ l.bound := by
    intro x hx
    have hzero : since x older = 0 := since_eq_zero fun t ht => by
      have := h.olderBefore t ht
      omega
    have hle : since x recent ≤ recent.length := since_le_length
    have := h.recentLe
    rw [since_append]
    omega
  refine ⟨inStretch_snoc h.spread fun x hx => ?_, hbound, hold, hnewer.past, ?_, hdated.wall, ?_, ?_, ?_⟩
  · have := hold x (Int.le_trans hdated.wall hx)
    omega
  · intro t ht
    rcases List.mem_append.mp ht with ht | ht
    · exact h.past t ht
    · exact Int.le_of_eq (List.mem_singleton.mp ht)
  · intro b' hb'
    cases rows_put.symm.trans hb'
    exact ⟨hdated.seconds, rfl, rfl, hnewer.counted⟩
  · intro hnone
    cases rows_put.symm.trans hnone
  intro b' hb'
  cases cache_put.symm.trans hb'
  exact ⟨hdated, .inl ⟨Int.le_refl _, rfl, hnewer.counted⟩⟩

theorem count (hdated : Dated b.windowStart clock)
    (hsame : Same opened recent b) (hlimit : b.attempts < l.limit) :
    Account l ip ⟨c.put ip ⟨b.attempts + 1, b.windowStart⟩, clock⟩ opened older
      (recent ++ [(clock.wall : Int)]) := by
  have hcounted := hsame.counted
  have hbound : l.limit ≤ l.bound := le_max_left _ _
  have hlength : ((recent ++ [(clock.wall : Int)]).length : Int) ≤ b.attempts + 1 := by
    rw [List.length_append]
    exact Int.add_le_add_right hcounted 1
  refine ⟨?_, by omega, h.olderLe, h.olderBefore, ?_, h.started, ?_, ?_, ?_⟩
  · rw [← List.append_assoc]
    refine inStretch_snoc h.spread fun x hx => ?_
    have hold := h.olderLe x (Int.le_trans h.started hx)
    have hle : since x recent ≤ recent.length := since_le_length
    rw [since_append]
    omega
  · intro t ht
    rw [← List.append_assoc] at ht
    rcases List.mem_append.mp ht with ht | ht
    · exact h.past t ht
    · exact Int.le_of_eq (List.mem_singleton.mp ht)
  · intro b' hb'
    cases rows_put.symm.trans hb'
    exact ⟨hdated.seconds, rfl, hsame.second, hlength⟩
  · intro hnone
    cases rows_put.symm.trans hnone
  intro b' hb'
  cases cache_put.symm.trans hb'
  exact ⟨hdated, .inl ⟨hsame.wall, hsame.second, hlength⟩⟩

theorem unsaved (hdated : Dated b.windowStart clock)
    (hb : Same opened recent b ∨ Newer l opened (older ++ recent) b) :
    Account l ip ⟨{ c with cache := Function.update c.cache ip (some b) }, clock⟩ opened older recent := by
  refine h.recache rfl fun b' hb' => ?_
  obtain rfl : b = b' := Option.some.inj ((Function.update_self ip (some b) c.cache).symm.trans hb')
  exact ⟨hdated, hb⟩

end

end Account

def Accounted (l : PersistentRateLimiter) (ip : String) (times : List Int) (w : Limited) : Prop :=
  ∃ opened older recent, times = older ++ recent ∧ Account l ip w opened older recent

theorem save_of_fails (h : a.writeFails = true) : PersistentRateLimiter.save a ip b c =
      (false, { c with cache := Function.update c.cache ip (some b) }) := by
  simp [PersistentRateLimiter.save, PersistentRateLimiter.setRateLimitBucket, h]

theorem save_of_writes (h : a.writeFails = false) :
    PersistentRateLimiter.save a ip b c = (true, c.put ip b) := by
  simp [PersistentRateLimiter.save, PersistentRateLimiter.setRateLimitBucket, Counts.put, h]

def passed (a : Access) (ok : Bool) : List Int := if ok then [(a.now.wall : Int)] else []

theorem Accounted.allow (h : Accounted l ip times ⟨c, a.now⟩) :
    Accounted l ip (times ++ passed a (l.allow a ip c).1) ⟨(l.allow a ip c).2, a.now⟩ := by
  obtain ⟨opened, older, recent, rfl, h⟩ := h
  have hallows : Allows l a ip c (l.allow a ip c) := allows_allow
  generalize l.allow a ip c = r at hallows
  cases hallows with
  | refused => exact ⟨opened, older, recent, List.append_nil _, h⟩
  | loaded hcache hrow =>
    have hview := h.view (show c.view ip = some _ by rw [Counts.view, hcache, hrow])
    exact ⟨opened, older, recent, List.append_nil _, h.unsaved hview.1 hview.2⟩
  | opened hover =>
    have hnewer : Newer l opened (older ++ recent) ⟨1, a.now.now⟩ :=
      ⟨h.lapsed hover, h.past, Int.le_refl _⟩
    cases hwrite : a.writeFails with
    | false =>
      rw [save_of_writes hwrite]
      exact ⟨_, older ++ recent, [(a.now.wall : Int)], rfl, h.turn (.now a.now) hnewer⟩
    | true =>
      rw [save_of_fails hwrite]
      exact ⟨opened, older, recent, List.append_nil _, h.unsaved (.now a.now) (.inr hnewer)⟩
  | @counted b hview hopen hlimit =>
  obtain ⟨hdated, hb⟩ := h.view hview
  cases hwrite : a.writeFails with
  | false =>
    rw [save_of_writes hwrite]
    rcases hb with hsame | hnewer
    · exact ⟨opened, older, recent ++ [(a.now.wall : Int)], List.append_assoc _ _ _,
        h.count hdated hsame hlimit⟩
    · exact ⟨_, older ++ recent, [(a.now.wall : Int)], rfl, h.turn hdated
        ⟨hnewer.wall, hnewer.past, Int.le_add_one hnewer.counted⟩⟩
  | true =>
    rw [save_of_fails hwrite]
    refine ⟨opened, older, recent, List.append_nil _, h.unsaved hdated (hb.imp (fun hsame => ?_)
      fun hnewer => ?_)⟩
    · exact ⟨hsame.wall, hsame.second, Int.le_add_one hsame.counted⟩
    · exact ⟨hnewer.wall, hnewer.past, Int.le_add_one hnewer.counted⟩

def LimiterEvent.admitted (ip : String) : LimiterEvent → List Int
  | .allow source a ok => if source = ip then passed a ok else []
  | _ => []

def admissions (ip : String) (steps : List (Transition Limited LimiterEvent)) : List Int :=
  steps.flatMap fun e => e.label.admitted ip

theorem admissions_snoc :
    admissions ip (past ++ [e]) = admissions ip past ++ e.label.admitted ip := by
  simp [admissions]

theorem allow_other (hne : ip ≠ source) :
    (l.allow a source c).2.cache ip = c.cache ip ∧ (l.allow a source c).2.rows ip = c.rows ip := by
  have hsave : ∀ b, (PersistentRateLimiter.save a source b c).2.cache ip = c.cache ip ∧
      (PersistentRateLimiter.save a source b c).2.rows ip = c.rows ip := by
    intro b
    cases hwrite : a.writeFails with
    | false =>
      rw [save_of_writes hwrite]
      exact ⟨Function.update_of_ne hne _ _, Function.update_of_ne hne _ _⟩
    | true =>
      rw [save_of_fails hwrite]
      exact ⟨Function.update_of_ne hne _ _, rfl⟩
  have hallows : Allows l a source c (l.allow a source c) := allows_allow
  generalize l.allow a source c = r at hallows
  cases hallows with
  | refused => exact ⟨rfl, rfl⟩
  | loaded _ _ => exact ⟨Function.update_of_ne hne _ _, rfl⟩
  | opened _ | counted _ _ _ => exact hsave _

theorem Accounted.step (htext : TextOrder textBefore) (h : Accounted l ip times w)
    (hstep : LimiterStep l textBefore w event w') :
    Accounted l ip (times ++ event.admitted ip) w' := by
  obtain ⟨opened, older, recent, rfl, h⟩ := h
  cases hstep with
  | @allow source a hfollows =>
    have hnow : Account l ip ⟨w.counts, a.now⟩ opened older recent := h.follows hfollows
    by_cases hsource : source = ip
    · subst hsource
      rw [LimiterEvent.admitted, if_pos rfl]
      exact Accounted.allow ⟨opened, older, recent, rfl, hnow⟩
    rw [LimiterEvent.admitted, if_neg hsource]
    obtain ⟨hcache, hrows⟩ := allow_other (l := l) (a := a) (c := w.counts) (Ne.symm hsource)
    exact ⟨opened, older, recent, List.append_nil _,
      hnow.recache hrows fun b hb => hnow.cached b (hcache.symm.trans hb)⟩
  | cleanCache hfollows =>
    have hnow := h.follows hfollows
    exact ⟨opened, older, recent, List.append_nil _,
      hnow.recache rfl fun b hb => hnow.cached b (Option.filter_eq_some_iff.mp hb).1⟩
  | @cleanRows now fails hfollows =>
    refine ⟨opened, older, recent, List.append_nil _, ?_⟩
    cases fails with
    | false => exact (h.follows hfollows).clean htext
    | true => exact h.follows hfollows
  | restart hoffset hwall => exact ⟨opened, older, recent, List.append_nil _, h.restart hoffset hwall⟩

theorem Accounted.empty (clock : Reading) : Accounted l ip [] ⟨{}, clock⟩ := by
  have hbound : 1 ≤ l.bound := le_max_right _ _
  refine ⟨min clock.wall (clock.wall - l.reach - 1), [], [], rfl, ?_⟩
  refine ⟨fun x => ?_, ?_, fun x _ => ?_, nofun, nofun, min_le_left _ _, nofun, fun _ => ?_, nofun⟩
  · show (0 : Int) ≤ 2 * l.bound
    omega
  · show (0 : Int) ≤ l.bound
    omega
  · show (0 : Int) ≤ l.bound
    omega
  have := min_le_right (clock.wall : Int) (clock.wall - l.reach - 1)
  show min (clock.wall : Int) (clock.wall - l.reach - 1) + l.reach < clock.wall
  omega

theorem accounted (htext : TextOrder textBefore)
    (h : Path (LimiterStep l textBefore) ⟨{}, clock⟩ steps w) :
    Accounted l ip (admissions ip steps) w := by
  induction h with
  | nil => exact .empty clock
  | snoc _ hstep ih =>
    rw [admissions_snoc]
    exact ih.step htext hstep

/-- The window of a source that was opened at some time goes on: no restart, and no call of the
source after the window is over. -/
def LimiterEvent.within (l : PersistentRateLimiter) (ip : String) (start : Time) : LimiterEvent → Prop
  | .allow source a _ => source = ip → a.now.now.sub start ≤ l.window
  | .restart _ => False
  | _ => True

structure Watched (l : PersistentRateLimiter) (ip : String) (opened : Reading) (passed : Int)
    (w : Limited) : Prop where
  mono : opened.mono ≤ w.clock.mono
  bounded : passed ≤ l.bound
  counted : w.clock.now.sub opened.now ≤ l.window →
    ∃ n, w.counts.cache ip = some ⟨n, opened.now⟩ ∧ passed ≤ n

theorem sub_now {a b : Reading} : b.now.sub a.now = (b.mono : Int) - a.mono := rfl

theorem Watched.allow (h : Watched l ip opened count ⟨c, a.now⟩)
    (hwithin : a.now.now.sub opened.now ≤ l.window) :
    Watched l ip opened (count + (passed a (l.allow a ip c).1).length) ⟨(l.allow a ip c).2, a.now⟩ := by
  obtain ⟨n, hcache, hle⟩ := h.counted hwithin
  have hview : c.view ip = some ⟨n, opened.now⟩ := by rw [Counts.view, hcache]
  have hopen : l.lapsed a.now.now opened.now = false := by
    refine Bool.or_eq_false_iff.mpr ⟨decide_eq_false (Int.not_lt.mpr hwithin), ?_⟩
    exact decide_eq_false (Int.not_lt.mpr (Int.ofNat_le.mpr h.mono))
  have hallows : Allows l a ip c (l.allow a ip c) := allows_allow
  generalize l.allow a ip c = r at hallows
  cases hallows with
  | refused =>
    show Watched l ip opened (count + 0) _
    rw [Int.add_zero]
    exact ⟨h.mono, h.bounded, fun _ => ⟨n, hcache, hle⟩⟩
  | loaded hnone =>
    rw [hcache] at hnone
    cases hnone
  | opened hover =>
    have := hover _ hview
    rw [hopen] at this
    cases this
  | counted hview' _ hlimit =>
    obtain rfl := Option.some.inj (hview.symm.trans hview')
    have hlast : n + 1 ≤ l.bound := Int.le_trans hlimit (le_max_left _ _)
    cases hwrite : a.writeFails with
    | false =>
      rw [save_of_writes hwrite]
      show Watched l ip opened (count + 1) _
      exact ⟨h.mono, by omega, fun _ => ⟨n + 1, cache_put, by omega⟩⟩
    | true =>
      rw [save_of_fails hwrite]
      show Watched l ip opened (count + 0) _
      exact ⟨h.mono, by omega, fun _ => ⟨n + 1, Function.update_self ip _ c.cache, by omega⟩⟩

theorem Watched.follows (h : Watched l ip opened count ⟨c, clock⟩) (hf : Follows clock now) :
    Watched l ip opened count ⟨c, now⟩ := by
  have hmono : clock.mono ≤ now.mono := hf.mono
  refine ⟨Nat.le_trans h.mono hmono, h.bounded, fun hwithin => h.counted ?_⟩
  rw [sub_now] at hwithin ⊢
  show (clock.mono : Int) - opened.mono ≤ l.window
  change (now.mono : Int) - opened.mono ≤ l.window at hwithin
  omega

theorem Watched.step (h : Watched l ip opened count w) (hwithin : event.within l ip opened.now)
    (hstep : LimiterStep l textBefore w event w') :
    Watched l ip opened (count + (event.admitted ip).length) w' := by
  cases hstep with
  | @allow source a hfollows =>
    have hnow : Watched l ip opened count ⟨w.counts, a.now⟩ := h.follows hfollows
    by_cases hsource : source = ip
    · subst hsource
      rw [LimiterEvent.admitted, if_pos rfl]
      exact hnow.allow (hwithin rfl)
    rw [LimiterEvent.admitted, if_neg hsource]
    obtain ⟨hcache, -⟩ := allow_other (l := l) (a := a) (c := w.counts) (Ne.symm hsource)
    show Watched l ip opened (count + 0) _
    rw [Int.add_zero]
    refine ⟨hnow.mono, hnow.bounded, fun hsub => ?_⟩
    obtain ⟨n, hn, hle⟩ := hnow.counted hsub
    exact ⟨n, hcache.trans hn, hle⟩
  | @cleanCache now hfollows =>
    have hnow : Watched l ip opened count ⟨w.counts, now⟩ := h.follows hfollows
    show Watched l ip opened (count + 0) _
    rw [Int.add_zero]
    refine ⟨hnow.mono, hnow.bounded, fun hsub => ?_⟩
    obtain ⟨n, hn, hle⟩ := hnow.counted hsub
    exact ⟨n, Option.filter_eq_some_iff.mpr ⟨hn, decide_eq_true hsub⟩, hle⟩
  | @cleanRows now fails hfollows =>
    have hnow : Watched l ip opened count ⟨w.counts, now⟩ := h.follows hfollows
    show Watched l ip opened (count + 0) _
    rw [Int.add_zero]
    exact ⟨hnow.mono, hnow.bounded, hnow.counted⟩
  | restart => exact hwithin.elim

theorem Watched.run (h : Watched l ip opened count w)
    (hpath : Path (LimiterStep l textBefore) w during w')
    (hwithin : ∀ e ∈ during, e.label.within l ip opened.now) :
    Watched l ip opened (count + (admissions ip during).length) w' := by
  induction hpath with
  | nil => simpa [admissions] using h
  | snoc _ hstep ih =>
    have hbefore := ih fun e he => hwithin e (List.mem_append_left _ he)
    have hlast := hbefore.step (hwithin _ (List.mem_append_right _ (List.mem_singleton_self _))) hstep
    rwa [admissions_snoc, List.length_append, Int.natCast_add, ← Int.add_assoc]

theorem watched_of_opens (hstep : LimiterStep l textBefore w (.allow ip a ok) w')
    (hopens : w'.counts.cache ip = some ⟨1, a.now.now⟩) :
    Watched l ip a.now (passed a ok).length w' := by
  have hone : ((passed a ok).length : Int) ≤ 1 := by cases ok <;> simp [passed]
  cases hstep with
  | allow _ => exact ⟨Nat.le_refl _, Int.le_trans hone (le_max_right _ _), fun _ => ⟨1, hopens, hone⟩⟩

theorem inStretch_le (h : length ≤ reach) : inStretch x length times ≤ inStretch x reach times := by
  refine Int.ofNat_le.mpr (List.countP_mono_left fun t _ ht => ?_)
  simp only [decide_eq_true_eq] at ht ⊢
  exact ⟨ht.1, by omega⟩

/-- Between the opening of a window and its end a process lets at most as many calls through as the
limit says, or the one that opened it, and any stretch of time shorter than the window by a second
sees at most twice as many, over restarts, cleanups and writes that fail. -/
theorem limiter_bounded {clock : Reading} {steps : List (Transition Limited LimiterEvent)} {w : Limited}
    (htext : TextOrder textBefore) (h : Path (LimiterStep l textBefore) ⟨{}, clock⟩ steps w) :
    (∀ past e during a ok, steps = past ++ e :: during → e.label = .allow ip a ok →
      e.after.counts.cache ip = some ⟨1, a.now.now⟩ →
      (∀ e' ∈ during, e'.label.within l ip a.now.now) →
      ((admissions ip (e :: during)).length : Int) ≤ max l.limit 1) ∧
    ∀ x length, length ≤ l.window - 1000000000 →
      inStretch x length (admissions ip steps) ≤ 2 * max l.limit 1 := by
  constructor
  · intro past e during a ok hsteps hlabel hopens hwithin
    have hstep := (h.split hsteps).2
    rw [hlabel] at hstep
    have hwatched := (watched_of_opens hstep hopens).run (h.rest_of_split hsteps) hwithin
    have hcount : admissions ip (e :: during) = passed a ok ++ admissions ip during := by
      simp [admissions, hlabel, LimiterEvent.admitted]
    rw [hcount, List.length_append, Int.natCast_add]
    exact hwatched.bounded
  intro x length hlength
  have haccounted : Accounted l ip (admissions ip steps) w := accounted htext h
  obtain ⟨_, _, _, htimes, haccount⟩ := haccounted
  rw [htimes]
  exact Int.le_trans (inStretch_le hlength) (haccount.spread x)

def wallBefore (a b : Time) : Bool := decide (a.wall < b.wall)

def loginLimiter : PersistentRateLimiter := ⟨5, 60000000000⟩

def noon : Reading := ⟨1760000000000000000, 7200, 4000000000⟩

/-- An event with the answer that the limiter gives, and what it leaves. -/
def PersistentRateLimiter.respond (l : PersistentRateLimiter) (textBefore : Time → Time → Bool)
    (w : Limited) : LimiterEvent → LimiterEvent × Limited
  | .allow ip a _ =>
    (.allow ip a (l.allow a ip w.counts).1, ⟨(l.allow a ip w.counts).2, a.now⟩)
  | .cleanCache now =>
    (.cleanCache now, ⟨{ w.counts with cache := l.retainOpen now.now w.counts.cache }, now⟩)
  | .cleanRows now fails => (.cleanRows now fails, ⟨{ w.counts with
      rows := if fails then w.counts.rows
        else l.cleanExpiredRateLimitBuckets textBefore now.now w.counts.rows }, now⟩)
  | .restart now => (.restart now, ⟨{ rows := w.counts.rows }, now⟩)

def LimiterEvent.timely (clock : Reading) : LimiterEvent → Bool
  | .allow _ a _ => decide (Follows clock a.now)
  | .cleanCache now | .cleanRows now _ => decide (Follows clock now)
  | .restart now => decide (now.offset = clock.offset ∧ clock.wall ≤ now.wall)

theorem limiterStep_respond (w : Limited) (event : LimiterEvent)
    (h : (l.respond textBefore w event).1.timely w.clock = true) :
    LimiterStep l textBefore w (l.respond textBefore w event).1 (l.respond textBefore w event).2 := by
  cases event with
  | allow => exact .allow (of_decide_eq_true h)
  | cleanCache => exact .cleanCache (of_decide_eq_true h)
  | cleanRows => exact .cleanRows (of_decide_eq_true h)
  | restart =>
    obtain ⟨hoffset, hwall⟩ := of_decide_eq_true h
    exact .restart hoffset hwall

instance (l : PersistentRateLimiter) (ip : String) (start : Time) :
    DecidablePred (LimiterEvent.within l ip start)
  | .allow _ _ _ => inferInstanceAs (Decidable (_ → _))
  | .restart _ => inferInstanceAs (Decidable False)
  | .cleanCache _ | .cleanRows _ _ => isTrue trivial

/-- So many seconds after noon, of which the process has been up since a given one. -/
def second (boot seconds : Nat) : Reading :=
  ⟨noon.wall + seconds * 1000000000, noon.offset, noon.mono + (seconds - boot) * 1000000000⟩

def tries (boot : Nat) (times : List Nat) : List LimiterEvent :=
  times.map fun seconds => .allow "192.0.2.7" ⟨second boot seconds, false, false⟩ false

def loginSteps (events : List LimiterEvent) : List (Transition Limited LimiterEvent) :=
  transitions (loginLimiter.respond wallBefore) ⟨{}, noon⟩ events

theorem path_loginSteps (h : ∀ e ∈ loginSteps events, e.label.timely e.before.clock = true) :
    ∃ w, Path (LimiterStep loginLimiter wallBefore) ⟨{}, noon⟩ (loginSteps events) w :=
  Path.of_transitions (G := fun (w : Limited) (event : LimiterEvent) => event.timely w.clock = true)
    limiterStep_respond h

def firstWindow : List LimiterEvent := tries 0 [0, 50, 51, 52, 53, 54]

/-- The first window fills up, also for the process that follows; the second one is opened after a
cleanup, and its second attempt is one that cannot be written. -/
def twoWindows : List LimiterEvent :=
  firstWindow ++ .restart (second 55 55) :: tries 55 [56] ++
  [.cleanCache (second 55 61), .cleanRows (second 55 61) false] ++ tries 55 [62] ++
  .allow "192.0.2.7" ⟨second 55 63, false, true⟩ false :: tries 55 [64, 65, 66, 67]

theorem login_limiter_bounded : ((admissions "192.0.2.7" (loginSteps firstWindow)).length = 5 ∧
      ((admissions "192.0.2.7" (loginSteps firstWindow)).length : Int) ≤ max loginLimiter.limit 1) ∧
    inStretch (second 0 50).wall 59000000000 (admissions "192.0.2.7" (loginSteps twoWindows)) = 8 ∧
      inStretch (second 0 50).wall 59000000000 (admissions "192.0.2.7" (loginSteps twoWindows)) ≤
        2 * max loginLimiter.limit 1 := by
  have htext : TextOrder wallBefore := fun _ _ _ h => of_decide_eq_true h
  obtain ⟨w, hfirst⟩ : ∃ w, Path _ _ (loginSteps firstWindow) w := path_loginSteps (by decide +kernel)
  obtain ⟨_, htwo⟩ : ∃ w, Path _ _ (loginSteps twoWindows) w := path_loginSteps (by decide +kernel)
  refine ⟨⟨by decide +kernel, ?_⟩, by decide +kernel, (limiter_bounded htext htwo).2 _ _ (by decide)⟩
  exact (limiter_bounded htext hfirst).1 [] _ _ _ _ rfl rfl (by decide +kernel) (by decide +kernel)

theorem zero_limit_passes : let l : PersistentRateLimiter := ⟨0, 60000000000⟩
    let a : Access := ⟨noon, false, false⟩
    let after : Limited := ⟨(l.allow a "192.0.2.7" {}).2, noon⟩
    let steps : List (Transition Limited LimiterEvent) := [⟨⟨{}, noon⟩, .allow "192.0.2.7" a true, after⟩]
    Path (LimiterStep l wallBefore) ⟨{}, noon⟩ steps after ∧
      after.counts.cache "192.0.2.7" = some ⟨1, noon.now⟩ ∧
      l.limit < (admissions "192.0.2.7" steps).length ∧
      2 * l.limit < inStretch noon.wall 59000000000 (admissions "192.0.2.7" steps) := by
  refine ⟨.single (.allow (a := ⟨noon, false, false⟩) (Follows.refl noon)), ?_, ?_, ?_⟩
  · decide +kernel
  · decide +kernel
  · decide +kernel

end MinimalRouter.Auth
