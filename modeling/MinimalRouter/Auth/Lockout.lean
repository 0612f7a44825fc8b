import Mathlib.Data.List.Induction
import MinimalRouter.Auth.Windows

namespace MinimalRouter.Auth

open Goish Lib

def allLoginSources : String := "all-login-sources"

abbrev Source := { ip : String // ip ≠ allLoginSources }

structure LoginAttempt where
  source : Source
  (global own : Access)

structure Logins where
  (global own rows : Buckets := fun _ => none)

structure LoginEntry where
  attempt : LoginAttempt
  (own global : Bool)

def LoginEntry.admitted (e : LoginEntry) : Bool := e.own && e.global

structure LoginLimiters where
  (rate global : PersistentRateLimiter)

def routerLimiters : LoginLimiters := ⟨loginLimiter, ⟨100, 60000000000⟩⟩

section Handle

variable (ls : LoginLimiters)

/-- Both limiters are asked, and both count the attempt, whatever the other says. -/
def handleLogin (s : Logins) (x : LoginAttempt) : LoginEntry × Logins :=
  let (globalOk, c) := ls.global.allow x.global allLoginSources ⟨s.global, s.rows⟩
  let (ownOk, c') := ls.rate.allow x.own x.source ⟨s.own, c.rows⟩
  (⟨x, ownOk, globalOk⟩, ⟨c.cache, c'.cache, c'.rows⟩)

def handleLogins (xs : List LoginAttempt) : Logins × List LoginEntry :=
  xs.foldl (fun r x => ((handleLogin ls r.1 x).2, r.2 ++ [(handleLogin ls r.1 x).1])) ({}, [])

def answersTo (b : Source) (entries : List LoginEntry) : List Bool :=
  entries.filterMap fun e => if e.attempt.source = b then some e.admitted else none

def without (a : Source) (entries : List LoginEntry) : List LoginAttempt :=
  (entries.filter fun e => !(decide (e.attempt.source = a) && !e.own)).map LoginEntry.attempt

end Handle

def PersistentRateLimiter.tally (l : PersistentRateLimiter) (t : Option Bucket) (a : Access) :
    Option Bucket :=
  match t with
  | none => if a.readFails then none else some ⟨1, a.now.now⟩
  | some b =>
    if l.lapsed a.now.now b.windowStart then some ⟨1, a.now.now⟩
    else some ⟨b.attempts + 1, b.windowStart⟩

def globalTally (ls : LoginLimiters) (xs : List LoginAttempt) : Option Bucket :=
  xs.foldl (fun t x => ls.global.tally t x.global) none

def LastWithin (ls : LoginLimiters) (xs : List LoginAttempt) : Prop :=
  ∃ b, globalTally ls xs = some b ∧ b.attempts ≤ ls.global.limit

instance (ls : LoginLimiters) (xs : List LoginAttempt) : Decidable (LastWithin ls xs) :=
  decidable_of_iff ((globalTally ls xs).any (·.attempts ≤ ls.global.limit) = true)
    (by simp [LastWithin, Option.any_eq_true])

/-- The bucket that is kept for a tally, which does not count on after the limit. -/
structure Tallied (l : PersistentRateLimiter) (ip : String) (t : Option Bucket) (c : Counts) : Prop where
  cache : c.cache ip = t.map fun b => ⟨min b.attempts l.limit, b.windowStart⟩
  row : t = none → c.rows ip = none

def verdict (l : PersistentRateLimiter) (a : Access) (t : Option Bucket) : Bool :=
  !a.writeFails && t.any fun b => decide (b.attempts ≤ l.limit)

theorem save_answers : (PersistentRateLimiter.save a ip b c).1 = !a.writeFails ∧
      (PersistentRateLimiter.save a ip b c).2.cache ip = some b := by
  cases hwrite : a.writeFails with
  | false =>
    rw [save_of_writes hwrite]
    exact ⟨rfl, cache_put⟩
  | true =>
    rw [save_of_fails hwrite]
    exact ⟨rfl, Function.update_self ip _ c.cache⟩

theorem tallied_save (h : b.attempts ≤ l.limit) :
    (PersistentRateLimiter.save a ip b c).1 = verdict l a (some b) ∧
      Tallied l ip (some b) (PersistentRateLimiter.save a ip b c).2 := by
  have hcache : (PersistentRateLimiter.save a ip b c).2.cache ip = some b := save_answers.2
  refine ⟨?_, ⟨?_, nofun⟩⟩
  · rw [save_answers.1]
    simp [verdict, h]
  · rw [hcache, Option.map_some, Int.min_eq_left h]

theorem Tallied.allow (h : Tallied l ip t c) (hlimit : 1 ≤ l.limit) :
    (l.allow a ip c).1 = verdict l a (l.tally t a) ∧
      Tallied l ip (l.tally t a) (l.allow a ip c).2 := by
  have hcache := h.cache
  cases t with
  | none =>
    rw [Option.map_none] at hcache
    unfold PersistentRateLimiter.allow PersistentRateLimiter.tally
    simp only [hcache, h.row rfl]
    cases a.readFails with
    | true => exact ⟨by simp [verdict], h⟩
    | false => exact tallied_save hlimit
  | some b =>
  rw [Option.map_some] at hcache
  unfold PersistentRateLimiter.allow PersistentRateLimiter.tally
  simp only [hcache]
  by_cases hover : l.lapsed a.now.now b.windowStart = true
  · rw [if_pos hover, if_pos hover]
    exact tallied_save hlimit
  rw [if_neg hover, if_neg hover]
  by_cases hfull : l.limit ≤ b.attempts
  · rw [Int.min_eq_right hfull, if_pos (Int.le_refl _)]
    have hnot : ¬ b.attempts + 1 ≤ l.limit := by omega
    refine ⟨by simp [verdict, hnot], ⟨?_, nofun⟩⟩
    rw [hcache, Option.map_some, Int.min_eq_right hfull, Int.min_eq_right (Int.le_add_one hfull)]
  have hlt := Int.not_le.mp hfull
  rw [Int.min_eq_left (Int.le_of_lt hlt), if_neg hfull]
  exact tallied_save hlt

section Runs

variable {l : PersistentRateLimiter} {ls : LoginLimiters} {b : Source} {x : LoginAttempt}
  {s : Logins}

structure AgreeAt (ip : String) (c c' : Counts) : Prop where
  cache : c.cache ip = c'.cache ip
  rows : c.rows ip = c'.rows ip

theorem AgreeAt.save (h : AgreeAt ip c c') :
    (PersistentRateLimiter.save a ip d c).1 = (PersistentRateLimiter.save a ip d c').1 ∧
      AgreeAt ip (PersistentRateLimiter.save a ip d c).2 (PersistentRateLimiter.save a ip d c').2 := by
  cases hwrite : a.writeFails with
  | false =>
    rw [save_of_writes hwrite, save_of_writes hwrite]
    exact ⟨rfl, cache_put.trans cache_put.symm, rows_put.trans rows_put.symm⟩
  | true =>
    rw [save_of_fails hwrite, save_of_fails hwrite]
    exact ⟨rfl, by simp, h.rows⟩

theorem AgreeAt.allow (h : AgreeAt ip c c') :
    (l.allow a ip c).1 = (l.allow a ip c').1 ∧ AgreeAt ip (l.allow a ip c).2 (l.allow a ip c').2 := by
  unfold PersistentRateLimiter.allow
  rw [← h.cache, ← h.rows]
  dsimp only
  split
  · split
    · exact h.save
    split
    · exact ⟨rfl, h⟩
    · exact h.save
  split
  · exact ⟨rfl, h⟩
  split
  · exact h.save
  split
  · exact h.save
  split
  · exact ⟨rfl, ⟨by simp, h.rows⟩⟩
  · exact h.save

theorem AgreeAt.allow_other (hne : ip ≠ source) : AgreeAt ip (l.allow a source c).2 c :=
  ⟨(Auth.allow_other hne).1, (Auth.allow_other hne).2⟩

theorem AgreeAt.symm (h : AgreeAt ip c c') : AgreeAt ip c' c := ⟨h.cache.symm, h.rows.symm⟩

theorem AgreeAt.trans (h : AgreeAt ip c c') (h' : AgreeAt ip c' c'') :
    AgreeAt ip c c'' := ⟨h.cache.trans h'.cache, h.rows.trans h'.rows⟩

def Logins.sources (s : Logins) : Counts := ⟨s.own, s.rows⟩

def Logins.all (s : Logins) : Counts := ⟨s.global, s.rows⟩

theorem rows_global : (ls.global.allow x.global allLoginSources s.all).2.rows b = s.rows b :=
  (Auth.allow_other b.2).2

theorem agreeAt_handleLogin_other (hne : x.source ≠ b) :
    AgreeAt b (handleLogin ls s x).2.sources s.sources := by
  let c : Counts := ⟨s.own, (ls.global.allow x.global allLoginSources s.all).2.rows⟩
  have hown : AgreeAt b (ls.rate.allow x.own x.source c).2 c :=
    AgreeAt.allow_other fun h => hne (Subtype.ext h.symm)
  exact hown.trans ⟨rfl, rows_global⟩

theorem agreeAt_handleLogin (ls : LoginLimiters) (x : LoginAttempt)
    (h : AgreeAt x.source s.sources s'.sources) :
    (handleLogin ls s x).1.own = (handleLogin ls s' x).1.own ∧
      AgreeAt x.source (handleLogin ls s x).2.sources (handleLogin ls s' x).2.sources := by
  refine AgreeAt.allow (l := ls.rate) ⟨h.cache, ?_⟩
  exact rows_global.trans (h.rows.trans rows_global.symm)

theorem tallied_handleLogin (h : Tallied ls.global allLoginSources t s.all)
    (hlimit : 1 ≤ ls.global.limit) :
    (handleLogin ls s x).1.global = verdict ls.global x.global (ls.global.tally t x.global) ∧
      Tallied ls.global allLoginSources (ls.global.tally t x.global) (handleLogin ls s x).2.all := by
  obtain ⟨hanswer, htallied⟩ := h.allow (a := x.global) hlimit
  refine ⟨hanswer, htallied.cache, fun hnone => ?_⟩
  exact (Auth.allow_other (Ne.symm x.source.2)).2.trans (htallied.row hnone)

theorem handleLogins_snoc : handleLogins ls (xs ++ [x]) =
    ((handleLogin ls (handleLogins ls xs).1 x).2,
      (handleLogins ls xs).2 ++ [(handleLogin ls (handleLogins ls xs).1 x).1]) := by
  unfold handleLogins
  rw [List.foldl_append]
  rfl

theorem globalTally_snoc :
    globalTally ls (xs ++ [x]) = ls.global.tally (globalTally ls xs) x.global := by
  unfold globalTally
  rw [List.foldl_append]
  rfl

theorem tallied_handleLogins (hlimit : 1 ≤ ls.global.limit) (xs : List LoginAttempt) :
    Tallied ls.global allLoginSources (globalTally ls xs) (handleLogins ls xs).1.all := by
  induction xs using List.reverseRecOn with
  | nil => exact ⟨rfl, fun _ => rfl⟩
  | append_singleton xs x ih =>
    rw [handleLogins_snoc, globalTally_snoc]
    exact (tallied_handleLogin ih hlimit).2

theorem global_iff (hlimit : 1 ≤ ls.global.limit) (xs : List LoginAttempt) (x : LoginAttempt) :
    (handleLogin ls (handleLogins ls xs).1 x).1.global = true ↔
      x.global.writeFails = false ∧ LastWithin ls (xs ++ [x]) := by
  rw [(tallied_handleLogin (tallied_handleLogins hlimit xs) hlimit).1, LastWithin, globalTally_snoc]
  simp only [verdict, Bool.and_eq_true, Bool.not_eq_true', Option.any_eq_true, decide_eq_true_eq]

theorem attempt_handleLogins : (handleLogins ls xs).2.map LoginEntry.attempt = xs := by
  induction xs using List.reverseRecOn with
  | nil => rfl
  | append_singleton xs x ih =>
    rw [handleLogins_snoc, List.map_append, ih]
    rfl

theorem answersTo_snoc : answersTo b (es ++ [e]) =
    answersTo b es ++ if e.attempt.source = b then [e.admitted] else [] := by
  unfold answersTo
  rw [List.filterMap_append]
  by_cases h : e.attempt.source = b <;> simp [h]

theorem without_snoc : without a (es ++ [e]) =
    without a es ++ if e.attempt.source = a ∧ e.own = false then [] else [e.attempt] := by
  unfold without
  rw [List.filter_append, List.map_append]
  by_cases h : e.attempt.source = a <;> cases hown : e.own <;> simp [h, hown]

/-- An attempt of a source that its own limiter admits is counted alike with and without the
attempts of another that were turned away. -/
def CountsAlike (ls : LoginLimiters) (a b : Source) (before : List LoginEntry) (e : LoginEntry) : Prop :=
  e.attempt.source = b → e.own = true → e.attempt.global.writeFails = false →
    (LastWithin ls (before.map LoginEntry.attempt ++ [e.attempt]) ↔
      LastWithin ls (without a before ++ [e.attempt]))

def AllCountAlike (ls : LoginLimiters) (a b : Source) (es : List LoginEntry) : Prop :=
  ∀ before e after, es = before ++ e :: after → CountsAlike ls a b before e

theorem allCountAlike_snoc :
    AllCountAlike ls a b (es ++ [e]) ↔ AllCountAlike ls a b es ∧ CountsAlike ls a b es e := by
  constructor
  · intro h
    refine ⟨fun before e' after hes => h before e' (after ++ [e]) ?_, h es e [] rfl⟩
    rw [hes, List.append_assoc, List.cons_append]
  rintro ⟨h, hlast⟩ before e' after hes
  rcases List.eq_nil_or_concat' after with rfl | ⟨after, _, rfl⟩
  · obtain ⟨rfl, he⟩ := List.append_inj' hes rfl
    cases he
    exact hlast
  · rw [← List.cons_append, ← List.append_assoc] at hes
    exact h before e' after (List.append_inj' hes rfl).1

theorem admitted_iff (hlimit : 1 ≤ ls.global.limit)
    (hown : (handleLogin ls (handleLogins ls xs).1 x).1.own =
      (handleLogin ls (handleLogins ls (without a (handleLogins ls xs).2)).1 x).1.own) :
    (handleLogin ls (handleLogins ls xs).1 x).1.admitted =
        (handleLogin ls (handleLogins ls (without a (handleLogins ls xs).2)).1 x).1.admitted ↔
      CountsAlike ls a x.source (handleLogins ls xs).2 (handleLogin ls (handleLogins ls xs).1 x).1 := by
  have hfull := global_iff hlimit xs x
  have hkept := global_iff hlimit (without a (handleLogins ls xs).2) x
  have hattempt : (handleLogin ls (handleLogins ls xs).1 x).1.attempt = x := rfl
  unfold LoginEntry.admitted CountsAlike
  rw [← hown, hattempt, attempt_handleLogins, Bool.eq_iff_iff, Bool.and_eq_true, Bool.and_eq_true,
    hfull, hkept]
  grind

/-- The answers to a source after an attempt, with and without the attempts of another that were
turned away. -/
theorem answersTo_iff (hlimit : 1 ≤ ls.global.limit) (hne : a ≠ b) (xs : List LoginAttempt) :
    AgreeAt b (handleLogins ls xs).1.sources
        (handleLogins ls (without a (handleLogins ls xs).2)).1.sources ∧
      (answersTo b (handleLogins ls xs).2 =
          answersTo b (handleLogins ls (without a (handleLogins ls xs).2)).2 ↔
        AllCountAlike ls a b (handleLogins ls xs).2) := by
  induction xs using List.reverseRecOn with
  | nil => exact ⟨⟨rfl, rfl⟩, fun _ before e after h => by simp [handleLogins] at h, fun _ => rfl⟩
  | append_singleton xs x ih =>
  obtain ⟨hagree, hanswers⟩ := ih
  have hsource : (handleLogin ls (handleLogins ls xs).1 x).1.attempt = x := rfl
  rw [handleLogins_snoc, without_snoc, allCountAlike_snoc, hsource]
  by_cases hb : x.source = b
  · subst hb
    have hkeep : ¬ (x.source = a ∧ (handleLogin ls (handleLogins ls xs).1 x).1.own = false) :=
      fun h => hne h.1.symm
    obtain ⟨hown, hagree'⟩ := agreeAt_handleLogin ls x hagree
    rw [if_neg hkeep, handleLogins_snoc, answersTo_snoc, answersTo_snoc]
    refine ⟨hagree', ?_⟩
    rw [← hanswers, ← admitted_iff hlimit hown]
    refine ⟨fun h => ?_, fun h => ?_⟩
    · obtain ⟨hbefore, hlast⟩ := List.append_inj' h (by simp [handleLogin])
      exact ⟨hbefore, by simpa [handleLogin] using hlast⟩
    · simp only [handleLogin] at h ⊢
      rw [h.1, h.2]
  have hvacuous : CountsAlike ls a b (handleLogins ls xs).2 (handleLogin ls (handleLogins ls xs).1 x).1 :=
    fun h => (hb h).elim
  have hfull : AgreeAt b (handleLogin ls (handleLogins ls xs).1 x).2.sources _ :=
    agreeAt_handleLogin_other hb
  rw [answersTo_snoc, hsource, if_neg hb, List.append_nil, and_iff_left hvacuous]
  split
  · rw [List.append_nil]
    exact ⟨hfull.trans hagree, hanswers⟩
  rw [handleLogins_snoc, answersTo_snoc]
  have hkept : AgreeAt b (handleLogin ls
      (handleLogins ls (without a (handleLogins ls xs).2)).1 x).2.sources _ :=
    agreeAt_handleLogin_other hb
  refine ⟨hfull.trans (hagree.trans hkept.symm), ?_⟩
  simpa [handleLogin, hb] using hanswers

end Runs

/-- The answers to a source are those without the attempts of another that were turned away for
their source exactly when every attempt of the source that its own limiter admits and that can be
recorded stays within the limit for all sources in both, or exceeds it in both. -/
theorem lockout_iff {a b : Source} (hne : a ≠ b) (xs : List LoginAttempt) :
    let entries := (handleLogins routerLimiters xs).2
    answersTo b entries = answersTo b (handleLogins routerLimiters (without a entries)).2 ↔
      ∀ before e after, entries = before ++ e :: after → e.attempt.source = b → e.own = true →
        e.attempt.global.writeFails = false →
          (LastWithin routerLimiters (before.map LoginEntry.attempt ++ [e.attempt]) ↔
            LastWithin routerLimiters (without a before ++ [e.attempt])) :=
  (answersTo_iff (by decide) hne xs).2

def attacker : Source := ⟨"192.0.2.7", by decide⟩

def administrator : Source := ⟨"192.0.2.8", by decide⟩

def attemptOf (source : Source) : LoginAttempt := ⟨source, ⟨noon, false, false⟩, ⟨noon, false, false⟩⟩

def limitedRun : List LoginAttempt :=
  List.replicate 7 (attemptOf attacker) ++ [attemptOf administrator]

def limitedLog : List LoginEntry := (handleLogins routerLimiters limitedRun).2

/-- Two attempts of a source are over its limit; the other one is answered as without them. -/
theorem lockout_iff_at_limited_source : (without attacker limitedLog).length = 6 ∧
      answersTo administrator limitedLog = [true] ∧
      answersTo administrator limitedLog =
        answersTo administrator (handleLogins routerLimiters (without attacker limitedLog)).2 := by
  have halike : ∀ i < 8, ∀ e ∈ limitedLog[i]?,
      (LastWithin routerLimiters ((limitedLog.take i).map LoginEntry.attempt ++ [e.attempt]) ↔
        LastWithin routerLimiters (without attacker (limitedLog.take i) ++ [e.attempt])) := by
    decide +kernel
  refine ⟨by decide +kernel, by decide +kernel, (lockout_iff (by decide) limitedRun).mpr ?_⟩
  intro before e after hentries _ _ _
  have hlength : limitedLog.length = 8 := by decide +kernel
  have hcounts := halike before.length
  rw [limitedLog, hentries] at hlength hcounts
  rw [List.length_append, List.length_cons] at hlength
  simpa using hcounts (by omega) e (by simp)

/-- A source that goes on for long enough after it has been limited locks the others out. -/
theorem attacker_locks_out :
    let xs := List.replicate 100 (attemptOf attacker) ++ [attemptOf administrator]
    let entries := (handleLogins routerLimiters xs).2
    answersTo administrator entries = [false] ∧
      answersTo administrator (handleLogins routerLimiters (without attacker entries)).2 = [true] := by
  decide +kernel

end MinimalRouter.Auth
