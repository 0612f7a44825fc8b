import MinimalRouter.Goish.Time
import MinimalRouter.Lib.Path

namespace MinimalRouter.Auth

open Goish Lib

structure Bucket where
  attempts : Int
  windowStart : Time
  deriving DecidableEq

abbrev Buckets := String → Option Bucket

structure Access where
  now : Reading
  (readFails writeFails : Bool := false)

structure Counts where
  (cache rows : Buckets := fun _ => none)

structure PersistentRateLimiter where
  (limit window : Int)

namespace PersistentRateLimiter

variable (l : PersistentRateLimiter)

def setRateLimitBucket (a : Access) (ip : String) (b : Bucket) (rows : Buckets) : Bool × Buckets :=
  if a.writeFails then (false, rows)
  else (true, Function.update rows ip (some { b with windowStart := b.windowStart.seconds }))

def lapsed (now start : Time) : Bool := decide (now.sub start > l.window) || now.before start

def save (a : Access) (ip : String) (b : Bucket) (c : Counts) : Bool × Counts :=
  let (ok, rows) := setRateLimitBucket a ip b c.rows
  (ok, ⟨Function.update c.cache ip (some b), rows⟩)

def allow (a : Access) (ip : String) (c : Counts) : Bool × Counts :=
  let now := a.now.now
  match c.cache ip with
  | some b =>
    if l.lapsed now b.windowStart then save a ip ⟨1, now⟩ c
    else if b.attempts ≥ l.limit then (false, c)
    else save a ip ⟨b.attempts + 1, b.windowStart⟩ c
  | none =>
    if a.readFails then (false, c)
    else
      match c.rows ip with
      | none => save a ip ⟨1, now⟩ c
      | some b =>
        if l.lapsed now b.windowStart then save a ip ⟨1, now⟩ c
        else if b.attempts ≥ l.limit then
          (false, { c with cache := Function.update c.cache ip (some b) })
        else save a ip ⟨b.attempts + 1, b.windowStart⟩ c

def retainOpen (now : Time) (cache : Buckets) : Buckets :=
  fun ip => (cache ip).filter fun b => decide (now.sub b.windowStart ≤ l.window)

def cleanExpiredRateLimitBuckets (textBefore : Time → Time → Bool) (now : Time) (rows : Buckets) :
    Buckets :=
  fun ip => (rows ip).filter fun b => !textBefore b.windowStart (now.add (-l.window)).seconds

end PersistentRateLimiter

def Counts.view (c : Counts) (ip : String) : Option Bucket :=
  match c.cache ip with
  | some b => some b
  | none => c.rows ip

inductive Allows (l : PersistentRateLimiter) (a : Access) (ip : String) (c : Counts) :
    Bool × Counts → Prop
  | refused : Allows l a ip c (false, c)
  | loaded (hcache : c.cache ip = none) (hrow : c.rows ip = some b) :
      Allows l a ip c (false, { c with cache := Function.update c.cache ip (some b) })
  | opened (h : ∀ b, c.view ip = some b → l.lapsed a.now.now b.windowStart = true) :
      Allows l a ip c (PersistentRateLimiter.save a ip ⟨1, a.now.now⟩ c)
  | counted (hview : c.view ip = some b) (hopen : l.lapsed a.now.now b.windowStart = false)
      (hlimit : b.attempts < l.limit) :
      Allows l a ip c (PersistentRateLimiter.save a ip ⟨b.attempts + 1, b.windowStart⟩ c)

theorem allows_allow : Allows l a ip c (l.allow a ip c) := by
  unfold PersistentRateLimiter.allow
  dsimp only
  split
  · next b hcache =>
    have hview : c.view ip = some b := by rw [Counts.view, hcache]
    split
    · next hover =>
      refine .opened fun b' hb' => ?_
      obtain rfl : b = b' := Option.some.inj (hview.symm.trans hb')
      exact hover
    split
    · exact .refused
    · next hover hlimit => exact .counted hview (Bool.eq_false_iff.mpr hover) (Int.not_le.mp hlimit)
  · next hcache =>
    have hview : c.view ip = c.rows ip := by rw [Counts.view, hcache]
    split
    · exact .refused
    split
    · next hrow =>
      refine .opened fun b' hb' => ?_
      rw [hview, hrow] at hb'
      cases hb'
    · next b hrow =>
      rw [hrow] at hview
      split
      · next hover =>
        refine .opened fun b' hb' => ?_
        obtain rfl : b = b' := Option.some.inj (hview.symm.trans hb')
        exact hover
      split
      · exact .loaded hcache hrow
      · next hover hlimit => exact .counted hview (Bool.eq_false_iff.mpr hover) (Int.not_le.mp hlimit)

structure Follows (a b : Reading) : Prop where
  offset : b.offset = a.offset
  wall : a.wall ≤ b.wall
  mono : a.mono ≤ b.mono
  steady : (b.mono : Int) - a.mono ≤ b.wall - a.wall

instance (a b : Reading) : Decidable (Follows a b) :=
  decidable_of_iff (b.offset = a.offset ∧ a.wall ≤ b.wall ∧ a.mono ≤ b.mono ∧
      (b.mono : Int) - a.mono ≤ b.wall - a.wall)
    ⟨fun ⟨hoffset, hwall, hmono, hsteady⟩ => ⟨hoffset, hwall, hmono, hsteady⟩,
      fun h => ⟨h.offset, h.wall, h.mono, h.steady⟩⟩

theorem Follows.refl (a : Reading) : Follows a a := ⟨rfl, Nat.le_refl _, Nat.le_refl _, by omega⟩

/-- What happens to a limiter: calls with their answers, the two halves of the periodic cleanup, and
restarts of the process, whose monotonic clock then starts afresh. -/
inductive LimiterEvent
  | allow : String → Access → Bool → LimiterEvent
  | cleanCache : Reading → LimiterEvent
  | cleanRows : Reading → Bool → LimiterEvent
  | restart : Reading → LimiterEvent

structure Limited where
  counts : Counts := {}
  clock : Reading

section Steps

variable (l : PersistentRateLimiter) (textBefore : Time → Time → Bool)

inductive LimiterStep (w : Limited) : LimiterEvent → Limited → Prop
  | allow (h : Follows w.clock a.now) :
      LimiterStep w (.allow ip a (l.allow a ip w.counts).1) ⟨(l.allow a ip w.counts).2, a.now⟩
  | cleanCache (h : Follows w.clock now) : LimiterStep w (.cleanCache now)
        ⟨{ w.counts with cache := l.retainOpen now.now w.counts.cache }, now⟩
  | cleanRows (h : Follows w.clock now) : LimiterStep w (.cleanRows now fails)
        ⟨{ w.counts with
          rows := if fails then w.counts.rows
            else l.cleanExpiredRateLimitBuckets textBefore now.now w.counts.rows }, now⟩
  | restart (hoffset : now.offset = w.clock.offset) (hwall : w.clock.wall ≤ now.wall) :
      LimiterStep w (.restart now) ⟨{ rows := w.counts.rows }, now⟩

end Steps

end MinimalRouter.Auth
