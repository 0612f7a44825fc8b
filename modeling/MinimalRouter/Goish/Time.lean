import MinimalRouter.Goish.Json

namespace MinimalRouter.Goish

/-- A wall-clock instant in nanoseconds since the Unix epoch with its zone offset in seconds, and
the monotonic reading that only a value taken from the clock carries. -/
structure Time where
  (wall offset : Int)
  mono : Option Int
  deriving DecidableEq

namespace Time

def zero : Time := ⟨-62135596800 * 1000000000, 0, none⟩

def isZero (t : Time) : Bool := t.wall == zero.wall

def unix (t : Time) : Int := t.wall / 1000000000

def unixNano (t : Time) : Int :=
  if -(2 ^ 63) ≤ t.wall ∧ t.wall < 2 ^ 63 then t.wall else -(2 ^ 63)

def before (a b : Time) : Bool :=
  match a.mono, b.mono with
  | some x, some y => decide (x < y)
  | _, _ => decide (a.wall < b.wall)

def after (a b : Time) : Bool :=
  match a.mono, b.mono with
  | some x, some y => decide (y < x)
  | _, _ => decide (b.wall < a.wall)

def add (t : Time) (nanoseconds : Int) : Time :=
  { t with wall := t.wall + nanoseconds, mono := t.mono.map (· + nanoseconds) }

def sub (a b : Time) : Int :=
  match a.mono, b.mono with
  | some x, some y => x - y
  | _, _ => max (-(2 ^ 63)) (min (2 ^ 63 - 1) (a.wall - b.wall))

def seconds (t : Time) : Time := ⟨t.wall - t.wall % 1000000000, t.offset, none⟩

def stored (t : Time) : Time := { t with mono := none }

instance : Marshal Time := ⟨fun t => .time t.wall t.offset⟩

end Time

/-- One reading of the system clocks.  The appliance clock never shows a time before the epoch. -/
structure Reading where
  wall : Nat
  offset : Int
  mono : Nat
  deriving DecidableEq

namespace Reading

def now (r : Reading) : Time := ⟨r.wall, r.offset, some r.mono⟩

@[simp] theorem isZero_now (r : Reading) : r.now.isZero = false := by
  simp only [Time.isZero, now, Time.zero, beq_eq_false_iff_ne]
  omega

end Reading

end MinimalRouter.Goish
