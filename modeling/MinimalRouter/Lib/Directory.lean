import Mathlib.Data.List.Basic

/-! A directory whose changes are durable once it has been synchronised: a crash takes it back to
the state that it had at some moment since. -/

universe u

namespace MinimalRouter.Lib

structure Directory (α : Type u) where
  now : α
  past : List α := []

namespace Directory

variable {α : Type u}

def change (d : Directory α) (a : α) : Directory α := ⟨a, d.now :: d.past⟩

def sync (d : Directory α) : Directory α := ⟨d.now, []⟩

def views (d : Directory α) : List α := d.now :: d.past

def Crash (d d' : Directory α) : Prop := d'.now ∈ d.views ∧ d'.past = []

theorem forall_views_change {P : α → Prop} {d : Directory α} (h : ∀ b ∈ d.views, P b) (ha : P a) :
    ∀ b ∈ (d.change a).views, P b :=
  List.forall_mem_cons.mpr ⟨ha, h⟩

theorem forall_views_sync {P : α → Prop} {d : Directory α} (h : ∀ b ∈ d.views, P b) :
    ∀ b ∈ d.sync.views, P b :=
  List.forall_mem_singleton.mpr (h d.now List.mem_cons_self)

theorem Crash.views (h : Crash d d') : d'.views = [d'.now] := by
  unfold Directory.views
  rw [h.2]

end Directory

end MinimalRouter.Lib
