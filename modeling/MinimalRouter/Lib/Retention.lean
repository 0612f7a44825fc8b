import Mathlib.Data.List.Induction
import Mathlib.Data.List.Sort

universe u v w

namespace MinimalRouter.Lib

variable {α : Type u} {κ : Type v} [LinearOrder κ] {key : α → κ} {l : List α}

def top (key : α → κ) (n : Nat) (l : List α) : List α :=
  (l.insertionSort fun a b => key b ≤ key a).take n

theorem mem_of_mem_top (h : x ∈ top key n l) : x ∈ l :=
  (List.mem_insertionSort _).mp (List.mem_of_mem_take h)

theorem exists_sorted (hnodup : (l.map key).Nodup) (hx : x ∈ l) : ∃ before after,
    l.insertionSort (fun a b => key b ≤ key a) = before ++ x :: after ∧
      before.length = l.countP (fun y => decide (key x < key y)) ∧ ∀ y ∈ before, key x < key y := by
  have : Std.Total fun a b : α => key b ≤ key a := ⟨fun a b => le_total (key b) (key a)⟩
  have : IsTrans α fun a b => key b ≤ key a := ⟨fun a b c hab hbc => hbc.trans hab⟩
  have hperm := List.perm_insertionSort (fun a b : α => key b ≤ key a) l
  have hsorted := List.pairwise_insertionSort (fun a b : α => key b ≤ key a) l
  have hkeys := ((hperm.map key).nodup_iff.mpr hnodup)
  obtain ⟨before, after, hsplit⟩ := List.append_of_mem (hperm.mem_iff.mpr hx)
  rw [hsplit] at hsorted hkeys
  obtain ⟨-, hafter, hbefore⟩ := List.pairwise_append.mp hsorted
  rw [List.map_append, List.map_cons, List.nodup_append] at hkeys
  have habove : ∀ y ∈ before, key x < key y := fun y hy =>
    lt_of_le_of_ne (hbefore y hy x List.mem_cons_self)
      (hkeys.2.2 _ (List.mem_map_of_mem hy) _ List.mem_cons_self).symm
  refine ⟨before, after, hsplit, ?_, habove⟩
  rw [← hperm.countP_eq, hsplit, List.countP_append, List.countP_cons_of_neg (by simp),
    List.countP_eq_length.mpr (by simpa),
    List.countP_eq_zero.mpr (by simpa using (List.pairwise_cons.mp hafter).1), Nat.add_zero]

theorem getElem?_top (hnodup : (l.map key).Nodup) (hx : x ∈ l)
    (hn : l.countP (fun y => decide (key x < key y)) < n) :
    (top key n l)[l.countP fun y => decide (key x < key y)]? = some x := by
  obtain ⟨_, _, hsplit, hlength, -⟩ := exists_sorted hnodup hx
  rw [top, hsplit, List.getElem?_take_of_lt hn, ← hlength]
  simp

theorem mem_top (n : Nat) (hnodup : (l.map key).Nodup) (hx : x ∈ l) :
    x ∈ top key n l ↔ l.countP (fun y => decide (key x < key y)) < n := by
  refine ⟨fun hmem => ?_, fun hn => List.mem_of_getElem? (getElem?_top hnodup hx hn)⟩
  obtain ⟨_, _, hsplit, _, habove⟩ := exists_sorted hnodup hx
  by_contra hle
  rw [top, hsplit, List.take_append_of_le_length (by omega)] at hmem
  exact lt_irrefl _ (habove x (List.mem_of_mem_take hmem))

omit [LinearOrder κ] in
theorem nodup_keys {id : α → ι} (hid : (l.map id).Nodup) (hkey : ∀ a b, key a = key b → id a = id b) :
    (l.map key).Nodup :=
  List.pairwise_map.mpr ((List.pairwise_map.mp hid).imp fun hne heq => hne (hkey _ _ heq))

section Pool

variable {ι : Type w} [DecidableEq ι] {id : α → ι}

/-- Of the entries of a pool only the greatest stay; all others stay. -/
def retain (key : α → κ) (id : α → ι) (pool : α → Bool) (n : Nat) (l : List α) : List α :=
  let kept := (top key n (l.filter pool)).map id
  l.filter fun x => !pool x || kept.contains (id x)

theorem mem_retain (hid : (l.map id).Nodup) (hkey : ∀ a b, key a = key b → id a = id b)
    (hx : x ∈ l) : x ∈ retain key id pool n l ↔
      pool x = false ∨ l.countP (fun y => decide (key x < key y) && pool y) < n := by
  have hids := List.Nodup.sublist ((List.filter_sublist (p := pool)).map _) hid
  have hkeys := nodup_keys hids hkey
  cases hpool : pool x with
  | false => simp [retain, hx, hpool]
  | true =>
    have hfilter := List.mem_filter.mpr ⟨hx, hpool⟩
    have htop := mem_top n hkeys hfilter
    rw [List.countP_filter] at htop
    simp only [retain, List.mem_filter, hx, hpool, true_and, Bool.not_true, Bool.false_or,
      List.contains_iff_mem, List.mem_map, reduceCtorEq, false_or, ← htop]
    refine ⟨fun ⟨other, hother, hsame⟩ => ?_, fun h => ⟨x, h, rfl⟩⟩
    exact List.inj_on_of_nodup_map hids (mem_of_mem_top hother) hfilter hsame ▸ hother

theorem retain_sublist : (retain key id pool n l).Sublist l := List.filter_sublist

theorem retain_eq_self (hid : (l.map id).Nodup) (hkey : ∀ a b, key a = key b → id a = id b)
    (h : l.countP pool ≤ n) : retain key id pool n l = l := by
  refine List.filter_eq_self.mpr fun x hx => ?_
  cases hpool : pool x with
  | false => rfl
  | true =>
    have hcount : (l.filter pool).countP (fun y => decide (key x < key y)) < (l.filter pool).length :=
      lt_of_le_of_ne List.countP_le_length fun heq => by
        simpa using List.countP_eq_length.mp heq x (List.mem_filter.mpr ⟨hx, hpool⟩)
    rw [List.countP_filter, ← List.countP_eq_length_filter] at hcount
    have hmem := (mem_retain hid hkey hx).mpr (.inr (hcount.trans_le h))
    simpa [hpool] using (List.mem_filter.mp hmem).2

theorem countP_retain_le (hid : (l.map id).Nodup) : (retain key id pool n l).countP pool ≤ n := by
  have hmine : ((retain key id pool n l).filter pool).Sublist l :=
    List.filter_sublist.trans retain_sublist
  have hnodup := hid.sublist (hmine.map id)
  have hsub : ((retain key id pool n l).filter pool).map id ⊆ (top key n (l.filter pool)).map id := by
    intro i hi
    obtain ⟨x, hx, rfl⟩ := List.mem_map.mp hi
    obtain ⟨hx, hpool⟩ := List.mem_filter.mp hx
    simpa [retain, hpool] using (List.mem_filter.mp hx).2
  have hlength := (List.subperm_of_subset hnodup hsub).length_le
  rw [List.length_map, List.length_map, ← List.countP_eq_length_filter] at hlength
  exact hlength.trans (List.length_take_le _ _)

/-- What is dropped has as many entries above it as are kept. -/
theorem le_countP_retain (hid : (l.map id).Nodup) (hkey : ∀ a b, key a = key b → id a = id b)
    (hx : x ∈ l) (hgone : x ∉ retain key id pool n l) :
    n ≤ (retain key id pool n l).countP fun y => decide (key x < key y) && pool y := by
  rw [mem_retain hid hkey hx, not_or, Bool.not_eq_false, Nat.not_lt] at hgone
  obtain ⟨hpool, _⟩ := hgone
  have hids := hid.sublist ((List.filter_sublist (p := pool)).map _)
  have hkeys := nodup_keys hids hkey
  obtain ⟨before, _, hsplit, hlength, habove⟩ :=
    exists_sorted hkeys (List.mem_filter.mpr ⟨hx, hpool⟩)
  rw [List.countP_filter] at hlength
  have htop : top key n (l.filter pool) = before.take n := by
    rw [top, hsplit, List.take_append_of_le_length (by omega)]
  have hnodup : (before.take n).Nodup := by
    refine htop ▸ List.Nodup.sublist (List.take_sublist _ _) ?_
    exact (List.perm_insertionSort _ _).nodup_iff.mpr hids.of_map
  have hsub : before.take n ⊆ (retain key id pool n l).filter
      fun y => decide (key x < key y) && pool y := by
    intro y hy
    have hmem := List.mem_filter.mp (mem_of_mem_top (htop ▸ hy : y ∈ top key n (l.filter pool)))
    refine List.mem_filter.mpr ⟨List.mem_filter.mpr ⟨hmem.1, ?_⟩, ?_⟩
    · rw [htop, List.contains_iff_mem.mpr (List.mem_map_of_mem hy), Bool.or_true]
    · simpa [hmem.2] using habove y (List.mem_of_mem_take hy)
  have hle := (List.subperm_of_subset hnodup hsub).length_le
  rwa [List.length_take, Nat.min_eq_left (by omega), ← List.countP_eq_length_filter] at hle

theorem countP_retain (hid : (l.map id).Nodup) (hkey : ∀ a b, key a = key b → id a = id b)
    (hx : l.countP (fun y => decide (key x < key y) && pool y) < n) :
    (retain key id pool n l).countP (fun y => decide (key x < key y)) =
      l.countP fun y => decide (key x < key y) := by
  rw [retain, List.countP_filter]
  refine List.countP_congr fun y hy => ?_
  rw [Bool.and_eq_true, and_iff_left_iff_imp, decide_eq_true_eq]
  intro hlt
  refine (List.mem_filter.mp ((mem_retain hid hkey hy).mpr (.inr (Nat.lt_of_le_of_lt ?_ hx)))).2
  refine List.countP_mono_left fun z _ hz => ?_
  simp only [Bool.and_eq_true, decide_eq_true_eq] at hz ⊢
  exact ⟨hlt.trans hz.1, hz.2⟩

end Pool

def keep (newer : α → α → Bool) (b : Option α) (a : α) : Option α :=
  if b.all (newer a) then some a else b

/-- The entry that is kept while a list is read, when a newer one takes its place. -/
def best (newer : α → α → Bool) (l : List α) : Option α := l.foldl (keep newer) none

/-- An entry of the list that none of it is newer than, if there is an entry. -/
def IsBest (newer : α → α → Bool) (l : List α) (b : Option α) : Prop :=
  (b = none ↔ l = []) ∧ ∀ a, b = some a → a ∈ l ∧ ∀ c ∈ l, newer c a = false

theorem isBest_best (hself : ∀ a, newer a a = false)
    (hkeeps : ∀ a b c, newer a b = true → newer c b = false → newer c a = false) (l : List α) :
    IsBest newer l (best newer l) := by
  induction l using List.reverseRecOn with
  | nil => exact ⟨by simp [best], nofun⟩
  | append_singleton l x ih =>
  have hlast : best newer (l ++ [x]) = keep newer (best newer l) x := by
    rw [best, List.foldl_append]
    rfl
  rw [hlast, keep]
  split
  · next hnewer =>
    refine ⟨by simp, fun a ha => ?_⟩
    cases ha
    refine ⟨by simp, fun c hc => ?_⟩
    rcases List.mem_append.mp hc with hc | hc
    · cases hbest : best newer l with
      | none => simp [ih.1.mp hbest] at hc
      | some b => exact hkeeps x b c (by simpa [hbest] using hnewer) ((ih.2 b hbest).2 c hc)
    · exact List.mem_singleton.mp hc ▸ hself x
  · next hnewer =>
    obtain ⟨b, hbest, hb⟩ : ∃ b, best newer l = some b ∧ newer x b = false := by
      cases hbest : best newer l with
      | none => simp [hbest] at hnewer
      | some b => exact ⟨b, rfl, by simpa [hbest] using hnewer⟩
    refine ⟨by simp [hbest], fun a ha => ?_⟩
    obtain ⟨hmem, hleast⟩ := ih.2 a ha
    refine ⟨by simp [hmem], fun c hc => ?_⟩
    rcases List.mem_append.mp hc with hc | hc
    · exact hleast c hc
    · obtain rfl := Option.some.inj (hbest.symm.trans ha)
      exact List.mem_singleton.mp hc ▸ hb

end MinimalRouter.Lib
