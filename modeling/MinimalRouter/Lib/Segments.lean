import Mathlib.Data.List.Basic

universe u

namespace MinimalRouter.Lib.Segments

variable {α : Type u}

section Split

variable [DecidableEq α] {sep : α}

theorem splitOn_ne_nil (as : List α) : as.splitOn sep ≠ [] := List.splitOnP_ne_nil _ as

theorem splitOn_append (as bs : List α) :
    (as ++ sep :: bs).splitOn sep = as.splitOn sep ++ bs.splitOn sep := by
  unfold List.splitOn
  induction as with
  | nil =>
    rw [List.nil_append, List.splitOnP_cons_eq_if_modifyHead, if_pos (beq_self_eq_true sep)]
    rfl
  | cons a as ih =>
    rw [List.cons_append, List.splitOnP_cons_eq_if_modifyHead, List.splitOnP_cons_eq_if_modifyHead, ih]
    split
    · rfl
    obtain ⟨p, _, hps⟩ := List.exists_cons_of_ne_nil (List.splitOnP_ne_nil (· == sep) as)
    rw [hps]
    rfl

theorem splitOn_append_of_not_mem (h : sep ∉ as) (bs : List α) :
    (as ++ bs).splitOn sep = (bs.splitOn sep).modifyHead (as ++ ·) := by
  unfold List.splitOn
  induction as with
  | nil =>
    rw [List.nil_append]
    cases bs.splitOnP (· == sep) <;> rfl
  | cons a as ih =>
    rw [List.mem_cons, not_or] at h
    rw [List.cons_append, List.splitOnP_cons_eq_if_modifyHead, if_neg (by simpa using Ne.symm h.1), ih h.2]
    cases bs.splitOnP (· == sep) <;> rfl

theorem mem_of_mem_splitOn {as : List α} (hpart : part ∈ as.splitOn sep) (ha : a ∈ part) :
    a ∈ as := by
  unfold List.splitOn at hpart
  induction as generalizing part with
  | nil =>
    rw [List.splitOnP_nil, List.mem_singleton] at hpart
    exact hpart ▸ ha
  | cons b as ih =>
    rw [List.splitOnP_cons_eq_if_modifyHead] at hpart
    split at hpart
    · rcases List.mem_cons.mp hpart with rfl | hpart
      · cases ha
      · exact List.mem_cons_of_mem b (ih hpart ha)
    obtain ⟨p, _, hps⟩ := List.exists_cons_of_ne_nil (List.splitOnP_ne_nil (· == sep) as)
    rw [hps] at hpart ih
    rcases List.mem_cons.mp hpart with rfl | hpart
    · rcases List.mem_cons.mp ha with rfl | ha
      · exact List.mem_cons_self
      · exact List.mem_cons_of_mem b (ih List.mem_cons_self ha)
    · exact List.mem_cons_of_mem b (ih (List.mem_cons_of_mem p hpart) ha)

theorem splitOn_intercalate_eq_flatMap (l : List α) (ls : List (List α)) :
    ([sep].intercalate (l :: ls)).splitOn sep = (l :: ls).flatMap (·.splitOn sep) := by
  induction ls generalizing l with
  | nil => simp
  | cons l' ls ih =>
    rw [List.intercalate_cons_cons, List.append_assoc, List.singleton_append, splitOn_append, ih]
    rfl

omit [DecidableEq α] in
theorem mem_of_mem_intercalate {between : List α}
    (h : a ∈ between.intercalate parts) : a ∈ between ∨ ∃ part ∈ parts, a ∈ part := by
  induction parts with
  | nil => cases h
  | cons part parts ih =>
    cases parts with
    | nil => exact .inr ⟨part, List.mem_cons_self, by simpa using h⟩
    | cons =>
      rw [List.intercalate_cons_cons, List.append_assoc, List.mem_append, List.mem_append] at h
      rcases h with h | h | h
      · exact .inr ⟨part, List.mem_cons_self, h⟩
      · exact .inl h
      · exact (ih h).imp_right fun ⟨p, hp, ha⟩ => ⟨p, List.mem_cons_of_mem part hp, ha⟩

theorem eq_or_mem_of_mem_splitOn (sep : α) {as : List α} (h : a ∈ as) :
    a = sep ∨ ∃ part ∈ as.splitOn sep, a ∈ part := by
  unfold List.splitOn
  induction as with
  | nil => cases h
  | cons b as ih =>
  obtain ⟨p, _, hps⟩ := List.exists_cons_of_ne_nil (List.splitOnP_ne_nil (· == sep) as)
  rw [List.splitOnP_cons_eq_if_modifyHead]
  rw [hps] at ih ⊢
  split
  · next hb =>
    rcases List.mem_cons.mp h with rfl | h
    · exact .inl (beq_iff_eq.mp hb)
    · exact (ih h).imp_right fun ⟨part, hpart, ha⟩ => ⟨part, List.mem_cons_of_mem _ hpart, ha⟩
  rcases List.mem_cons.mp h with rfl | h
  · exact .inr ⟨a :: p, List.mem_cons_self, List.mem_cons_self⟩
  refine (ih h).imp_right fun ⟨part, hpart, ha⟩ => ?_
  rcases List.mem_cons.mp hpart with rfl | hpart
  · exact ⟨b :: part, List.mem_cons_self, List.mem_cons_of_mem b ha⟩
  · exact ⟨part, List.mem_cons_of_mem _ hpart, ha⟩

theorem length_splitOn (as : List α) : (as.splitOn sep).length = as.count sep + 1 := by
  unfold List.splitOn
  induction as with
  | nil => rfl
  | cons a as ih =>
    rw [List.splitOnP_cons_eq_if_modifyHead, List.count_cons]
    split
    · rw [List.length_cons, ih]
    · rw [List.length_modifyHead, ih, Nat.add_zero]

theorem splitOn_of_not_mem {as : List α} (h : sep ∉ as) : as.splitOn sep = [as] := by
  have hlength : (as.splitOn sep).length = 1 := by
    rw [length_splitOn, List.count_eq_zero.mpr h]
  obtain ⟨_, hpart⟩ := List.length_eq_one_iff.mp hlength
  have hjoin : [sep].intercalate (as.splitOn sep) = as := List.intercalate_splitOn sep
  rw [hpart] at hjoin ⊢
  simpa using hjoin

def terminated (sep : α) (parts : List (List α)) : List α := parts.flatMap (· ++ [sep])

theorem splitOn_terminated (parts : List (List α)) :
    (terminated sep parts).splitOn sep = parts.flatMap (·.splitOn sep) ++ [[]] := by
  induction parts with
  | nil => rfl
  | cons part parts ih =>
    unfold terminated at ih ⊢
    rw [List.flatMap_cons, List.append_assoc, List.singleton_append, splitOn_append, ih,
      List.flatMap_cons, List.append_assoc]

theorem splitOn_terminated_of_not_mem (h : ∀ part ∈ parts, sep ∉ part) :
    (terminated sep parts).splitOn sep = parts ++ [[]] := by
  rw [splitOn_terminated]
  congr 1
  induction parts with
  | nil => rfl
  | cons part parts ih =>
    obtain ⟨hpart, hparts⟩ := List.forall_mem_cons.mp h
    rw [List.flatMap_cons, splitOn_of_not_mem hpart, ih hparts]
    rfl

theorem length_le_flatMap_splitOn (sep : α) (parts : List (List α)) :
    parts.length ≤ (parts.flatMap (·.splitOn sep)).length := by
  induction parts with
  | nil => exact Nat.le_refl _
  | cons =>
    rw [List.flatMap_cons, List.length_append, List.length_cons, length_splitOn]
    omega

theorem length_splitOn_terminated :
    ((terminated sep parts).splitOn sep).length = parts.length + 1 ↔ ∀ part ∈ parts, sep ∉ part := by
  rw [splitOn_terminated, List.length_append, List.length_singleton, Nat.add_right_cancel_iff]
  induction parts with
  | nil => simp
  | cons part parts ih =>
    have hge := length_le_flatMap_splitOn sep parts
    rw [List.flatMap_cons, List.length_append, List.length_cons, length_splitOn,
      List.forall_mem_cons, ← ih, ← List.count_eq_zero]
    omega

end Split

def cuts : List α → List (List (List α))
  | [] => [[]]
  | a :: as => (cuts as).flatMap fun groups => ([a] :: groups) ::
      match groups with
      | [] => []
      | g :: gs => [(a :: g) :: gs]

theorem mem_cuts_flatten (groups : List (List α)) (h : ∀ g ∈ groups, g ≠ []) :
    groups ∈ cuts groups.flatten := by
  generalize hflat : groups.flatten = as
  induction as generalizing groups with
  | nil =>
    cases groups with
    | nil => exact List.mem_singleton.mpr rfl
    | cons g gs =>
      rw [List.flatten_cons] at hflat
      exact absurd (List.append_eq_nil_iff.mp hflat).1 (h g List.mem_cons_self)
  | cons a as ih =>
  match groups with
  | [] => cases hflat
  | [] :: gs => exact absurd rfl (h [] List.mem_cons_self)
  | [b] :: gs =>
    obtain ⟨rfl, hrest⟩ := List.cons.inj hflat
    have hgs := ih gs (fun g hg => h g (List.mem_cons_of_mem _ hg)) hrest
    exact List.mem_flatMap.mpr ⟨gs, hgs, List.mem_cons_self⟩
  | (b :: c :: g) :: gs =>
    obtain ⟨rfl, hrest⟩ := List.cons.inj hflat
    have hgs := ih ((c :: g) :: gs) (fun g' hg' => ?_) hrest
    · exact List.mem_flatMap.mpr ⟨_, hgs, List.mem_cons_of_mem _ (List.mem_singleton.mpr rfl)⟩
    rcases List.mem_cons.mp hg' with rfl | hg'
    · exact List.cons_ne_nil _ _
    · exact h g' (List.mem_cons_of_mem _ hg')

end MinimalRouter.Lib.Segments
