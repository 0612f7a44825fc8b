universe u v w

namespace MinimalRouter.Lib.Result

variable {ε : Type u} {ε' : Type v} {α β : Type w}

theorem bind_eq_ok {f : α → Except ε β} : (x >>= f) = .ok b ↔ ∃ a, x = .ok a ∧ f a = .ok b := by
  cases x with
  | error | ok => simp [bind, Except.bind]

theorem bind_eq_error {f : α → Except ε β} :
    (x >>= f) = .error e ↔ x = .error e ∨ ∃ a, x = .ok a ∧ f a = .error e := by
  cases x with
  | error | ok => simp [bind, Except.bind]

theorem map_eq_ok {x : Except ε α} {f : α → β} : x.map f = .ok b ↔ ∃ a, x = .ok a ∧ f a = b := by
  cases x <;> simp [Except.map]

@[simp] theorem mapError_ok {f : ε → ε'} : (Except.ok a).mapError f = .ok a := rfl

@[simp] theorem mapError_error {f : ε → ε'} :
    (.error e : Except ε α).mapError f = .error (f e) := rfl

theorem mapError_eq_ok {f : ε → ε'} {x : Except ε α} : x.mapError f = .ok a ↔ x = .ok a := by
  cases x <;> simp

theorem mapError_eq_error {f : ε → ε'} {x : Except ε α} :
    x.mapError f = .error e ↔ ∃ e', x = .error e' ∧ f e' = e := by
  cases x <;> simp

theorem elim_eq_ok {o : Option α} : (o.elim (throw e) pure : Except ε α) = .ok a ↔ o = some a := by
  cases o with
  | none => exact ⟨nofun, nofun⟩
  | some => exact ⟨fun h => congrArg some (Except.ok.inj h), fun h => congrArg _ (Option.some.inj h)⟩

def gather (f : α → Except ε (Option β)) : List α → Except ε (List β)
  | [] => .ok []
  | a :: as => do
    let b ← f a
    let bs ← gather f as
    return b.toList ++ bs

theorem exists_of_gather {f : α → Except ε (Option β)}
    (h : gather f as = .ok bs) : ∀ b ∈ bs, ∃ a ∈ as, f a = .ok (some b) := by
  induction as generalizing bs with
  | nil =>
    cases h
    exact nofun
  | cons a as ih =>
    obtain ⟨b, hb, h⟩ := bind_eq_ok.mp h
    obtain ⟨_, hrest, h⟩ := bind_eq_ok.mp h
    cases h
    intro x hx
    rcases List.mem_append.mp hx with hx | hx
    · obtain rfl := Option.mem_toList.mp hx
      exact ⟨a, List.mem_cons_self, hb⟩
    · obtain ⟨a', ha', hx⟩ := ih hrest x hx
      exact ⟨a', List.mem_cons_of_mem _ ha', hx⟩

def ErrorsIn (P : ε → Prop) (x : Except ε α) : Prop := ∀ e, x = .error e → P e

namespace ErrorsIn

variable {P : ε → Prop}

theorem pure (a : α) : ErrorsIn P (.ok a) := by
  intro e h
  cases h

theorem bind {f : α → Except ε β} (hx : ErrorsIn P x) (hf : ∀ a, ErrorsIn P (f a)) :
    ErrorsIn P (x >>= f) := by
  intro e h
  rcases bind_eq_error.mp h with h | ⟨a, -, h⟩
  · exact hx e h
  · exact hf a e h

theorem mapError {f : ε' → ε} (h : ∀ e, P (f e)) (x : Except ε' α) : ErrorsIn P (x.mapError f) := by
  intro e hx
  obtain ⟨e', -, rfl⟩ := mapError_eq_error.mp hx
  exact h e'

end ErrorsIn

end MinimalRouter.Lib.Result
