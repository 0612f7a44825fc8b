import MinimalRouter.Lib.Interaction

/-! Programs that may fail, and that may be cut off at any step: what they keep at every moment, and
what they end with. -/

universe u v w x

namespace MinimalRouter.Lib

namespace Prog

variable {Q : Type u} {R : Q → Type v} {α β : Type w} {σ : Type x}

/-- A condition holds at every moment of a program, and a postcondition at its end. -/
def wpc (H : Handler Q R σ) (K : σ → Q → σ → Prop) (C : σ → Prop) :
    Prog Q R α → (α → σ → Prop) → σ → Prop
  | ret a, post, s => C s ∧ post a s
  | ask q k, post, s => C s ∧ (∀ t, K s q t → C t) ∧ ∀ r s', H s q r s' → (k r).wpc H K C post s'

variable {p : Prog Q R α} {t : σ} {post : α → σ → Prop}

theorem wpc.now (h : p.wpc H K C post s) : C s := by
  cases p with
  | ret | ask => exact h.1

theorem wpc.mono (h : p.wpc H K C post s) (hC : ∀ t, C t → C' t)
    (hpost : ∀ a t, C t → post a t → post' a t) : p.wpc H K C' post' s := by
  induction p generalizing s with
  | ret a => exact ⟨hC s h.1, hpost a s h.1 h.2⟩
  | ask q k ih => exact ⟨hC s h.1, fun t ht => hC t (h.2.1 t ht), fun r s' hr => ih r (h.2.2 r s' hr)⟩

theorem wpc.bind {post : β → σ → Prop} (h : p.wpc H K C (fun a t => (f a).wpc H K C post t) s) :
    (p.bind f).wpc H K C post s := by
  induction p generalizing s with
  | ret => exact h.2
  | ask q k ih => exact ⟨h.1, h.2.1, fun r s' hr => ih r (h.2.2 r s' hr)⟩

theorem wpc.cut (h : p.wpc H K C post s) (hcut : Cut H K p s t) : C t := by
  induction hcut with
  | here => exact h.now
  | inside hq => exact h.2.1 _ hq
  | next hq _ ih => exact ih (h.2.2 _ _ hq)

theorem wpc.runs (h : p.wpc H K C post s) (hrun : Runs H p s a t) : post a t := by
  induction hrun with
  | ret => exact h.2
  | ask hq _ ih => exact ih (h.2.2 _ _ hq)

theorem Runs.mono (hH : ∀ s q r t, H s q r t → H' s q r t) (h : Runs H p s a t) :
    Runs H' p s a t := by
  induction h with
  | ret => exact .ret
  | ask hq _ ih => exact .ask (hH _ _ _ _ hq) ih

theorem Cut.mono (hH : ∀ s q r t, H s q r t → H' s q r t) (h : Cut H K p s t) : Cut H' K p s t := by
  induction h with
  | here => exact .here
  | inside hq => exact .inside hq
  | next hq _ ih => exact .next (hH _ _ _ _ hq) ih

end Prog

def Attempt (Q : Type u) (R : Q → Type v) (ε α : Type w) := Prog Q R (Except ε α)

namespace Attempt

variable {Q : Type u} {R : Q → Type v} {ε α β : Type w} {σ : Type x}

def bind (x : Attempt Q R ε α) (f : α → Attempt Q R ε β) : Attempt Q R ε β :=
  Prog.bind x fun
    | .ok a => f a
    | .error e => .ret (.error e)

instance : Monad (Attempt Q R ε) where
  pure a := Prog.ret (.ok a)
  bind := bind

def fail (e : ε) : Attempt Q R ε α := Prog.ret (.error e)

def ask (q : Q) (k : R q → Attempt Q R ε α) : Attempt Q R ε α := Prog.ask q k

def failIf (p : Prop) [Decidable p] (e : ε) : Attempt Q R ε PUnit := if p then fail e else pure ⟨⟩

def ofExcept (x : Except ε α) : Attempt Q R ε α := Prog.ret x

def mapError {ε' : Type w} (f : ε → ε') (x : Attempt Q R ε α) : Attempt Q R ε' α :=
  Prog.bind x fun r => .ret (r.mapError f)

def result (x : Attempt Q R ε α) : Attempt Q R ε (Except ε α) := Prog.bind x fun r => .ret (.ok r)

def outcome {ε' : Type w} (x : Attempt Q R ε α) : Attempt Q R ε' (Except ε α) :=
  Prog.bind x fun r => .ret (.ok r)

def andFinally (x : Attempt Q R ε α) (y : Attempt Q R ε β) : Attempt Q R ε α :=
  Prog.bind x fun r => Prog.bind y fun _ => .ret r

def each {ι : Type w} (f : ι → Attempt Q R ε PUnit) : List ι → Attempt Q R ε PUnit
  | [] => pure ⟨⟩
  | i :: is => bind (f i) fun _ => each f is

theorem runs_of_bind {f : α → Attempt Q R ε β}
    (h : Prog.Runs H (x >>= f : Attempt Q R ε β) s r t) :
    (∃ e, r = .error e ∧ Prog.Runs H x s (.error e) t) ∨
      ∃ a u, Prog.Runs H x s (.ok a) u ∧ Prog.Runs H (f a) u r t := by
  obtain ⟨a, u, hx, hf⟩ := Prog.Runs.of_bind h
  cases a with
  | ok a => exact .inr ⟨a, u, hx, hf⟩
  | error e =>
    cases hf
    exact .inl ⟨e, rfl, hx⟩

theorem cut_of_bind {f : α → Attempt Q R ε β}
    (h : Prog.Cut H K (x >>= f : Attempt Q R ε β) s t) :
    Prog.Cut H K x s t ∨ ∃ a u, Prog.Runs H x s (.ok a) u ∧ Prog.Cut H K (f a) u t := by
  rcases Prog.Cut.of_bind h with hx | ⟨a, u, hx, hf⟩
  · exact .inl hx
  cases a with
  | ok a => exact .inr ⟨a, u, hx, hf⟩
  | error =>
    cases hf
    exact .inl hx.cut

/-- What holds at every moment of an attempt, and of its outcome at the end. -/
def Ends (H : Prog.Handler Q R σ) (K : σ → Q → σ → Prop) (C : σ → Prop)
    (post : Except ε α → σ → Prop) (x : Attempt Q R ε α) (s : σ) : Prop :=
  Prog.wpc H K C x post s

namespace Ends

variable {H : Prog.Handler Q R σ} {post : Except ε α → σ → Prop} {x : Attempt Q R ε α}

theorem mono (h : x.Ends H K C post s) (hpost : ∀ r t, C t → post r t → post' r t) :
    x.Ends H K C post' s := Prog.wpc.mono h (fun _ => id) hpost

theorem pure (hC : C s) (hpost : post (.ok a) s) :
    (Pure.pure a : Attempt Q R ε α).Ends H K C post s := ⟨hC, hpost⟩

theorem fail (hC : C s) (hpost : post (.error e) s) :
    (fail e : Attempt Q R ε α).Ends H K C post s := ⟨hC, hpost⟩

theorem ofExcept (hC : C s) (hpost : post r s) :
    (ofExcept r : Attempt Q R ε α).Ends H K C post s := ⟨hC, hpost⟩

theorem ask {k : R q → Attempt Q R ε α} (hC : C s) (hK : ∀ t, K s q t → C t)
    (hk : ∀ r t, H s q r t → (k r).Ends H K C post t) : (ask q k).Ends H K C post s :=
  ⟨hC, hK, hk⟩

theorem ofExcept_bind {r : Except ε α} {post : Except ε β → σ → Prop} (hC : C s)
    (hok : ∀ a, r = .ok a → (f a).Ends H K C post s)
    (herror : ∀ e, r = .error e → post (.error e) s) :
    (Attempt.ofExcept r >>= f).Ends H K C post s := by
  cases r with
  | ok a => exact hok a rfl
  | error e => exact ⟨hC, herror e rfl⟩

theorem bind {post : Except ε β → σ → Prop} (hx : x.Ends H K C mid s)
    (hok : ∀ a t, mid (.ok a) t → (f a).Ends H K C post t)
    (herror : ∀ e t, mid (.error e) t → post (.error e) t) : (x >>= f).Ends H K C post s := by
  refine Prog.wpc.bind (Prog.wpc.mono hx (fun _ => id) fun r t hC hr => ?_)
  cases r with
  | ok a => exact hok a t hr
  | error e => exact ⟨hC, herror e t hr⟩

theorem failIf_bind [Decidable p] (hC : C s) (herror : p → post (.error e) s)
    (hf : ¬p → (f ⟨⟩).Ends H K C post s) : (failIf p e >>= f).Ends H K C post s := by
  unfold Attempt.failIf
  split
  · next h => exact ⟨hC, herror h⟩
  · next h => exact hf h

theorem mapError {post : Except ε' α → σ → Prop}
    (h : x.Ends H K C (fun r t => post (r.mapError f) t) s) : (x.mapError f).Ends H K C post s :=
  Prog.wpc.bind (Prog.wpc.mono h (fun _ => id) fun _ _ hC hr => ⟨hC, hr⟩)

theorem outcome_bind {post : Except ε' β → σ → Prop} (hx : x.Ends H K C mid s)
    (hf : ∀ r t, mid r t → (f r).Ends H K C post t) : (x.outcome >>= f).Ends H K C post s :=
  Prog.wpc.bind (Prog.wpc.bind (Prog.wpc.mono hx (fun _ => id) fun r t hC hr => ⟨hC, hf r t hr⟩))

theorem runs (h : x.Ends H K C post s) (hrun : Prog.Runs H x s r t) :
    post r t := Prog.wpc.runs h hrun

theorem cut (h : x.Ends H K C post s) (hcut : Prog.Cut H K x s t) : C t :=
  Prog.wpc.cut h hcut

end Ends

-- Outside this section the rules are used, not the run of the program that the definition makes.
attribute [irreducible] Ends

/-- What holds at every moment of an attempt, at its success and at its failure. -/
def Meets (H : Prog.Handler Q R σ) (K : σ → Q → σ → Prop) (C : σ → Prop) (ok : α → σ → Prop)
    (bad : σ → Prop) (x : Attempt Q R ε α) (s : σ) : Prop :=
  Prog.wpc H K C x (fun r t => match r with | .ok a => ok a t | .error _ => bad t) s

variable {x : Attempt Q R ε α} {s : σ}

namespace Meets

theorem mono (h : x.Meets H K C ok bad s) (hC : ∀ t, C t → C' t)
    (hok : ∀ a t, C t → ok a t → ok' a t) (hbad : ∀ t, C t → bad t → bad' t) :
    x.Meets H K C' ok' bad' s := by
  refine Prog.wpc.mono h hC fun r t hC hr => ?_
  cases r with
  | ok a => exact hok a t hC hr
  | error => exact hbad t hC hr

theorem pure (hC : C s) (hok : ok a s) :
    (Pure.pure a : Attempt Q R ε α).Meets H K C ok bad s := ⟨hC, hok⟩

theorem fail (hC : C s) (hbad : bad s) :
    (fail e : Attempt Q R ε α).Meets H K C ok bad s := ⟨hC, hbad⟩

theorem ofExcept (hC : C s) (hok : ∀ a, r = .ok a → ok a s) (hbad : ∀ e, r = .error e → bad s) :
    (ofExcept r : Attempt Q R ε α).Meets H K C ok bad s := by
  refine ⟨hC, ?_⟩
  cases r with
  | ok a => exact hok a rfl
  | error e => exact hbad e rfl

theorem ask {k : R q → Attempt Q R ε α} (hC : C s) (hK : ∀ t, K s q t → C t)
    (hk : ∀ r t, H s q r t → (k r).Meets H K C ok bad t) : (ask q k).Meets H K C ok bad s :=
  ⟨hC, hK, hk⟩

theorem failIf [Decidable p] {ok : PUnit → σ → Prop} (hC : C s)
    (hok : ¬p → ok ⟨⟩ s) (hbad : p → bad s) :
    (failIf p e : Attempt Q R ε PUnit).Meets H K C ok bad s := by
  unfold Attempt.failIf
  split
  · next h => exact fail hC (hbad h)
  · next h => exact pure hC (hok h)

theorem bind {ok : β → σ → Prop} (hx : x.Meets H K C mid bad s)
    (hf : ∀ a t, mid a t → (f a).Meets H K C ok bad t) : (x >>= f).Meets H K C ok bad s := by
  refine Prog.wpc.bind (Prog.wpc.mono hx (fun _ => id) fun r t hC hr => ?_)
  cases r with
  | ok a => exact hf a t hr
  | error => exact ⟨hC, hr⟩

theorem mapError {f : ε → ε'} (h : x.Meets H K C ok bad s) :
    (x.mapError f).Meets H K C ok bad s := by
  refine Prog.wpc.bind (Prog.wpc.mono h (fun _ => id) fun r t hC hr => ⟨hC, ?_⟩)
  cases r with
  | ok | error => exact hr

theorem result {ok : Except ε α → σ → Prop}
    (h : x.Meets H K C (fun a t => ok (.ok a) t) bad s) (hbad : ∀ e t, C t → bad t → ok (.error e) t) :
    x.result.Meets H K C ok bad' s := by
  refine Prog.wpc.bind (Prog.wpc.mono h (fun _ => id) fun r t hC hr => ⟨hC, ?_⟩)
  cases r with
  | ok => exact hr
  | error e => exact hbad e t hC hr

theorem andFinally {y : Attempt Q R ε β} (hx : x.Meets H K C mid midBad s)
    (hok : ∀ a t, mid a t → y.Meets H K C (fun _ u => ok a u) (fun u => ok a u) t)
    (hbad : ∀ t, midBad t → y.Meets H K C (fun _ u => bad u) (fun u => bad u) t) :
    (x.andFinally y).Meets H K C ok bad s := by
  refine Prog.wpc.bind (Prog.wpc.mono hx (fun _ => id) fun r t _ hr => ?_)
  cases r with
  | ok a =>
    refine Prog.wpc.bind (Prog.wpc.mono (hok a t hr) (fun _ => id) fun r' u hC hr' => ⟨hC, ?_⟩)
    cases r' with
    | ok | error => exact hr'
  | error =>
    refine Prog.wpc.bind (Prog.wpc.mono (hbad t hr) (fun _ => id) fun r' u hC hr' => ⟨hC, ?_⟩)
    cases r' with
    | ok | error => exact hr'

theorem cut (h : x.Meets H K C ok bad s) (hcut : Prog.Cut H K x s t) : C t :=
  Prog.wpc.cut h hcut

theorem runs (h : x.Meets H K C ok bad s) (hrun : Prog.Runs H x s (.ok a) t) : ok a t := by
  unfold Meets at h
  exact h.runs hrun

theorem ends (h : x.Meets H K C ok bad s) (hrun : Prog.Runs H x s r t) {P : σ → Prop}
    (hok : ∀ a, ok a t → P t) (hbad : bad t → P t) : P t := by
  unfold Meets at h
  have hr := h.runs hrun
  cases r with
  | ok a => exact hok a hr
  | error => exact hbad hr

end Meets

-- Outside this section the rules are used, not the run of the program that the definition makes.
attribute [irreducible] Meets

end Attempt

end MinimalRouter.Lib
