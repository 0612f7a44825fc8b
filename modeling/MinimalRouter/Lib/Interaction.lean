import Mathlib.Data.List.Basic
import Mathlib.Logic.Relation

/-! Programs that ask their environment questions and go on with the answers, run against a
relational environment. -/

universe u v w x y

namespace MinimalRouter.Lib

inductive Prog (Q : Type u) (R : Q → Type v) (α : Type w) : Type (max u v w)
  | ret : α → Prog Q R α
  | ask : (q : Q) → (R q → Prog Q R α) → Prog Q R α

namespace Prog

variable {Q : Type u} {R : Q → Type v} {α β γ : Type w} {σ : Type x}

def bind : Prog Q R α → (α → Prog Q R β) → Prog Q R β
  | ret a, f => f a
  | ask q k, f => ask q fun r => (k r).bind f

/-- An environment: in which states it may give which answers, and the state that leaves. -/
def Handler (Q : Type u) (R : Q → Type v) (σ : Type x) := σ → (q : Q) → R q → σ → Prop

inductive Runs (H : Handler Q R σ) : Prog Q R α → σ → α → σ → Prop
  | ret : Runs H (.ret a) s a s
  | ask : H s q r s' → Runs H (k r) s' a t → Runs H (.ask q k) s a t

/-- The states in which a program can be cut off: where it has come to, or one that the unfinished
answer to its next question leaves. -/
inductive Cut (H : Handler Q R σ) (K : σ → Q → σ → Prop) : Prog Q R α → σ → σ → Prop
  | here : Cut H K p s s
  | inside : K s q t → Cut H K (.ask q k) s t
  | next : H s q r s' → Cut H K (k r) s' t → Cut H K (.ask q k) s t

/-- The weakest precondition of a program for a postcondition on its result and the final state. -/
def wp (H : Handler Q R σ) : Prog Q R α → (α → σ → Prop) → σ → Prop
  | ret a, post, s => post a s
  | ask q k, post, s => ∀ r s', H s q r s' → (k r).wp H post s'

variable {p : Prog Q R α} {s : σ}

@[simp] theorem wp_ret (a : α) (post : α → σ → Prop) :
    (ret a : Prog Q R α).wp H post s ↔ post a s := Iff.rfl

theorem wp_mono (hp : p.wp H post s) (h : ∀ a t, post a t → post' a t) : p.wp H post' s := by
  induction p generalizing s with
  | ret a => exact h a s hp
  | ask q k ih => exact fun r s' hr => ih r (hp r s' hr)

theorem wp_bind (f : α → Prog Q R β) (post : β → σ → Prop) :
    (p.bind f).wp H post s ↔ p.wp H (fun a t => (f a).wp H post t) s := by
  induction p generalizing s with
  | ret => exact Iff.rfl
  | ask q k ih =>
    constructor
    · exact fun h r s' hr => (ih r).mp (h r s' hr)
    · exact fun h r s' hr => (ih r).mpr (h r s' hr)

theorem wp_sound (hp : p.wp H post s) (hr : Runs H p s a t) : post a t := by
  induction hr with
  | ret => exact hp
  | ask hq _ ih => exact ih (hp _ _ hq)

theorem Runs.invariant {I : σ → Prop} (hI : ∀ s q r s', I s → H s q r s' → I s')
    (h : Runs H p s a t) (hs : I s) : I t := by
  induction h with
  | ret => exact hs
  | ask hq _ ih => exact ih (hI _ _ _ _ hs hq)

theorem Runs.cut (h : Runs H p s a t) : Cut H K p s t := by
  induction h with
  | ret => exact .here
  | ask hq _ ih => exact .next hq ih

theorem Runs.of_bind {f : α → Prog Q R β} (h : Runs H (p.bind f) s b t) :
    ∃ a u, Runs H p s a u ∧ Runs H (f a) u b t := by
  induction p generalizing s with
  | ret a => exact ⟨a, s, .ret, h⟩
  | ask q k ih =>
    cases h with
    | ask hq hrest =>
      obtain ⟨a, u, hp, hf⟩ := ih _ hrest
      exact ⟨a, u, .ask hq hp, hf⟩

theorem Cut.of_bind {f : α → Prog Q R β} (h : Cut H K (p.bind f) s t) :
    Cut H K p s t ∨ ∃ a u, Runs H p s a u ∧ Cut H K (f a) u t := by
  induction p generalizing s with
  | ret a => exact .inr ⟨a, s, .ret, h⟩
  | ask q k ih =>
    cases h with
    | here => exact .inl .here
    | inside hq => exact .inl (.inside hq)
    | next hq hrest =>
      rcases ih _ hrest with hp | ⟨a, u, hp, hf⟩
      · exact .inl (.next hq hp)
      · exact .inr ⟨a, u, .ask hq hp, hf⟩

inductive Asks (P : Q → Prop) (S : α → Prop) : Prog Q R α → Prop
  | ret : S a → Asks P S (.ret a)
  | ask : P q → (∀ r, Asks P S (k r)) → Asks P S (.ask q k)

/-- The program asks at most one question of a kind, and else only questions of another. -/
inductive AsksOnce (P P' : Q → Prop) : Prog Q R α → Prop
  | ret : AsksOnce P P' (.ret a)
  | ask : P q → (∀ r, AsksOnce P P' (k r)) → AsksOnce P P' (.ask q k)
  | once : P' q → (∀ r, Asks P (fun _ => True) (k r)) → AsksOnce P P' (.ask q k)

theorem Asks.bind {S' : β → Prop} (h : Asks P S p) (hf : ∀ a, S a → Asks P S' (f a)) :
    Asks P S' (p.bind f) := by
  induction h with
  | ret ha => exact hf _ ha
  | ask hq _ ih => exact .ask hq ih

theorem Asks.bind_once {f : α → Prog Q R β} (h : Asks P S p)
    (hf : ∀ a, S a → AsksOnce P P' (f a)) : AsksOnce P P' (p.bind f) := by
  induction h with
  | ret ha => exact hf _ ha
  | ask hq _ ih => exact .ask hq ih

theorem Asks.mono (h : Asks P S p) (hP : ∀ q, P q → P' q) (hS : ∀ a, S a → S' a) :
    Asks P' S' p := by
  induction h with
  | ret ha => exact .ret (hS _ ha)
  | ask hq _ ih => exact .ask (hP _ hq) ih

theorem AsksOnce.asks (h : AsksOnce P P' p) (hP : ∀ q, P q → P'' q) (hP' : ∀ q, P' q → P'' q) :
    Asks P'' (fun _ => True) p := by
  induction h with
  | ret => exact .ret trivial
  | ask hq _ ih => exact .ask (hP _ hq) ih
  | once hq hk => exact .ask (hP' _ hq) fun r => (hk r).mono hP fun _ _ => trivial

theorem Asks.once (h : Asks P S p) : AsksOnce P P' p := by
  induction h with
  | ret => exact .ret
  | ask hq _ ih => exact .ask hq ih

section Effect

variable {I : σ → σ → Prop}

theorem Asks.kept (hH : ∀ s q r s', P q → H s q r s' → I s s')
    (hK : ∀ s q t, P q → K s q t → I s t) (hrefl : ∀ s, I s s)
    (htrans : ∀ s t u, I s t → I t u → I s u) (h : Asks P S p) (hcut : Cut H K p s t) : I s t := by
  induction hcut with
  | here => exact hrefl _
  | inside hq =>
    cases h with
    | ask hP _ => exact hK _ _ _ hP hq
  | next hq _ ih =>
    cases h with
    | ask hP hk => exact htrans _ _ _ (hH _ _ _ _ hP hq) (ih (hk _))

theorem AsksOnce.kept (hH : ∀ s q r s', P q → H s q r s' → I s s')
    (hK : ∀ s q t, P q → K s q t → I s t) (hrefl : ∀ s, I s s)
    (htrans : ∀ s t u, I s t → I t u → I s u) (h : AsksOnce P P' p) (hcut : Cut H K p s t) :
    I s t ∨ ∃ s₁ s₂ q, P' q ∧ I s s₁ ∧ (K s₁ q s₂ ∨ ∃ r, H s₁ q r s₂) ∧ I s₂ t := by
  induction hcut with
  | here => exact .inl (hrefl _)
  | inside hq =>
    cases h with
    | ask hP _ => exact .inl (hK _ _ _ hP hq)
    | once hP _ => exact .inr ⟨_, _, _, hP, hrefl _, .inl hq, hrefl _⟩
  | next hq hrest ih =>
    cases h with
    | ask hP hk =>
      have hfirst := hH _ _ _ _ hP hq
      rcases ih (hk _) with hkept | ⟨s₁, s₂, q, hq', hbefore, hasked, hafter⟩
      · exact .inl (htrans _ _ _ hfirst hkept)
      · exact .inr ⟨s₁, s₂, q, hq', htrans _ _ _ hfirst hbefore, hasked, hafter⟩
    | once hP hk =>
      exact .inr ⟨_, _, _, hP, hrefl _, .inr ⟨_, hq⟩, (hk _).kept hH hK hrefl htrans hrest⟩

end Effect

theorem Runs.map {τ : Type y} {H' : Handler Q R τ} {f : σ → τ}
    (hf : ∀ s q r s', H s q r s' → H' (f s) q r (f s')) (h : Runs H p s a t) :
    Runs H' p (f s) a (f t) := by
  induction h with
  | ret => exact .ret
  | ask hq _ ih => exact .ask (hf _ _ _ _ hq) ih

def exec (answer : σ → (q : Q) → R q × σ) : Prog Q R α → σ → α × σ
  | ret a, s => (a, s)
  | ask q k, s => (k (answer s q).1).exec answer (answer s q).2

theorem exec_bind (answer : σ → (q : Q) → R q × σ) (p : Prog Q R α) (f : α → Prog Q R β) (s : σ) :
    (p.bind f).exec answer s = (f (p.exec answer s).1).exec answer (p.exec answer s).2 := by
  induction p generalizing s with
  | ret => rfl
  | ask q k ih => exact ih _ _

theorem runs_exec (h : ∀ s q, H s q (answer s q).1 (answer s q).2) (p : Prog Q R α) (s : σ) :
    Runs H p s (p.exec answer s).1 (p.exec answer s).2 := by
  induction p generalizing s with
  | ret => exact .ret
  | ask q k ih => exact .ask (h s q) (ih _ _)

def advance (answer : σ → (q : Q) → R q × σ) : Prog Q R α → Nat → σ → σ
  | ask q k, n + 1, s => (k (answer s q).1).advance answer n (answer s q).2
  | _, _, s => s

theorem cut_advance (h : ∀ s q, H s q (answer s q).1 (answer s q).2) (n : Nat) (p : Prog Q R α)
    (s : σ) : Cut H K p s (p.advance answer n s) := by
  induction p generalizing n s with
  | ret => exact .here
  | ask q k ih =>
    cases n with
    | zero => exact .here
    | succ => exact .next (h s q) (ih _ _ _)

/-- The environment that answers anything and only keeps the record of what was said. -/
def record (Q : Type u) (R : Q → Type v) : Handler Q R (List (Σ q, R q)) :=
  fun log q r log' => log' = log ++ [⟨q, r⟩]

theorem wp_record_ask (q : Q) (k : R q → Prog Q R α) (post : α → List (Σ q, R q) → Prop) :
    (ask q k).wp (record Q R) post log ↔ ∀ r, (k r).wp (record Q R) post (log ++ [⟨q, r⟩]) := by
  constructor
  · exact fun h r => h r _ rfl
  · rintro h r _ rfl
    exact h r

def recorded (answer : (q : Q) → R q) (log : List (Σ q, R q)) (q : Q) : R q × List (Σ q, R q) :=
  (answer q, log ++ [⟨q, answer q⟩])

end Prog

end MinimalRouter.Lib
