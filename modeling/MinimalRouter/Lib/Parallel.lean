import MinimalRouter.Lib.Attempt
import MinimalRouter.Lib.Path

/-! Programs that run side by side on one state, each of which is proved against what the others may
do to it. -/

universe u v w x y z

namespace MinimalRouter.Lib

open Prog

namespace Prog

variable {Q : Type u} {R : Q → Type v} {α β : Type w} {σ : Type x}

/-- Whatever the others do between two questions, each question is asked where it may be asked; the
answers to it are taken to keep an invariant. -/
def Outline (H : Handler Q R σ) (rely : σ → σ → Prop) (I : σ → Prop) (may : σ → Q → Prop) :
    Prog Q R α → (α → σ → Prop) → σ → Prop
  | ret a, post, s => post a s
  | ask q k, post, s => ∀ t, rely s t → I t →
      may t q ∧ ∀ r u, H t q r u → I u → (k r).Outline H rely I may post u

namespace Outline

variable {p : Prog Q R α} {s : σ}

theorem mono (h : p.Outline H rely I may post s) (hpost : ∀ a t, post a t → post' a t) :
    p.Outline H rely I may post' s := by
  induction p generalizing s with
  | ret a => exact hpost a s h
  | ask q k ih => exact fun t ht hI => ⟨(h t ht hI).1, fun r u hu hI' => ih r ((h t ht hI).2 r u hu hI')⟩

theorem bind {f : α → Prog Q R β}
    (h : p.Outline H rely I may (fun a t => (f a).Outline H rely I may post t) s) :
    (p.bind f).Outline H rely I may post s := by
  induction p generalizing s with
  | ret => exact h
  | ask q k ih => exact fun t ht hI => ⟨(h t ht hI).1, fun r u hu hI' => ih r ((h t ht hI).2 r u hu hI')⟩

theorem stable (htrans : ∀ {s t u}, rely s t → rely t u → rely s u)
    (hpost : ∀ {a s t}, post a s → rely s t → post a t) (h : p.Outline H rely I may post s)
    (hst : rely s t) : p.Outline H rely I may post t := by
  cases p with
  | ret => exact hpost h hst
  | ask => exact fun u hu hI => h u (htrans hst hu) hI

end Outline

end Prog

namespace Attempt

variable {Q : Type u} {R : Q → Type v} {ε α β : Type w} {σ : Type x}

/-- An outline of an attempt, with what holds at its success and at its failure. -/
def Plan (H : Handler Q R σ) (rely : σ → σ → Prop) (I : σ → Prop) (may : σ → Q → Prop)
    (ok : α → σ → Prop) (bad : σ → Prop) (x : Attempt Q R ε α) (s : σ) : Prop :=
  Outline H rely I may x
    (fun r t => match r with | .ok a => ok a t | .error _ => bad t) s

namespace Plan

variable {H : Handler Q R σ} {ok : α → σ → Prop} {x : Attempt Q R ε α}

theorem pure (hok : ok a s) : (Pure.pure a : Attempt Q R ε α).Plan H rely I may ok bad s := hok

theorem fail (hbad : bad s) : (fail e : Attempt Q R ε α).Plan H rely I may ok bad s := hbad

theorem ofExcept (hok : ∀ a, r = .ok a → ok a s) (hbad : ∀ e, r = .error e → bad s):
    (ofExcept r : Attempt Q R ε α).Plan H rely I may ok bad s := by
  cases r with
  | ok a => exact hok a rfl
  | error e => exact hbad e rfl

theorem ask {k : R q → Attempt Q R ε α}
    (h : ∀ t, rely s t → I t →
      may t q ∧ ∀ r u, H t q r u → I u → (k r).Plan H rely I may ok bad u) :
    (ask q k).Plan H rely I may ok bad s := h

theorem bind {ok : β → σ → Prop} (hx : x.Plan H rely I may mid bad s)
    (hf : ∀ a t, mid a t → (f a).Plan H rely I may ok bad t) :
    (x >>= f).Plan H rely I may ok bad s := by
  refine Outline.bind (Outline.mono hx fun r t hr => ?_)
  cases r with
  | ok a => exact hf a t hr
  | error => exact hr

theorem ofExcept_bind {r : Except ε α} {ok : β → σ → Prop} (hbad : bad s)
    (hf : ∀ a, r = .ok a → (f a).Plan H rely I may ok bad s) :
    (Attempt.ofExcept r >>= f).Plan H rely I may ok bad s := by
  cases r with
  | ok a => exact hf a rfl
  | error => exact hbad

theorem failIf_bind [Decidable p] (hbad : bad s) (hf : ¬p → (f ⟨⟩).Plan H rely I may ok bad s):
    (failIf p e >>= f).Plan H rely I may ok bad s := by
  unfold Attempt.failIf
  split
  · exact hbad
  · next h => exact hf h

theorem result_bind {ok : β → σ → Prop} (hx : x.Plan H rely I may mid bad' s)
    (hok : ∀ a t, mid a t → (f (.ok a)).Plan H rely I may ok bad t)
    (hbad : ∀ e t, bad' t → (f (.error e)).Plan H rely I may ok bad t) :
    (x.result >>= f).Plan H rely I may ok bad s := by
  refine Outline.bind (Outline.bind (Outline.mono hx fun r t hr => ?_))
  cases r with
  | ok a => exact hok a t hr
  | error e => exact hbad e t hr

theorem outline (h : x.Plan H rely I may (fun _ => P) P s) :
    Outline H rely I may x (fun _ => P) s := by
  refine Outline.mono h fun r t hr => ?_
  cases r with
  | ok | error => exact hr

end Plan

-- Outside this section the rules are used, not the outline that the definition makes.
attribute [irreducible] Plan

end Attempt

structure Parallel (ι : Type y) (P : Type z) (σ : Type x) where
  shared : σ
  running : ι → Option P

namespace Parallel

variable {ι : Type y} {Q : Type u} {R : Q → Type v} {α : Type w} {σ : Type x} {C : Type z}

inductive Label (ι : Type y) (Q : Type u) (C : Type z) : Type (max u y z)
  | started : ι → C → Label ι Q C
  | asked : ι → Q → Label ι Q C
  | finished : ι → Label ι Q C
  | stopped : ι → Label ι Q C

def Label.place : Label ι Q C → ι
  | started i _ => i
  | asked i _ => i
  | finished i => i
  | stopped i => i

variable [DecidableEq ι]

def setRunning (w : Parallel ι (Prog Q R α) σ) (i : ι) (p : Option (Prog Q R α)) :
    Parallel ι (Prog Q R α) σ := { w with running := Function.update w.running i p }

@[simp] theorem setRunning_self (w : Parallel ι (Prog Q R α) σ) (i : ι)
    (p : Option (Prog Q R α)) : (w.setRunning i p).running i = p := Function.update_self ..

theorem setRunning_of_ne (w : Parallel ι (Prog Q R α) σ) (hne : j ≠ i) (p : Option (Prog Q R α)) :
    (w.setRunning i p).running j = w.running j :=
  Function.update_of_ne hne ..

/-- One program at a time in each place; what a program that is stopped has open is left to the
environment. -/
inductive Step (program : C → Prog Q R α) (H : ι → Handler Q R σ) (stop : ι → σ → σ)
    (w : Parallel ι (Prog Q R α) σ) : Label ι Q C → Parallel ι (Prog Q R α) σ → Prop
  | start (i : ι) (c : C) (hidle : w.running i = none) :
      Step program H stop w (.started i c) (w.setRunning i (some (program c)))
  | ask (i : ι) (q : Q) (k : R q → Prog Q R α) (r : R q) (s : σ)
      (hrunning : w.running i = some (.ask q k)) (hanswer : H i w.shared q r s) :
      Step program H stop w (.asked i q) ({ w with shared := s }.setRunning i (some (k r)))
  | finish (i : ι) (a : α) (hrunning : w.running i = some (.ret a)) :
      Step program H stop w (.finished i) (w.setRunning i none)
  | stop (i : ι) :
      Step program H stop w (.stopped i) ({ w with shared := stop i w.shared }.setRunning i none)

section Rule

/-- How a place is proved: what holds of the state there between two programs, what the other places
keep for it, the invariant of the shared state, and where each question may be asked. -/
structure Proof (ι : Type y) (Q : Type u) (σ : Type x) where
  ready : ι → σ → Prop
  rely : ι → σ → σ → Prop
  invariant : σ → Prop
  may : ι → σ → Q → Prop
  rely_refl : ∀ i s, rely i s s
  rely_trans : ∀ {i s t u}, rely i s t → rely i t u → rely i s u
  ready_stable : ∀ {i s t}, ready i s → rely i s t → ready i t

variable (π : Proof ι Q σ) (H : ι → Handler Q R σ)

def Proof.Holds (i : ι) : Option (Prog Q R α) → σ → Prop
  | none, s => π.ready i s
  | some p, s => p.Outline (H i) (π.rely i) π.invariant (π.may i) (fun _ t => π.ready i t) s

def Proof.Outlined (w : Parallel ι (Prog Q R α) σ) : Prop :=
  ∀ i, π.Holds H i (w.running i) w.shared

variable {π H} {w : Parallel ι (Prog Q R α) σ} {l : Label ι Q C}

omit [DecidableEq ι] in
theorem Proof.Holds.stable (h : π.Holds H i p s) (hst : π.rely i s t) : π.Holds H i p t := by
  cases p with
  | none => exact π.ready_stable h hst
  | some => exact Outline.stable π.rely_trans (fun hr => π.ready_stable hr) h hst

omit [DecidableEq ι] in
theorem Proof.Outlined.may_of_running (h : π.Outlined H w) (hI : π.invariant w.shared)
    (hi : w.running i = some (.ask q k)) : π.may i w.shared q := by
  have hp := h i
  rw [hi] at hp
  exact (hp w.shared (π.rely_refl i _) hI).1

theorem Proof.Outlined.step
    (hask : ∀ {i j s q r t}, i ≠ j → π.invariant s → π.may i s q → H i s q r t → π.rely j s t)
    (hstop : ∀ {i j s}, i ≠ j → π.rely j s (stop i s)) (hstopped : ∀ i s, π.ready i (stop i s))
    (hprogram : ∀ i c s, π.invariant s → π.ready i s → π.Holds H i (some (program c)) s)
    (hstep : Step program H stop w l w') (hI : π.invariant w.shared) (hI' : π.invariant w'.shared)
    (h : π.Outlined H w) : π.Outlined H w' := by
  intro j
  by_cases hj : j = l.place
  · subst hj
    cases hstep with
    | start i c hidle =>
      have hready := h i
      rw [hidle] at hready
      rw [Label.place, setRunning_self]
      exact hprogram i c _ hI hready
    | ask i q k r s hrunning hanswer =>
      have hp := h i
      rw [hrunning] at hp
      rw [Label.place, setRunning_self]
      exact (hp w.shared (π.rely_refl i _) hI).2 r s hanswer hI'
    | finish i a hrunning =>
      have hp := h i
      rw [hrunning] at hp
      rw [Label.place, setRunning_self]
      exact hp
    | stop i =>
      rw [Label.place, setRunning_self]
      exact hstopped i w.shared
  cases hstep with
  | start i | finish i =>
    rw [setRunning_of_ne (i := i) _ hj]
    exact h j
  | ask i q k r s hrunning hanswer =>
    rw [setRunning_of_ne (i := i) _ hj]
    exact (h j).stable (hask (Ne.symm hj) hI (h.may_of_running hI hrunning) hanswer)
  | stop i =>
    rw [setRunning_of_ne (i := i) _ hj]
    exact (h j).stable (hstop (Ne.symm hj))

end Rule

section Schedule

variable (program : C → Prog Q R α) (answer : ι → σ → (q : Q) → R q × σ)

/-- The turn of a place: it starts what it is given, or goes on with what it runs. -/
def turn (w : Parallel ι (Prog Q R α) σ) (i : ι) :
    Option C → Option (Label ι Q C × Parallel ι (Prog Q R α) σ)
  | some c =>
    match w.running i with
    | none => some (.started i c, w.setRunning i (some (program c)))
    | some _ => none
  | none =>
    match w.running i with
    | some (.ask q k) => some (.asked i q,
        { w with shared := (answer i w.shared q).2 }.setRunning i (some (k (answer i w.shared q).1)))
    | some (.ret _) => some (.finished i, w.setRunning i none)
    | none => none

/-- The run of a schedule, without the turns in which there is nothing to do. -/
def steps (w : Parallel ι (Prog Q R α) σ) : List (ι × Option C) →
    List (Transition (Parallel ι (Prog Q R α) σ) (Label ι Q C))
  | [] => []
  | t :: ts =>
    match turn program answer w t.1 t.2 with
    | some (l, w') => ⟨w, l, w'⟩ :: steps w' ts
    | none => steps w ts

def final (w : Parallel ι (Prog Q R α) σ) : List (ι × Option C) → Parallel ι (Prog Q R α) σ
  | [] => w
  | t :: ts =>
    match turn program answer w t.1 t.2 with
    | some (_, w') => final w' ts
    | none => final w ts

variable {program answer}

theorem step_of_turn (hanswer : ∀ i s q, H i s q (answer i s q).1 (answer i s q).2)
    (h : turn program answer w i c = some (l, w')) : Step program H stop w l w' := by
  cases c with
  | some c =>
    cases hw : w.running i with
    | none =>
      simp only [turn, hw, Option.some.injEq, Prod.mk.injEq] at h
      obtain ⟨rfl, rfl⟩ := h
      exact .start i c hw
    | some => simp [turn, hw] at h
  | none =>
    cases hw : w.running i with
    | none => simp [turn, hw] at h
    | some p =>
      cases p with
      | ret a =>
        simp only [turn, hw, Option.some.injEq, Prod.mk.injEq] at h
        obtain ⟨rfl, rfl⟩ := h
        exact .finish i a hw
      | ask q k =>
        simp only [turn, hw, Option.some.injEq, Prod.mk.injEq] at h
        obtain ⟨rfl, rfl⟩ := h
        exact .ask i q k _ _ hw (hanswer i w.shared q)

theorem path_steps (hanswer : ∀ i s q, H i s q (answer i s q).1 (answer i s q).2)
    (ts : List (ι × Option C)) :
    Path (Step program H stop) w (w.steps program answer ts) (w.final program answer ts) := by
  induction ts generalizing w with
  | nil => exact .nil
  | cons t ts ih =>
    cases hturn : turn program answer w t.1 t.2 with
    | none =>
      simp only [steps, final, hturn]
      exact ih
    | some =>
      simp only [steps, final, hturn]
      exact .cons (step_of_turn hanswer hturn) ih

end Schedule

end Parallel

end MinimalRouter.Lib
