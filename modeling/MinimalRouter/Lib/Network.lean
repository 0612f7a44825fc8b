import Mathlib.Data.List.Nodup
import MinimalRouter.Lib.Path

/-! A client and a server whose requests may be served late, in any order, or not at all. -/

universe u v w x

namespace MinimalRouter.Lib.Network

structure Client (κ : Type u) (Req : Type w) (Resp : Type x) where
  awaiting : κ → Option Nat
  moves : κ → κ → Prop
  issues : κ → Nat → Req → κ → Prop
  receives : κ → Nat → Resp → κ → Prop
  awaiting_of_moves : ∀ {k k'}, moves k k' → awaiting k' = awaiting k ∨ awaiting k' = none
  awaiting_of_issues : ∀ {k n q k'}, issues k n q k' → awaiting k' = some n
  awaiting_of_receives : ∀ {k n r k'}, receives k n r k' →
    awaiting k = some n ∧ awaiting k' = none

structure Net (κ : Type u) (σ : Type v) (Req : Type w) (Resp : Type x) where
  client : κ
  server : σ
  issued : Nat := 0
  inFlight : List (Nat × Req) := []
  answers : List (Nat × Req × Resp) := []

inductive Event (Req : Type w) (Resp : Type x) : Type (max w x)
  | moved
  | issued (n : Nat) (q : Req)
  | executed (n : Nat) (q : Req) (r : Resp)
  | dropped (n : Nat) (q : Req)
  | received (n : Nat) (q : Req) (r : Resp)

namespace Event

variable {Req : Type w} {Resp : Type x}

def isIssue : Event Req Resp → Bool
  | issued _ _ => true
  | _ => false

def execution : Event Req Resp → Option (Nat × Req × Resp)
  | executed n q r => some (n, q, r)
  | _ => none

def receipt : Event Req Resp → Option (Nat × Req × Resp)
  | received n q r => some (n, q, r)
  | _ => none

theorem eq_of_receipt {ev : Event Req Resp} (h : ev.receipt = some x) :
    ev = .received x.1 x.2.1 x.2.2 := by
  cases ev with
  | received =>
    cases h
    rfl
  | _ => cases h

end Event

variable {κ : Type u} {σ : Type v} {Req : Type w} {Resp : Type x}

/-- The server executes the requests in flight in any order, also those that the client has given
up on. -/
inductive Step (C : Client κ Req Resp) (S : σ → Req → Resp → σ → Prop) (t : Net κ σ Req Resp) :
    Event Req Resp → Net κ σ Req Resp → Prop
  | move (h : C.moves t.client k) : Step C S t .moved { t with client := k }
  | issue (h : C.issues t.client t.issued q k) :
      Step C S t (.issued t.issued q)
        { t with client := k, issued := t.issued + 1, inFlight := (t.issued, q) :: t.inFlight }
  | execute {before after : List (Nat × Req)}
      (hin : t.inFlight = before ++ (n, q) :: after) (h : S t.server q r s) :
      Step C S t (.executed n q r)
        { t with server := s, inFlight := before ++ after, answers := (n, q, r) :: t.answers }
  | drop {before after : List (Nat × Req)}
      (hin : t.inFlight = before ++ (n, q) :: after) :
      Step C S t (.dropped n q) { t with inFlight := before ++ after }
  | receive (hanswer : (n, q, r) ∈ t.answers)
      (h : C.receives t.client n r k) : Step C S t (.received n q r) { t with client := k }

variable {C : Client κ Req Resp} {t : Net κ σ Req Resp}

variable (C) in
/-- The numbers are given once each, and the client only ever waits for the last one. -/
structure Numbered (t : Net κ σ Req Resp) : Prop where
  inFlight : ∀ x ∈ t.inFlight, x.1 < t.issued
  once : (t.inFlight.map Prod.fst).Nodup
  answers : ∀ x ∈ t.answers, x.1 < t.issued
  awaiting : ∀ n, C.awaiting t.client = some n → t.issued = n + 1

theorem numbered_of_rest (hclient : C.awaiting t.client = none) (hinFlight : t.inFlight = [])
    (hanswers : t.answers = []) : Numbered C t := by
  refine ⟨?_, ?_, ?_, ?_⟩
  · simp [hinFlight]
  · simp [hinFlight]
  · simp [hanswers]
  · simp [hclient]

theorem Numbered.step (hnum : Numbered C t) (h : Step C S t ev t') : Numbered C t' := by
  cases h with
  | move hmove =>
    refine ⟨hnum.inFlight, hnum.once, hnum.answers, fun n hn => ?_⟩
    rcases C.awaiting_of_moves hmove with hsame | hnone
    · exact hnum.awaiting n (hsame ▸ hn)
    · exact absurd hn (by simp [hnone])
  | issue hissue =>
    refine ⟨?_, ?_, fun x hx => Nat.lt_succ_of_lt (hnum.answers x hx), fun n hn => ?_⟩
    · rw [List.forall_mem_cons]
      exact ⟨Nat.lt_succ_self _, fun x hx => Nat.lt_succ_of_lt (hnum.inFlight x hx)⟩
    · refine List.nodup_cons.mpr ⟨fun hmem => ?_, hnum.once⟩
      obtain ⟨x, hx, hnumber⟩ := List.mem_map.mp hmem
      exact Nat.lt_irrefl _ (hnumber ▸ hnum.inFlight x hx)
    · cases (C.awaiting_of_issues hissue).symm.trans hn
      rfl
  | @execute n q r s before after hin hserve =>
    have hsub : (before ++ after).Sublist t.inFlight :=
      hin ▸ (List.sublist_cons_self _ _).append_left before
    refine ⟨fun x hx => hnum.inFlight x (hsub.subset hx), (hsub.map _).nodup hnum.once, ?_,
      hnum.awaiting⟩
    rw [List.forall_mem_cons]
    exact ⟨hnum.inFlight (n, q) (by simp [hin]), hnum.answers⟩
  | @drop n q before after hin =>
    have hsub : (before ++ after).Sublist t.inFlight :=
      hin ▸ (List.sublist_cons_self _ _).append_left before
    exact ⟨fun x hx => hnum.inFlight x (hsub.subset hx), (hsub.map _).nodup hnum.once,
      hnum.answers, hnum.awaiting⟩
  | receive hanswer hreceive =>
    refine ⟨hnum.inFlight, hnum.once, hnum.answers, fun n hn => ?_⟩
    exact absurd hn (by simp [(C.awaiting_of_receives hreceive).2])

section Fence

variable {good : Req → Resp → Prop} {Base : σ → Prop}

/-- A kind of answer that leaves the server in a state which copies of the request do not change. -/
structure Fence (S : σ → Req → Resp → σ → Prop) (good : Req → Resp → Prop) (Base : σ → Prop)
    (I : Req → σ → Prop) : Prop where
  base : ∀ s q r s', Base s → S s q r s' → Base s'
  settles : ∀ s q r s', Base s → S s q r s' → good q r → I q s'
  replays : ∀ s q r s', I q s → S s q r s' → s' = s

/-- Nothing but copies of one request is in flight, and the server has settled on it. -/
structure Settled (I : Req → σ → Prop) (q : Req) (t : Net κ σ Req Resp) : Prop where
  copies : ∀ x ∈ t.inFlight, x.2 = q
  server : I q t.server

variable (C) in
/-- The server has settled on the request that the client is about to see answered. -/
def Answered (good : Req → Resp → Prop) (I : Req → σ → Prop) (t : Net κ σ Req Resp) : Prop :=
  ∀ n q r, C.awaiting t.client = some n → (n, q, r) ∈ t.answers → good q r → Settled I q t

/-- A fencing request is executed only after all that was issued before it. -/
def Fenced (fences : Req → Prop) (e : Transition (Net κ σ Req Resp) (Event Req Resp)) : Prop :=
  ∀ n q r, e.label = .executed n q r → fences q → ∀ x ∈ e.before.inFlight, x.1 < n → x.2 = q

instance [DecidableEq Req] [DecidablePred fences]
    (e : Transition (Net κ σ Req Resp) (Event Req Resp)) : Decidable (Fenced fences e) :=
  match hlabel : e.label with
  | .executed n q r =>
    decidable_of_iff (fences q → ∀ x ∈ e.before.inFlight, x.1 < n → x.2 = q)
      (by simp [Fenced, hlabel])
  | .moved => .isTrue (by simp [Fenced, hlabel])
  | .issued n q => .isTrue (by simp [Fenced, hlabel])
  | .dropped n q => .isTrue (by simp [Fenced, hlabel])
  | .received n q r => .isTrue (by simp [Fenced, hlabel])

theorem Settled.step (hfence : Fence S good Base I) (hsettled : Settled I q t)
    (h : Step C S t ev t') (hissue : ev.isIssue = false) :
    Settled I q t' ∧ t'.server = t.server := by
  cases h with
  | move | receive => exact ⟨⟨hsettled.copies, hsettled.server⟩, rfl⟩
  | issue => cases hissue
  | @execute n q' r s before after hin hserve =>
    have hcopy : q' = q := hsettled.copies (n, q') (by simp [hin])
    subst hcopy
    have hsame := hfence.replays _ _ _ _ hsettled.server hserve
    refine ⟨⟨fun x hx => hsettled.copies x ?_, hsame ▸ hsettled.server⟩, hsame⟩
    rw [hin]
    exact ((List.sublist_cons_self _ _).append_left before).subset hx
  | @drop n q' before after hin =>
    refine ⟨⟨fun x hx => hsettled.copies x ?_, hsettled.server⟩, rfl⟩
    rw [hin]
    exact ((List.sublist_cons_self _ _).append_left before).subset hx

theorem Settled.of_execute (hfence : Fence S good Base I) (hnum : Numbered C t)
    (hbase : Base t.server) (hawaiting : C.awaiting t.client = some n)
    (hin : t.inFlight = before ++ (n, q) :: after) (hserve : S t.server q r s) (hgood : good q r)
    (hfenced : ∀ x ∈ t.inFlight, x.1 < n → x.2 = q) : Settled I q { t with
      server := s, inFlight := before ++ after, answers := (n, q, r) :: t.answers } := by
  refine ⟨fun x hx => ?_, hfence.settles _ _ _ _ hbase hserve hgood⟩
  have hmem : x ∈ t.inFlight := by
    rw [hin]
    exact ((List.sublist_cons_self _ _).append_left before).subset hx
  have hbound : x.1 < n + 1 := hnum.awaiting n hawaiting ▸ hnum.inFlight x hmem
  have hother : x.1 ≠ n := by
    have honce := hnum.once
    rw [hin, List.map_append, List.map_cons, List.nodup_middle, List.nodup_cons,
      ← List.map_append] at honce
    have hmap : x.1 ∈ (before ++ after).map Prod.fst := List.mem_map_of_mem hx
    exact fun heq => honce.1 (heq ▸ hmap)
  exact hfenced x hmem (by omega)

theorem Answered.step (hfence : Fence S good Base I) (hfences : ∀ q r, good q r → fences q)
    (hnum : Numbered C t) (hbase : Base t.server) (hanswered : Answered C good I t)
    (hfenced : Fenced fences ⟨t, ev, t'⟩) (h : Step C S t ev t') : Answered C good I t' := by
  intro n q r hawaiting hanswer hgood
  have hkept : C.awaiting t.client = some n → (n, q, r) ∈ t.answers → ev.isIssue = false →
      Settled I q t' := fun hawaiting hanswer hissue =>
    ((hanswered n q r hawaiting hanswer hgood).step hfence h hissue).1
  cases h with
  | move hmove =>
    rcases C.awaiting_of_moves hmove with hsame | hnone
    · exact hkept (hsame ▸ hawaiting) hanswer rfl
    · exact absurd hawaiting (by simp [hnone])
  | issue hissue =>
    cases (C.awaiting_of_issues hissue).symm.trans hawaiting
    exact absurd (hnum.answers _ hanswer) (Nat.lt_irrefl _)
  | execute hin hserve =>
    rcases List.mem_cons.mp hanswer with hnew | hold
    · cases hnew
      exact Settled.of_execute hfence hnum hbase hawaiting hin hserve hgood
        (hfenced n q r rfl (hfences q r hgood))
    · exact hkept hawaiting hold rfl
  | drop => exact hkept hawaiting hanswer rfl
  | receive _ hreceive => exact absurd hawaiting (by simp [(C.awaiting_of_receives hreceive).2])

variable (C good Base I) in
/-- What holds of a run whose fencing requests are all executed behind their predecessors. -/
structure Orderly (past : List (Transition (Net κ σ Req Resp) (Event Req Resp)))
    (t : Net κ σ Req Resp) : Prop where
  numbered : Numbered C t
  base : Base t.server
  answered : Answered C good I t
  settled : ∀ before e since n q r, past = before ++ e :: since → e.label = .received n q r →
    good q r → (∀ m ∈ since, m.label.isIssue = false) → Settled I q t ∧ t.server = e.before.server
  passed : ∀ before e since n q r, past = before ++ e :: since → e.label = .received n q r →
    good q r → n < t.issued ∧ ∀ x ∈ t.inFlight, x.1 < n → x.2 = q
  origin : ∀ n q r, (n, q, r) ∈ t.answers → ∃ e ∈ past, e.label = .executed n q r ∧
    (good q r → C.awaiting t.client = some n → t.server = e.after.server)

theorem settled_of_received (hanswered : Answered C good I t) (h : Step C S t (.received n q r) t')
    (hgood : good q r) :
    Settled I q t ∧ t'.inFlight = t.inFlight ∧ t'.server = t.server ∧ t'.issued = t.issued ∧
      C.awaiting t.client = some n := by
  cases h with
  | receive hanswer hreceive =>
    have hawaiting := (C.awaiting_of_receives hreceive).1
    exact ⟨hanswered n q r hawaiting hanswer hgood, rfl, rfl, rfl, hawaiting⟩

theorem Step.inFlight (h : Step C S t ev t') :
    t.issued ≤ t'.issued ∧ ∀ x ∈ t'.inFlight, x ∈ t.inFlight ∨ x.1 = t.issued := by
  cases h with
  | move | receive => exact ⟨Nat.le_refl _, fun x hx => .inl hx⟩
  | issue =>
    refine ⟨Nat.le_succ _, fun x hx => ?_⟩
    rcases List.mem_cons.mp hx with rfl | hx
    · exact .inr rfl
    · exact .inl hx
  | @execute n q r s before after hin hserve | @drop n q before after hin =>
    refine ⟨Nat.le_refl _, fun x hx => .inl ?_⟩
    rw [hin]
    exact ((List.sublist_cons_self _ _).append_left before).subset hx

theorem Step.base (hfence : Fence S good Base I) (h : Step C S t ev t') (hbase : Base t.server) :
    Base t'.server := by
  cases h with
  | execute hin hserve => exact hfence.base _ _ _ _ hbase hserve
  | _ => exact hbase

theorem Orderly.origin_step (hfence : Fence S good Base I) (hI : Orderly C good Base I past t)
    (h : Step C S t ev t') (n : Nat) (q : Req) (r : Resp) (hanswer : (n, q, r) ∈ t'.answers) :
    ∃ e ∈ past ++ [⟨t, ev, t'⟩], e.label = .executed n q r ∧
      (good q r → C.awaiting t'.client = some n → t'.server = e.after.server) := by
  have hold : (n, q, r) ∈ t.answers → (C.awaiting t'.client = some n →
        C.awaiting t.client = some n ∧ ev.isIssue = false) →
      ∃ e ∈ past ++ [⟨t, ev, t'⟩], e.label = .executed n q r ∧
        (good q r → C.awaiting t'.client = some n → t'.server = e.after.server) := by
    intro hanswer hawaiting
    obtain ⟨e, he, hlabel, hserver⟩ := hI.origin n q r hanswer
    refine ⟨e, List.mem_append_left _ he, hlabel, fun hgood hafter => ?_⟩
    obtain ⟨hbefore, hissue⟩ := hawaiting hafter
    have hsettled := hI.answered n q r hbefore hanswer hgood
    rw [(hsettled.step hfence h hissue).2]
    exact hserver hgood hbefore
  cases h with
  | move hmove =>
    refine hold hanswer fun hafter => ⟨?_, rfl⟩
    rcases C.awaiting_of_moves hmove with hsame | hnone
    · exact hsame ▸ hafter
    · exact absurd hafter (by simp [hnone])
  | issue hissue =>
    refine hold hanswer fun hafter => ?_
    cases (C.awaiting_of_issues hissue).symm.trans hafter
    exact absurd (hI.numbered.answers _ hanswer) (Nat.lt_irrefl _)
  | execute =>
    rcases List.mem_cons.mp hanswer with hnew | hanswer
    · cases hnew
      exact ⟨_, List.mem_append_right _ (.head _), rfl, fun _ _ => rfl⟩
    · exact hold hanswer fun hafter => ⟨hafter, rfl⟩
  | drop => exact hold hanswer fun hafter => ⟨hafter, rfl⟩
  | receive _ hreceive =>
    refine hold hanswer fun hafter => ?_
    exact absurd hafter (by simp [(C.awaiting_of_receives hreceive).2])

theorem Orderly.step (hfence : Fence S good Base I) (hfences : ∀ q r, good q r → fences q)
    (hI : Orderly C good Base I past t) (hfenced : Fenced fences ⟨t, ev, t'⟩)
    (h : Step C S t ev t') : Orderly C good Base I (past ++ [⟨t, ev, t'⟩]) t' := by
  refine ⟨hI.numbered.step h, h.base hfence hI.base,
    hI.answered.step hfence hfences hI.numbered hI.base hfenced h, ?_, ?_,
    hI.origin_step hfence h⟩
  · intro before e since n q r hsplit hlabel hgood hsince
    rcases List.eq_nil_or_concat' since with rfl | ⟨since, last, rfl⟩
    · obtain ⟨-, he⟩ := List.append_inj' hsplit rfl
      cases he
      subst hlabel
      obtain ⟨hsettled, hinFlight, hserver, -⟩ := settled_of_received hI.answered h hgood
      exact ⟨⟨hinFlight ▸ hsettled.copies, hserver ▸ hsettled.server⟩, hserver⟩
    rw [← List.cons_append, ← List.append_assoc] at hsplit
    obtain ⟨hpast, hlast⟩ := List.append_inj' hsplit rfl
    cases hlast
    rw [List.forall_mem_append] at hsince
    obtain ⟨hsettled, hserver⟩ := hI.settled before e since n q r hpast hlabel hgood hsince.1
    obtain ⟨hnext, hsame⟩ := hsettled.step hfence h (hsince.2 _ (.head _))
    exact ⟨hnext, hsame.trans hserver⟩
  intro before e since n q r hsplit hlabel hgood
  have hpassed : n < t.issued ∧ ∀ x ∈ t.inFlight, x.1 < n → x.2 = q := by
    rcases List.eq_nil_or_concat' since with rfl | ⟨since, last, rfl⟩
    · obtain ⟨-, he⟩ := List.append_inj' hsplit rfl
      cases he
      subst hlabel
      obtain ⟨hsettled, -, -, -, hawaiting⟩ := settled_of_received hI.answered h hgood
      have hissued := hI.numbered.awaiting n hawaiting
      exact ⟨by omega, fun x hx _ => hsettled.copies x hx⟩
    · rw [← List.cons_append, ← List.append_assoc] at hsplit
      exact hI.passed before e since n q r (List.append_inj' hsplit rfl).1 hlabel hgood
  obtain ⟨hissued, hinFlight⟩ := h.inFlight
  refine ⟨Nat.lt_of_lt_of_le hpassed.1 hissued, fun x hx hlt => ?_⟩
  rcases hinFlight x hx with hold | hnew
  · exact hpassed.2 x hold hlt
  · have hafter := hpassed.1
    omega

theorem orderly_of_path (hfence : Fence S good Base I) (hfences : ∀ q r, good q r → fences q)
    (hclient : C.awaiting t.client = none) (hinFlight : t.inFlight = []) (hanswers : t.answers = [])
    (hbase : Base t.server) (h : Path (Step C S) t steps t')
    (hfenced : ∀ e ∈ steps, Fenced fences e) : Orderly C good Base I steps t' := by
  refine Path.invariant (K := fun _ e => Fenced fences e)
    (fun past t ev t' hI hK hstep => hI.step hfence hfences hK hstep) ?_ h
    fun past e rest hsplit => hfenced e (by simp [hsplit])
  refine ⟨numbered_of_rest hclient hinFlight hanswers, hbase, ?_, ?_, ?_, ?_⟩
  · intro n q r hawaiting
    exact absurd hawaiting (by simp [hclient])
  · intro before e since n q r hsplit
    simp at hsplit
  · intro before e since n q r hsplit
    simp at hsplit
  · simp [hanswers]

/-- Once a good answer to a fencing request is received, nothing that was issued before it is
executed any more, and until the next request the server stays as the request has left it. -/
theorem fenced_after_received {past mid rest : List (Transition (Net κ σ Req Resp) (Event Req Resp))}
    (hfence : Fence S good Base I) (hfences : ∀ q r, good q r → fences q)
    (hclient : C.awaiting t.client = none) (hinFlight : t.inFlight = []) (hanswers : t.answers = [])
    (hbase : Base t.server) (h : Path (Step C S) t steps t')
    (hfenced : ∀ e ∈ steps, Fenced fences e) (hsplit : steps = past ++ e :: (mid ++ z :: rest))
    (hreceived : e.label = .received n q r) (hgood : good q r) :
    (∀ m q' r', z.label = .executed m q' r' → m < n → q' = q) ∧
      ∃ x ∈ past, x.label = .executed n q r ∧
        ((∀ m ∈ mid, m.label.isIssue = false) → Settled I q z.before ∧
          z.before.server = x.after.server ∧
          (z.label.isIssue = false → z.after.server = x.after.server)) := by
  have hmid : steps = (past ++ e :: mid) ++ z :: rest := by simp [hsplit]
  obtain ⟨hpast, hreceive⟩ := h.split hsplit
  obtain ⟨hbefore, hstep⟩ := h.split hmid
  have horderly := orderly_of_path hfence hfences hclient hinFlight hanswers hbase hpast
    fun m hm => hfenced m (by simp [hsplit, hm])
  have hlater := orderly_of_path hfence hfences hclient hinFlight hanswers hbase hbefore
    fun m hm => hfenced m (by rw [hmid]; exact List.mem_append_left _ hm)
  rw [hreceived] at hreceive
  have hanswer : (n, q, r) ∈ e.before.answers ∧ C.awaiting e.before.client = some n := by
    generalize e.after = after at hreceive
    cases hreceive with
    | receive hanswer hreceive => exact ⟨hanswer, (C.awaiting_of_receives hreceive).1⟩
  obtain ⟨x, hx, hexecuted, hserver⟩ := horderly.origin n q r hanswer.1
  refine ⟨fun m q' r' hlabel hlt => ?_, x, hx, hexecuted, fun hsince => ?_⟩
  · rw [hlabel] at hstep
    generalize z.after = after at hstep
    cases hstep with
    | execute hin =>
      exact (hlater.passed past e mid n q r rfl hreceived hgood).2 (m, q') (by simp [hin]) hlt
  obtain ⟨hsettled, hsame⟩ := hlater.settled past e mid n q r rfl hreceived hgood hsince
  have hkept := hsame.trans (hserver hgood hanswer.2)
  exact ⟨hsettled, hkept, fun hissue => (hsettled.step hfence hstep hissue).2.trans hkept⟩

end Fence

end MinimalRouter.Lib.Network
