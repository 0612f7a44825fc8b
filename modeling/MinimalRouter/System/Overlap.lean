import MinimalRouter.Lib.Network
import MinimalRouter.System.Commit

/-! The engine and the helper with several requests on their way at once: a request whose client
has given up is still carried out, and the requests are carried out in any order. -/

namespace MinimalRouter.System

open Goish Config Apply Applyd Lib Lib.Prog Lib.Network

inductive Control
  | idle
  | running (prog : Exchange Called)
  | waiting (n : Nat) (req : ApplyRequest) (next : Except String ApplyResponse → Exchange Called) :
      Control

structure Caller where
  engine : EngineState
  archive : Archive
  control : Control := .idle

def Control.awaiting : Control → Option Nat
  | waiting n _ _ => some n
  | _ => none

def isSend : Query → Bool
  | .send _ => true
  | _ => false

section Caller

variable (p : Plane)

/-- What the engine does on its own; a connection may fail at once, or take too long. -/
inductive Moves : Caller → Caller → Prop
  | call (call : Call) (hidle : k.control = .idle) :
      Moves k { k with control := .running (perform p k.engine call) }
  | answer {k : Caller} {q : Query} {r : q.Answer} {next : q.Answer → Exchange Called} {s : Archive}
      (hrunning : k.control = .running (.ask q next)) (hquery : isSend q = false)
      (h : (archive p.rules).handler k.archive q r s) :
      Moves k { k with archive := s, control := .running (next r) }
  | unsent {k : Caller} {req : ApplyRequest} {e : String}
      {next : Except String ApplyResponse → Exchange Called}
      (hrunning : k.control = .running (.ask (.send req) next)) :
      Moves k { k with control := .running (next (.error e)) }
  | timeout (hwaiting : k.control = .waiting n req next) :
      Moves k { k with control := .running (next (.error e)) }
  | finish (hrunning : k.control = .running (.ret c)) :
      Moves k { k with engine := c.engine, control := .idle }

inductive Issues : Caller → Nat → ApplyRequest → Caller → Prop
  | send (hrunning : k.control = .running (.ask (.send req) next)) :
      Issues k n (framed req) { k with control := .waiting n req next }

inductive Receives : Caller → Nat → ApplyResponse → Caller → Prop
  | answer (hwaiting : k.control = .waiting n req next) (hid : resp.id = req.id) :
      Receives k n resp { k with control := .running (next (.ok resp)) }

def caller : Client Caller ApplyRequest ApplyResponse where
  awaiting k := k.control.awaiting
  moves := Moves p
  issues := Issues
  receives := Receives
  awaiting_of_moves h := by cases h <;> exact .inr rfl
  awaiting_of_issues h := by cases h; rfl
  awaiting_of_receives h := by
    cases h with
    | answer hwaiting hid => exact ⟨by rw [hwaiting]; rfl, rfl⟩

end Caller

variable {F : Type} [DecidableEq F]

inductive Serves (a : Appliance F) (h : Helper F) (req : ApplyRequest) :
    ApplyResponse → Helper F → Prop
  | answered (env : HelperEnv) :
      Serves a h req (processRequest a env h (.request req)).response
        (processRequest a env h (.request req)).helper

abbrev Overlap (F : Type) := Net Caller (Helper F) ApplyRequest ApplyResponse

abbrev OverlapStep (F : Type) := Transition (Overlap F) (Event ApplyRequest ApplyResponse)

section Plain

inductive PlainControl : Control → Prop
  | idle : PlainControl .idle
  | running {prog : Exchange Called} (h : Asks (fun q => q.plain) Anything prog) :
      PlainControl (.running prog)
  | waiting (h : ∀ r, Asks (fun q => q.plain) Anything (next r)) :
      PlainControl (.waiting n req next)

structure PlainOverlap (t : Overlap F) : Prop where
  control : PlainControl t.client.control
  inFlight : ∀ x ∈ t.inFlight, (Query.send x.2).plain
  answers : ∀ x ∈ t.answers, (Query.send x.2.1).plain

variable {t' : Overlap F}

theorem plainControl_ask {k : Caller} {next : q.Answer → Exchange Called}
    (h : PlainControl k.control) (hrunning : k.control = .running (.ask q next)) :
    q.plain ∧ ∀ r, Asks (fun q => q.plain) Anything (next r) := by
  rw [hrunning] at h
  cases h with
  | running h =>
    cases h with
    | ask hq hk => exact ⟨hq, hk⟩

theorem plainControl_waiting {k : Caller} (h : PlainControl k.control)
    (hwaiting : k.control = .waiting n req next) (r : Except String ApplyResponse) :
    Asks (fun q => q.plain) Anything (next r) := by
  rw [hwaiting] at h
  cases h with
  | waiting h => exact h r

theorem plainControl_of_moves (h : Moves p k k') (hplain : PlainControl k.control) :
    PlainControl k'.control := by
  cases h with
  | call call => exact .running (plain_perform call)
  | answer hrunning | unsent hrunning => exact .running ((plainControl_ask hplain hrunning).2 _)
  | timeout hwaiting => exact .running (plainControl_waiting hplain hwaiting _)
  | finish => exact .idle

theorem PlainOverlap.step (hplain : PlainOverlap t) (h : Step (caller p) (Serves a) t ev t') :
    PlainOverlap t' := by
  cases h with
  | move hmove =>
    exact ⟨plainControl_of_moves hmove hplain.control, hplain.inFlight, hplain.answers⟩
  | issue hissue =>
    cases hissue with
    | send hrunning =>
      obtain ⟨hreq, hnext⟩ := plainControl_ask hplain.control hrunning
      refine ⟨.waiting hnext, ?_, hplain.answers⟩
      rw [List.forall_mem_cons]
      exact ⟨hreq, hplain.inFlight⟩
  | @execute n q r s before after hin hserve =>
    have hsub : before ++ after ⊆ t.inFlight :=
      hin ▸ ((List.sublist_cons_self _ _).append_left before).subset
    refine ⟨hplain.control, fun x hx => hplain.inFlight x (hsub hx), ?_⟩
    rw [List.forall_mem_cons]
    exact ⟨hplain.inFlight (n, q) (by simp [hin]), hplain.answers⟩
  | @drop n q before after hin =>
    have hsub : before ++ after ⊆ t.inFlight :=
      hin ▸ ((List.sublist_cons_self _ _).append_left before).subset
    exact ⟨hplain.control, fun x hx => hplain.inFlight x (hsub hx), hplain.answers⟩
  | receive hanswer hreceive =>
    cases hreceive with
    | answer hwaiting =>
      exact ⟨.running (plainControl_waiting hplain.control hwaiting _), hplain.inFlight,
        hplain.answers⟩

theorem plainOverlap_of_path {steps : List (OverlapStep F)} (hplain : PlainOverlap t)
    (h : Path (Step (caller p) (Serves a)) t steps t') : PlainOverlap t' :=
  Path.invariant (I := fun _ t => PlainOverlap t) (K := fun _ _ => True)
    (fun _ _ _ _ hI _ hstep => hI.step hstep) hplain h fun _ _ _ _ => trivial

end Plain

section Journal

variable (a : Appliance F)

def Remembered (h : Helper F) : Prop :=
  ∀ r, h.disk.lastTransaction = some r → r.response.verifiedSuccess = true →
    ∃ m, h.memory = some m ∧ m.id = r.id ∧ m.configHash = r.configHash

structure OnRequest (q : ApplyRequest) (h : Helper F) : Prop where
  holds : Holds h.disk q.config
  memory : ∃ m, h.memory = some m ∧ m.id = q.id ∧ a.digest.hashRequest q = some m.configHash

structure Reconciles (q : ApplyRequest) (r : ApplyResponse) : Prop where
  op : q.op = .reconcile
  commits : commits q = true
  success : r.verifiedSuccess = true

variable {a}

theorem Remembered.processRequest (hremembered : Remembered h) (env : HelperEnv)
    (payload : Payload) : Remembered (processRequest a env h payload).helper := by
  have hhandled := handled_processRequest a env h payload
  generalize Applyd.processRequest a env h payload = p at hhandled ⊢
  cases hhandled with
  | unread | replayed => exact hremembered
  | unrecorded hhash hfresh hwritten =>
    rcases hwritten with rfl | ⟨rfl, -⟩
    · exact hremembered
    intro r hr hverified
    cases hr
    cases hverified
  | ran hop hhash hfresh hran hclosed =>
    intro r hr hverified
    obtain ⟨hof, -, -⟩ := hclosed.of
    rcases hclosed.lastTransaction hran.privileged with hfile | hfile
    · cases hfile.symm.trans hr
      cases hverified
    · cases hfile.symm.trans hr
      exact ⟨_, rfl, hof.id, hof.configHash⟩

theorem onRequest_processRequest (env : HelperEnv) (hsettled : JournalSettled a h)
    (hremembered : Remembered h) (hcommits : commits q = true)
    (hr : (processRequest a env h (.request q)).response.verifiedSuccess = true) :
    OnRequest a q (processRequest a env h (.request q)).helper := by
  refine ⟨hsettled.holds env hcommits hr, ?_⟩
  have hhandled := handled_processRequest a env h (.request q)
  generalize processRequest a env h (.request q) = p at hhandled hr ⊢
  cases hhandled with
  | unread hunread => exact absurd hr (by simp [hunread q rfl (commits_transactional hcommits)])
  | replayed hhash hreplay =>
    obtain ⟨r, hrecord, hid, rfl, rfl⟩ := record_of_consultJournal hreplay hr
    rcases hrecord with hmemory | hfile
    · exact ⟨r, hmemory, hid, hhash⟩
    · obtain ⟨m, hmemory, hsame, hcontent⟩ := hremembered r hfile hr
      exact ⟨m, hmemory, hsame.trans hid, hcontent ▸ hhash⟩
  | unrecorded => cases hr
  | ran htrans hhash hfresh hran hclosed =>
    obtain ⟨hof, -, -⟩ := hclosed.of
    exact ⟨_, rfl, hof.id, by rw [hof.configHash]; exact hhash⟩

theorem OnRequest.replays (hon : OnRequest a q h) (env : HelperEnv) :
    (processRequest a env h (.request q)).helper = h := by
  obtain ⟨m, hmemory, hid, hcontent⟩ := hon.memory
  have hreplay : ∀ hash, a.digest.hashRequest q = some hash →
      consultJournal env q h hash ≠ none := by
    intro hash hhash
    cases hhash.symm.trans hcontent
    simp [consultJournal_of_memory hmemory ⟨hid, rfl⟩]
  have hhandled := handled_processRequest a env h (.request q)
  generalize processRequest a env h (.request q) = p at hhandled ⊢
  cases hhandled with
  | unread | replayed => rfl
  | unrecorded hhash hfresh | ran hop hhash hfresh => exact absurd hfresh (hreplay _ hhash)

theorem fence_reconcile (hfree : a.digest.CollisionFree) :
    Fence (Serves a) Reconciles (fun h => JournalSettled a h ∧ Remembered h) (OnRequest a) where
  base := by
    rintro s q r s' ⟨hsettled, hremembered⟩ ⟨env⟩
    exact ⟨hsettled.processRequest hfree env _, hremembered.processRequest env _⟩
  settles := by
    rintro s q r s' ⟨hsettled, hremembered⟩ ⟨env⟩ hgood
    exact onRequest_processRequest env hsettled hremembered hgood.commits hgood.success
  replays := by
    rintro s q r s' hon ⟨env⟩
    exact hon.replays env

end Journal

section Run

variable {t t' : Overlap F} {steps : List (OverlapStep F)}

/-- A reconciliation is carried out only after everything that was issued before it. -/
def ReconcilesLast (e : OverlapStep F) : Prop := Fenced (·.op = .reconcile) e

instance (e : OverlapStep F) : Decidable (ReconcilesLast e) :=
  inferInstanceAs (Decidable (Fenced (·.op = .reconcile) e))

theorem reconciled_helper_stays {a : Appliance F} {p : Plane} {past : List (OverlapStep F)}
    {e : OverlapStep F} {mid : List (OverlapStep F)} {z : OverlapStep F} {rest : List (OverlapStep F)}
    {n : Nat} {q : ApplyRequest} {r : ApplyResponse} (hfree : a.digest.CollisionFree)
    (hidle : t.client.control = .idle) (hinFlight : t.inFlight = []) (hanswers : t.answers = [])
    (hsettled : JournalSettled a t.server) (hremembered : Remembered t.server)
    (h : Path (Step (caller p) (Serves a)) t steps t') (hlast : ∀ e ∈ steps, ReconcilesLast e)
    (hsplit : steps = past ++ e :: (mid ++ z :: rest)) (hreceived : e.label = .received n q r)
    (hop : q.op = .reconcile) (hsuccess : r.verifiedSuccess = true) :
    (∀ m q' r', z.label = .executed m q' r' → m < n → q' = q) ∧
      ∃ x ∈ past, x.label = .executed n q r ∧ ((∀ m ∈ mid, m.label.isIssue = false) →
          Holds z.before.server.disk q.config ∧ z.before.server = x.after.server ∧
          (z.label.isIssue = false → z.after.server = x.after.server)) := by
  have hclient : (caller p).awaiting t.client = none := by
    rw [show (caller p).awaiting t.client = t.client.control.awaiting from rfl, hidle]
    rfl
  obtain ⟨hpast, hreceive⟩ := h.split hsplit
  have hplain : PlainOverlap e.before := by
    refine plainOverlap_of_path ⟨?_, by simp [hinFlight], by simp [hanswers]⟩ hpast
    rw [hidle]
    exact .idle
  have hcommits : commits q = true := by
    rw [hreceived] at hreceive
    generalize e.after = after at hreceive
    cases hreceive with
    | receive hanswer =>
      have hflags : q.requireConfirmation = false ∧ q.deferLastGood = false :=
        hplain.answers _ hanswer hop
      simp [commits, hop, hflags]
  obtain ⟨holder, x, hx, hexecuted, hkept⟩ := fenced_after_received (fence_reconcile hfree)
    (fun q r hgood => hgood.op) hclient hinFlight hanswers ⟨hsettled, hremembered⟩ h hlast hsplit
    hreceived ⟨hop, hcommits, hsuccess⟩
  refine ⟨holder, x, hx, hexecuted, fun hsince => ?_⟩
  obtain ⟨hon, hsame, hafter⟩ := hkept hsince
  exact ⟨hon.server.holds, hsame, hafter⟩

end Run

section Sample

inductive Choice
  | call (c : Call)
  | ask | send | giveUp | finish
  | execute (i : Nat)
  | receive

variable (a : Appliance F) (p : Plane)

def choose (t : Overlap F) : Choice → Option (Event ApplyRequest ApplyResponse × Overlap F)
  | .call c =>
    match t.client.control with
    | .idle => some (.moved,
        { t with client := { t.client with control := .running (perform p t.client.engine c) } })
    | _ => none
  | .ask =>
    match t.client.control with
    | .running (.ask q next) =>
      if isSend q then none
      else
        let answer := obliging p.rules t.client.archive q
        some (.moved, { t with
          client := { t.client with archive := answer.2, control := .running (next answer.1) } })
    | _ => none
  | .send =>
    match t.client.control with
    | .running (.ask (.send req) next) => some (.issued t.issued (framed req), { t with
        client := { t.client with control := .waiting t.issued req next }
        issued := t.issued + 1
        inFlight := (t.issued, framed req) :: t.inFlight })
    | _ => none
  | .giveUp =>
    match t.client.control with
    | .waiting _ _ next => some (.moved, { t with
        client := { t.client with control := .running (next (.error "i/o timeout")) } })
    | _ => none
  | .finish =>
    match t.client.control with
    | .running (.ret c) => some (.moved, { t with
        client := { t.client with engine := c.engine, control := .idle } })
    | _ => none
  | .execute i =>
    match t.inFlight.drop i with
    | (n, q) :: after =>
      let p := processRequest a {} t.server (.request q)
      some (.executed n q p.response, { t with
        server := p.helper
        inFlight := t.inFlight.take i ++ after
        answers := (n, q, p.response) :: t.answers })
    | [] => none
  | .receive =>
    match t.client.control, t.answers with
    | .waiting n req next, (m, q, r) :: _ =>
      if m = n ∧ r.id = req.id then some (.received n q r, { t with
        client := { t.client with control := .running (next (.ok r)) } })
      else none
    | _, _ => none

variable {a p}

theorem step_of_choose (h : choose a p t c = some (ev, t')) :
    Step (caller p) (Serves a) t ev t' := by
  cases c with
  | call c =>
    simp only [choose] at h
    split at h
    · next hidle =>
      cases h
      exact .move (.call c hidle)
    · cases h
  | ask =>
    simp only [choose] at h
    split at h
    · next q next hrunning =>
      split at h
      · cases h
      · next hquery =>
        cases h
        exact .move (.answer hrunning (Bool.eq_false_iff.mpr hquery)
          (handler_obliging p.rules t.client.archive q))
    · cases h
  | send =>
    simp only [choose] at h
    split at h
    · next req next hrunning =>
      cases h
      exact .issue (.send hrunning)
    · cases h
  | giveUp =>
    simp only [choose] at h
    split at h
    · next n req next hwaiting =>
      cases h
      exact .move (.timeout hwaiting)
    · cases h
  | finish =>
    simp only [choose] at h
    split at h
    · next c hrunning =>
      cases h
      exact .move (.finish hrunning)
    · cases h
  | execute =>
    simp only [choose] at h
    split at h
    · next n q after hdrop =>
      cases h
      refine .execute ?_ (.answered {})
      rw [← hdrop, List.take_append_drop]
    · cases h
  | receive =>
    simp only [choose] at h
    split at h
    · next n req next m q r rest hwaiting hanswers =>
      split at h
      · next hid =>
        obtain ⟨rfl, hid⟩ := hid
        cases h
        exact .receive (by simp [hanswers]) (.answer hwaiting hid)
      · cases h
    · cases h

variable (a p)

def chosen (t : Overlap F) (c : Choice) : OverlapStep F :=
  match choose a p t c with
  | some (ev, t') => ⟨t, ev, t'⟩
  | none => ⟨t, .moved, t⟩

def play (t : Overlap F) : List Choice → List (OverlapStep F) × Overlap F
  | [] => ([], t)
  | c :: cs =>
    let rest := play (chosen a p t c).after cs
    (chosen a p t c :: rest.1, rest.2)

def possible (t : Overlap F) : List Choice → Bool
  | [] => true
  | c :: cs => (choose a p t c).isSome && possible (chosen a p t c).after cs

variable {a p}

theorem step_chosen (h : (choose a p t c).isSome = true) :
    Step (caller p) (Serves a) t (chosen a p t c).label (chosen a p t c).after := by
  obtain ⟨_, hchoose⟩ := Option.isSome_iff_exists.mp h
  simp only [chosen, hchoose]
  exact step_of_choose hchoose

theorem chosen_eta (t : Overlap F) (c : Choice) :
    ⟨t, (chosen a p t c).label, (chosen a p t c).after⟩ = chosen a p t c := by
  unfold chosen
  split <;> rfl

theorem path_play (h : possible a p t cs = true) :
    Path (Step (caller p) (Serves a)) t (play a p t cs).1 (play a p t cs).2 := by
  induction cs generalizing t with
  | nil => exact .nil
  | cons c cs ih =>
    simp only [possible, Bool.and_eq_true] at h
    have hcons := Path.cons (step_chosen h.1) (ih h.2)
    rw [chosen_eta] at hcons
    exact hcons

def atRest : Overlap Json where
  client := { engine := newEngine.engine, archive := newEngine.around }
  server := newAppliance.around.helper

/-- A change whose two attempts both time out, and the reconciliation that follows it. -/
def overtakenRun : List (OverlapStep Json) × Overlap Json :=
  play .plain .plain atRest ([Choice.call (.processTransaction "tx-1"
      { firstRevision with system := { hostname := "gateway" } })] ++
    List.replicate 6 Choice.ask ++ [Choice.send, .giveUp, .ask, .send, .giveUp, .finish] ++
    [Choice.call .reconcile, .ask, .ask, .send, .execute 0])

def overtakenReceipt : OverlapStep Json := chosen .plain .plain overtakenRun.2 .receive

def overtakingChange : OverlapStep Json :=
  chosen .plain .plain overtakenReceipt.after (.execute 0)

/-- The engine has the verified success of its reconciliation, and then the helper carries out the
change that was issued before it. -/
theorem reconcile_is_overtaken : Path (Step (caller .plain) (Serves .plain)) atRest
        (overtakenRun.1 ++ [overtakenReceipt] ++ [overtakingChange]) overtakingChange.after ∧
      overtakenReceipt.label.receipt.map (fun x => (x.1, x.2.1.op, x.2.2.verifiedSuccess)) =
        some (2, .reconcile, true) ∧
      overtakingChange.label.execution.map (fun x => (x.1, x.2.1.op, x.2.2.verifiedSuccess)) =
        some (1, .applyAll, true) ∧ overtakenReceipt.after.server.disk.pending = none ∧
      overtakingChange.after.server.disk.pending.map (·.config.system.hostname) =
        some "gateway" := by
  have hpath : Path (Step (caller .plain) (Serves .plain)) atRest overtakenRun.1 overtakenRun.2 :=
    path_play (by decide +kernel)
  have hreceive := hpath.snoc (step_chosen (c := .receive) (by decide +kernel))
  have hexecute := hreceive.snoc (step_chosen (c := .execute 0) (by decide +kernel))
  rw [chosen_eta, chosen_eta] at hexecute
  exact ⟨hexecute, by decide +kernel, by decide +kernel, by decide +kernel, by decide +kernel⟩

/-- A reconciliation that is sent twice, and whose second copy is carried out first. -/
def repeatedRun : List (OverlapStep Json) × Overlap Json :=
  play .plain .plain atRest
    [.call .reconcile, .ask, .ask, .send, .giveUp, .ask, .send, .execute 0]

def repeatedReceipt : OverlapStep Json := chosen .plain .plain repeatedRun.2 .receive

def repeatedCopy : OverlapStep Json := chosen .plain .plain repeatedReceipt.after (.execute 0)

theorem reconciled_helper_stays_at_copy :
    repeatedReceipt.label.receipt.map (fun x => (x.1, x.2.1.op, x.2.2.verifiedSuccess)) =
        some (1, .reconcile, true) ∧
      repeatedCopy.label.execution.map (fun x => (x.1, x.2.1.op)) = some (0, .reconcile) ∧
      ∃ x ∈ repeatedRun.1, repeatedCopy.after.server = x.after.server := by
  have hreceipt : repeatedReceipt.label.receipt.map
      (fun x => (x.1, x.2.1.op, x.2.2.verifiedSuccess)) = some (1, .reconcile, true) := by
    decide +kernel
  refine ⟨hreceipt, by decide +kernel, ?_⟩
  have hpath : Path (Step (caller .plain) (Serves .plain)) atRest repeatedRun.1 repeatedRun.2 :=
    path_play (by decide +kernel)
  have hreceive := hpath.snoc (step_chosen (c := .receive) (by decide +kernel))
  have hexecute := hreceive.snoc (step_chosen (c := .execute 0) (by decide +kernel))
  rw [chosen_eta, chosen_eta] at hexecute
  have hlast : ∀ e ∈ repeatedRun.1 ++ [repeatedReceipt] ++ [repeatedCopy], ReconcilesLast e := by
    decide +kernel
  have hsplit : repeatedRun.1 ++ [repeatedReceipt] ++ [repeatedCopy] =
      repeatedRun.1 ++ repeatedReceipt :: ([] ++ repeatedCopy :: []) := by
    simp
  have hfree : Appliance.plain.digest.CollisionFree :=
    fun x y f hx hy => Option.some.inj (hx.trans hy.symm)
  obtain ⟨x, hx, hfacts⟩ := Option.map_eq_some_iff.mp hreceipt
  simp only [Prod.mk.injEq] at hfacts
  obtain ⟨-, e, he, -, hkept⟩ := reconciled_helper_stays hfree rfl rfl rfl
    (journalSettled_of_empty _ rfl rfl) (fun r hr => by cases hr) hexecute hlast hsplit
    (Event.eq_of_receipt hx) hfacts.2.1 hfacts.2.2
  exact ⟨e, he, (hkept (by simp)).2.2 (by decide +kernel)⟩

end Sample

end MinimalRouter.System
