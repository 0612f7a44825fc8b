import Mathlib.Data.List.Induction
import MinimalRouter.Applyd.PauseRecovery

namespace MinimalRouter.Applyd.Pauses

open Goish Config Lib Prog
open Apply (ActionFailure DevicePause actionInvalid actionConflict actionUnavailable actionFailed)

def Refused (e : ActionFailure) : Prop :=
  ∃ code message, e = .action code message ∧
    code ∈ [actionInvalid, actionUnavailable, actionConflict]

theorem refused_of_validatePauseIp (h : validatePauseIpForConfig value cfg = .error e) :
    Refused e := by
  unfold validatePauseIpForConfig at h
  repeat' split at h
  all_goals cases h
  all_goals exact ⟨_, _, rfl, by simp⟩

def Checked (w : World) : Except ActionFailure String → World → Prop
  | .ok ip, t => t = w ∧ canonical ip = true
  | .error e, t => t = w ∧ Refused e

theorem ends_changeRequest : Ends clock (· = w) (Checked w) (changeRequest value seconds) w := by
  refine Attempt.Ends.failIf_bind rfl (fun _ => ⟨rfl, _, _, rfl, by simp⟩) fun _ => ?_
  have hcall : Ends clock (· = w) (fun r t => t = w ∧ ∀ e, r = .error e → Refused e)
      (orFail actionUnavailable "trusted last-good configuration unavailable" (call .lastGood id))
      w := by
    refine Attempt.Ends.mapError (Attempt.Ends.ask rfl (fun t => False.elim) fun r t ht => ?_)
    refine Attempt.Ends.ofExcept ht ⟨ht, fun e he => ?_⟩
    obtain ⟨_, -, rfl⟩ := Lib.Result.mapError_eq_error.mp he
    exact ⟨_, _, rfl, by simp⟩
  refine Attempt.Ends.bind hcall (fun cfg t ht => ?_) fun e t ht => ⟨ht.1, ht.2 e rfl⟩
  obtain ⟨rfl, -⟩ := ht
  refine Attempt.Ends.ofExcept rfl ?_
  cases hvalid : validatePauseIpForConfig value cfg with
  | error => exact ⟨rfl, refused_of_validatePauseIp hvalid⟩
  | ok =>
    obtain ⟨x, -, rfl⟩ := validatePauseIp_eq_ok hvalid
    exact ⟨rfl, canonical_octetsString x⟩

theorem runs_changeFrom (h : Runs (Handles clock) (changeFrom previous ip seconds resume) w r w') :
    (w' = w ∧ ∃ e, r = .error e ∧ Refused e) ∨
      ∃ pause, Runs (Handles clock)
        (deviceTransition previous (changed previous ip pause)) w r w' := by
  unfold changeFrom at h
  split at h
  next => exact .inr ⟨none, h⟩
  next =>
  unfold Attempt.failIf at h
  split at h
  next =>
    cases h
    exact .inl ⟨rfl, _, rfl, _, _, rfl, by simp⟩
  next =>
  split at h
  next =>
    cases h with
    | ask hnow hrest =>
      obtain ⟨rfl, -⟩ := hnow
      exact .inr ⟨_, hrest⟩
  next => exact .inr ⟨_, h⟩

theorem cut_changeFrom
    (h : Cut (Handles clock) Interrupts (changeFrom previous ip seconds resume) w w') :
    w' = w ∨ ∃ pause, Cut (Handles clock) Interrupts
      (deviceTransition previous (changed previous ip pause)) w w' := by
  unfold changeFrom Attempt.failIf at h
  split at h
  · exact .inr ⟨none, h⟩
  split at h
  · cases h
    exact .inl rfl
  split at h
  · cases h with
    | here => exact .inl rfl
    | inside hK => exact hK.elim
    | next hnow hrest =>
      obtain ⟨rfl, -⟩ := hnow
      exact .inr ⟨_, hrest⟩
  · exact .inr ⟨_, h⟩

theorem runs_deviceChange (h : Runs (Handles clock) (deviceChange value seconds resume) w r w') :
    (w' = w ∧ ∃ e, r = .error e ∧ Refused e) ∨
      (∃ e, r = .error e ∧ Runs (Handles clock) devicesReconcile w (.error e) w') ∨
      ∃ previous u, Runs (Handles clock) devicesReconcile w (.ok previous) u ∧
        ((w' = u ∧ ∃ e, r = .error e ∧ Refused e) ∨ ∃ ip pause, canonical ip = true ∧
          Runs (Handles clock) (deviceTransition previous (changed previous ip pause)) u r w') := by
  rcases Attempt.runs_of_bind h with ⟨e, rfl, hrequest⟩ | ⟨ip, u, hrequest, hrest⟩
  · have hchecked := ends_changeRequest.runs hrequest
    exact .inl ⟨hchecked.1, e, rfl, hchecked.2⟩
  obtain ⟨rfl, hip⟩ := ends_changeRequest.runs hrequest
  rcases Attempt.runs_of_bind hrest with ⟨e, rfl, hreconcile⟩ | ⟨previous, v, hreconcile, hrest⟩
  · exact .inr (.inl ⟨e, rfl, hreconcile⟩)
  refine .inr (.inr ⟨previous, v, hreconcile, ?_⟩)
  rcases runs_changeFrom hrest with hrefused | ⟨pause, htransition⟩
  · exact .inl hrefused
  · exact .inr ⟨ip, pause, hip, htransition⟩

theorem cut_deviceChange
    (h : Cut (Handles clock) Interrupts (deviceChange value seconds resume) w w') :
    Cut (Handles clock) Interrupts devicesReconcile w w' ∨
      ∃ previous u, Runs (Handles clock) devicesReconcile w (.ok previous) u ∧
        (w' = u ∨ ∃ ip pause, canonical ip = true ∧ Cut (Handles clock) Interrupts
          (deviceTransition previous (changed previous ip pause)) u w') := by
  rcases Attempt.cut_of_bind h with hrequest | ⟨ip, u, hrequest, hrest⟩
  · obtain rfl : w' = w := ends_changeRequest.cut hrequest
    exact .inl .here
  obtain ⟨rfl, hip⟩ := ends_changeRequest.runs hrequest
  rcases Attempt.cut_of_bind hrest with hreconcile | ⟨previous, v, hreconcile, hrest⟩
  · exact .inl hreconcile
  refine .inr ⟨previous, v, hreconcile, ?_⟩
  rcases cut_changeFrom hrest with rfl | ⟨pause, htransition⟩
  · exact .inl rfl
  · exact .inr ⟨ip, pause, hip, htransition⟩

inductive Outcome
  | returned : Except ActionFailure (List DevicePause) → Outcome
  | crashed
  deriving DecidableEq

/-- What the helper does in one turn: it reconciles, or it changes the list that it has just
reconciled. -/
inductive Turn
  | reconcile : Outcome → Turn
  | transition : (previous next : List DevicePause) → Outcome → Turn
  deriving DecidableEq

structure Site where
  world : World
  listed : Option (List DevicePause) := none

inductive Takes (clock : Set Int) : Site → Turn → Site → Prop
  | reconcile {w w' : World} {l : Option (List DevicePause)}
      {r : Except ActionFailure (List DevicePause)}
      (h : Runs (Handles clock) devicesReconcile w r w') :
      Takes clock ⟨w, l⟩ (.reconcile (.returned r)) ⟨w', r.toOption⟩
  | reconcileCrash {w w' : World} {l : Option (List DevicePause)}
      (h : Cut (Handles clock) Interrupts devicesReconcile w w') :
      Takes clock ⟨w, l⟩ (.reconcile .crashed) ⟨w'.restart, none⟩
  | transition {w w' : World} {previous : List DevicePause} {ip : String} {pause : Option Int}
      {r : Except ActionFailure (List DevicePause)} (hip : canonical ip = true)
      (h : Runs (Handles clock) (deviceTransition previous (changed previous ip pause)) w r w') :
      Takes clock ⟨w, some previous⟩ (.transition previous (changed previous ip pause) (.returned r))
        ⟨w', none⟩
  | transitionCrash {w w' : World} {previous : List DevicePause} {ip : String} {pause : Option Int}
      (hip : canonical ip = true) (h : Cut (Handles clock) Interrupts
        (deviceTransition previous (changed previous ip pause)) w w') :
      Takes clock ⟨w, some previous⟩ (.transition previous (changed previous ip pause) .crashed)
        ⟨w'.restart, none⟩

inductive Acts (clock : Set Int) : World → World → Prop
  | status (h : Runs (Handles clock) devicesReconcile w r w') : Acts clock w w'
  | change (h : Runs (Handles clock) (deviceChange value seconds resume) w r w') : Acts clock w w'
  | statusCrash (h : Cut (Handles clock) Interrupts devicesReconcile w w') : Acts clock w w'.restart
  | changeCrash (h : Cut (Handles clock) Interrupts (deviceChange value seconds resume) w w') :
      Acts clock w w'.restart

theorem turns_of_acts (h : Acts clock w w') (l : Option (List DevicePause)) :
    ∃ steps l', Path (Takes clock) ⟨w, l⟩ steps ⟨w', l'⟩ := by
  cases h with
  | status hrun => exact ⟨_, _, .single (.reconcile hrun)⟩
  | statusCrash hcut => exact ⟨_, _, .single (.reconcileCrash hcut)⟩
  | change hrun =>
    rcases runs_deviceChange hrun with ⟨rfl, -⟩ | ⟨e, -, hreconcile⟩ |
      ⟨previous, u, hreconcile, ⟨rfl, -⟩ | ⟨ip, pause, hip, htransition⟩⟩
    · exact ⟨_, _, .nil⟩
    · exact ⟨_, _, .single (.reconcile hreconcile)⟩
    · exact ⟨_, _, .single (.reconcile hreconcile)⟩
    · exact ⟨_, _, .cons (.reconcile hreconcile) (.single (.transition hip htransition))⟩
  | changeCrash hcut =>
    rcases cut_deviceChange hcut with hreconcile | ⟨previous, u, hreconcile, hrest⟩
    · exact ⟨_, _, .single (.reconcileCrash hreconcile)⟩
    rcases hrest with rfl | ⟨ip, pause, hip, htransition⟩
    · exact ⟨_, _, .cons (.reconcile hreconcile) (.single (.reconcileCrash .here))⟩
    · exact ⟨_, _, .cons (.reconcile hreconcile) (.single (.transitionCrash hip htransition))⟩

theorem exists_turns (h : Relation.ReflTransGen (Acts clock) w w') :
    ∃ steps l, Path (Takes clock) ⟨w, none⟩ steps ⟨w', l⟩ := by
  induction h with
  | refl => exact ⟨[], none, .nil⟩
  | tail _ hact ih =>
    obtain ⟨steps, l, hpath⟩ := ih
    obtain ⟨_, l', hmore⟩ := turns_of_acts hact l
    exact ⟨_, l', hpath.append hmore⟩

def Turn.marks : Turn → Bool
  | reconcile (.returned (.ok _)) => true
  | reconcile _ => false
  | transition _ _ _ => true

abbrev PauseStep := Transition Site Turn

/-- The lists of a change that was not finished: the one before it, the same without what had run
out, and the one after it. -/
def Unfinished (clock : Set Int) (e : PauseStep) (previous next list : List DevicePause) : Prop :=
  ∃ before, ∃ t ∈ clock, e.before.world.durable = some before ∧ previous = activePauses before t ∧
    Between before previous next list

inductive End
  | done | undone | unfinished
  deriving DecidableEq

def Outcome.ending : Outcome → End
  | returned (.ok _) => .done
  | returned (.error (.action code _)) => if code = actionFailed then .undone else .unfinished
  | _ => .unfinished

def Leaves (clock : Set Int) (e : PauseStep) (list : List DevicePause) : Prop :=
  match e.label with
  | .reconcile _ => e.after.world.durable = some list
  | .transition previous next outcome =>
    match outcome.ending with
    | .done => list = next
    | .undone => list = previous
    | .unfinished => Unfinished clock e previous next list

def Holds (w : World) (list : List DevicePause) : Prop :=
  (∃ doc, w.pending = some doc ∧ doc.pauses = some list) ∨
    (∃ doc, w.state = some doc ∧ doc.pauses = some list) ∨ w.state = none ∧ list = []

def kept (clock : Set Int) (S : List DevicePause → Prop) (steps : List PauseStep) :
    List DevicePause → Prop :=
  steps.foldl (fun S e => if e.label.marks then Leaves clock e else S) S

theorem kept_snoc (clock : Set Int) (S : List DevicePause → Prop) (past : List PauseStep)
    (e : PauseStep) :
    kept clock S (past ++ [e]) = if e.label.marks then Leaves clock e else kept clock S past := by
  simp [kept]

theorem kept_of_not_marks (h : ∀ e ∈ steps, e.label.marks = false) : kept clock S steps = S := by
  induction steps using List.reverseRecOn with
  | nil => rfl
  | append_singleton past e ih =>
    rw [kept_snoc, h e (by simp), if_neg (by simp)]
    exact ih fun f hf => h f (by simp [hf])

theorem kept_of_marks (he : e.label.marks = true) (h : ∀ f ∈ rest, f.label.marks = false) :
    kept clock S (past ++ e :: rest) = Leaves clock e := by
  have hsplit : kept clock S (past ++ e :: rest) = kept clock (kept clock S (past ++ [e])) rest := by
    simp [kept]
  rw [hsplit, kept_snoc, he, kept_of_not_marks h]
  rfl

structure TurnInvariant (clock : Set Int) (files : World) (past : List PauseStep) (site : Site) :
    Prop where
  within : Within (kept clock (Holds files) past) site.world
  listed : ∀ previous, site.listed = some previous →
    ∃ list, ∃ t ∈ clock, Settled list site.world ∧ previous = activePauses list t ∧ Canonical previous

theorem within_holds (files : World) : Within (Holds files) files.restart where
  uncertain _ hr := nomatch hr
  pending doc _ hdoc hlist := .inl ⟨doc, hdoc, hlist⟩
  state doc _ hdoc hlist := .inr (.inl ⟨doc, hdoc, hlist⟩)
  absent hs := .inr (.inr ⟨hs, rfl⟩)

theorem ending_recoveryRequired (message : String) :
    (Outcome.returned (.error (.action actionRecoveryRequired message))).ending = .unfinished := by
  rw [Outcome.ending, if_neg (by decide)]

theorem ending_failed (message : String) :
    (Outcome.returned (.error (.action actionFailed message))).ending = .undone := by
  rw [Outcome.ending, if_pos rfl]

theorem leaves_of_unfinished (hending : outcome.ending = .unfinished)
    (hbefore : site.world.durable = some before) (hprevious : previous = activePauses before t)
    (ht : t ∈ clock) (h : Between before previous next list) :
    Leaves clock ⟨site, .transition previous next outcome, site'⟩ list := by
  simp only [Leaves, hending]
  exact ⟨before, t, ht, hbefore, hprevious, h⟩

theorem TurnInvariant.step (h : TurnInvariant clock files past site)
    (hturn : Takes clock site turn site') :
    TurnInvariant clock files (past ++ [⟨site, turn, site'⟩]) site' := by
  have hkept (hmarks : turn.marks = true) (hw : Within (Leaves clock ⟨site, turn, site'⟩) site'.world) :
      Within (kept clock (Holds files) (past ++ [⟨site, turn, site'⟩])) site'.world := by
    rw [kept_snoc, if_pos hmarks]
    exact hw
  have hsame (hmarks : turn.marks = false) (hw : Within (kept clock (Holds files) past) site'.world) :
      Within (kept clock (Holds files) (past ++ [⟨site, turn, site'⟩])) site'.world := by
    rw [kept_snoc, if_neg (by simp [hmarks])]
    exact hw
  cases hturn with
  | @reconcile w w' l r hrun =>
    have hends : Ends clock _ _ _ _ := ends_devicesReconcile h.within
    cases r with
    | ok =>
      obtain ⟨list, hreconciled⟩ := hends.runs hrun
      obtain ⟨t, ht, hactive⟩ := hreconciled.active
      refine ⟨hkept rfl (hreconciled.settled.within.mono fun l hl => ?_), fun previous hlisted => ?_⟩
      · exact hl ▸ hreconciled.settled.durable
      · cases hlisted
        exact ⟨list, t, ht, hreconciled.settled, hactive, hreconciled.canonical⟩
    | error => exact ⟨hsame rfl (hends.cut hrun.cut), fun _ hlisted => nomatch hlisted⟩
  | reconcileCrash hcut =>
    exact ⟨hsame rfl ((ends_devicesReconcile h.within).cut hcut).forget,
      fun _ hlisted => nomatch hlisted⟩
  | @transition w w' previous ip pause r hip hrun =>
    obtain ⟨list, t, ht, hsettled, hprevious, hcanonical⟩ := h.listed previous rfl
    have hends : Ends clock _ _ _ _ :=
      ends_deviceTransition hsettled hcanonical (hcanonical.changed hip pause)
    refine ⟨hkept rfl ?_, fun _ hlisted => nomatch hlisted⟩
    have hpost := hends.runs hrun
    cases r with
    | ok => exact hpost.2.1.within
    | error =>
      rcases hpost with ⟨message, rfl⟩ | ⟨⟨message, rfl⟩, hsettled', -⟩
      · exact (hends.cut hrun.cut).mono fun _ =>
          leaves_of_unfinished (ending_recoveryRequired message) hsettled.durable hprevious ht
      refine hsettled'.within.mono fun l hl => ?_
      simp only [Leaves, ending_failed]
      exact hl
  | @transitionCrash w w' previous ip pause hip hcut =>
    obtain ⟨list, t, ht, hsettled, hprevious, hcanonical⟩ := h.listed previous rfl
    have hends : Ends clock _ _ _ _ :=
      ends_deviceTransition hsettled hcanonical (hcanonical.changed hip pause)
    refine ⟨hkept rfl ((hends.cut hcut).forget.mono fun _ => ?_), fun _ hlisted => nomatch hlisted⟩
    exact leaves_of_unfinished rfl hsettled.durable hprevious ht

theorem TurnInvariant.run {files : World} {steps : List PauseStep}
    (hrun : Path (Takes clock) ⟨files.restart, none⟩ steps site) :
    TurnInvariant clock files steps site := by
  have hstart : TurnInvariant clock files [] ⟨files.restart, none⟩ :=
    ⟨within_holds files, fun _ h => nomatch h⟩
  exact Path.invariant (K := fun _ _ => True) (fun _ _ _ _ h _ hturn => h.step hturn) hstart hrun
    fun _ _ _ _ => trivial

/-- The durable list is the one given, and so is the set of the kernel, without what has run out. -/
def Agree (clock : Set Int) (list : List DevicePause) (w : World) : Prop :=
  Settled list w ∧ ∃ now ∈ clock, w.table = some (loaded now list)

def Recovered (clock : Set Int) (pauses list : List DevicePause) (w : World) : Prop :=
  Settled list w ∧ (∃ t ∈ clock, pauses = activePauses list t) ∧
    ∃ now ∈ clock, w.table = some (loaded now pauses)

theorem transitioned_of_deviceChange (hw : Within S w)
    (h : Runs (Handles clock) (deviceChange value seconds resume) w r w') :
    (∃ code message, r = .error (.action code message) ∧ code ≠ actionFailed) ∨
      ∃ list, ∃ t ∈ clock, ∃ next, w.chosen = some list ∧
        Transitioned clock (activePauses list t) next r w' := by
  have hrefused {e : ActionFailure} (he : Refused e) :
      ∃ code message, e = .action code message ∧ code ≠ actionFailed := by
    obtain ⟨code, message, rfl, hcode⟩ := he
    exact ⟨code, message, rfl, fun heq => absurd (heq ▸ hcode) (by decide)⟩
  rcases runs_deviceChange h with ⟨-, e, rfl, he⟩ | ⟨e, rfl, hreconcile⟩ |
    ⟨previous, u, hreconcile, ⟨-, e, rfl, he⟩ | ⟨ip, pause, hip, htransition⟩⟩
  · obtain ⟨code, message, rfl, hcode⟩ := hrefused he
    exact .inl ⟨code, message, rfl, hcode⟩
  · obtain ⟨message, rfl⟩ := (ends_devicesReconcile hw).runs hreconcile
    exact .inl ⟨_, message, rfl, by decide⟩
  · obtain ⟨code, message, rfl, hcode⟩ := hrefused he
    exact .inl ⟨code, message, rfl, hcode⟩
  obtain ⟨list, hreconciled⟩ := (ends_devicesReconcile hw).runs hreconcile
  obtain ⟨t, ht, rfl⟩ := hreconciled.active
  have hcanonical := hreconciled.canonical
  exact .inr ⟨list, t, ht, _, hreconciled.chosen, (ends_deviceTransition hreconciled.settled
    hcanonical (hcanonical.changed hip pause)).runs htransition⟩

theorem recovered_of_devicesReconcile (hw : Within S w)
    (h : Runs (Handles clock) devicesReconcile w (.ok pauses) w') :
    ∃ list, S list ∧ Recovered clock pauses list w' := by
  obtain ⟨list, hreconciled⟩ := (ends_devicesReconcile hw).runs h
  exact ⟨list, hw.chosen hreconciled.chosen, hreconciled.settled, hreconciled.active,
    hreconciled.table⟩

theorem device_pauses_transactional {files : World} {steps : List PauseStep} {site : Site}
    {clock times : Set Int} (hrun : Path (Takes clock) ⟨files.restart, none⟩ steps site) :
    (∀ value seconds resume next w',
      Runs (Handles times) (deviceChange value seconds resume) site.world (.ok next) w' →
        Agree times next w') ∧
    (∀ value seconds resume message w', Runs (Handles times) (deviceChange value seconds resume)
      site.world (.error (.action actionFailed message)) w' →
        ∃ list, ∃ t ∈ times, site.world.chosen = some list ∧ Agree times (activePauses list t) w') ∧
    (∀ past e rest, steps = past ++ e :: rest → e.label.marks = true →
      (∀ f ∈ rest, f.label.marks = false) → ∀ pauses w',
        Runs (Handles times) devicesReconcile site.world (.ok pauses) w' →
          ∃ list, Leaves clock e list ∧ Recovered times pauses list w') ∧
    ((∀ f ∈ steps, f.label.marks = false) → ∀ pauses w',
      Runs (Handles times) devicesReconcile site.world (.ok pauses) w' →
        ∃ list, Holds files list ∧ Recovered times pauses list w') := by
  have hwithin := (TurnInvariant.run hrun).within
  refine ⟨fun value seconds resume next w' h => ?_, fun value seconds resume message w' h => ?_,
    fun past e rest hsteps he hrest pauses w' h => ?_, fun hnone pauses w' h => ?_⟩
  · rcases transitioned_of_deviceChange hwithin h with ⟨_, _, hr, -⟩ | ⟨_, _, _, _, -, rfl, hagree⟩
    · cases hr
    · exact hagree
  · rcases transitioned_of_deviceChange hwithin h with ⟨_, _, hr, hcode⟩ |
      ⟨list, t, ht, _, hchosen, ⟨_, hr⟩ | ⟨-, hagree⟩⟩
    · cases hr
      exact absurd rfl hcode
    · exact absurd (ActionFailure.action.inj hr).1 (by decide)
    · exact ⟨list, t, ht, hchosen, hagree⟩
  · rw [hsteps, kept_of_marks he hrest] at hwithin
    exact recovered_of_devicesReconcile hwithin h
  · rw [kept_of_not_marks hnone] at hwithin
    exact recovered_of_devicesReconcile hwithin h

def answers (now : Int) (refuses : Batch → Bool) (w : World) : (q : Query) → q.Answer × World
  | .now => (now, w)
  | .lastGood => (.ok (defaultConfig Time.zero), w)
  | .readPending => (.ok w.pending, w)
  | .readState => (.ok w.state, w)
  | .persist record => (.ok (), w.put record)
  | .clearPending => (.ok (), w.clear)
  | .tableExists => (.ok w.table.isSome, w)
  | .writeBatch _ => (.ok (), w)
  | .checkBatch _ => (.ok (), w)
  | .loadBatch batch => if refuses batch then (.error "exit status 1", w) else (.ok (), w.load batch)
  | .removeBatch => ((), w)
  | .uncertain => (w.uncertain, w)
  | .setUncertain record => ((), { w with uncertain := record })

theorem handles_answers (now : Int) (refuses : Batch → Bool) (w : World) (q : Query) :
    Handles {now} w q (answers now refuses w q).1 (answers now refuses w q).2 := by
  cases q with
  | readPending | readState | tableExists =>
    refine ⟨rfl, fun _ h => ?_⟩
    cases h
    rfl
  | persist | clearPending => exact .inl rfl
  | loadBatch batch =>
    cases hr : refuses batch with
    | true =>
      simp only [answers, hr]
      exact .inr ⟨⟨_, rfl⟩, rfl⟩
    | false =>
      simp only [answers, hr]
      exact .inl rfl
  | now | uncertain => exact ⟨rfl, rfl⟩
  | _ => rfl

def ranOut : World where
  state := some (.record { pauses := [⟨"192.168.1.20", 100⟩] })

theorem undone_pause_drops_expired :
    ∃ message w', Runs (Handles {200}) (deviceChange "192.168.1.21" 0 false) ranOut
      (.error (.action actionFailed message)) w' ∧
        ranOut.durable = some [⟨"192.168.1.20", 100⟩] ∧ w'.durable = some [] ∧
        w'.table = some [] := by
  have hrun := runs_exec (handles_answers 200 fun batch => !batch.elements.isEmpty)
    (deviceChange "192.168.1.21" 0 false) ranOut
  have hexec : (deviceChange "192.168.1.21" 0 false).exec
      (answers 200 fun batch => !batch.elements.isEmpty) ranOut =
        (.error (.action actionFailed "device pause action failed; previous pause state restored"),
          { state := some (.record { pauses := [] }), table := some [] }) := by
    decide +kernel
  rw [hexec] at hrun
  exact ⟨_, _, hrun, rfl, rfl, rfl⟩

theorem pause_after_status : Agree {200} [⟨"192.168.1.21", 0⟩]
      { state := some (.record { pauses := [⟨"192.168.1.21", 0⟩] }),
        table := some [⟨"192.168.1.21", none⟩] } := by
  have hstatus := runs_exec (handles_answers 200 fun _ => false) devicesReconcile {}
  have hempty : devicesReconcile.exec (answers 200 fun _ => false) {} =
      (.ok [], { table := some [] }) := by
    decide +kernel
  rw [hempty] at hstatus
  have hpause := runs_exec (handles_answers 200 fun _ => false)
    (deviceChange "192.168.1.21" 0 false) { table := some [] }
  have hpaused : (deviceChange "192.168.1.21" 0 false).exec (answers 200 fun _ => false)
      { table := some [] } = (.ok [⟨"192.168.1.21", 0⟩],
        { state := some (.record { pauses := [⟨"192.168.1.21", 0⟩] }),
          table := some [⟨"192.168.1.21", none⟩] }) := by
    decide +kernel
  rw [hpaused] at hpause
  have hpath : Path (Takes {200}) ⟨World.restart {}, none⟩ _ ⟨{ table := some [] }, some []⟩ :=
    .single (.reconcile hstatus)
  exact (device_pauses_transactional hpath).1 _ _ _ _ _ hpause

inductive Asks (clock : Set Int) : World → World → Prop
  | status (h : Runs (Handles clock) devicesReconcile w r w') : Asks clock w w'
  | crash (h : Cut (Handles clock) Interrupts devicesReconcile w w') : Asks clock w w'.restart

theorem within_asks (hw : Within S w) (h : Relation.ReflTransGen (Asks clock) w w') : Within S w' := by
  induction h with
  | refl => exact hw
  | tail _ hask ih =>
    cases hask with
    | status hrun => exact (ends_devicesReconcile ih).cut hrun.cut
    | crash hcut => exact ((ends_devicesReconcile ih).cut hcut).forget

/-- However often the helper fails or crashes after a change that it has answered with a list, the
first status that it answers is that list. -/
theorem change_survives (files : World) (h : Relation.ReflTransGen (Acts clock) files.restart w)
    (hchange : Runs (Handles clock) (deviceChange value seconds resume) w (.ok next) u)
    (hasks : Relation.ReflTransGen (Asks clock) u v)
    (hstatus : Runs (Handles times) devicesReconcile v (.ok pauses) v') :
    Recovered times pauses next v' := by
  obtain ⟨_, l, hpath⟩ := exists_turns h
  have hwithin := (TurnInvariant.run hpath).within
  rcases transitioned_of_deviceChange hwithin hchange with ⟨_, _, hr, -⟩ |
    ⟨_, _, _, _, -, rfl, hsettled, -⟩
  · cases hr
  obtain ⟨_, rfl, hrecovered⟩ :=
    recovered_of_devicesReconcile (within_asks hsettled.within hasks) hstatus
  exact hrecovered

theorem runs_of_exec (h : p.exec (answers 200 fun _ => false) w = (r, w')) :
    Runs (Handles {200}) p w r w' := by
  have hrun := runs_exec (handles_answers 200 fun _ => false) p w
  rwa [h] at hrun

def held : World where
  state := some (.record { pauses := [⟨"192.168.1.21", 0⟩] })
  table := some [⟨"192.168.1.21", none⟩]

theorem pause_survives : Recovered {200} [⟨"192.168.1.21", 0⟩] [⟨"192.168.1.21", 0⟩] held := by
  have hchange : Runs (Handles {200}) (deviceChange "192.168.1.21" 0 false) {}
      (.ok [⟨"192.168.1.21", 0⟩]) held := runs_of_exec (by decide +kernel)
  exact change_survives {} .refl hchange (.single (.crash .here)) (runs_of_exec (by decide +kernel))

end MinimalRouter.Applyd.Pauses
