import MinimalRouter.Lib.Interaction
import MinimalRouter.Lib.Utf8

namespace MinimalRouter.Firmware

open Lib Lib.Utf8 Prog

structure SlotState where
  (current previous pending minimumVersion : String := "")
  installationPending : Bool := false
  deriving DecidableEq

/-- The result of an external command.  A status without a code is a death by signal. -/
structure Output where
  (stdout stderr : List UInt8 := [])
  status : Option (Option Int) := some (some 0)
  timedOut : Bool := false
  spawnError : Option String := none
  deriving DecidableEq

namespace Output

def combined (o : Output) : List UInt8 := o.stdout ++ o.stderr

def error (o : Output) : Option String :=
  match o.spawnError with
  | some err => some err
  | none =>
    if o.timedOut then some "signal: killed"
    else
      match o.status with
      | some (some code) => if code = 0 then none else some s!"exit status {code}"
      | some none => some "signal: killed"
      | none => some "process did not start"

def succeeded (o : Output) : Bool := !o.timedOut && o.error.isNone

def text (o : Output) : List Char := trim (fromUtf8Lossy o.combined)

def printable (o : Output) : Bool :=
  o.timedOut || decide (byteLen o.text ≤ 300) || isCharBoundary 300 o.text

end Output

inductive Query
  | slotState
  | verifyLayout : String → Query
  | dispatcherLinks
  | activate : String → Query
  | rollback
  | service : List String → Query

abbrev Query.Answer : Query → Type
  | slotState => Except String SlotState
  | service _ => Output
  | _ => Except String Unit

abbrev UpdateProg := Prog Query Query.Answer

/-- No value stands for a panic. -/
abbrev Ended := Option (Except String Unit)

def durationString (seconds : Nat) : String :=
  let minutes := seconds / 60
  if minutes = 0 then s!"{seconds}s" else s!"{minutes}m{seconds % 60}s"

def serviceTimeout : List String → Nat
  | [_, "stop"] => 30
  | [_, "status"] => 30
  | _ => 330

def serviceCommand (args : List String) (output : Output) : Ended :=
  let command := "rc-service " ++ " ".intercalate args
  if output.timedOut then
    some (.error (command ++ " timed out after " ++ durationString (serviceTimeout args)))
  else
    match output.error with
    | none => some (.ok ())
    | some err =>
      match truncate 300 output.text with
      | none => none
      | some [] => some (.error (command ++ ": " ++ err))
      | some text => some (.error (command ++ ": " ++ err ++ ": " ++ String.ofList text))

def serviceCommands : List (List String) → UpdateProg Ended
  | [] => .ret (some (.ok ()))
  | args :: rest => .ask (.service args) fun output =>
    match serviceCommand args output with
    | some (.ok _) => serviceCommands rest
    | ended => .ret ended

def runtimePair : List (List String) :=
  [["routerd", "stop"], ["router-applyd", "restart"], ["routerd", "start"],
    ["router-applyd", "status"], ["routerd", "status"]]

def restartRuntimePair : UpdateProg Ended := serviceCommands runtimePair

def afterRollback (activation : String) : Ended → Ended
  | none => none
  | some (.ok _) => some (.error
      ("new slot failed to start and was automatically rolled back: " ++ activation))
  | some (.error rollback) => some (.error ("new slot failed to start: " ++ activation ++
      "\nautomatic rollback failed: " ++ rollback))

def rollBackAndRestart (activation : String) : UpdateProg Ended :=
  .ask .rollback fun
    | .error rollback => .ret (afterRollback activation (some (.error rollback)))
    | .ok _ => restartRuntimePair.bind fun ended => .ret (afterRollback activation ended)

def activateAndRestart (version : String) : UpdateProg Ended :=
  .ask .slotState fun
    | .error e => .ret (some (.error ("read update state: " ++ e)))
    | .ok state =>
      if state.current.isEmpty then
        .ret (some (.error ("no rollback baseline slot is registered; rerun the full " ++
          "distribution installer before the first A/B activation")))
      else .ask (.verifyLayout version) fun
        | .error e => .ret (some (.error e))
        | .ok _ => .ask (.verifyLayout state.current) fun
          | .error e => .ret (some (.error ("rollback baseline is incompatible: " ++ e)))
          | .ok _ => .ask .dispatcherLinks fun
            | .error e => .ret (some (.error e))
            | .ok _ => .ask (.activate version) fun
              | .error e => .ret (some (.error e))
              | .ok _ => restartRuntimePair.bind fun
                | none => .ret none
                | some (.ok _) => .ret (some (.ok ()))
                | some (.error activation) => rollBackAndRestart activation

abbrev Trace := List (Σ q : Query, q.Answer)

namespace Trace

def outputs : Trace → List (List String × Output)
  | [] => []
  | ⟨.service args, output⟩ :: t => (args, output) :: outputs t
  | ⟨.slotState, _⟩ :: t => outputs t
  | ⟨.verifyLayout _, _⟩ :: t => outputs t
  | ⟨.dispatcherLinks, _⟩ :: t => outputs t
  | ⟨.activate _, _⟩ :: t => outputs t
  | ⟨.rollback, _⟩ :: t => outputs t

def activated (t : Trace) : Prop := ∃ version, ⟨.activate version, .ok ()⟩ ∈ t

def rollbackCalled (t : Trace) : Prop := ∃ result, ⟨.rollback, result⟩ ∈ t

def firstFailure (t : Trace) : Option (List String × Output) :=
  (outputs t).find? fun e => !e.2.succeeded

def ofOutputs (os : List (List String × Output)) : Trace :=
  os.map fun e => ⟨.service e.1, e.2⟩

@[simp] theorem outputs_append (t u : Trace) : outputs (t ++ u) = outputs t ++ outputs u := by
  induction t with
  | nil => rfl
  | cons e t ih =>
    obtain ⟨q, r⟩ := e
    cases q <;> simp [outputs, ih]

@[simp] theorem outputs_ofOutputs (os : List (List String × Output)) :
    outputs (ofOutputs os) = os := by
  induction os with
  | nil => rfl
  | cons e os ih => simpa [ofOutputs, outputs] using ih

end Trace

open Trace

theorem serviceCommand_eq_ok : serviceCommand args o = some (.ok ()) ↔ o.succeeded = true := by
  unfold serviceCommand Output.succeeded
  cases ht : o.timedOut with
  | true => simp
  | false =>
    cases he : o.error with
    | none => simp
    | some =>
      cases truncate 300 o.text with
      | none => simp
      | some text => cases text <;> simp

theorem serviceCommand_eq_none :
    serviceCommand args o = none ↔ o.succeeded = false ∧ o.printable = false := by
  unfold serviceCommand Output.succeeded Output.printable
  cases ht : o.timedOut with
  | true => simp
  | false =>
  cases he : o.error with
  | none => simp
  | some =>
    have hpanic := @truncate_eq_none 300 o.text
    cases hcut : truncate 300 o.text with
    | none =>
      obtain ⟨hlen, hb⟩ := hpanic.mp hcut
      simp [hb, hlen]
    | some text =>
      have hfits : 300 < byteLen o.text → isCharBoundary 300 o.text = true := by
        intro hlen
        by_contra hb
        simp [hpanic.mpr ⟨hlen, by simpa using hb⟩] at hcut
      cases text <;> simpa using hfits

structure Served (commands : List (List String)) (ended : Ended)
    (os : List (List String × Output)) : Prop where
  complete : ended = some (.ok ()) →
    os.map Prod.fst = commands ∧ ∀ e ∈ os, e.2.succeeded = true
  failure : ended ≠ some (.ok ()) →
    ∃ e, os.find? (fun e => !e.2.succeeded) = some e ∧ (ended = none ↔ e.2.printable = false)

theorem serviceCommands_stop {ended : Ended} (rest : List (List String))
    (hne : ended ≠ some (.ok ())) :
    (match ended with
      | some (.ok _) => serviceCommands rest
      | ended => .ret ended) = .ret ended := by
  split
  · exact absurd rfl hne
  · rfl

theorem serviceCommands_wp (commands : List (List String)) (log : Trace) :
    (serviceCommands commands).wp (record Query Query.Answer)
      (fun ended t => ∃ os, t = log ++ ofOutputs os ∧ Served commands ended os) log := by
  induction commands generalizing log with
  | nil => exact ⟨[], by simp [ofOutputs], ⟨by simp, by simp⟩⟩
  | cons args rest ih =>
  rw [serviceCommands, wp_record_ask]
  intro output
  by_cases hok : serviceCommand args output = some (.ok ())
  · have hs := serviceCommand_eq_ok.mp hok
    simp only [hok]
    refine wp_mono (ih _) ?_
    rintro ended t ⟨os, rfl, hos⟩
    refine ⟨(args, output) :: os, by simp [ofOutputs], ⟨fun he => ?_, fun he => ?_⟩⟩
    · obtain ⟨hcommands, hall⟩ := hos.complete he
      exact ⟨by simp [hcommands], by simpa [hs] using hall⟩
    · obtain ⟨e, hfind, hpanic⟩ := hos.failure he
      exact ⟨e, by simpa [hs] using hfind, hpanic⟩
  have hs : output.succeeded = false := by
    rw [← Bool.not_eq_true, ← @serviceCommand_eq_ok args]
    exact hok
  rw [serviceCommands_stop rest hok]
  refine ⟨[(args, output)], by simp [ofOutputs], ⟨fun he => absurd he hok, fun _ => ?_⟩⟩
  refine ⟨(args, output), by simp [hs], ?_⟩
  simp [serviceCommand_eq_none, hs]

def allServicesSucceeded (t : Trace) : Prop :=
  (outputs t).map Prod.fst = runtimePair ∧ ∀ e ∈ outputs t, e.2.succeeded = true

/-- The update ended well, or the rollback of the slot pointers was started. -/
def rolledBackOrServed (ended : Ended) (t : Trace) : Prop :=
  (ended = some (.ok ()) ∧ allServicesSucceeded t) ∨ rollbackCalled t

theorem rolledBackOrServed_of_served (hlog : outputs log = [])
    (hos : Served runtimePair (some (.ok ())) os) :
    rolledBackOrServed (some (.ok ())) (log ++ ofOutputs os) ∧
      firstFailure (log ++ ofOutputs os) = none := by
  obtain ⟨hcommands, hall⟩ := hos.complete rfl
  refine ⟨.inl ⟨rfl, ?_, ?_⟩, ?_⟩
  · simpa [hlog] using hcommands
  · simpa [hlog] using hall
  · simpa [firstFailure, hlog] using hall

theorem rollBackAndRestart_wp (activation : String) (log : Trace) :
    (rollBackAndRestart activation).wp (record Query Query.Answer)
      (fun _ t => rollbackCalled t ∧ ∃ u, t = log ++ u) log := by
  rw [rollBackAndRestart, wp_record_ask]
  intro result
  have hcalled : ∀ u, rollbackCalled (log ++ [⟨.rollback, result⟩] ++ u) := fun u =>
    ⟨result, by simp⟩
  cases result with
  | error => exact ⟨by simpa using hcalled [], _, rfl⟩
  | ok _ =>
    simp only [wp_bind]
    refine wp_mono (serviceCommands_wp runtimePair _) ?_
    rintro _ t ⟨_, rfl, -⟩
    exact ⟨hcalled _, _, List.append_assoc _ _ _⟩

/-- From the switch of the slot pointers on, the run is a success or starts the rollback unless
the first failing service command prints a text that cannot be cut. -/
theorem restart_after_activation_wp {log : Trace} (hlog : outputs log = []) (hnot : ¬ rollbackCalled log) :
    (restartRuntimePair.bind fun
      | none => .ret none
      | some (.ok _) => .ret (some (.ok ()))
      | some (.error activation) => rollBackAndRestart activation).wp
      (record Query Query.Answer)
      (fun ended t => rolledBackOrServed ended t ↔
        ∀ e, firstFailure t = some e → e.2.printable = true) log := by
  rw [wp_bind]
  refine wp_mono (serviceCommands_wp runtimePair log) ?_
  rintro ended t ⟨os, rfl, hos⟩
  cases ended with
  | none =>
    obtain ⟨e, hfind, hpanic⟩ := hos.failure (by simp)
    have hfirst : firstFailure (log ++ ofOutputs os) = some e := by
      simpa [firstFailure, hlog] using hfind
    have hp := hpanic.mp rfl
    constructor
    · rintro (⟨h, -⟩ | h)
      · cases h
      refine absurd h ?_
      rintro ⟨result, hmem⟩
      rcases List.mem_append.mp hmem with hmem | hmem
      · exact hnot ⟨result, hmem⟩
      · simp [ofOutputs] at hmem
    · intro h
      simp [h e hfirst] at hp
  | some result =>
  cases result with
  | ok =>
    obtain ⟨hserved, hfirst⟩ := rolledBackOrServed_of_served hlog hos
    simp [hserved, hfirst]
  | error activation =>
    obtain ⟨e, hfind, hpanic⟩ := hos.failure (by simp)
    refine wp_mono (rollBackAndRestart_wp activation _) ?_
    rintro ended t ⟨hcalled, u, rfl⟩
    have hfirst : firstFailure (log ++ ofOutputs os ++ u) = some e := by
      simp [firstFailure, hlog, List.find?_append, hfind]
    have hp : e.2.printable = true := by
      rw [← Bool.not_eq_false, ← hpanic]
      simp
    refine ⟨fun _ e' he' => ?_, fun _ => .inr hcalled⟩
    rw [hfirst] at he'
    cases he'
    exact hp

theorem activateAndRestart_wp (version : String) :
    (activateAndRestart version).wp (record Query Query.Answer)
      (fun ended t => activated t → (rolledBackOrServed ended t ↔
        ∀ e, firstFailure t = some e → e.2.printable = true)) [] := by
  rw [activateAndRestart, wp_record_ask]
  rintro (e | state)
  · simp [activated]
  by_cases hcurrent : state.current.isEmpty = true
  · simp [hcurrent, activated]
  simp only [hcurrent]
  rw [if_neg (by simp), wp_record_ask]
  rintro (e | _)
  · simp [activated]
  rw [wp_record_ask]
  rintro (e | _)
  · simp [activated]
  rw [wp_record_ask]
  rintro (e | _)
  · simp [activated]
  rw [wp_record_ask]
  rintro (e | _)
  · simp [activated]
  refine wp_mono (restart_after_activation_wp rfl ?_) fun _ _ h _ => h
  simp [rollbackCalled]

theorem activateAndRestart_served_or_rolledBack_iff (version : String) (ended : Ended) (t : Trace)
    (hrun : Prog.Runs (record Query Query.Answer) (activateAndRestart version) [] ended t)
    (hactivated : activated t) :
    rolledBackOrServed ended t ↔ ∀ e, firstFailure t = some e → e.2.printable = true :=
  wp_sound (activateAndRestart_wp version) hrun hactivated

def updateAnswers (output : Output) : (q : Query) → q.Answer
  | .slotState => .ok { current := "v1.0.0" }
  | .verifyLayout _ => .ok ()
  | .dispatcherLinks => .ok ()
  | .activate _ => .ok ()
  | .rollback => .ok ()
  | .service _ => output

def wideOutput : Output :=
  { stdout := List.replicate 299 0x41 ++ [0xC3, 0xA9], status := some (some 1) }

def updateRun (output : Output) : Ended × Trace :=
  (activateAndRestart "v1.1.0").exec (recorded (updateAnswers output)) []

theorem updateRun_runs (output : Output) :
    Prog.Runs (record Query Query.Answer) (activateAndRestart "v1.1.0") []
      (updateRun output).1 (updateRun output).2 :=
  runs_exec (fun _ _ => rfl) _ _

def activationTrace : Trace :=
  [⟨.slotState, .ok { current := "v1.0.0" }⟩, ⟨.verifyLayout "v1.1.0", .ok ()⟩,
    ⟨.verifyLayout "v1.0.0", .ok ()⟩, ⟨.dispatcherLinks, .ok ()⟩, ⟨.activate "v1.1.0", .ok ()⟩]

def restartTrace (output : Output) : Trace := [⟨.service ["routerd", "stop"], output⟩]

theorem exec_restartRuntimePair (log : Trace)
    (h : serviceCommand ["routerd", "stop"] output = ended) (hne : ended ≠ some (.ok ())) :
    restartRuntimePair.exec (recorded (updateAnswers output)) log =
      (ended, log ++ restartTrace output) := by
  subst h
  rw [restartRuntimePair, runtimePair, serviceCommands, exec]
  simp only [recorded, updateAnswers]
  rw [serviceCommands_stop _ hne]
  rfl

theorem updateRun_eq (output : Output) : updateRun output =
    (restartRuntimePair.bind fun
      | none => .ret none
      | some (.ok _) => .ret (some (.ok ()))
      | some (.error activation) => rollBackAndRestart activation).exec
        (recorded (updateAnswers output)) activationTrace := rfl

theorem updateRun_of_panic (h : serviceCommand ["routerd", "stop"] output = none) :
    updateRun output = (none, activationTrace ++ restartTrace output) := by
  rw [updateRun_eq, exec_bind, exec_restartRuntimePair _ h (by simp)]
  rfl

theorem updateRun_of_error (h : serviceCommand ["routerd", "stop"] output = some (.error e)) :
    (updateRun output).2 = activationTrace ++ restartTrace output ++ [⟨.rollback, .ok ()⟩] ++
      restartTrace output := by
  rw [updateRun_eq, exec_bind, exec_restartRuntimePair _ h (by simp)]
  simp only [rollBackAndRestart, exec, recorded, updateAnswers]
  rw [exec_bind]
  exact congrArg Prod.snd (exec_restartRuntimePair _ h (by simp))

theorem serviceCommand_wideOutput : serviceCommand ["routerd", "stop"] wideOutput = none :=
  serviceCommand_eq_none.mpr ⟨by decide, by decide +kernel⟩

theorem activateAndRestart_panics_without_rollback :
    Prog.Runs (record Query Query.Answer) (activateAndRestart "v1.1.0") []
        (updateRun wideOutput).1 (updateRun wideOutput).2 ∧ activated (updateRun wideOutput).2 ∧
      ¬ rolledBackOrServed (updateRun wideOutput).1 (updateRun wideOutput).2 := by
  refine ⟨updateRun_runs wideOutput, ?_, ?_⟩
  · rw [updateRun_of_panic serviceCommand_wideOutput]
    exact ⟨"v1.1.0", by simp [activationTrace]⟩
  · rw [updateRun_of_panic serviceCommand_wideOutput]
    simp [rolledBackOrServed, rollbackCalled, activationTrace, restartTrace]

def silentOutput : Output := { status := some (some 1) }

theorem activateAndRestart_at_silentOutput : activated (updateRun silentOutput).2 ∧
      (rolledBackOrServed (updateRun silentOutput).1 (updateRun silentOutput).2 ↔
        ∀ e, firstFailure (updateRun silentOutput).2 = some e → e.2.printable = true) := by
  have herror : serviceCommand ["routerd", "stop"] silentOutput =
      some (.error "rc-service routerd stop: exit status 1") := by decide
  have hactivated : activated (updateRun silentOutput).2 := by
    rw [updateRun_of_error herror]
    exact ⟨"v1.1.0", by simp [activationTrace]⟩
  exact ⟨hactivated, activateAndRestart_served_or_rolledBack_iff "v1.1.0" _ _
    (updateRun_runs silentOutput) hactivated⟩

end MinimalRouter.Firmware
