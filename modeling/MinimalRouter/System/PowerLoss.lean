import MinimalRouter.Applyd.Agreement
import MinimalRouter.System.Commit

namespace MinimalRouter.System

open Goish Config Apply Applyd Lib Lib.Prog

variable {F : Type} [DecidableEq F]

section Install

variable (a : Appliance F)

/-- The files of the helper agree on a configuration, and so do the installed artifacts. -/
structure Installed (d : Disk F) (cfg : SystemConfig) : Prop where
  holds : Holds d cfg
  artifacts : ∃ bcrypt generated, generateArtifacts a.services cfg bcrypt = .ok generated ∧
    ∀ n, d.artifacts n = some (generated n)

variable {a} {env : HelperEnv} {req : ApplyRequest} {h : Helper F} {hash : F}

theorem installed_of_executed (hran : Executed a env req h ran) (hop : req.op = .reconcile)
    (hcommits : commits req = true) (hr : ran.response.verifiedSuccess = true) :
    Installed a (h.disk.applyAll ran.effects) req.config := by
  refine ⟨hran.holds hcommits hr, ?_⟩
  cases hran with
  | confirmed hconfirm => rw [hop] at hconfirm; cases hconfirm
  | committed hcommit => rw [hop] at hcommit; cases hcommit
  | applied hconfirm hcommit hran =>
    obtain ⟨prep, _, hprep, hactive, heffects, htail, -⟩ := hran.activated hr
    refine ⟨env.apply.bcrypt, prep.generated, hprep.generated, fun n => ?_⟩
    rw [heffects]
    exact artifacts_of_activation hprep hactive htail h.disk n

omit [DecidableEq F] in
theorem installed_of_closed {ran : Ran F} {record : TransactionRecord F}
    {written : List (Effect F)} {cfg : SystemConfig}
    (hclosed : Closed env req hash ran.response record written)
    (hinstalled : Installed a ((intended env h req hash).disk.applyAll ran.effects) cfg) :
    Installed a (h.disk.applyAll
      (.journal (intentRecord env req hash) :: .operation req :: (ran.effects ++ written))) cfg := by
  refine ⟨hclosed.holds hinstalled.holds, ?_⟩
  obtain ⟨bcrypt, generated, hgenerated, hfiles⟩ := hinstalled.artifacts
  refine ⟨bcrypt, generated, hgenerated, fun n => ?_⟩
  rw [Disk.applyAll_cons, Disk.applyAll_cons, Disk.applyAll_append, ← hfiles n]
  cases hclosed with
  | saved => rfl
  | unsaved hwritten => rcases hwritten with rfl | ⟨rfl, -⟩ <;> rfl

end Install

section Retry

variable (a : Appliance F) (req : ApplyRequest)

/-- How far a request has come that may have been sent before: nowhere, to a recorded end, or to an
intent that is only on file. -/
inductive Tried (h : Helper F) : Prop
  | fresh (hmemory : h.memory = none) (hfile : ∀ r, h.disk.lastTransaction = some r → r.id ≠ req.id)
  | ran (hmemory : h.memory = some r) (hid : r.id = req.id)
      (hhash : a.digest.hashRequest req = some r.configHash)
      (hdone : r.replay.verifiedSuccess = true → Installed a h.disk req.config)
  | intended (hmemory : h.memory = none) (hfile : h.disk.lastTransaction = some r)
      (hid : r.id = req.id) (hhash : a.digest.hashRequest req = some r.configHash)
      (hopen : r.replay.verifiedSuccess = false)

variable {a req} {h : Helper F} {hash : F} (env : HelperEnv)

theorem consultJournal_of_fresh (hop : req.op = .reconcile) (hmemory : h.memory = none)
    (hfile : ∀ r, h.disk.lastTransaction = some r → r.id ≠ req.id) (hash : F) :
    consultJournal env req h hash = none := by
  simp only [consultJournal, hmemory, Option.none_or]
  cases hload : loadLastTransaction env.journalRead h.disk with
  | notFound => rfl
  | unreadable => simp [replayTransactionResponse, hop]
  | found r =>
    have hid := hfile r (loadLastTransaction_found hload)
    simp [replayTransactionResponse, hop, hid]

omit [DecidableEq F] in
theorem replay_of_closed {env : HelperEnv} {response : ApplyResponse}
    {record : TransactionRecord F} {written : List (Effect F)}
    (hclosed : Closed env req hash response record written) : record.replay = record.response := by
  have hdone : env.completedAt.now.isZero = false := Reading.isZero_now _
  cases hclosed <;> simp [TransactionRecord.replay, outcomeRecord, hdone]

theorem tried_processRequest (hop : req.op = .reconcile) (hcommits : commits req = true)
    (htried : Tried a req h) : Tried a req (processRequest a env h (.request req)).helper ∧
      ((processRequest a env h (.request req)).response.verifiedSuccess = true →
        Installed a (processRequest a env h (.request req)).helper.disk req.config) := by
  have hhandled := handled_processRequest a env h (.request req)
  generalize processRequest a env h (.request req) = p at hhandled ⊢
  cases hhandled with
  | unread hunread =>
    refine ⟨htried, fun hr => absurd hr ?_⟩
    simp [hunread req rfl (commits_transactional hcommits)]
  | @replayed _ hash response hhash hreplay =>
    refine ⟨htried, fun hr => ?_⟩
    cases htried with
    | fresh hmemory hfile =>
      rw [consultJournal_of_fresh env hop hmemory hfile hash] at hreplay
      cases hreplay
    | ran hmemory hid hhash' hdone =>
      cases hhash.symm.trans hhash'
      rw [consultJournal_of_memory hmemory ⟨hid, rfl⟩] at hreplay
      cases hreplay
      exact hdone hr
    | intended hmemory hfile hid hhash' hopen =>
      cases hhash.symm.trans hhash'
      rcases loadLastTransaction_some env.journalRead hfile with hload | ⟨e, hload⟩
      · rw [consultJournal_of_file hmemory hload ⟨hid, rfl⟩] at hreplay
        cases hreplay
        exact absurd hr (by simp [hopen])
      · simp [consultJournal, hmemory, hload, replayTransactionResponse, hop] at hreplay
  | @unrecorded _ hash message written hhash hfresh hwritten =>
    refine ⟨?_, fun hr => absurd hr Bool.false_ne_true⟩
    have hmemory : h.memory = none := by
      cases htried with
      | fresh hmemory | intended hmemory => exact hmemory
      | ran hmemory hid hhash' =>
        cases hhash.symm.trans hhash'
        rw [consultJournal_of_memory hmemory ⟨hid, rfl⟩] at hfresh
        cases hfresh
    rcases hwritten with rfl | ⟨rfl, -⟩
    · exact htried
    · exact .intended hmemory rfl rfl hhash rfl
  | @ran _ hash ran record written hoperation hhash hfresh hran hclosed hexact =>
    have hdone : record.response.verifiedSuccess = true → Installed a (h.disk.applyAll
        (.journal (intentRecord env req hash) :: .operation req :: (ran.effects ++ written)))
        req.config := by
      intro hr
      cases hclosed with
      | saved => exact installed_of_closed .saved (installed_of_executed hran hop hcommits hr)
      | unsaved => cases hr
    obtain ⟨hof, -, -⟩ := hclosed.of
    refine ⟨.ran rfl hof.id (by rw [hof.configHash]; exact hhash) ?_, hdone⟩
    rw [replay_of_closed hclosed]
    exact hdone

end Retry

section Boot

variable (a : Appliance F) (p : Plane)

/-- The surroundings of the engine at boot. The clock, which names the reconciliation, does not show
the time that is in the name of the last recorded transaction. -/
def booting (rules : Rules) : Handler Query Query.Answer (Backend F)
  | s, .now, now, s' =>
    s' = s ∧ ∀ r, s.helper.disk.lastTransaction = some r → r.id ≠ reconcileId now
  | s, q, r, s' => (steady a rules).handler s q r s'

/-- The boot sequence completes: the helper reconciles its files, the engine loads the newest stored
configuration and reconciles the helper with it. -/
inductive Boots (s : Backend F) (w : Site (Backend F)) : Prop
  | completed (env : StartupEnv) (hstarted : (reconcileStartup a env s.helper).result = .ok ())
      (hloaded : s.archive.store.getLatestConfig p.rules = .ok cfg)
      (hreconciled : Runs (booting a p.rules) (reconcile p { currentConfig := cfg })
        ⟨s.archive, (reconcileStartup a env s.helper).helper⟩ ⟨w.engine, none, .ok ()⟩ w.around)

variable {a p} {rules : Rules} {req : ApplyRequest} {s s' : Backend F} {w : Site (Backend F)}

theorem Contacted.tried (hcontact : Contacted a req h r h') (hop : (framed req).op = .reconcile)
    (hcommits : commits (framed req) = true) (htried : Tried a (framed req) h) :
    Tried a (framed req) h' ∧
      ∀ resp, r = .ok resp → resp.verifiedSuccess = true → Installed a h'.disk req.config := by
  cases hcontact with
  | unsent => exact ⟨htried, fun resp hr => by cases hr⟩
  | lost env => exact ⟨(tried_processRequest env hop hcommits htried).1, fun resp hr => by cases hr⟩
  | answered env =>
    obtain ⟨hnext, hinstalled⟩ := tried_processRequest env hop hcommits htried
    refine ⟨hnext, fun resp hr hverified => ?_⟩
    cases hr
    exact hinstalled hverified

theorem exchanged_tried (hx : Exchanged (steady a rules) req s r s')
    (hop : (framed req).op = .reconcile) (hcommits : commits (framed req) = true)
    (htried : Tried a (framed req) s.helper) :
    s'.archive = s.archive ∧ ∀ resp, r = .ok resp → resp.verifiedSuccess = true →
      Installed a s'.helper.disk req.config := by
  induction hx with
  | abandoned => exact ⟨rfl, fun resp hr => by cases hr⟩
  | answered hsend => exact ⟨hsend.1, (hsend.2.tried hop hcommits htried).2⟩
  | invalid hsend => exact ⟨hsend.1, fun resp hr => by cases hr⟩
  | lost hsend _ ih =>
    obtain ⟨hkept, hinstalled⟩ := ih (hsend.2.tried hop hcommits htried).1
    exact ⟨hkept.trans hsend.1, hinstalled⟩

theorem installed_of_reconciled {id : String} (h : Reconciled (steady a rules) p st id s c s')
    (hfree : st.pending = none) (hmemory : s.helper.memory = none)
    (hfile : ∀ r, s.helper.disk.lastTransaction = some r → r.id ≠ id) (hok : c.result = .ok ()) :
    s'.archive = s.archive ∧ c.engine.currentConfig = st.currentConfig ∧
      Installed a s'.helper.disk st.currentConfig := by
  cases h with
  | unbuilt | failed => cases hok
  | settled hreq hx hresp =>
    have hbuilt := built_of_build hreq
    have hcommits := commits_of_built hbuilt
    rw [← hbuilt.id] at hfile
    obtain ⟨harchive, hinstalled⟩ := exchanged_tried hx rfl hcommits (.fresh hmemory hfile)
    refine ⟨harchive, rfl, ?_⟩
    rw [← hbuilt.config]
    exact hinstalled _ rfl hresp
  | closed hreq hx hresp hpending => simp [hfree] at hpending

theorem handler_booting (s : Backend F) (q : Query) (r : q.Answer) (s' : Backend F)
    (h : booting a rules s q r s') : (steady a rules).handler s q r s' := by
  cases q with
  | now => exact h.1
  | _ => exact h

theorem installed_of_boots (h : Boots a p s w) : w.around.archive = s.archive ∧
      ∃ row, s.archive.store.latest = some row ∧
        w.engine.currentConfig = p.rules.migrateLegacyFields row ∧
        Installed a w.around.helper.disk w.engine.currentConfig := by
  obtain ⟨env, _, hloaded, hreconciled⟩ := h
  obtain ⟨row, hlatest, rfl⟩ := Store.getLatestConfig_eq_ok hloaded
  have hrebooted := rebooted_reconcileStartup a env s.helper
  cases hreconciled with
  | ask hnow hrest =>
    obtain ⟨rfl, hclock⟩ := hnow
    have hrest := hrest.map (f := id) handler_booting
    obtain ⟨harchive, hcurrent, hinstalled⟩ :=
      installed_of_reconciled (wp_sound (reconciled_reconcileAs _) hrest) rfl hrebooted.memory hclock
        rfl
    refine ⟨harchive, row, hlatest, hcurrent, ?_⟩
    rw [show w.engine.currentConfig = _ from hcurrent]
    exact hinstalled

end Boot

section Interrupt

variable (a : Appliance F)

/-- The power fails while the helper carries out a request: some of its writes are durable, and
nothing is left of the processes. -/
inductive Interrupted (s : Backend F) (req : ApplyRequest) : Backend F → Prop
  | during {started : Helper F} (hrestart : Restarts a s.helper started) (env : HelperEnv)
      (done : Nat) (left : Runtime) :
      Interrupted s req ⟨s.archive, started.disk.applyAll
        ((processRequest a env started (.request (framed req))).effects.take done), none, left⟩

/-- The questions in the middle of which the power can fail. A commit is atomic. -/
def interrupted (s : Backend F) (q : Query) (t : Backend F) : Prop :=
  match q with
  | .send req => Interrupted a s req t
  | _ => False

variable {a}

theorem interrupted_archive (s : Backend F) (q : Query) (t : Backend F)
    (h : interrupted a s q t) : t.archive = s.archive := by
  cases q with
  | send =>
    cases h with
    | during => rfl
  | _ => cases h

end Interrupt

section Change

def submits : Call → Bool
  | .processTransaction _ _ => true
  | .processInitialSetup _ _ => true
  | _ => false

/-- The calls that make one change: its submission, and then everything but another one. -/
def OneChange (base : SystemConfig) : List Call → Prop
  | [] => False
  | call :: others =>
    (∃ txId, call = .processTransaction txId base) ∧ ∀ c ∈ others, submits c = false

inductive Recorded (initial base : SystemConfig) (s : Archive) : Prop
  | unchanged (hsaved : s.saved = []) (hlatest : s.store.latest = some initial)
  | changed (hbase : BasedOn base cfg) (hsaved : s.saved = [cfg])
      (hlatest : s.store.latest = some cfg)

/-- What the engine holds of the change: a candidate as long as nothing is committed. -/
structure Changing (initial base : SystemConfig) (w : Site Archive) : Prop where
  recorded : Recorded initial base w.around
  candidate : ∀ pending, w.engine.pending = some pending → pending.canonicalCommitted = false →
    w.around.saved = [] ∧ BasedOn base pending.tx.config

variable {initial base cfg : SystemConfig} {s : Archive} {w w' : Site Archive}

theorem recorded_add (hsaved : s.saved = []) (hbase : BasedOn base cfg) :
    Recorded initial base (s.add cfg) :=
  .changed hbase (by rw [← hsaved]; rfl) rfl

theorem Changing.step (h : Changing initial base w)
    (hcall : ∀ txId newCfg, call = .processTransaction txId newCfg →
      newCfg = base ∧ w.around.saved = []) (hturn : CanonTurn w call tx w') :
    Changing initial base w' := by
  cases hturn with
  | kept hcurrent haround hpending =>
    refine ⟨haround ▸ h.recorded, ?_⟩
    rw [hpending, haround]
    exact h.candidate
  | opened hsubmit hbase hfree hcanon hcurrent haround hpending =>
    obtain ⟨rfl, hsaved⟩ := hcall _ _ hsubmit
    refine ⟨haround ▸ h.recorded, fun pending hafter _ => ?_⟩
    cases hpending.symm.trans hafter
    exact ⟨haround ▸ hsaved, hbase⟩
  | stored hsubmit hbase hfree hcurrent haround hrevision hpending =>
    obtain ⟨rfl, hsaved⟩ := hcall _ _ hsubmit
    refine ⟨haround ▸ recorded_add hsaved hbase, fun pending hafter => ?_⟩
    cases hpending.symm.trans hafter
  | carried hbefore hafter hid hconfig hopen hcanon hcurrent haround =>
    refine ⟨haround ▸ h.recorded, fun pending hpending hfalse => ?_⟩
    cases hafter.symm.trans hpending
    rw [haround, hconfig]
    exact h.candidate _ hbefore (hcanon ▸ hfalse)
  | promoted hbefore hcanon hcurrent haround hrevision hafter =>
    obtain ⟨hsaved, hbase⟩ := h.candidate _ hbefore hcanon
    refine ⟨haround ▸ recorded_add hsaved hbase, fun pending hpending hfalse => ?_⟩
    obtain ⟨-, -, htrue, -⟩ := hafter pending hpending
    rw [htrue] at hfalse
    cases hfalse
  | closed hbefore hafter hcurrent haround =>
    refine ⟨haround ▸ h.recorded, fun pending hpending => ?_⟩
    cases hafter.symm.trans hpending

theorem OneChange.at_split (h : OneChange base calls) (hsplit : calls = before ++ call :: after)
    (txId : String) (newCfg : SystemConfig) (hcall : call = .processTransaction txId newCfg) :
    newCfg = base ∧ before = [] := by
  subst hsplit hcall
  cases before with
  | nil =>
    obtain ⟨⟨_, hcall⟩, -⟩ := h
    cases hcall
    exact ⟨rfl, rfl⟩
  | cons =>
    have hother := h.2 (.processTransaction txId newCfg) (by simp)
    cases hother

theorem OneChange.not_initialSetup (h : OneChange base calls) (call : Call) (hcall : call ∈ calls) :
    call.isInitialSetup = false := by
  cases calls with
  | nil => cases hcall
  | cons =>
    rcases List.mem_cons.mp hcall with rfl | hcall
    · obtain ⟨⟨_, rfl⟩, -⟩ := h
      rfl
    · have hother := h.2 call hcall
      cases call <;> simp_all [submits, Call.isInitialSetup]

end Change

section Recovery

variable {a : Appliance F} {p : Plane} {base : SystemConfig} {w w₁ w' : Site (Backend F)}
  {steps : List (SystemStep F)} {call : Call} {s : Backend F}

theorem changing_of_path (hstore : p.hasStore = true)
    (hcalls : OneChange base (steps.map (·.label.call) ++ others))
    (h : Path (Turns (backend a p.rules) p) w steps w₁)
    (hlatest : w.around.archive.store.latest = some w.engine.currentConfig)
    (hsaved : w.around.archive.saved = []) (hfree : w.engine.pending = none) :
    Changing w.engine.currentConfig base (canon w₁) ∧
      (steps = [] → w₁.around.archive.saved = []) := by
  refine Path.invariant
    (I := fun past v => Changing w.engine.currentConfig base (canon v) ∧
      (past = [] → v.around.archive.saved = []))
    (K := fun past e => Path (Turns (backend a p.rules) p) w past e.before ∧
      (∀ m ∈ past, m.label.call.isInitialSetup = false) ∧
      e.label.call.isInitialSetup = false ∧ ∀ txId newCfg,
        e.label.call = .processTransaction txId newCfg → newCfg = base ∧ past = [])
    (fun past t turn u hI hK hturn => ?_) ?_ h fun past e rest hsplit => ?_
  · obtain ⟨hpast, hbefore, hcall, hsubmit⟩ := hK
    have hcanon := canonInvariant_of_path hstore hbefore hpast hlatest hsaved hfree
    refine ⟨hI.1.step (fun txId newCfg hcall => ?_)
      (canonTurn_of_turns hstore hcall hcanon.latest (turns_canon hturn)), by simp⟩
    obtain ⟨hbase, hnil⟩ := hsubmit txId newCfg hcall
    exact ⟨hbase, hI.2 hnil⟩
  · refine ⟨⟨.unchanged hsaved hlatest, fun pending hpending => ?_⟩, fun _ => hsaved⟩
    rw [show (canon w).engine.pending = none from hfree] at hpending
    cases hpending
  subst hsplit
  have hsteps : ∀ m ∈ past ++ e :: rest, m.label.call.isInitialSetup = false :=
    fun m hm => hcalls.not_initialSetup _ (List.mem_append_left _ (List.mem_map_of_mem hm))
  have hsplit : (past ++ e :: rest).map (·.label.call) ++ others =
      past.map (·.label.call) ++ e.label.call :: (rest.map (·.label.call) ++ others) := by
    simp
  refine ⟨(h.split rfl).1, fun m hm => hsteps m (by simp [hm]), hsteps e (by simp), ?_⟩
  intro txId newCfg hcall
  obtain ⟨hbase, hnil⟩ := hcalls.at_split hsplit txId newCfg hcall
  exact ⟨hbase, List.map_eq_nil_iff.mp hnil⟩

theorem recorded_of_cut (hstore : p.hasStore = true)
    (hcalls : OneChange base (steps.map (·.label.call) ++ [call]))
    (h : Path (Turns (backend a p.rules) p) w steps w₁)
    (hlatest : w.around.archive.store.latest = some w.engine.currentConfig)
    (hsaved : w.around.archive.saved = []) (hfree : w.engine.pending = none)
    (hcut : Cut (backend a p.rules).handler (interrupted a) (perform p w₁.engine call) w₁.around s) :
    Recorded w.engine.currentConfig base s.archive := by
  obtain ⟨hchanging, hfirst⟩ := changing_of_path hstore hcalls h hlatest hsaved hfree
  have hrecorded : Recorded w.engine.currentConfig base w₁.around.archive := hchanging.recorded
  cases call with
  | processTransaction txId newCfg =>
    obtain ⟨rfl, hnil⟩ := hcalls.at_split rfl txId newCfg rfl
    rcases archive_of_commitsOnce interrupted_archive commitsOnce_process hcut with
      hkept | ⟨cfg, hbase, hadded⟩
    · rw [hkept]
      exact hrecorded
    · rw [hadded]
      exact recorded_add (hfirst (List.map_eq_nil_iff.mp hnil)) hbase
  | processInitialSetup txId newCfg =>
    have hinitial := hcalls.not_initialSetup (.processInitialSetup txId newCfg) (by simp)
    cases hinitial
  | confirmTransaction =>
    rcases archive_of_commitsOnce interrupted_archive commitsOnce_confirmTransaction hcut with
      hkept | ⟨cfg, ⟨pending, hpending, -, hcanon, rfl⟩, hadded⟩
    · rw [hkept]
      exact hrecorded
    obtain ⟨hnone, hbase⟩ := hchanging.candidate pending hpending hcanon
    rw [hadded]
    exact recorded_add hnone hbase
  | rollbackExpired => exact archive_of_quiet interrupted_archive quiet_rollbackExpired hcut ▸ hrecorded
  | reconcile => exact archive_of_quiet interrupted_archive quiet_reconcile hcut ▸ hrecorded
  | withQosBypassed => exact archive_of_quiet interrupted_archive quiet_withQosBypassed hcut ▸ hrecorded

def powerOff (s : Backend F) (left : Runtime) : Backend F := ⟨s.archive, s.helper.disk, none, left⟩

theorem power_loss_recovers (hstore : p.hasStore = true)
    (hcalls : OneChange base (steps.map (·.label.call) ++ [call]))
    (h : Path (Turns (backend a p.rules) p) w steps w₁)
    (hlatest : w.around.archive.store.latest = some w.engine.currentConfig)
    (hsaved : w.around.archive.saved = []) (hfree : w.engine.pending = none)
    (hcut : Cut (backend a p.rules).handler (interrupted a) (perform p w₁.engine call) w₁.around s)
    (left : Runtime) : (∀ w', Boots a p (powerOff s left) w' → ∃ row,
      w'.around.archive.store.latest = some row ∧
      w'.engine.currentConfig = p.rules.migrateLegacyFields row ∧
      Installed a w'.around.helper.disk w'.engine.currentConfig ∧
      (s.archive.saved = [] ∧ row = w.engine.currentConfig ∨
        s.archive.saved = [row] ∧ BasedOn base row)) ∧ ∀ startup env req hash, req.op = .reconcile →
      (∀ r, s.helper.disk.lastTransaction = some r → r.id ≠ req.id) →
      consultJournal env req (reconcileStartup a startup (powerOff s left).helper).helper hash =
        none := by
  have hrecorded := recorded_of_cut hstore hcalls h hlatest hsaved hfree hcut
  refine ⟨fun w' hboot => ?_, fun startup env req hash hop hfile => ?_⟩
  · obtain ⟨harchive, row, hrow, hcurrent, hinstalled⟩ := installed_of_boots hboot
    refine ⟨row, by rw [harchive, hrow], hcurrent, hinstalled, ?_⟩
    cases hrecorded with
    | unchanged hsaved hlatest => exact .inl ⟨hsaved, Option.some.inj (hrow.symm.trans hlatest)⟩
    | changed hbase hsaved hlatest =>
      cases hrow.symm.trans hlatest
      exact .inr ⟨hsaved, hbase⟩
  have hrebooted := rebooted_reconcileStartup a startup (powerOff s left).helper
  refine consultJournal_of_fresh env hop hrebooted.memory ?_ hash
  rw [hrebooted.files.2.2]
  exact hfile

def bootAnswering (a : Appliance F) (rules : Rules) (s : Backend F) :
    (q : Query) → q.Answer × Backend F
  | .now =>
    let early : Reading := ⟨1000000000, 0, 0⟩
    (if s.helper.disk.lastTransaction.map (·.id) = some (reconcileId early) then
      ⟨2000000000, 0, 0⟩ else early, s)
  | q => answering a rules (fun _ => false) s q

theorem handler_bootAnswering (rules : Rules) (s : Backend F) (q : Query) :
    booting a rules s q (bootAnswering a rules s q).1 (bootAnswering a rules s q).2 := by
  have hanswer := handler_answering a rules (fun _ => false) s q
  cases q with
  | now =>
    refine ⟨rfl, fun r hr => ?_⟩
    simp only [bootAnswering, hr, Option.map_some, Option.some.injEq]
    split
    · next hid =>
      rw [hid]
      decide
    · next hid => exact hid
  | _ => exact hanswer

def renamed : SystemConfig := { firstRevision with system := { hostname := "gateway" } }

def renameCall : Call := .processTransaction "tx-1" renamed

def interruptedRename : Backend Json :=
  powerOff ((perform .plain newAppliance.engine renameCall).advance
    (answering .plain Plane.plain.rules fun _ => false) 8 newAppliance.around) fun _ => none

def recoveredRename : Site (Backend Json) :=
  let started := (reconcileStartup .plain {} interruptedRename.helper).helper
  let stored := interruptedRename.archive.store.latest.getD {}
  let run := (reconcile .plain { currentConfig := stored }).exec
    (bootAnswering .plain Plane.plain.rules) ⟨interruptedRename.archive, started⟩
  ⟨run.1.engine, run.2⟩

theorem boots_recoveredRename : Boots .plain .plain interruptedRename recoveredRename := by
  refine .completed {} (by rfl) (by rfl) ?_
  have hruns := runs_exec (handler_bootAnswering (a := .plain) Plane.plain.rules)
    (reconcile .plain { currentConfig := interruptedRename.archive.store.latest.getD {} })
    ⟨interruptedRename.archive, (reconcileStartup .plain {} interruptedRename.helper).helper⟩
  exact hruns

theorem power_loss_recovers_at_rename : interruptedRename.archive.saved.map (·.revision) = [2] ∧
      interruptedRename.helper.disk.lastGood.map (·.revision) = some 1 ∧
      ∃ row, recoveredRename.around.archive.store.latest = some row ∧ row.revision = 2 ∧
        Installed .plain recoveredRename.around.helper.disk recoveredRename.engine.currentConfig := by
  have hanswer : ∀ s q, (backend .plain Plane.plain.rules).handler s q _ _ :=
    fun s q => handler_steady s q _ _
      (handler_answering .plain Plane.plain.rules (fun _ => false) s q)
  have hcut := cut_advance (K := interrupted .plain) hanswer 8
    (perform .plain newAppliance.engine renameCall) newAppliance.around
  have hcalls : OneChange renamed (([] : List (SystemStep Json)).map (·.label.call) ++ [renameCall]) :=
    ⟨⟨"tx-1", rfl⟩, by simp⟩
  have hrecovers := power_loss_recovers rfl hcalls .nil rfl rfl rfl hcut fun _ => none
  obtain ⟨row, hlatest, -, hinstalled, -⟩ := hrecovers.1 _ boots_recoveredRename
  have hrevision : recoveredRename.around.archive.store.latest.map (·.revision) = some 2 := by
    decide +kernel
  rw [hlatest] at hrevision
  exact ⟨by decide +kernel, by decide +kernel, row, hlatest, Option.some.inj hrevision, hinstalled⟩

end Recovery

end MinimalRouter.System
