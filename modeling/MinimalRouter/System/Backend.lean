import MinimalRouter.Apply.Canon
import MinimalRouter.Apply.Footprint
import MinimalRouter.Applyd.ConfirmGate

/-! The engine with the helper it drives: requests are executed in the order they are issued, their
answers may get lost, and the helper may restart between them. -/

namespace MinimalRouter.System

open Goish Config Apply Applyd Lib Lib.Prog

variable {F : Type} [DecidableEq F]

inductive Restarts (a : Appliance F) : Helper F → Helper F → Prop
  | none : Restarts a h h
  | reconciled (env : StartupEnv) (hrest : Restarts a (reconcileStartup a env h).helper h') :
      Restarts a h h'
  | respawned (hrest : Restarts a { h with memory := none } h') : Restarts a h h'

def framed (req : ApplyRequest) : ApplyRequest := { req with version := 1 }

inductive Contacted (a : Appliance F) (req : ApplyRequest) (h : Helper F) :
    Except String ApplyResponse → Helper F → Prop
  | unsent : Contacted a req h (.error e) h
  | lost (env : HelperEnv) :
      Contacted a req h (.error e) (processRequest a env h (.request (framed req))).helper
  | answered (env : HelperEnv)
      (hid : (processRequest a env h (.request (framed req))).response.id = req.id) :
      Contacted a req h (.ok (processRequest a env h (.request (framed req))).response)
        (processRequest a env h (.request (framed req))).helper

def Delivered (a : Appliance F) (req : ApplyRequest) (h : Helper F)
    (r : Except String ApplyResponse) (h' : Helper F) : Prop :=
  ∃ started, Restarts a h started ∧ Contacted a req started r h'

structure Backend (F : Type) where
  archive : Archive
  helper : Helper F

def backend (a : Appliance F) (rules : Rules) : Surroundings (Backend F) where
  send s req r s' := s'.archive = s.archive ∧ Delivered a req s.helper r s'.helper
  save s cfg r s' := s'.helper = s.helper ∧ (archive rules).save s.archive cfg r s'.archive
  setUp s cfg r s' := s'.helper = s.helper ∧ (archive rules).setUp s.archive cfg r s'.archive

def steady (a : Appliance F) (rules : Rules) : Surroundings (Backend F) where
  send s req r s' := s'.archive = s.archive ∧ Contacted a req s.helper r s'.helper
  save := (backend a rules).save
  setUp := (backend a rules).setUp

def canon (w : Site (Backend F)) : Site Archive := ⟨w.engine, w.around.archive⟩

abbrev SystemStep (F : Type) := Transition (Site (Backend F)) Turn

section Projection

variable {a : Appliance F} {p : Plane} {rules : Rules}

theorem handler_steady (s : Backend F) (q : Query) (r : q.Answer) (s' : Backend F)
    (h : (steady a rules).handler s q r s') : (backend a rules).handler s q r s' := by
  cases q with
  | send => exact ⟨h.1, s.helper, .none, h.2⟩
  | _ => exact h

theorem handler_canon (s : Backend F) (q : Query) (r : q.Answer) (s' : Backend F)
    (h : (backend a rules).handler s q r s') :
    (archive rules).handler s.archive q r s'.archive := by
  cases q with
  | send => exact h.1
  | saveConfig | commitInitialSetup => exact h.2
  | _ => exact congrArg Backend.archive h

theorem turns_canon (h : Turns (backend a rules) p w turn w') :
    Turns (archive rules) p (canon w) turn (canon w') :=
  Runs.map (f := Backend.archive) handler_canon h

theorem path_canon {steps : List (SystemStep F)} (h : Path (Turns (backend a rules) p) w steps w') :
    Path (Turns (archive rules) p) (canon w) (steps.map (Transition.map canon)) (canon w') :=
  h.map fun _ _ _ => turns_canon

theorem canonInvariant_of_path {steps : List (SystemStep F)} (hstore : p.hasStore = true)
    (hcalls : ∀ e ∈ steps, e.label.call.isInitialSetup = false)
    (h : Path (Turns (backend a p.rules) p) w steps w')
    (hlatest : w.around.archive.store.latest = some w.engine.currentConfig)
    (hsaved : w.around.archive.saved = []) (hfree : w.engine.pending = none) :
    CanonInvariant w.engine.currentConfig (steps.map (Transition.map canon)) (canon w') := by
  refine canonInvariant_path hstore (fun e he => ?_) (path_canon h) hlatest hsaved hfree
  obtain ⟨e', he', rfl⟩ := List.mem_map.mp he
  exact hcalls e' he'

end Projection

section Footprint

variable {a : Appliance F} {rules : Rules} {s t : Backend F} {K : Backend F → Query → Backend F → Prop}

theorem handler_archive (s : Backend F) (q : Query) (r : q.Answer) (s' : Backend F)
    (hq : q.isCommit = false ∧ q.plain) (h : (backend a rules).handler s q r s') :
    s'.archive = s.archive := by
  cases q with
  | send => exact h.1
  | saveConfig | commitInitialSetup => cases hq.1
  | _ => exact congrArg Backend.archive h

omit [DecidableEq F] in
theorem sameArchive_trans (s t u : Backend F) (h : t.archive = s.archive)
    (h' : u.archive = t.archive) : u.archive = s.archive := h'.trans h

theorem archive_of_quiet {S : α → Prop} (hK : ∀ s q t, K s q t → t.archive = s.archive)
    (hquiet : Quiet S prog) (hcut : Cut (backend a rules).handler K prog s t) :
    t.archive = s.archive :=
  hquiet.kept (I := fun s t => t.archive = s.archive) handler_archive (fun s q t _ => hK s q t)
    (fun _ => rfl) sameArchive_trans hcut

theorem archive_of_commitsOnce (hK : ∀ s q t, K s q t → t.archive = s.archive)
    (honce : CommitsOnce false P prog) (hcut : Cut (backend a rules).handler K prog s t) :
    t.archive = s.archive ∨ ∃ cfg, P cfg ∧ t.archive = s.archive.add cfg := by
  have hkept := honce.kept (I := fun s t => t.archive = s.archive) handler_archive
    (fun s q t _ => hK s q t) (fun _ => rfl) sameArchive_trans hcut
  rcases hkept with hkept | ⟨s₁, s₂, q, ⟨cfg, rfl, hcfg⟩, hbefore, hasked, hafter⟩
  · exact .inl hkept
  have hsave : s₂.archive = s₁.archive ∨ s₂.archive = s₁.archive.add cfg := by
    rcases hasked with hcut | ⟨r, hsave⟩
    · exact .inl (hK _ _ _ hcut)
    rcases archive_of_save hsave.2 with ⟨-, -, hadded⟩ | ⟨-, hsame⟩
    · exact .inr hadded
    · exact .inl hsame
  rw [hafter, ← hbefore]
  rcases hsave with hsave | hsave
  · exact .inl hsave
  · exact .inr ⟨cfg, hcfg, hsave⟩

end Footprint

section Sample

variable (a : Appliance F) (rules : Rules) (drops : ApplyRequest → Bool)

/-- A helper on which every step works, with a connection that loses the answers to some
requests. -/
def answering (s : Backend F) : (q : Query) → q.Answer × Backend F
  | .send req =>
    let p := processRequest a {} s.helper (.request (framed req))
    (if drops req || p.response.id ≠ req.id then .error "connection reset" else .ok p.response,
      ⟨s.archive, p.helper⟩)
  | q => ((obliging rules s.archive q).1, ⟨(obliging rules s.archive q).2, s.helper⟩)

theorem handler_answering (s : Backend F) (q : Query) :
    (steady a rules).handler s q (answering a rules drops s q).1 (answering a rules drops s q).2 := by
  have hstore := handler_obliging rules s.archive q
  cases q with
  | send =>
    refine ⟨rfl, ?_⟩
    simp only [answering]
    split
    · exact .lost {}
    · next hkept =>
      simp only [Bool.or_eq_true, decide_eq_true_eq, not_or, ne_eq, not_not] at hkept
      exact .answered {} hkept.2
  | saveConfig | commitInitialSetup => exact ⟨rfl, hstore⟩
  | _ => exact rfl

def newAppliance : Site (Backend Json) where
  engine := newEngine.engine
  around := ⟨newEngine.around, { disk := { lastGood := some firstRevision } }⟩

end Sample

end MinimalRouter.System
