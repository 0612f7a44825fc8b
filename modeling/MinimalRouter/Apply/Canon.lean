import Mathlib.Data.List.Chain
import Mathlib.Data.List.Nodup
import MinimalRouter.Apply.EngineOutcome

namespace MinimalRouter.Apply

open Goish Config Lib Lib.Prog

structure Archive where
  store : Store
  saved : List SystemConfig := []

def Archive.add (s : Archive) (cfg : SystemConfig) : Archive := ⟨s.store.insert cfg, cfg :: s.saved⟩

/-- The store without other writers, and a helper that may answer anything. -/
def archive (rules : Rules) : Surroundings Archive where
  send s _ _ s' := s' = s
  save s cfg r s' := ∃ database,
    match s.store.saveConfig rules database cfg with
    | .ok t => r = .ok () ∧ s' = ⟨t, cfg :: s.saved⟩
    | .error e => r = .error e ∧ s' = s
  setUp s cfg r s' := ∃ database now,
    match s.store.commitInitialSetup rules database now cfg with
    | .ok t => r = .ok () ∧ s' = ⟨t, cfg :: s.saved⟩
    | .error e => r = .error e ∧ s' = s

theorem archive_of_sent (h : Sent (archive rules) P s s') : s' = s :=
  h.invariant (I := (· = s)) (fun _ _ _ _ _ hs hsend => Eq.trans hsend hs) rfl

theorem archive_of_exchanged (h : Exchanged (archive rules) req s r s') : s' = s :=
  archive_of_sent (h.sent (P := fun _ => True) trivial)

theorem archive_of_save (h : (archive rules).save s cfg r s') :
    r = .ok () ∧ s.store.checkAdvance cfg = .ok () ∧ s' = s.add cfg ∨
      (∃ e, r = .error e) ∧ s' = s := by
  obtain ⟨_, h⟩ := h
  split at h
  · next t hsave =>
    obtain ⟨_, hadvance, rfl⟩ := Store.saveConfig_eq_ok hsave
    exact .inl ⟨h.1, hadvance, h.2⟩
  · exact .inr ⟨⟨_, h.1⟩, h.2⟩

theorem archive_of_error (hstore : p.hasStore = true)
    (h : Persisted (archive rules) p false cfg s (.error e) s') : s' = s := by
  simp only [Persisted, hstore, Bool.false_eq_true, ↓reduceIte] at h
  rcases archive_of_save h with ⟨hr, -⟩ | ⟨-, hs⟩
  · cases hr
  · exact hs

theorem archive_of_ok (hstore : p.hasStore = true) (hlatest : s.store.latest = some current)
    (h : Persisted (archive rules) p false cfg s (.ok ()) s') :
    s' = s.add cfg ∧ cfg.revision = current.revision + 1 := by
  simp only [Persisted, hstore, Bool.false_eq_true, ↓reduceIte] at h
  rcases archive_of_save h with ⟨-, hadvance, hs⟩ | ⟨⟨e, hr⟩, -⟩
  · exact ⟨hs, Store.revision_of_checkAdvance hlatest hadvance⟩
  · cases hr

/-- The transaction did not end with the previous configuration still the canonical one. -/
def Transaction.moved (tx : Transaction) : Prop :=
  tx.currentState ≠ .rejected ∧ tx.currentState ≠ .rolledBack

theorem Transaction.moved_of_state {tx : Transaction}
    (h : tx.currentState = .recoveryRequired ∨ tx.currentState = .committed) : tx.moved := by
  rcases h with h | h <;> exact ⟨by simp [h], by simp [h]⟩

def Transaction.unsettled (tx : Transaction) : Prop :=
  tx.currentState = .awaitingConfirmation ∨ tx.currentState = .recoveryRequired

inductive CanonTurn (w : Site Archive) (call : Call) (tx : Option Transaction) (w' : Site Archive) :
    Prop
  | kept (hcurrent : w'.engine.currentConfig = w.engine.currentConfig)
      (haround : w'.around = w.around) (hpending : w'.engine.pending = w.engine.pending)
      (htx : ∀ t, tx = some t → ∃ base, call = .processTransaction t.id base)
  | opened {base : SystemConfig} {pending : PendingChange}
      (hcall : call = .processTransaction pending.tx.id base)
      (hbase : BasedOn base pending.tx.config) (hfree : w.engine.pending = none)
      (hcanon : pending.canonicalCommitted = false)
      (hcurrent : w'.engine.currentConfig = w.engine.currentConfig) (haround : w'.around = w.around)
      (hpending : w'.engine.pending = some pending) (htx : tx = some pending.tx)
      (hstate : pending.tx.currentState = .awaitingConfirmation)
  | stored {base cfg : SystemConfig} {t : Transaction}
      (hcall : call = .processTransaction t.id base) (hbase : BasedOn base cfg)
      (hfree : w.engine.pending = none) (hcurrent : w'.engine.currentConfig = cfg)
      (haround : w'.around = w.around.add cfg)
      (hrevision : cfg.revision = w.engine.currentConfig.revision + 1)
      (hpending : w'.engine.pending = none) (htx : tx = some t) (htxconfig : t.config = cfg)
      (hmoved : t.moved)
  | carried (hbefore : w.engine.pending = some pending) (hafter : w'.engine.pending = some pending')
      (hid : pending'.tx.id = pending.tx.id) (hconfig : pending'.tx.config = pending.tx.config)
      (hopen : pending.tx.unsettled → pending'.tx.unsettled)
      (hcanon : pending'.canonicalCommitted = pending.canonicalCommitted)
      (hcurrent : w'.engine.currentConfig = w.engine.currentConfig) (haround : w'.around = w.around)
      (htx : tx = some t) (htxid : t.id = pending.tx.id) (htxconfig : t.config = pending.tx.config)
      (hmoved : pending.canonicalCommitted = true → t.moved)
  | promoted (hbefore : w.engine.pending = some pending)
      (hcanon : pending.canonicalCommitted = false)
      (hcurrent : w'.engine.currentConfig = pending.tx.config)
      (haround : w'.around = w.around.add pending.tx.config)
      (hrevision : pending.tx.config.revision = w.engine.currentConfig.revision + 1)
      (hafter : ∀ pending', w'.engine.pending = some pending' → pending'.tx.id = pending.tx.id ∧
        pending'.tx.config = pending.tx.config ∧ pending'.canonicalCommitted = true ∧
        pending'.tx.unsettled) (htx : tx = some t) (htxid : t.id = pending.tx.id)
      (htxconfig : t.config = pending.tx.config) (hmoved : t.moved)
  | closed (hbefore : w.engine.pending = some pending) (hafter : w'.engine.pending = none)
      (hcurrent : w'.engine.currentConfig = w.engine.currentConfig ∨
        pending.canonicalCommitted = true ∧ w'.engine.currentConfig = pending.tx.config)
      (haround : w'.around = w.around) (htx : tx = some t) (htxid : t.id = pending.tx.id)
      (htxconfig : t.config = pending.tx.config)
      (hmoved : pending.canonicalCommitted = true → t.moved)

theorem CanonTurn.idle (hcurrent : w'.engine.currentConfig = w.engine.currentConfig)
    (haround : w'.around = w.around) (hpending : w'.engine.pending = w.engine.pending)
    (htx : tx = none) : CanonTurn w call tx w' := by
  refine .kept hcurrent haround hpending fun t ht => ?_
  rw [htx] at ht
  cases ht

section Turn

variable {c : Called}

theorem refusedState_cases (resp : ApplyResponse) :
    refusedState resp = .recoveryRequired ∨ refusedState resp = .rolledBack ∨
      refusedState resp = .rejected := by
  unfold refusedState
  split
  · exact .inl rfl
  split
  · exact .inr (.inl rfl)
  · exact .inr (.inr rfl)

theorem refuseTransaction_engine (tx : Transaction) (resp : ApplyResponse) :
    (refuseTransaction st tx resp).engine.currentConfig = st.currentConfig ∧
      (refuseTransaction st tx resp).engine.pending = st.pending := by
  unfold refuseTransaction
  dsimp only
  split <;> exact ⟨rfl, rfl⟩

theorem CanonTurn.ended {base : SystemConfig} (hcurrent : c.engine.currentConfig = st.currentConfig)
    (hpending : c.engine.pending = st.pending) (hs : s' = s) (htx : c.tx = some tx)
    (hid : tx.id = txId) :
    CanonTurn ⟨st, s⟩ (.processTransaction txId base) c.tx ⟨c.engine, s'⟩ := by
  refine .kept hcurrent hs hpending fun t ht => ⟨base, ?_⟩
  rw [htx] at ht
  cases ht
  rw [hid]

theorem canonTurn_undone {base : SystemConfig} (h : Undone (archive rules) p st tx e s c s') :
    CanonTurn ⟨st, s⟩ (.processTransaction tx.id base) c.tx ⟨c.engine, s'⟩ := by
  cases h with
  | restored hreq hx => exact .ended rfl rfl (archive_of_exchanged hx) rfl rfl
  | unrestored hx => exact .ended rfl rfl (archive_of_sent hx) rfl rfl

theorem canonTurn_transacted (hstore : p.hasStore = true)
    (hlatest : s.store.latest = some st.currentConfig)
    (h : Transacted (archive rules) p st txId newCfg false s c s') :
    CanonTurn ⟨st, s⟩ (.processTransaction txId newCfg) c.tx ⟨c.engine, s'⟩ := by
  cases h with
  | unplanned htx => exact .ended rfl rfl rfl rfl htx.1
  | unknown hplan hx => exact .ended rfl rfl (archive_of_exchanged hx) rfl hplan.id
  | refused hplan hx =>
    obtain ⟨hcurrent, hpending⟩ := refuseTransaction_engine _ _
    exact .ended hcurrent hpending (archive_of_exchanged hx) rfl hplan.id
  | awaiting hverified =>
    refine @CanonTurn.opened _ _ _ _ newCfg _ ?_ ?_ hverified.plan.free rfl rfl
      (archive_of_exchanged hverified.exchange) rfl rfl rfl
    · rw [← hverified.plan.id]
    · exact hverified.plan.config
  | uncommitted hverified hcommit hundo =>
    cases archive_of_exchanged hverified.exchange
    cases archive_of_error hstore hcommit
    rw [← hverified.plan.id]
    exact canonTurn_undone hundo
  | unacknowledged hverified hcommit hack =>
    have hplan := hverified.plan
    cases archive_of_exchanged hverified.exchange
    obtain ⟨rfl, hrevision⟩ := archive_of_ok hstore hlatest hcommit
    cases archive_of_exchanged hack
    refine .stored ?_ hplan.config hplan.free rfl rfl hrevision hplan.free rfl rfl
      (Transaction.moved_of_state (.inl rfl))
    rw [← hplan.id]
    rfl
  | @committed tx _ _ _ _ _ hverified hcommit hack =>
    have hplan := hverified.plan
    cases archive_of_exchanged hverified.exchange
    obtain ⟨rfl, hrevision⟩ := archive_of_ok hstore hlatest hcommit
    have hs : s' = s.add tx.config := by
      split at hack
      · obtain ⟨_, -, hack⟩ := hack
        exact archive_of_exchanged hack
      · exact hack
    rw [hs]
    refine .stored ?_ hplan.config hplan.free rfl rfl hrevision hplan.free rfl rfl
      (Transaction.moved_of_state (.inr rfl))
    rw [← hplan.id]

theorem canonTurn_acknowledged (hpending : st.pending = some pending)
    (hcanon : pending.canonicalCommitted = true)
    (h : Acknowledged (archive rules) p st pending s c s') :
    CanonTurn ⟨st, s⟩ call c.tx ⟨c.engine, s'⟩ := by
  cases h with
  | failed hsent =>
    exact .carried hpending rfl rfl rfl (fun _ => .inr rfl) rfl rfl (archive_of_sent hsent) rfl rfl
      rfl fun _ => Transaction.moved_of_state (.inl rfl)
  | finished hsent hreq hx =>
    cases archive_of_sent hsent
    exact .closed hpending rfl (.inr ⟨hcanon, rfl⟩) (archive_of_exchanged hx) rfl rfl rfl
      fun _ => Transaction.moved_of_state (.inr rfl)

theorem canonTurn_saved (hpending : st.pending = some pending)
    (hcanon : pending.canonicalCommitted = false)
    (hcurrent : engine.currentConfig = pending.tx.config) (hs : s₁ = s.add pending.tx.config)
    (hrevision : pending.tx.config.revision = st.currentConfig.revision + 1)
    (h : Acknowledged (archive rules) p engine { pending with canonicalCommitted := true } s₁ c s') :
    CanonTurn ⟨st, s⟩ call c.tx ⟨c.engine, s'⟩ := by
  cases h with
  | failed hsent =>
    refine .promoted hpending hcanon hcurrent ((archive_of_sent hsent).trans hs) hrevision ?_ rfl rfl rfl
      (Transaction.moved_of_state (.inl rfl))
    intro pending' hafter
    cases hafter
    exact ⟨rfl, rfl, rfl, .inr rfl⟩
  | finished hsent hreq hx =>
    cases archive_of_sent hsent
    refine .promoted hpending hcanon rfl ((archive_of_exchanged hx).trans hs) hrevision ?_ rfl rfl rfl
      (Transaction.moved_of_state (.inr rfl))
    intro pending' hafter
    cases hafter

theorem canonTurn_concluded (hstore : p.hasStore = true)
    (hlatest : s.store.latest = some st.currentConfig)
    (h : Concluded (archive rules) p st txId s c s') :
    CanonTurn ⟨st, s⟩ (.confirmTransaction txId) c.tx ⟨c.engine, s'⟩ := by
  cases h with
  | notAwaiting => exact .idle rfl rfl rfl rfl
  | unverified hawaits hsent =>
    exact .carried hawaits.stored rfl rfl rfl id rfl rfl (archive_of_sent hsent) rfl rfl rfl
      fun htrue => absurd htrue (by simp [hawaits.canon])
  | unsaved hawaits hsent hsave =>
    cases archive_of_sent hsent
    exact .carried hawaits.stored rfl rfl rfl (fun _ => .inr rfl) rfl rfl
      (archive_of_error hstore hsave) rfl rfl rfl fun _ => Transaction.moved_of_state (.inl rfl)
  | saved hawaits hsent hsave hack =>
    cases archive_of_sent hsent
    obtain ⟨hs, hrevision⟩ := archive_of_ok hstore hlatest hsave
    exact canonTurn_saved hawaits.stored hawaits.canon rfl hs hrevision hack
  | again hawaits hack => exact canonTurn_acknowledged hawaits.stored hawaits.canon hack

theorem canonTurn_expired (h : Expired (archive rules) p st txId s c s') :
    CanonTurn ⟨st, s⟩ (.rollbackExpired txId) c.tx ⟨c.engine, s'⟩ := by
  cases h with
  | idle => exact .idle rfl rfl rfl rfl
  | exhausted hawaits =>
    exact .closed hawaits.stored rfl (.inl rfl) rfl rfl rfl rfl
      fun _ => Transaction.moved_of_state (.inl rfl)
  | restored hawaits hreq hx =>
    exact .closed hawaits.stored rfl (.inl rfl) (archive_of_exchanged hx) rfl rfl rfl
      fun htrue => absurd htrue (by simp [hawaits.canon])
  | retried hawaits hsent =>
    exact .carried hawaits.stored rfl rfl rfl (fun _ => .inr rfl) rfl rfl (archive_of_sent hsent)
      rfl rfl rfl fun _ => Transaction.moved_of_state (.inl rfl)

theorem canonTurn_reconciled {id : String} (h : Reconciled (archive rules) p st id s c s') :
    CanonTurn ⟨st, s⟩ .reconcile c.tx ⟨c.engine, s'⟩ := by
  cases h with
  | unbuilt => exact .idle rfl rfl rfl rfl
  | failed hsent => exact .idle rfl (archive_of_sent hsent) rfl rfl
  | settled hreq hx => exact .idle rfl (archive_of_exchanged hx) rfl rfl
  | closed hreq hx hresp hpending hid hconfig hstate =>
    exact .closed hpending rfl (.inl rfl) (archive_of_exchanged hx) rfl hid hconfig
      fun htrue => Transaction.moved_of_state (.inr (hstate.trans (if_pos htrue)))

theorem canonTurn_bypassed (h : Bypassed (archive rules) p st s c s') :
    CanonTurn ⟨st, s⟩ .withQosBypassed c.tx ⟨c.engine, s'⟩ := by
  cases h with
  | idle => exact .idle rfl rfl rfl rfl
  | restored hfree hsent | unrestored hfree hsent => exact .idle rfl (archive_of_sent hsent) rfl rfl

def Call.isInitialSetup : Call → Bool
  | processInitialSetup _ _ => true
  | _ => false

theorem canonTurn_of_turns (hstore : p.hasStore = true) (hcall : turn.call.isInitialSetup = false)
    (hlatest : w.around.store.latest = some w.engine.currentConfig)
    (h : Turns (archive rules) p w turn w') : CanonTurn w turn.call turn.tx w' := by
  have hperformed := performed_of_turns h
  cases hcase : turn.call with
  | processTransaction =>
    rw [hcase] at hperformed
    exact canonTurn_transacted hstore hlatest hperformed
  | processInitialSetup => simp [hcase, Call.isInitialSetup] at hcall
  | confirmTransaction =>
    rw [hcase] at hperformed
    exact canonTurn_concluded hstore hlatest hperformed
  | rollbackExpired =>
    rw [hcase] at hperformed
    exact canonTurn_expired hperformed
  | reconcile =>
    rw [hcase] at hperformed
    obtain ⟨_, hreconciled⟩ := hperformed
    exact canonTurn_reconciled hreconciled
  | withQosBypassed =>
    rw [hcase] at hperformed
    exact canonTurn_bypassed hperformed

end Turn

abbrev CanonStep := Transition (Site Archive) Turn

def PendingSince (past : List CanonStep) (tx : Transaction) (base : SystemConfig) (o : CanonStep) :
    Prop :=
  ∃ before since, past = before ++ o :: since ∧
    o.label.call = .processTransaction tx.id base ∧
    (∃ opened, o.label.tx = some opened ∧ opened.currentState = .awaitingConfirmation ∧
      opened.config = tx.config) ∧
    ∀ m ∈ since, m.after.engine.pending.isSome = true

def SubmittedBy (past : List CanonStep) (e : CanonStep) (tx : Transaction) (base : SystemConfig)
    (o : CanonStep) : Prop :=
  o = e ∧ e.label.call = .processTransaction tx.id base ∨ PendingSince past tx base o

structure Canonical (past : List CanonStep) (e : CanonStep) : Prop where
  latest : e.after.around.store.latest = some e.after.engine.currentConfig
  stored : e.after.around = e.before.around ∧
      e.after.engine.currentConfig = e.before.engine.currentConfig ∨
    ∃ cfg tx base o, e.after.around = e.before.around.add cfg ∧
      e.after.engine.currentConfig = cfg ∧
      cfg.revision = e.before.engine.currentConfig.revision + 1 ∧ e.label.tx = some tx ∧
      tx.config = cfg ∧ BasedOn base cfg ∧ SubmittedBy past e tx base o
  ended : ∀ tx, e.label.tx = some tx →
    tx.currentState = .rejected ∨ tx.currentState = .rolledBack →
    ∃ base o, SubmittedBy past e tx base o ∧ e.after.around = o.before.around ∧
      e.after.engine.currentConfig = o.before.engine.currentConfig

abbrev RevisionChain (cfgs : List SystemConfig) : Prop :=
  cfgs.IsChain fun newer older => newer.revision = older.revision + 1

structure PendingInvariant (past : List CanonStep) (w : Site Archive) (pending : PendingChange)
    (base : SystemConfig) (o : CanonStep) : Prop where
  since : PendingSince past pending.tx base o
  base : BasedOn base pending.tx.config
  unsettled : pending.tx.unsettled
  provisional : pending.canonicalCommitted = false →
    w.around = o.before.around ∧ w.engine.currentConfig = o.before.engine.currentConfig
  canonical : pending.canonicalCommitted = true → w.engine.currentConfig = pending.tx.config

structure CanonInvariant (initial : SystemConfig) (past : List CanonStep) (w : Site Archive) :
    Prop where
  latest : w.around.store.latest = some w.engine.currentConfig
  head : (w.around.saved ++ [initial]).head? = some w.engine.currentConfig
  chain : RevisionChain (w.around.saved ++ [initial])
  pending : ∀ pending, w.engine.pending = some pending →
    ∃ base o, PendingInvariant past w pending base o

theorem PendingSince.of_tx {base : SystemConfig} (h : PendingSince past tx base o)
    (hid : tx'.id = tx.id) (hconfig : tx'.config = tx.config) : PendingSince past tx' base o := by
  obtain ⟨before, since, hpast, hcall, ⟨opened, htx, hstate, hopened⟩, hsince⟩ := h
  exact ⟨before, since, hpast, by rw [hcall, hid], ⟨opened, htx, hstate, by rw [hopened, hconfig]⟩,
    hsince⟩

theorem PendingSince.snoc {base : SystemConfig} (h : PendingSince past tx base o)
    (he : e.after.engine.pending.isSome = true) : PendingSince (past ++ [e]) tx base o := by
  obtain ⟨before, since, hpast, hcall, hopened, hsince⟩ := h
  refine ⟨before, since ++ [e], by simp [hpast], hcall, hopened, ?_⟩
  rw [List.forall_mem_append]
  exact ⟨hsince, by simpa using he⟩

theorem RevisionChain.cons (h : RevisionChain cfgs) (hhead : cfgs.head? = some current)
    (hrevision : cfg.revision = current.revision + 1) : RevisionChain (cfg :: cfgs) := by
  cases cfgs with
  | nil => cases hhead
  | cons =>
    cases hhead
    exact List.isChain_cons_cons.mpr ⟨hrevision, h⟩

theorem RevisionChain.count_le_one (h : RevisionChain cfgs) (r : Revision) :
    (cfgs.map (·.revision)).count r ≤ 1 := by
  have hdecreasing : cfgs.IsChain fun newer older => older.revision < newer.revision :=
    h.imp fun newer older heq => by
      rw [heq]
      exact Nat.lt_succ_self _
  have hpairwise : (cfgs.map (·.revision)).Pairwise (· > ·) := by
    rw [List.pairwise_map]
    exact (List.isChain_iff_pairwise).mp hdecreasing
  exact List.nodup_iff_count_le_one.mp (hpairwise.imp fun hgt => Nat.ne_of_gt hgt) r

theorem not_ended_of_moved {tx : Transaction} (hmoved : t.moved) (htx : some t = some tx)
    (hstate : tx.currentState = .rejected ∨ tx.currentState = .rolledBack) : False := by
  cases htx
  rcases hstate with hstate | hstate
  · exact hmoved.1 hstate
  · exact hmoved.2 hstate

theorem CanonInvariant.keep (hI : CanonInvariant initial past w)
    (hcurrent : w'.engine.currentConfig = w.engine.currentConfig) (haround : w'.around = w.around)
    (hpending : ∀ pending, w'.engine.pending = some pending →
      ∃ base o, PendingInvariant (past ++ [⟨w, turn, w'⟩]) w' pending base o) :
    CanonInvariant initial (past ++ [⟨w, turn, w'⟩]) w' where
  latest := by rw [haround, hcurrent, hI.latest]
  head := by rw [haround, hcurrent, hI.head]
  chain := by rw [haround]; exact hI.chain
  pending := hpending

theorem CanonInvariant.commit (hI : CanonInvariant initial past w)
    (hcurrent : w'.engine.currentConfig = cfg) (haround : w'.around = w.around.add cfg)
    (hrevision : cfg.revision = w.engine.currentConfig.revision + 1)
    (hpending : ∀ pending, w'.engine.pending = some pending →
      ∃ base o, PendingInvariant (past ++ [⟨w, turn, w'⟩]) w' pending base o) :
    CanonInvariant initial (past ++ [⟨w, turn, w'⟩]) w' where
  latest := by
    rw [haround, hcurrent]
    rfl
  head := by
    rw [haround, hcurrent]
    rfl
  chain := by
    rw [haround]
    exact hI.chain.cons hI.head hrevision
  pending := hpending

theorem PendingInvariant.carry {base : SystemConfig} (h : PendingInvariant past w pending base o)
    (hafter : w'.engine.pending = some pending') (hid : pending'.tx.id = pending.tx.id)
    (hconfig : pending'.tx.config = pending.tx.config) (hopen : pending'.tx.unsettled)
    (hprovisional : pending'.canonicalCommitted = false →
      w'.around = o.before.around ∧ w'.engine.currentConfig = o.before.engine.currentConfig)
    (hcanonical : pending'.canonicalCommitted = true →
      w'.engine.currentConfig = pending.tx.config) :
    PendingInvariant (past ++ [⟨w, turn, w'⟩]) w' pending' base o where
  since := (h.since.of_tx hid hconfig).snoc (by simp [hafter])
  base := by rw [hconfig]; exact h.base
  unsettled := hopen
  provisional := hprovisional
  canonical := fun hcanon => by rw [hconfig]; exact hcanonical hcanon

theorem PendingInvariant.ended {base : SystemConfig} (h : PendingInvariant past w pending base o)
    (haround : w'.around = w.around) (hcurrent : w'.engine.currentConfig = w.engine.currentConfig)
    (htx : turn.tx = some t) (htxid : t.id = pending.tx.id)
    (htxconfig : t.config = pending.tx.config)
    (hmoved : pending.canonicalCommitted = true → t.moved) (tx : Transaction)
    (hreturned : turn.tx = some tx)
    (hended : tx.currentState = .rejected ∨ tx.currentState = .rolledBack) :
    ∃ base o, SubmittedBy past ⟨w, turn, w'⟩ tx base o ∧ w'.around = o.before.around ∧
      w'.engine.currentConfig = o.before.engine.currentConfig := by
  cases hcase : pending.canonicalCommitted with
  | true =>
    exact (not_ended_of_moved (hmoved hcase) (htx.symm.trans hreturned) hended).elim
  | false =>
    rw [hreturned] at htx
    cases htx
    obtain ⟨horigin, hbase⟩ := h.provisional hcase
    exact ⟨base, o, .inr (h.since.of_tx htxid htxconfig), haround.trans horigin,
      hcurrent.trans hbase⟩

theorem canonical_step (hI : CanonInvariant initial past w) (h : CanonTurn w turn.call turn.tx w') :
    Canonical past ⟨w, turn, w'⟩ ∧ CanonInvariant initial (past ++ [⟨w, turn, w'⟩]) w' := by
  cases h with
  | kept hcurrent haround hpending htx =>
    have hnext : CanonInvariant initial (past ++ [⟨w, turn, w'⟩]) w' := by
      refine hI.keep hcurrent haround fun pending hafter => ?_
      obtain ⟨base, o, hinv⟩ := hI.pending pending (hpending ▸ hafter)
      refine ⟨base, o, hinv.carry hafter rfl rfl hinv.unsettled (fun hcanon => ?_) fun hcanon => ?_⟩
      · rw [haround, hcurrent]
        exact hinv.provisional hcanon
      · rw [hcurrent]
        exact hinv.canonical hcanon
    refine ⟨⟨hnext.latest, .inl ⟨haround, hcurrent⟩, fun tx hreturned _ => ?_⟩, hnext⟩
    obtain ⟨base, hcall⟩ := htx tx hreturned
    exact ⟨base, _, .inl ⟨rfl, hcall⟩, haround, hcurrent⟩
  | @opened base pending hcall hbase hfree hcanon hcurrent haround hpending htx hstate =>
    have hnext : CanonInvariant initial (past ++ [⟨w, turn, w'⟩]) w' := by
      refine hI.keep hcurrent haround fun pending' hafter => ?_
      rw [hpending] at hafter
      cases hafter
      refine ⟨base, ⟨w, turn, w'⟩, ⟨past, [], rfl, hcall, ⟨pending.tx, htx, hstate, rfl⟩, by simp⟩,
        hbase, .inl hstate, fun _ => ⟨haround, hcurrent⟩, fun htrue => ?_⟩
      rw [hcanon] at htrue
      cases htrue
    refine ⟨⟨hnext.latest, .inl ⟨haround, hcurrent⟩, fun tx hreturned hended => ?_⟩, hnext⟩
    rw [hreturned] at htx
    cases htx
    rw [hstate] at hended
    rcases hended with hended | hended <;> cases hended
  | @stored base cfg t hcall hbase hfree hcurrent haround hrevision hpending htx htxconfig hmoved =>
    have hnext : CanonInvariant initial (past ++ [⟨w, turn, w'⟩]) w' := by
      refine hI.commit hcurrent haround hrevision fun pending hafter => ?_
      rw [hpending] at hafter
      cases hafter
    refine ⟨⟨hnext.latest, .inr ⟨cfg, t, base, _, haround, hcurrent, hrevision, htx, htxconfig,
      hbase, .inl ⟨rfl, hcall⟩⟩, fun tx hreturned hended => ?_⟩, hnext⟩
    exact (not_ended_of_moved hmoved (htx.symm.trans hreturned) hended).elim
  | @carried pending pending' t hbefore hafter hid hconfig hopen hcanon hcurrent haround htx htxid
      htxconfig hmoved =>
    obtain ⟨base, o, hinv⟩ := hI.pending pending hbefore
    have hnext : CanonInvariant initial (past ++ [⟨w, turn, w'⟩]) w' := by
      refine hI.keep hcurrent haround fun pending'' hafter' => ?_
      rw [hafter] at hafter'
      cases hafter'
      refine ⟨base, o, hinv.carry hafter hid hconfig (hopen hinv.unsettled) (fun hfalse => ?_)
        fun htrue => ?_⟩
      · rw [haround, hcurrent]
        exact hinv.provisional (hcanon ▸ hfalse)
      · rw [hcurrent]
        exact hinv.canonical (hcanon ▸ htrue)
    exact ⟨⟨hnext.latest, .inl ⟨haround, hcurrent⟩,
      hinv.ended haround hcurrent htx htxid htxconfig hmoved⟩, hnext⟩
  | @promoted pending t hbefore hcanon hcurrent haround hrevision hafter htx htxid htxconfig hmoved =>
    obtain ⟨base, o, hinv⟩ := hI.pending pending hbefore
    have hnext : CanonInvariant initial (past ++ [⟨w, turn, w'⟩]) w' := by
      refine hI.commit hcurrent haround hrevision fun pending' hafter' => ?_
      obtain ⟨hid, hconfig, htrue, hopen⟩ := hafter pending' hafter'
      refine ⟨base, o, hinv.carry hafter' hid hconfig hopen (fun hfalse => ?_) fun _ => hcurrent⟩
      rw [htrue] at hfalse
      cases hfalse
    refine ⟨⟨hnext.latest, .inr ⟨_, t, base, o, haround, hcurrent, hrevision, htx, htxconfig,
      hinv.base, .inr (hinv.since.of_tx htxid htxconfig)⟩, fun tx hreturned hended => ?_⟩, hnext⟩
    exact (not_ended_of_moved hmoved (htx.symm.trans hreturned) hended).elim
  | @closed pending t hbefore hafter hcurrent haround htx htxid htxconfig hmoved =>
    obtain ⟨base, o, hinv⟩ := hI.pending pending hbefore
    have hcurrent : w'.engine.currentConfig = w.engine.currentConfig := by
      rcases hcurrent with hcurrent | ⟨hcanon, hcurrent⟩
      · exact hcurrent
      · rw [hcurrent, hinv.canonical hcanon]
    have hnext : CanonInvariant initial (past ++ [⟨w, turn, w'⟩]) w' := by
      refine hI.keep hcurrent haround fun pending' hafter' => ?_
      rw [hafter] at hafter'
      cases hafter'
    exact ⟨⟨hnext.latest, .inl ⟨haround, hcurrent⟩,
      hinv.ended haround hcurrent htx htxid htxconfig hmoved⟩, hnext⟩

theorem canonInvariant_path {p : Plane} {steps : List CanonStep} (hstore : p.hasStore = true)
    (hcalls : ∀ e ∈ steps, e.label.call.isInitialSetup = false)
    (h : Path (Turns (archive p.rules) p) w steps w')
    (hlatest : w.around.store.latest = some w.engine.currentConfig) (hsaved : w.around.saved = [])
    (hfree : w.engine.pending = none) : CanonInvariant w.engine.currentConfig steps w' := by
  refine Path.invariant (K := fun _ e => e.label.call.isInitialSetup = false)
    (fun past t turn u hI hcall hturn => ?_) ?_ h fun past e rest hsplit => ?_
  · exact (canonical_step hI (canonTurn_of_turns hstore hcall hI.latest hturn)).2
  · refine ⟨hlatest, by rw [hsaved]; rfl, by rw [hsaved]; exact .singleton _, ?_⟩
    intro pending hpending
    rw [hfree] at hpending
    cases hpending
  · exact hcalls e (by simp [hsplit])

/-- The engine and its store agree after every call, the stored revisions are a chain of
transactions each based on the one before, and an unsuccessful transaction leaves no mark. -/
theorem canon_is_stored_chain {p : Plane} {steps : List CanonStep} (hstore : p.hasStore = true)
    (hcalls : ∀ e ∈ steps, e.label.call.isInitialSetup = false)
    (h : Path (Turns (archive p.rules) p) w steps w')
    (hlatest : w.around.store.latest = some w.engine.currentConfig)
    (hsaved : w.around.saved = []) (hfree : w.engine.pending = none) :
    w'.around.store.latest = some w'.engine.currentConfig ∧
      RevisionChain (w'.around.saved ++ [w.engine.currentConfig]) ∧
      (∀ r, (w'.around.saved.map (·.revision)).count (r + 1) ≤ 1) ∧
      ∀ past e rest, steps = past ++ e :: rest → Canonical past e := by
  have hI := canonInvariant_path hstore hcalls h hlatest hsaved hfree
  refine ⟨hI.latest, hI.chain, fun r => ?_, fun past e rest hsplit => ?_⟩
  · exact RevisionChain.count_le_one hI.chain.left_of_append (r + 1)
  obtain ⟨hpast, hturn⟩ := h.split hsplit
  have hbefore : ∀ m ∈ past, m.label.call.isInitialSetup = false :=
    fun m hm => hcalls m (by simp [hsplit, hm])
  have hI' := canonInvariant_path hstore hbefore hpast hlatest hsaved hfree
  have hcall := hcalls e (by simp [hsplit])
  exact (canonical_step hI' (canonTurn_of_turns hstore hcall hI'.latest hturn)).1

def obliging (rules : Rules) (s : Archive) : (q : Query) → q.Answer × Archive
  | .now => (⟨1000000000, 0, 0⟩, s)
  | .expired => (false, s)
  | .send req => (.ok { id := req.id, success := true, verified := true }, s)
  | .inspectLanChange _ _ => (.ok (), s)
  | .createSnapshot _ => (.ok (), s)
  | .saveConfig cfg =>
    match s.store.saveConfig rules (.ok ()) cfg with
    | .ok t => (.ok (), ⟨t, cfg :: s.saved⟩)
    | .error e => (.error e, s)
  | .commitInitialSetup cfg =>
    match s.store.commitInitialSetup rules (.ok ()) ⟨1000000000, 0, 0⟩ cfg with
    | .ok t => (.ok (), ⟨t, cfg :: s.saved⟩)
    | .error e => (.error e, s)
  | .measure => (.ok (), s)

theorem handler_obliging (rules : Rules) (s : Archive) (q : Query) :
    (archive rules).handler s q (obliging rules s q).1 (obliging rules s q).2 := by
  cases q with
  | saveConfig =>
    refine ⟨.ok (), ?_⟩
    simp only [obliging]
    split <;> simp_all
  | commitInitialSetup =>
    refine ⟨.ok (), ⟨1000000000, 0, 0⟩, ?_⟩
    simp only [obliging]
    split <;> simp_all
  | _ => exact rfl

def Plane.plain : Plane where
  rules := Appliance.plain.rules
  services := .plain
  sameIpv4Network _ _ := true
  validateTransitionSafety _ _ := .ok ()

def obligingTurn (w : Site Archive) (call : Call) : CanonStep :=
  let run := (perform .plain w.engine call).exec (obliging Plane.plain.rules) w.around
  ⟨w, ⟨call, run.1.tx, run.1.result⟩, ⟨run.1.engine, run.2⟩⟩

theorem turns_obligingTurn (w : Site Archive) (call : Call) :
    Turns (archive Plane.plain.rules) .plain w (obligingTurn w call).label
      (obligingTurn w call).after :=
  runs_exec (handler_obliging _) _ _

def firstRevision : SystemConfig := { revision := 1 }

def newEngine : Site Archive where
  engine := { currentConfig := firstRevision }
  around := { store := ⟨[firstRevision], true⟩ }

def hostRenamed : CanonStep :=
  obligingTurn newEngine (.processTransaction "tx-1"
    { firstRevision with system := { hostname := "gateway" } })

theorem canon_is_stored_chain_at_rename :
    hostRenamed.after.around.saved.map (·.revision) = [2] ∧ Canonical [] hostRenamed := by
  have hpath : Path (Turns (archive Plane.plain.rules) .plain) newEngine [hostRenamed]
      hostRenamed.after := .single (turns_obligingTurn _ _)
  have hcanon := canon_is_stored_chain rfl (by simp [hostRenamed, obligingTurn, Call.isInitialSetup])
    hpath rfl rfl rfl
  exact ⟨by decide +kernel, hcanon.2.2.2 [] hostRenamed [] rfl⟩

end MinimalRouter.Apply
