import MinimalRouter.Config.Interfaces
import MinimalRouter.Firewall.Generate

namespace MinimalRouter.Firewall

open Goish Config Lib Chain Match

@[simp] def Verdict.filters : Verdict → Bool
  | .dnat _ _ => false
  | .masquerade => false
  | _ => true

/-- A line of a filter chain that accepts a packet only under conditions with a given property. -/
def Item.AcceptsOnly (P : List Match → Prop) : Item → Prop
  | .rule r => ∀ v, r.verdict = some v → v.filters = true ∧ (v = .accept → P r.conds)
  | .comment _ => True
  | .blank => True

@[simp] theorem acceptsOnly_accept : (rule conds .accept).AcceptsOnly P ↔ P conds := by
  simp [rule, Item.AcceptsOnly]

@[simp] theorem acceptsOnly_drop : (rule conds .drop).AcceptsOnly P := by
  simp [rule, Item.AcceptsOnly]

@[simp] theorem acceptsOnly_ret : (rule conds .ret).AcceptsOnly P := by
  simp [rule, Item.AcceptsOnly]

@[simp] theorem acceptsOnly_jump : (rule conds (.jump chain)).AcceptsOnly P := by
  simp [rule, Item.AcceptsOnly]

theorem acceptsOnly_ite [Decidable c] :
    (Item.rule ⟨conds, effects, some (if c then .accept else .drop)⟩).AcceptsOnly P ↔ (c → P conds) := by
  by_cases h : c <;> simp [Item.AcceptsOnly, h]

@[simp] theorem acceptsOnly_passing : (Item.rule ⟨conds, effects, none⟩).AcceptsOnly P := by
  simp [Item.AcceptsOnly]

@[simp] theorem acceptsOnly_comment : (Item.comment s).AcceptsOnly P := trivial

@[simp] theorem acceptsOnly_blank : Item.blank.AcceptsOnly P := trivial

theorem acceptsOnly_mono {items : List Item} (h : Every (Item.AcceptsOnly P) items)
    (hPQ : ∀ conds, P conds → Q conds) : Every (Item.AcceptsOnly Q) items := by
  refine h.mono fun item hitem => ?_
  cases item with
  | rule => exact fun v hv => (hitem v hv).imp_right fun hP haccept => hPQ _ (hP haccept)
  | comment | blank => trivial

theorem Rule.step_eq_settled (hr : (Item.rule r).AcceptsOnly P)
    (hsub : ∀ name d, sub name = some d → d = .drop) (h : r.step nft sub p = .settled d) :
    d = .drop ∨ d = .accept ∧ P r.conds ∧ ∀ m ∈ r.conds, m.holds nft p = true := by
  unfold Rule.step at h
  split at h
  · next hconds =>
    rcases hv : r.verdict with _ | v
    · rw [hv] at h
      cases h
    rw [hv] at h
    cases v with
    | accept =>
      cases h
      exact .inr ⟨rfl, (hr _ hv).2 rfl, List.all_eq_true.mp hconds⟩
    | drop =>
      cases h
      exact .inl rfl
    | ret => cases h
    | jump c =>
      cases hc : sub c with
      | none => simp [Verdict.action, perform, hc] at h
      | some =>
        simp only [Option.elim, Verdict.action, perform, hc] at h
        cases h
        exact .inl (hsub c d hc)
    | dnat | masquerade => cases (hr _ hv).1
  · cases h

theorem step_rule : (rule conds verdict).step nft sub p =
    if ∀ m ∈ conds, m.holds nft p = true then perform sub verdict.action else .next := by
  simp [rule, Item.step, Rule.step]

theorem step_rule_of_not (hm : m ∈ conds) (h : m.holds nft p = false) :
    (rule conds verdict).step nft sub p = .next := by
  rw [step_rule, if_neg fun hall => absurd (hall m hm) (by simp [h])]

def Meets (nft : Nft) (p : Packet) (P : List Match → Prop) : Prop :=
  ∃ conds, P conds ∧ ∀ m ∈ conds, m.holds nft p = true

def AdmitsOnly (nft : Nft) (sub : String → Option Decision) (p : Packet) (reason : Prop)
    (items : List Item) : Prop :=
  ∀ d, run (Item.step nft sub p) items = .settled d → d = .drop ∨ d = .accept ∧ reason

namespace AdmitsOnly

theorem append (has : AdmitsOnly nft sub p reason as) (hbs : AdmitsOnly nft sub p reason bs) :
    AdmitsOnly nft sub p reason (as ++ bs) := by
  intro d h
  rcases run_append_eq_settled h with h | ⟨-, h⟩
  · exact has d h
  · exact hbs d h

theorem flatMap {α : Type} {f : α → List Item} {xs : List α}
    (h : ∀ x ∈ xs, AdmitsOnly nft sub p reason (f x)) :
    AdmitsOnly nft sub p reason (xs.flatMap f) := by
  intro d hrun
  obtain ⟨x, hx, hrun⟩ := exists_of_run_flatMap_eq_settled hrun
  exact h x hx d hrun

theorem of_items (hsub : ∀ name d, sub name = some d → d = .drop)
    (hreason : Meets nft p P → reason) (hitems : Every (Item.AcceptsOnly P) items) :
    AdmitsOnly nft sub p reason items := by
  intro d h
  obtain ⟨item, hmem, hstep⟩ := exists_of_run_eq_settled h
  cases item with
  | rule r =>
    exact (Rule.step_eq_settled (hitems _ hmem) hsub hstep).imp_right fun h =>
      ⟨h.1, hreason ⟨r.conds, h.2⟩⟩
  | comment | blank => cases hstep

theorem verdict (h : AdmitsOnly nft sub p reason items)
    (hd : (run (Item.step nft sub p) items).verdict.getD .drop = d) :
    d = .drop ∨ d = .accept ∧ reason := by
  rcases hrun : run (Item.step nft sub p) items with _ | _ | v
  · rw [hrun] at hd
    exact .inl hd.symm
  · rw [hrun] at hd
    exact .inl hd.symm
  · rw [hrun] at hd
    exact h d (hrun.trans (congrArg _ hd))

end AdmitsOnly

@[simp] theorem writeManagedService_never (ip : String) (w : List (String × List AccessWindow))
    (service : String) :
    Every (Item.AcceptsOnly fun _ => False) (writeManagedService ip w service) := by
  simp [writeManagedService, writeAllowedWindows]

theorem deviceProfilesChain_never (u : Unicode) (cfg : SystemConfig) :
    Every (Item.AcceptsOnly fun _ => False) (deviceProfilesChain u cfg) := by
  simp [deviceProfilesChain, writeDeviceProfile, writeManagedDevice]

theorem sub_eq_drop (nft : Nft) (tools : Tools) (cfg : SystemConfig) (p : Packet) (name : String)
    (d : Decision) (h : (tableOf tools cfg).sub nft p name = some d) : d = .drop := by
  unfold Table.sub at h
  split at h
  · have hnever : AdmitsOnly nft (fun _ => none) p False (deviceProfilesChain tools.unicode cfg) :=
      .of_items (fun _ _ => by simp) (fun ⟨_, hfalse, _⟩ => hfalse)
        (deviceProfilesChain_never tools.unicode cfg)
    exact (hnever d (Chain.Outcome.verdict_eq_some.mp h)).resolve_right fun h => h.2
  · cases h

def EntersOn (names : List String) (conds : List Match) : Prop :=
  ∃ n ∈ names, iifname (.name n) ∈ conds

theorem iif_of_entersOn (h : EntersOn names conds) (hconds : ∀ m ∈ conds, m.holds nft p = true) :
    p.iif ∈ names := by
  obtain ⟨n, _, hmem⟩ := h
  have hname : (n == p.iif) = true := hconds _ hmem
  rwa [← beq_iff_eq.mp hname]

theorem entersOn_of_mem (hn : n ∈ names) :
    EntersOn names (.iifname (.name n) :: conds) := ⟨n, hn, List.mem_cons_self⟩

def ToListener (cfg : SystemConfig) (conds : List Match) : Prop :=
  cfg.wireguard.enabled = true ∧
    dport "udp" (.one (.num cfg.wireguard.listenPort)) ∈ conds ∧
    (iifname (.name cfg.wan.interface) ∈ conds ∨ iifname .ppp ∈ conds)

def homeInterfaces (cfg : SystemConfig) : List String :=
  cfg.lan.interface :: if cfg.wireguard.enabled then [cfg.wireguard.interface] else []

def innerInterfaces (cfg : SystemConfig) : List String :=
  "lo" :: homeInterfaces cfg ++ (if cfg.wgClient.enabled then [wgClientInterface cfg] else []) ++
  segmentInterfaces cfg

def InputGuard (cfg : SystemConfig) (conds : List Match) : Prop :=
  EntersOn ("lo" :: homeInterfaces cfg) conds ∨ ToListener cfg conds ∨
    ctState [.established, .related] ∈ conds

theorem lan_mem_home : cfg.lan.interface ∈ homeInterfaces cfg := List.mem_cons_self

theorem wireguard_mem_home (h : cfg.wireguard.enabled = true) :
    cfg.wireguard.interface ∈ homeInterfaces cfg := by
  simp [homeInterfaces, h]

theorem home_subset_inner : "lo" :: homeInterfaces cfg ⊆ innerInterfaces cfg := by
  unfold innerInterfaces
  rw [List.append_assoc]
  exact List.subset_append_left _ _

theorem extraLan_mem (hlan : lan ∈ cfg.firewall.extraLans.items) (h : lan.enabled = true) :
    lan.interface ∈ innerInterfaces cfg := by
  unfold innerInterfaces
  exact List.mem_append_right _ (mem_segmentInterfaces.mpr ⟨lan, hlan, h, rfl⟩)

theorem writeKnownEndpoint_guard (sources : Operand) (meter : String)
    (he : cfg.wireguard.enabled = true) (hiface : iface = .name cfg.wan.interface ∨ iface = .ppp) :
    Every (Item.AcceptsOnly (ToListener cfg))
      (writeKnownEndpoint iface sources cfg.wireguard.listenPort meter) := by
  have hto : ToListener cfg [.iifname iface, .saddr sources,
      .dport "udp" (.one (.num cfg.wireguard.listenPort))] := by
    refine ⟨he, by simp, ?_⟩
    rcases hiface with rfl | rfl <;> simp
  simp [writeKnownEndpoint, hto]

theorem writeKnownWgPeerEndpointInputRules_guard :
    Every (Item.AcceptsOnly (ToListener cfg)) (writeKnownWgPeerEndpointInputRules cfg) := by
  simp only [writeKnownWgPeerEndpointInputRules, every_ite, every_nil, implies_true, true_and, not_or,
    not_not]
  rintro ⟨-, he⟩
  simp [writeKnownEndpoint_guard _ _ he]

theorem writeWgServerInputRules_guard :
    Every (Item.AcceptsOnly (InputGuard cfg)) (writeWgServerInputRules cfg) := by
  simp only [writeWgServerInputRules, every_ite, every_nil, implies_true, true_and, not_not]
  intro he
  have hto : ∀ iface conds, iface = .name cfg.wan.interface ∨ iface = .ppp → InputGuard cfg
      (.iifname iface :: .dport "udp" (.one (.num cfg.wireguard.listenPort)) :: conds) := by
    rintro iface conds (rfl | rfl) <;> exact .inr (.inl ⟨he, by simp, by simp⟩)
  have hwg : ∀ conds, InputGuard cfg (.iifname (.name cfg.wireguard.interface) :: conds) :=
    fun _ => .inl (entersOn_of_mem (List.mem_cons_of_mem _ (wireguard_mem_home he)))
  simp [hto, hwg]

theorem writeWgClientInputRules_guard :
    Every (Item.AcceptsOnly (InputGuard cfg)) (writeWgClientInputRules cfg) := by
  simp [writeWgClientInputRules]

theorem acceptsOnly_writeCustomRules {P : List Match → Prop} (digest : Json → String)
    (direction action : String) (h : action = "allow" → ∀ conds,
      (direction = "forward" → .oifnameIn [.name cfg.wan.interface, .ppp] ∈ conds) →
        P (.iifname (.name cfg.lan.interface) :: conds)) :
    Every (Item.AcceptsOnly P) (writeCustomRules digest cfg direction action) := by
  simp only [writeCustomRules, writeCustomRule, every_flatMap, every_ite, every_nil, every_cons,
    acceptsOnly_comment, acceptsOnly_ite, implies_true, true_and, and_true, not_or, not_not]
  rintro r - ⟨-, hdirection, haction⟩ - hallow
  refine h hallow _ fun hforward => ?_
  simp [hforward, firewallRuleScope, hdirection, haction, hallow]

theorem writeCustomRules_guard (digest : Json → String) (direction action : String) :
    Every (Item.AcceptsOnly (EntersOn [cfg.lan.interface]))
      (writeCustomRules digest cfg direction action) :=
  acceptsOnly_writeCustomRules digest direction action fun _ _ _ =>
    ⟨_, List.mem_singleton_self _, by simp⟩

theorem writeSquidInput_guard :
    Every (Item.AcceptsOnly (EntersOn [cfg.lan.interface])) (writeSquidInput cfg) := by
  simp [writeSquidInput, EntersOn]

theorem writeLanInput_guard :
    Every (Item.AcceptsOnly (EntersOn [cfg.lan.interface])) (writeLanInput cfg) := by
  simp [writeLanInput, EntersOn]

theorem writeWanAntispoof_guard (wan : String) :
    Every (Item.AcceptsOnly P) (writeWanAntispoof wan) := by
  simp [writeWanAntispoof, antispoof]

theorem InputGuard.of_lan (h : EntersOn [cfg.lan.interface] conds) : InputGuard cfg conds := by
  obtain ⟨n, hn, hmem⟩ := h
  rw [List.mem_singleton.mp hn] at hmem
  exact .inl ⟨_, List.mem_cons_of_mem _ lan_mem_home, hmem⟩

def PingsFrom (nft : Nft) (p : Packet) (lan : ExtraLANConfig) : Prop :=
  lan.enabled = true ∧ p.iif = lan.interface ∧ p.proto = .icmp ∧
    ∃ src dst, p.header = .v4 src dst ∧ nft.contains (.one (.text lan.cidr)) src = true

def InputReason (nft : Nft) (p : Packet) (cfg : SystemConfig) : Prop :=
  Meets nft p (InputGuard cfg) ∨ ∃ lan ∈ cfg.firewall.extraLans.items, PingsFrom nft p lan

theorem writeExtraLanInput_admits :
    AdmitsOnly nft sub p (PingsFrom nft p lan) (writeExtraLanInput lan) := by
  intro d h
  unfold writeExtraLanInput at h
  split at h
  · cases h
  next hsegment =>
  have he : lan.enabled = true := by
    by_contra hne
    exact hsegment (.inl hne)
  simp only [run_cons, run_nil, Item.step_comment, Chain.Outcome.next_andThen,
    Chain.Outcome.andThen_next, step_rule] at h
  split at h
  · cases h
    exact .inl rfl
  · next hinside =>
    split at h
    · next hping =>
      cases h
      simp only [List.forall_mem_cons, List.not_mem_nil, false_implies, implies_true, and_true]
        at hinside hping
      refine .inr ⟨rfl, he, (beq_iff_eq.mp hping.1).symm, ?_⟩
      rcases hheader : p.header with ⟨src, dst⟩ | ⟨src, dst⟩
      · simp only [holds, hheader, Nft.contains_set_singleton, beq_iff_eq] at hinside hping
        exact ⟨hping.2, src, dst, rfl, by simpa [holds, hping.1] using hinside⟩
      · simp [holds, hheader] at hping
    · cases h

theorem inputChain_admits (hsub : ∀ name d, sub name = some d → d = .drop) :
    AdmitsOnly nft sub p (InputReason nft p cfg) (inputChain digest cfg) := by
  have guarded : ∀ {items : List Item}, Every (Item.AcceptsOnly (InputGuard cfg)) items →
      AdmitsOnly nft sub p (InputReason nft p cfg) items := .of_items hsub .inl
  have hlo : InputGuard cfg [.iifname (.name "lo")] := .inl (entersOn_of_mem List.mem_cons_self)
  have hestablished : InputGuard cfg [.ctState [.established, .related]] := .inr (.inr (by simp))
  have hknown : Every (Item.AcceptsOnly (InputGuard cfg)) (writeKnownWgPeerEndpointInputRules cfg) :=
    acceptsOnly_mono writeKnownWgPeerEndpointInputRules_guard fun _ h => .inr (.inl h)
  have of_lan : ∀ {items : List Item}, Every (Item.AcceptsOnly (EntersOn [cfg.lan.interface])) items →
      Every (Item.AcceptsOnly (InputGuard cfg)) items := fun h => acceptsOnly_mono h fun _ => .of_lan
  have hcustom := fun action => of_lan (writeCustomRules_guard digest "input" action)
  -- only an extra network's lines need their order: the accept rests on the drop before it
  refine .append (.append (.append (.append (guarded ?_) (.flatMap fun lan hlan d h => ?_))
    (guarded ?_)) (guarded (hcustom "allow"))) (guarded (by simp))
  · simp [hlo, hestablished, hknown, hcustom, writeWanAntispoof_guard, writeWgServerInputRules_guard,
      writeWgClientInputRules_guard, of_lan writeSquidInput_guard, of_lan writeLanInput_guard]
  · exact (writeExtraLanInput_admits d h).imp_right fun h => ⟨h.1, .inr ⟨lan, hlan, h.2⟩⟩
  · simp [writeWgSourceCheck]

def LeavesHome (cfg : SystemConfig) (conds : List Match) : Prop :=
  oifnameIn [.name cfg.wan.interface, .ppp] ∈ conds ∨
    oifname (.name cfg.wan.interface) ∈ conds ∨ oifname .ppp ∈ conds ∨
    oifname (.name cfg.lan.interface) ∈ conds ∨
    oifname (.name (wgClientInterface cfg)) ∈ conds

def segmentConds (cfg : SystemConfig) (lan : ExtraLANConfig) (src : String) : List Match :=
  [.iifname (.name (extraLanSourceInterface cfg src)), .saddr (.one (.text src)),
    .daddr (.one (.text lan.dstIp)),
    .dport (if lan.protocol = "" then "tcp" else lan.protocol) (.one (.num lan.dstPort)),
    .oifname (.name lan.interface)]

def ToSegment (cfg : SystemConfig) (conds : List Match) : Prop :=
  ∃ lan ∈ cfg.firewall.extraLans.items, lan.enabled = true ∧ ∃ src ∈ lan.allowFrom.items,
    extraLanSourceInterface cfg src ≠ "" ∧ conds = segmentConds cfg lan src

def ForwardGuard (cfg : SystemConfig) (conds : List Match) : Prop :=
  EntersOn (homeInterfaces cfg) conds ∧ LeavesHome cfg conds ∨ ToSegment cfg conds ∨
    ctState [.established, .related] ∈ conds

theorem writeForwardAllows_guard (digest : Json → String) :
    Every (Item.AcceptsOnly (ForwardGuard cfg)) (writeCustomRules digest cfg "forward" "allow") :=
  acceptsOnly_writeCustomRules digest _ _ fun _ _ h =>
    .inl ⟨⟨_, lan_mem_home, by simp⟩, .inl (List.mem_cons_of_mem _ (h rfl))⟩

theorem writeForwardDenies_guard (digest : Json → String) :
    Every (Item.AcceptsOnly (ForwardGuard cfg)) (writeCustomRules digest cfg "forward" "deny") :=
  acceptsOnly_writeCustomRules digest _ _ fun h => absurd h (by decide)

theorem writeExtraLanForwardRules_guard :
    Every (Item.AcceptsOnly (ForwardGuard cfg)) (writeExtraLanForwardRules cfg) := by
  simp only [writeExtraLanForwardRules, writeExtraLanForward, writeExtraLanSource, every_flatMap,
    every_ite, every_append, every_cons, every_nil, acceptsOnly_comment, acceptsOnly_drop,
    acceptsOnly_accept, implies_true, true_and, and_true, not_or, not_not]
  rintro lan hlan ⟨he, -⟩ src hsrc hiface
  exact .inr (.inl ⟨lan, hlan, he, src, hsrc, hiface, rfl⟩)

theorem ForwardGuard.of_leaves (hname : name ∈ homeInterfaces cfg) (hout : LeavesHome cfg [out]) :
    ForwardGuard cfg [.iifname (.name name), out] := by
  refine .inl ⟨entersOn_of_mem hname, ?_⟩
  unfold LeavesHome at hout ⊢
  simp only [List.mem_cons, List.not_mem_nil, or_false] at hout ⊢
  tauto

theorem writeLanForward_guard :
    Every (Item.AcceptsOnly (ForwardGuard cfg)) (writeLanForward cfg) := by
  have hguard : ∀ out, LeavesHome cfg [out] →
      ForwardGuard cfg [.iifname (.name cfg.lan.interface), out] := fun _ => .of_leaves lan_mem_home
  have hwan := hguard (.oifname (.name cfg.wan.interface)) (by simp [LeavesHome])
  have hppp := hguard (.oifname .ppp) (by simp [LeavesHome])
  simp [writeLanForward, hwan, hppp]

theorem writeWgForward_guard :
    Every (Item.AcceptsOnly (ForwardGuard cfg)) (writeWgForward cfg) := by
  simp only [writeWgForward, every_ite, every_nil, implies_true, true_and, not_not]
  intro he
  have hguard : ∀ out, LeavesHome cfg [out] →
      ForwardGuard cfg [.iifname (.name cfg.wireguard.interface), out] :=
    fun _ => .of_leaves (wireguard_mem_home he)
  have hlan := hguard (.oifname (.name cfg.lan.interface)) (by simp [LeavesHome])
  have hwan := hguard (.oifname (.name cfg.wan.interface)) (by simp [LeavesHome])
  have hppp := hguard (.oifname .ppp) (by simp [LeavesHome])
  simp [hlan, hwan, hppp]

theorem writeTunnelPortForwardForward_guard (u : Unicode)
    (hwg : cfg.wireguard.enabled = true → wgServerInterface cfg = cfg.wireguard.interface) :
    Every (Item.AcceptsOnly (ForwardGuard cfg)) (writeTunnelPortForwardForward u cfg) := by
  simp only [writeTunnelPortForwardForward, every_ite, every_nil, implies_true, true_and]
  intro hrules
  have he : cfg.wireguard.enabled = true := by
    by_contra hne
    exact hrules (by simp [enabledTunnelPortForwards, hne])
  have hguard : ∀ out conds, ForwardGuard cfg (.iifname (.name cfg.wireguard.interface) ::
      .oifname (.name cfg.lan.interface) :: out :: conds) :=
    fun _ _ => .inl ⟨entersOn_of_mem (wireguard_mem_home he), by simp [LeavesHome]⟩
  simp [hwg he, hguard]

theorem writeWgClientForwardRules_guard :
    Every (Item.AcceptsOnly (ForwardGuard cfg)) (writeWgClientForwardRules cfg) := by
  have hguard : ∀ name ∈ homeInterfaces cfg, ForwardGuard cfg
      [.iifname (.name name), .oifname (.name (wgClientInterface cfg))] :=
    fun _ h => .of_leaves h (by simp [LeavesHome])
  have hwg : cfg.wireguard.enabled = true → _ := fun he => hguard _ (wireguard_mem_home he)
  simp +contextual [writeWgClientForwardRules, hguard _ lan_mem_home, hwg]

theorem forwardChain_guard (u : Unicode) (digest : Json → String)
    (hwg : cfg.wireguard.enabled = true → wgServerInterface cfg = cfg.wireguard.interface) :
    Every (Item.AcceptsOnly (ForwardGuard cfg)) (forwardChain u digest cfg) := by
  have hestablished : ForwardGuard cfg [.ctState [.established, .related]] := .inr (.inr (by simp))
  unfold forwardChain
  simp [writeRestricted, writeAccountingRules, hestablished, writeWanAntispoof_guard,
    writeForwardDenies_guard, writeForwardAllows_guard, writeExtraLanForwardRules_guard,
    writeLanForward_guard, writeWgForward_guard, writeTunnelPortForwardForward_guard u hwg,
    writeWgClientForwardRules_guard]

theorem wgServerInterface_of_accepted (h : Accepted env cfg)
    (he : (runtime cfg).wireguard.enabled = true) :
    wgServerInterface (runtime cfg) = (runtime cfg).wireguard.interface := by
  rw [runtime_wireguard] at he
  simp [wgServerInterface, h.wireguard_interface he]

theorem onInput_cases : (tableOf tools cfg).onInput nft p = .drop ∨
    (tableOf tools cfg).onInput nft p = .accept ∧ InputReason nft p cfg :=
  (inputChain_admits (sub_eq_drop nft tools cfg p)).verdict rfl

theorem onForward_cases
    (hwg : cfg.wireguard.enabled = true → wgServerInterface cfg = cfg.wireguard.interface) :
    (tableOf tools cfg).onForward nft p = .drop ∨
      (tableOf tools cfg).onForward nft p = .accept ∧ Meets nft p (ForwardGuard cfg) :=
  AdmitsOnly.verdict (.of_items (sub_eq_drop nft tools cfg p) id
    (forwardChain_guard tools.unicode tools.digest hwg)) rfl

theorem not_established {conds : List Match} (hnew : p.ct = .new)
    (hconds : ∀ m ∈ conds, m.holds nft p = true) :
    ctState [.established, .related] ∉ conds := by
  intro hmem
  have hstate := hconds _ hmem
  simp [holds, hnew] at hstate

theorem listener_of_conds (h : ToListener cfg conds) (hconds : ∀ m ∈ conds, m.holds nft p = true) :
    cfg.wireguard.enabled = true ∧ p.proto = .udp ∧ (p.dport : Int) = cfg.wireguard.listenPort ∧
      (p.iif = cfg.wan.interface ∨ startsWith "ppp" p.iif = true) := by
  obtain ⟨he, hport, hiface⟩ := h
  obtain ⟨hproto, hport⟩ := portIn_num.mp (hconds _ hport)
  refine ⟨he, Proto.name_eq_udp hproto, hport, ?_⟩
  rcases hiface with hwan | hppp
  · exact .inl (beq_iff_eq.mp (hconds _ hwan)).symm
  · exact .inr (hconds _ hppp)

theorem onPrerouting_of_not_mem (hwg : cfg.wireguard.enabled = true →
      wgServerInterface cfg = cfg.wireguard.interface) (hiif : p.iif ∉ innerInterfaces cfg) :
    (tableOf tools cfg).onPrerouting nft p = p := by
  have hnext : (tableOf tools cfg).runChain nft p (tableOf tools cfg).prerouting = .next := by
    change run _ (writeTunnelPortForwards tools.unicode cfg) = .next
    unfold writeTunnelPortForwards
    dsimp only
    split
    · rfl
    next hrules =>
    have he : cfg.wireguard.enabled = true := by
      by_contra hne
      exact hrules (by simp [enabledTunnelPortForwards, hne])
    have hne : wgServerInterface cfg ≠ p.iif := fun heq =>
      hiif (by rw [← heq, hwg he]; exact home_subset_inner (List.mem_cons_of_mem _ (wireguard_mem_home he)))
    refine run_eq_next fun item hitem => ?_
    rcases List.mem_append.mp hitem with hcomment | hitem
    · rw [List.mem_singleton.mp hcomment]
      rfl
    obtain ⟨r, -, hitem⟩ := List.mem_flatMap.mp hitem
    obtain ⟨_, -, rfl⟩ := List.mem_map.mp hitem
    exact step_rule_of_not List.mem_cons_self (beq_eq_false_iff_ne.mpr hne)
  unfold Table.onPrerouting
  rw [hnext]
  rfl

theorem extraLanSourceInterface_mem (hlan : cfg.runtimeLanInterface = cfg.lan.interface)
    (h : extraLanSourceInterface cfg src ≠ "") :
    extraLanSourceInterface cfg src ∈ homeInterfaces cfg := by
  unfold extraLanSourceInterface at h ⊢
  split
  · next hnone => simp [hnone] at h
  next src' hsrc =>
  split
  · rw [hlan]
    exact lan_mem_home
  next hlan' =>
  split
  · next hwg => exact wireguard_mem_home hwg.1
  · next hwg => simp [hsrc, hlan', hwg] at h

theorem iif_of_toSegment (hlan : cfg.runtimeLanInterface = cfg.lan.interface)
    (h : ToSegment cfg conds) (hconds : ∀ m ∈ conds, m.holds nft p = true) :
    p.iif ∈ homeInterfaces cfg := by
  obtain ⟨lan, -, -, _, -, hiface, rfl⟩ := h
  exact iif_of_entersOn (entersOn_of_mem (extraLanSourceInterface_mem hlan hiface)) hconds

theorem iif_of_forwardGuard (hnew : p.ct = .new) (h : ForwardGuard (runtime cfg) conds)
    (hconds : ∀ m ∈ conds, m.holds nft p = true) : p.iif ∈ homeInterfaces (runtime cfg) := by
  rcases h with ⟨henters, -⟩ | hsegment | hestablished
  · exact iif_of_entersOn henters hconds
  · exact iif_of_toSegment (by simp) hsegment hconds
  · exact absurd hestablished (not_established hnew hconds)

theorem wan_isolated {previous : Option SystemConfig} {table : Table}
    (hcfg : validateLiveCandidate (releaseRules tools.toPlatform) cfg previous = .ok ())
    (htable : generateNftables tools cfg = .ok table)
    (hnew : p.ct = .new) (hiif : p.iif ∉ innerInterfaces (runtime cfg)) :
    (table.onInput nft p = .accept → cfg.wireguard.enabled = true ∧ p.proto = .udp ∧
        (p.dport : Int) = cfg.wireguard.listenPort ∧
        (p.iif = cfg.wan.interface ∨ startsWith "ppp" p.iif = true)) ∧
      table.onForward nft p ≠ .accept ∧ table.onPrerouting nft p = p := by
  have haccepted := accepted_of_live hcfg
  have hwg := wgServerInterface_of_accepted haccepted
  obtain rfl : tableOf tools (runtime cfg) = table :=
    Except.ok.inj ((nftables_of_accepted haccepted).symm.trans htable)
  have houter : p.iif ∉ "lo" :: homeInterfaces (runtime cfg) := fun h => hiif (home_subset_inner h)
  refine ⟨fun h => ?_, fun h => ?_, onPrerouting_of_not_mem hwg hiif⟩
  · rcases onInput_cases with hdrop | ⟨-, ⟨conds, hguard, hconds⟩ | ⟨_, hlan, he, hiface, -⟩⟩
    · cases hdrop.symm.trans h
    · rcases hguard with henters | hlistener | hestablished
      · exact absurd (iif_of_entersOn henters hconds) houter
      · exact listener_of_conds hlistener hconds
      · exact absurd hestablished (not_established hnew hconds)
    · exact absurd (hiface ▸ extraLan_mem hlan he) hiif
  rcases onForward_cases hwg with hdrop | ⟨-, conds, hguard, hconds⟩
  · cases hdrop.symm.trans h
  · exact houter (List.mem_cons_of_mem _ (iif_of_forwardGuard hnew hguard hconds))

def samplePacket (iif oif : String) (header : Header) (proto : Proto) (dport : Nat) : Packet where
  iif := iif
  oif := oif
  header := header
  proto := proto
  sport := 40000
  dport := dport
  ct := .new
  syn := true
  fibMissing := false
  fromLocal := false
  skuid := ""
  exceeded _ := false
  listed _ := false
  day := 0
  second := 0

theorem wan_isolated_eth0 :
    ∃ table p, generateNftables sampleTools sampleConfig = .ok table ∧ p.iif = "eth0" ∧
      (table.onInput .plain p = .accept → sampleConfig.wireguard.enabled = true ∧ p.proto = .udp ∧
        (p.dport : Int) = sampleConfig.wireguard.listenPort ∧
        (p.iif = sampleConfig.wan.interface ∨ startsWith "ppp" p.iif = true)) ∧
      table.onForward .plain p ≠ .accept ∧ table.onPrerouting .plain p = p := by
  have htable : generateNftables sampleTools sampleConfig = .ok _ :=
    nftables_of_accepted (accepted_of_live live_sampleConfig)
  refine ⟨_, samplePacket "eth0" "" (.v4 0xCB007109#32 0xC0A80101#32) .udp 51820, htable, rfl, ?_⟩
  exact wan_isolated live_sampleConfig htable rfl (by decide)

end MinimalRouter.Firewall
