import MinimalRouter.Config.Texts
import MinimalRouter.Firewall.Templates

namespace MinimalRouter.Firewall

open Goish Config Lib Template

inductive Name
  | counter : String → Name
  | set : String → Name
  | chain : String → Name
  deriving DecidableEq

def matchNames : Match → List Name
  | .daddrIn set => [.set set]
  | _ => []

@[simp] def effectNames : Effect → List Name
  | .counter name => name.toList.map .counter
  | .update set _ => [.set set]
  | .clampMss => []

def verdictNames : Verdict → List Name
  | .jump chain => [.chain chain]
  | _ => []

def itemNames : Item → List Name
  | .rule r => r.conds.flatMap matchNames ++ r.effects.flatMap effectNames ++
      r.verdict.toList.flatMap verdictNames
  | _ => []

def Match.Guarded (P : Name → Prop) (m : Match) : Prop :=
  (∀ s ∈ m.template.givens, Plain s) ∧ ∀ n ∈ matchNames m, P n

def Verdict.Guarded (P : Name → Prop) (v : Verdict) : Prop :=
  (∀ s ∈ v.template.givens, Plain s) ∧ ∀ n ∈ verdictNames v, P n

/-- The strings of an item are plain, and the names that it uses are of a kind. -/
def Item.Guarded (P : Name → Prop) : Item → Prop
  | .rule r => (∀ s ∈ r.template.givens, Plain s) ∧ ∀ n ∈ itemNames (.rule r), P n
  | .comment s => Printable s
  | .blank => True

@[simp] theorem guarded_blank : Item.blank.Guarded P := trivial

@[simp] theorem guarded_comment : (Item.comment s).Guarded P ↔ Printable s := Iff.rfl

@[simp] theorem guarded_rule_iff : (Item.rule r).Guarded P ↔
    (∀ m ∈ r.conds, m.Guarded P) ∧ (∀ e ∈ r.effects, ∀ n ∈ effectNames e, P n) ∧
      ∀ v ∈ r.verdict, v.Guarded P := by
  have heffects : (r.effects.map fun e => ([.own e.toText] : Template)).flatMap givens = [] := by
    simp
  unfold Match.Guarded Verdict.Guarded
  change (_ ∧ _) ↔ _
  rw [Rule.template, givens_join, List.flatMap_append, List.flatMap_append, heffects,
    List.append_nil, itemNames]
  simp only [List.forall_mem_append, List.forall_mem_flatMap, List.forall_mem_map, Option.mem_toList,
    Option.mem_def, forall₂_and]
  tauto

@[simp] theorem guarded_rule :
    (rule conds verdict).Guarded P ↔ (∀ m ∈ conds, m.Guarded P) ∧ verdict.Guarded P := by
  rw [rule, guarded_rule_iff]
  simp

theorem guarded_nameless (h : matchNames m = []) :
    m.Guarded P ↔ ∀ s ∈ m.template.givens, Plain s := by
  simp [Match.Guarded, h]

@[simp] theorem guarded_iifname : (Match.iifname (.name n)).Guarded P ↔ Plain n :=
  (guarded_nameless rfl).trans List.forall_mem_singleton

@[simp] theorem guarded_iifname_ppp : (Match.iifname .ppp).Guarded P :=
  (guarded_nameless rfl).mpr (List.forall_mem_nil _)

@[simp] theorem guarded_oifname : (Match.oifname (.name n)).Guarded P ↔ Plain n :=
  (guarded_nameless rfl).trans List.forall_mem_singleton

@[simp] theorem guarded_oifname_ppp : (Match.oifname .ppp).Guarded P :=
  (guarded_nameless rfl).mpr (List.forall_mem_nil _)

@[simp] theorem guarded_oifnameIn_wan : (Match.oifnameIn [.name n, .ppp]).Guarded P ↔ Plain n :=
  (guarded_nameless rfl).trans List.forall_mem_singleton

def Operand.Guarded (o : Operand) : Prop := ∀ s ∈ o.template.givens, Plain s

@[simp] theorem guarded_one_text : (Operand.one (.text s)).Guarded ↔ Plain s :=
  List.forall_mem_singleton

@[simp] theorem guarded_one_net : (Operand.one (.net network)).Guarded :=
  fun _ hs => nomatch hs

theorem guarded_set (h : ∀ s, .text s ∈ as → Plain s) : (Operand.set as).Guarded := by
  intro s hs
  simp only [Operand.template, bracedTemplate, givens_append, givens_own, givens_nil, givens_join,
    List.nil_append, List.append_nil, List.mem_flatMap, List.mem_map] at hs
  obtain ⟨t, ⟨a, ha, rfl⟩, hs⟩ := hs
  cases a with
  | text s' =>
    rw [List.mem_singleton.mp hs]
    exact h s' ha
  | net => cases hs

@[simp] theorem guarded_nets (networks : List IPNet) : (Operand.set (networks.map .net)).Guarded :=
  guarded_set fun s hs => by simp at hs

theorem guarded_texts {texts : List String} (h : ∀ s ∈ texts, Plain s) :
    (Operand.set (texts.map .text)).Guarded :=
  guarded_set fun s hs => by simp_all

@[simp] theorem guarded_saddr : (Match.saddr o).Guarded P ↔ o.Guarded := guarded_nameless rfl

@[simp] theorem guarded_saddrNot : (Match.saddrNot o).Guarded P ↔ o.Guarded := guarded_nameless rfl

@[simp] theorem guarded_daddr : (Match.daddr o).Guarded P ↔ o.Guarded := guarded_nameless rfl

@[simp] theorem guarded_daddrIn : (Match.daddrIn s).Guarded P ↔ Plain s ∧ P (.set s) :=
  and_congr List.forall_mem_singleton List.forall_mem_singleton

@[simp] theorem givens_num (n : Int) : (Ports.one (.num n)).template.givens = [] := rfl

@[simp] theorem givens_port (s : String) : (Ports.one (.text s)).template.givens = [s] := rfl

@[simp] theorem givens_nums (n m : Int) : (Ports.set [.num n, .num m]).template.givens = [] := rfl

@[simp] theorem guarded_dport : (Match.dport s ports).Guarded P ↔
    Plain s ∧ ∀ p ∈ ports.template.givens, Plain p :=
  (guarded_nameless rfl).trans List.forall_mem_cons

@[simp] theorem guarded_sport : (Match.sport s ports).Guarded P ↔
    Plain s ∧ ∀ p ∈ ports.template.givens, Plain p :=
  (guarded_nameless rfl).trans List.forall_mem_cons

@[simp] theorem guarded_word : (Match.word s).Guarded P ↔ Plain s :=
  (guarded_nameless rfl).trans List.forall_mem_singleton

@[simp] theorem guarded_words : Match.icmp.Guarded P ∧ (∀ states, (Match.ctState states).Guarded P) ∧
    Match.fibMissing.Guarded P ∧ Match.fibNotLocal.Guarded P ∧ Match.ipv6.Guarded P ∧
    (∀ user, (Match.skuid user).Guarded P) ∧ Match.synFlag.Guarded P ∧
    (∀ name, (Match.meter name).Guarded P) ∧ (∀ name, (Match.limit name).Guarded P) ∧
    ∀ day, (Match.day day).Guarded P := by
  have hword {m : Match} (hgivens : m.template.givens = []) (hnames : matchNames m = []) :
      m.Guarded P := by simp [Match.Guarded, hgivens, hnames]
  exact ⟨hword rfl rfl, fun _ => hword rfl rfl, hword rfl rfl, hword rfl rfl, hword rfl rfl,
    fun _ => hword rfl rfl, hword rfl rfl, fun _ => hword rfl rfl, fun _ => hword rfl rfl,
    fun _ => hword rfl rfl⟩

@[simp] theorem guarded_verdicts : Verdict.accept.Guarded P ∧ Verdict.drop.Guarded P ∧
    Verdict.ret.Guarded P ∧ Verdict.masquerade.Guarded P ∧
    (∀ chain, (Verdict.jump chain).Guarded P ↔ P (.chain chain)) ∧
    ∀ ip port, (Verdict.dnat ip port).Guarded P ↔ Plain ip := by
  have hword {v : Verdict} (hgivens : v.template.givens = []) (hnames : verdictNames v = []) :
      v.Guarded P := by simp [Verdict.Guarded, hgivens, hnames]
  refine ⟨hword rfl rfl, hword rfl rfl, hword rfl rfl, hword rfl rfl, fun chain => ?_, fun ip port => ?_⟩
  · exact (and_iff_right (List.forall_mem_nil _)).trans List.forall_mem_singleton
  · exact (and_iff_left (List.forall_mem_nil _)).trans List.forall_mem_singleton

@[simp] theorem guarded_hour : (Match.hour s stop).Guarded P ↔ Plain s ∧ Plain stop := by
  rw [guarded_nameless rfl]
  simp [Match.template, quotedTemplate]

abbrev Guards (P : Name → Prop) : List Item → Prop := Every (Item.Guarded P)

/-! The lemmas of the sections of a chain are given to `simp`, which takes the other lines apart; its
discharger checks the fixed texts of the comments. -/

theorem printable_of (h : Printable s) : Printable s := h

structure Declares (P : Name → Prop) (u : Unicode) (digest : Json → String) (cfg : SystemConfig) :
    Prop where
  counter : ∀ name ∈ ruleCounters digest cfg, P (.counter name)
  accounting : (cfg.accounting.enabled && cfg.lan.interface != "") = true →
    P (.set "acct_tx") ∧ P (.set "acct_rx")
  profiles : (activeManagedServices u cfg).isEmpty = false → P (.chain "device_profiles")
  service : ∀ service ∈ activeManagedServices u cfg, P (.set ("svc_" ++ service))

@[simp] theorem plain_tcp : Plain "tcp" := plain_literal rfl

@[simp] theorem plain_udp : Plain "udp" := plain_literal rfl

@[simp] theorem plain_lo : Plain "lo" := plain_literal rfl

theorem plain_wgClientInterface (h : PlainTexts cfg) (he : cfg.wgClient.enabled = true) :
    Plain (wgClientInterface cfg) := by
  unfold wgClientInterface
  split
  · decide
  · exact (h.wgClient he).1

@[simp] theorem printable_append_iff : Printable (s ++ s') ↔ Printable s ∧ Printable s' := by
  simp only [Printable, String.toList_append, List.forall_mem_append]

theorem printable_repr (n : Int) : Printable n.repr := by
  have hnat (k : Nat) : Printable (Nat.repr k) := by
    intro c hc
    rw [Nat.toList_repr] at hc
    have hdigit := Nat.isDigit_of_mem_toDigits (by decide) (by decide) hc
    exact decide_eq_true (Nat.le_trans (by decide : 0x20 ≤ '0'.toNat) (Char.isDigit_iff_toNat.mp hdigit).1)
  cases n with
  | ofNat k => exact hnat k
  | negSucc k => exact printable_append_iff.mpr ⟨by decide, hnat (k + 1)⟩

theorem printable_sanitizeComment (s : String) : Printable (sanitizeComment s) := by
  intro c hc
  rw [sanitizeComment, String.toList_ofList] at hc
  obtain ⟨d, -, rfl⟩ := List.mem_map.mp hc
  split
  · decide
  split
  · decide
  · next hprintable => exact decide_eq_true (Nat.not_lt.mp hprintable)

theorem guarded_selectorConds (h : PlainRule r) : ∀ m ∈ selectorConds r, m.Guarded P := by
  unfold selectorConds
  refine List.forall_mem_append.mpr ⟨?_, ?_⟩
  · split <;> simp [h.srcIp]
  repeat' split
  all_goals simp [h.protocol]

theorem plain_of_extraLanSourceInterface (h : extraLanSourceInterface cfg src ≠ "") :
    Plain src := by
  unfold extraLanSourceInterface at h
  split at h
  next => exact absurd rfl h
  next n hn =>
    obtain ⟨r, hr, -⟩ := Option.map_eq_some_iff.mp hn
    exact plain_of_parseCidr hr

theorem plain_portForwardProtocols (u : Unicode) (protocol : String) :
    ∀ p ∈ portForwardProtocols u protocol, Plain p := by
  unfold portForwardProtocols
  dsimp only
  split
  · decide
  split <;> decide

theorem enabled_of_tunnelPortForwards (h : r ∈ enabledTunnelPortForwards cfg) :
    cfg.wireguard.enabled = true ∧ r ∈ cfg.firewall.portForwards.items := by
  unfold enabledTunnelPortForwards at h
  split at h
  · cases h
  · next he => exact ⟨by simpa using he, (List.mem_filter.mp h).1⟩

theorem guards_wanAntispoof (h : Plain wan) : Guards P (writeWanAntispoof wan) := by
  have hreserved : reservedWanSources.Guarded := guarded_texts (by decide)
  simp [writeWanAntispoof, antispoof, h, hreserved]

theorem plain_lanBroadcastAddress (cidr : String) : Plain (lanBroadcastAddress cidr) := by
  unfold lanBroadcastAddress
  cases ((parseCidr cidr).map (·.2)).bind IPNet.ipv4Broadcast with
  | none => exact plain_empty
  | some x => exact plain_toString (.v4 x)

theorem plainWindows_effective (h : PlainProfile profile) :
    ∀ day ∈ effectiveDayWindows profile.schedule, PlainWindows day.2 :=
  forall_effectiveDayWindows (List.forall_mem_singleton.mpr (by decide)) h.days h.weekdays h.weekend

theorem guards_managedService (hip : Plain ip) (hservice : Plain service)
    (hP : (serviceDomains service).isSome = true → P (.set ("svc_" ++ service)))
    (hdays : ∀ day ∈ dayWindows, PlainWindows day.2) :
    Guards P (writeManagedService ip dayWindows service) := by
  have hset : Plain ("svc_" ++ service) := plain_append (by decide) hservice
  unfold writeManagedService
  refine every_ite.mpr ⟨fun _ => every_nil, fun hdomains => ?_⟩
  rw [Option.isNone_iff_eq_none, ← ne_eq, Option.ne_none_iff_isSome] at hdomains
  refine every_append.mpr ⟨every_flatMap.mpr fun day _ => ?_, ?_⟩
  · refine List.forall_mem_map.mpr fun window hwindow => ?_
    have hwindow : Plain window.start ∧ Plain window.end := by
      cases hlookup : dayWindows.lookup day.1 with
      | none => simp [hlookup] at hwindow
      | some windows =>
        rw [hlookup] at hwindow
        obtain ⟨_, _, heq, -⟩ := List.lookup_eq_some_iff.mp hlookup
        exact hdays (day.1, windows) (by simp [heq]) window hwindow
    have hstop : Plain (if window.end = "23:59" then "23:59:59" else window.end) := by
      split
      · decide
      · exact hwindow.2
    simp [hip, hset, hP hdomains, hwindow.1, hstop]
  · simp [hip, hset, hP hdomains]

theorem mem_services_of_serviceDomains (h : (serviceDomains service).isSome = true) :
    service ∈ supportedProfileServices := by
  obtain ⟨domains, hdomains⟩ := Option.isSome_iff_exists.mp h
  obtain ⟨before, after, heq, -⟩ := List.lookup_eq_some_iff.mp hdomains
  have hmem : service ∈ (before ++ (service, domains) :: after).map Prod.fst := by simp
  rw [← heq] at hmem
  exact hmem

theorem toLower_service (u : Unicode) :
    ∀ service ∈ supportedProfileServices, u.toLower (trim service) = service := by
  simp only [supportedProfileServices, List.forall_mem_cons]
  exact ⟨rfl, rfl, rfl, rfl, rfl, rfl, rfl, rfl, rfl, rfl, rfl, List.forall_mem_nil _⟩

theorem mem_activeManagedServices (hon : cfg.adguard.enabled = true)
    (hprofile : profile ∈ cfg.adguard.deviceProfiles.items) (henabled : profile.enabled = true)
    (hservice : service ∈ profile.services.items)
    (hdomains : (serviceDomains service).isSome = true) :
    service ∈ activeManagedServices u cfg := by
  unfold activeManagedServices
  rw [List.mem_mergeSort, List.mem_eraseDups]
  refine List.mem_filter.mpr ⟨List.mem_flatMap.mpr ⟨profile, ?_, ?_⟩, hdomains⟩
  · exact List.mem_filter.mpr ⟨hprofile, by rw [hon, henabled]; rfl⟩
  · exact List.mem_map.mpr ⟨service, hservice,
      toLower_service u service (mem_services_of_serviceDomains hdomains)⟩

theorem deviceProfilesChain_of_service (h : service ∈ activeManagedServices u cfg) :
    deviceProfilesChain u cfg =
      cfg.adguard.deviceProfiles.items.flatMap writeDeviceProfile ++ [rule [] .ret] := by
  unfold deviceProfilesChain
  rw [if_neg (by simp [List.ne_nil_of_mem h])]

theorem enabled_of_activeManagedServices (h : (activeManagedServices u cfg).isEmpty = false) :
    cfg.adguard.enabled = true := by
  by_contra hoff
  rw [Bool.not_eq_true] at hoff
  simp [activeManagedServices, hoff] at h

section

variable (h : PlainTexts cfg)

include h

theorem guards_knownWgPeerEndpointInputRules :
    Guards P (writeKnownWgPeerEndpointInputRules cfg) := by
  simp (disch := exact printable_literal rfl) [printable_of, writeKnownWgPeerEndpointInputRules,
    writeKnownEndpoint, h.wan]

theorem guards_wgClientInputRules : Guards P (writeWgClientInputRules cfg) := by
  unfold writeWgClientInputRules
  refine every_ite.mpr ⟨fun _ => every_nil, fun he => ?_⟩
  have hiface := plain_wgClientInterface h (by simpa using he)
  dsimp only
  split <;> simp (disch := exact printable_literal rfl) [printable_of, hiface, hiface.printable]

theorem guards_wgClientForwardRules : Guards P (writeWgClientForwardRules cfg) := by
  unfold writeWgClientForwardRules
  refine every_ite.mpr ⟨fun _ => every_nil, fun he => ?_⟩
  have hiface := plain_wgClientInterface h (by simpa using he)
  split
  · next hserver =>
    simp (disch := exact printable_literal rfl) [printable_of, hiface, hiface.printable, h.lan,
      (h.wireguard hserver.1).1]
  · simp (disch := exact printable_literal rfl) [printable_of, hiface, hiface.printable, h.lan]

theorem guards_wgClientOutputRules : Guards P (writeWgClientOutputRules cfg) := by
  unfold writeWgClientOutputRules
  split
  next => exact every_nil
  next host port hsplit =>
  split at hsplit
  next he => simp [h.wan, (h.wgClient he).2 host port hsplit]
  next => cases hsplit

theorem guards_wgServerInputRules : Guards P (writeWgServerInputRules cfg) := by
  unfold writeWgServerInputRules
  refine every_ite.mpr ⟨fun _ => every_nil, fun he => ?_⟩
  obtain ⟨hiface, r, hr⟩ := h.wireguard (by simpa using he)
  simp (disch := exact printable_literal rfl) [printable_of, hr, h.wan, hiface]

theorem guards_wgSourceCheck : Guards P (writeWgSourceCheck cfg) := by
  unfold writeWgSourceCheck
  refine every_ite.mpr ⟨fun _ => every_nil, fun he => ?_⟩
  obtain ⟨hiface, r, hr⟩ := h.wireguard (by simpa using he)
  simp [hr, hiface]

theorem guards_customRules (hP : Declares P u digest cfg)
    (hdirection : Printable direction) (haction : Printable action) :
    Guards P (writeCustomRules digest cfg direction action) := by
  refine every_flatMap.mpr fun r hr => ?_
  have hconds : ∀ m ∈ selectorConds r, m.Guarded P := guarded_selectorConds (h.rules r hr)
  unfold writeCustomRule
  dsimp only
  split
  · exact every_nil
  next hwritten =>
  split
  · exact every_nil
  next hscope =>
    simp only [not_or, not_not] at hwritten
    have hcounter : firewallRuleCounter digest r ∈ ruleCounters digest cfg := by
      unfold ruleCounters
      rw [List.mem_eraseDups]
      refine List.mem_map_of_mem (List.mem_filter.mpr ⟨hr, ?_⟩)
      simp only [hwritten.1, hwritten.2.1, Bool.true_and, Bool.or_eq_true, bne_iff_ne]
      tauto
    refine List.forall_mem_cons.mpr ⟨?_, List.forall_mem_singleton.mpr
      (guarded_rule_iff.mpr ⟨?_, ?_, ?_⟩)⟩
    · simp (disch := exact printable_literal rfl) [printable_of, hdirection, haction,
        printable_sanitizeComment]
    · refine List.forall_mem_append.mpr ⟨List.forall_mem_append.mpr ⟨?_, hconds⟩, ?_⟩
      · simp [h.lan]
      · split <;> simp [h.wan]
    · simpa using hP.counter _ hcounter
    · by_cases hallow : action = "allow" <;> simp [hallow]

theorem guards_extraLanInputRules : Guards P (writeExtraLanInputRules cfg) := by
  refine every_flatMap.mpr fun lan hlan => ?_
  unfold writeExtraLanInput
  refine every_ite.mpr ⟨fun _ => every_nil, fun hwritten => ?_⟩
  rw [not_or, not_not] at hwritten
  have hsegment := h.segments lan hlan hwritten.1
  have hcidr : (Operand.set [.text lan.cidr]).Guarded :=
    guarded_texts (List.forall_mem_singleton.mpr hsegment.cidr)
  simp (disch := exact printable_literal rfl) [printable_of, hsegment.interface,
    hsegment.interface.printable, printable_sanitizeComment, hcidr]

theorem plain_extraLanSourceInterface (src : String) : Plain (extraLanSourceInterface cfg src) := by
  unfold extraLanSourceInterface
  split
  · decide
  split
  · unfold SystemConfig.runtimeLanInterface
    split
    · decide
    · exact h.lan
  split
  · next hserver => exact (h.wireguard hserver.1).1
  · decide

theorem guards_extraLanForwardRules : Guards P (writeExtraLanForwardRules cfg) := by
  refine every_flatMap.mpr fun lan hlan => ?_
  unfold writeExtraLanForward
  refine every_ite.mpr ⟨fun _ => every_nil, fun hwritten => ?_⟩
  rw [not_or, not_not] at hwritten
  have hsegment := h.segments lan hlan hwritten.1
  refine every_append.mpr ⟨?_, every_flatMap.mpr fun src hsrc => ?_⟩
  · simp (disch := exact printable_literal rfl) [printable_of, hsegment.interface, hsegment.cidr,
      hsegment.interface.printable, hsegment.cidr.printable, hsegment.dstIp.printable,
      printable_sanitizeComment, printable_repr]
  unfold writeExtraLanSource
  refine every_ite.mpr ⟨fun _ => every_nil, fun hiface => ?_⟩
  have hproto : Plain (if lan.protocol = "" then "tcp" else lan.protocol) := by
    split
    · exact plain_tcp
    · exact hsegment.protocol
  simp [plain_extraLanSourceInterface h, plain_of_extraLanSourceInterface hiface, hsegment.dstIp,
    hproto, hsegment.interface]

theorem plain_wgServerInterface (he : cfg.wireguard.enabled = true) :
    Plain (wgServerInterface cfg) := by
  unfold wgServerInterface
  split
  · decide
  · exact (h.wireguard he).1

theorem guards_tunnelPortForwards (u : Unicode) : Guards P (writeTunnelPortForwards u cfg) := by
  unfold writeTunnelPortForwards
  simp (disch := exact printable_literal rfl) only [printable_of, every_ite, every_append,
    every_cons, guarded_comment, every_flatMap, every_map, every_nil, and_self, true_and,
    implies_true]
  intro _ r hr protocol hprotocol
  obtain ⟨he, hr⟩ := enabled_of_tunnelPortForwards hr
  simp [plain_wgServerInterface h he, plain_portForwardProtocols u _ protocol hprotocol,
    h.forwards r hr]

theorem guards_tunnelPortForwardForward (u : Unicode) :
    Guards P (writeTunnelPortForwardForward u cfg) := by
  unfold writeTunnelPortForwardForward
  simp (disch := exact printable_literal rfl) only [printable_of, every_ite, every_append,
    every_cons, guarded_comment, guarded_blank, every_flatMap, every_map, every_nil, and_self,
    true_and, and_true, implies_true]
  intro _ r hr protocol hprotocol
  obtain ⟨he, hr⟩ := enabled_of_tunnelPortForwards hr
  simp [plain_wgServerInterface h he, plain_portForwardProtocols u _ protocol hprotocol, h.lan,
    h.forwards r hr]

theorem guards_squidInput : Guards P (writeSquidInput cfg) := by
  simp (disch := exact printable_literal rfl) [printable_of, writeSquidInput, h.lan,
    h.lan.printable, printable_repr]

theorem guards_lanInput : Guards P (writeLanInput cfg) := by
  simp (disch := exact printable_literal rfl) [printable_of, writeLanInput, h.lan, h.lan.printable]

theorem guards_inputChain (hP : Declares P u digest cfg) : Guards P (inputChain digest cfg) := by
  have hlan : (Operand.set [.text "0.0.0.0", .text cfg.lan.cidr]).Guarded :=
    guarded_texts (List.forall_mem_cons.mpr ⟨plain_literal rfl, List.forall_mem_singleton.mpr h.lanCidr⟩)
  have hcustom : ∀ action, Printable action → Guards P (writeCustomRules digest cfg "input" action) :=
    fun action => guards_customRules h hP (printable_literal rfl)
  unfold inputChain
  simp (disch := exact printable_literal rfl) only [printable_of, every_append,
    every_ite, every_cons, guarded_comment, hcustom, guards_knownWgPeerEndpointInputRules h,
    guards_wanAntispoof h.wan, guards_wgServerInputRules h, guards_wgClientInputRules h,
    guards_squidInput h, guards_lanInput h, guards_extraLanInputRules h, guards_wgSourceCheck h]
  simp [h.lan, hlan]

theorem guards_restricted : Guards P (writeRestricted cfg) := by
  simp (disch := exact printable_literal rfl) [printable_of, writeRestricted]
  exact fun _ _ item hitem _ _ => plain_trim (h.restricted item hitem)

theorem guards_accountingRules (hP : Declares P u digest cfg) :
    Guards P (writeAccountingRules cfg) := by
  unfold writeAccountingRules
  refine every_ite.mpr ⟨fun _ => every_nil, fun hon => ?_⟩
  obtain ⟨htx, hrx⟩ := hP.accounting (by simpa [not_or] using hon)
  simp (disch := exact printable_literal rfl) [printable_of, h.lan, htx, hrx]

theorem guards_lanForward : Guards P (writeLanForward cfg) := by
  simp (disch := exact printable_literal rfl) [printable_of, writeLanForward, h.lan, h.wan,
    h.lan.printable]

theorem guards_wgForward : Guards P (writeWgForward cfg) := by
  unfold writeWgForward
  refine every_ite.mpr ⟨fun _ => every_nil, fun he => ?_⟩
  have hiface := (h.wireguard (by simpa using he)).1
  simp (disch := exact printable_literal rfl) [printable_of, hiface, h.lan, h.wan]

theorem guards_forwardChain (hP : Declares P u digest cfg) :
    Guards P (forwardChain u digest cfg) := by
  have hcustom : ∀ action, Printable action →
      Guards P (writeCustomRules digest cfg "forward" action) :=
    fun action => guards_customRules h hP (printable_literal rfl)
  have hprofiles : ¬(activeManagedServices u cfg).isEmpty = true → P (.chain "device_profiles") :=
    fun hsome => hP.profiles (Bool.not_eq_true _ ▸ hsome)
  unfold forwardChain
  simp (disch := exact printable_literal rfl) only [printable_of, every_append,
    every_ite, every_cons, guarded_comment, hcustom, guards_wanAntispoof h.wan,
    guards_restricted h, guards_accountingRules h hP, guards_extraLanForwardRules h,
    guards_lanForward h, guards_wgForward h, guards_tunnelPortForwardForward h u,
    guards_wgClientForwardRules h]
  simpa [h.lan, h.lanCidr] using hprofiles

theorem guards_squidIsolation : Guards P (writeSquidIsolation cfg) := by
  have hserver : cfg.wireguard.enabled = true → Plain cfg.wireguard.interface :=
    fun he => (h.wireguard he).1
  have hsegment : ∀ lan ∈ cfg.firewall.extraLans.items, lan.enabled = true → Plain lan.interface :=
    fun lan hlan hon => (h.segments lan hlan hon).interface
  simp +contextual [writeSquidIsolation, h.lan, hserver, plain_wgClientInterface h, hsegment]

theorem guards_wanEgress (hports : ports.template.givens = [])
    (users : List String) : Guards P (writeWanEgress cfg users ports) := by
  simp [writeWanEgress, h.wan, hports]

theorem guards_wakeOnLan : Guards P (writeWakeOnLan cfg) := by
  simp (disch := exact printable_literal rfl) [printable_of, writeWakeOnLan, h.lan,
    plain_lanBroadcastAddress]

theorem guards_serviceReplies : Guards P (writeServiceReplies cfg) := by
  have hserver : cfg.wireguard.enabled = true → Plain cfg.wireguard.interface :=
    fun he => (h.wireguard he).1
  simp +contextual [writeServiceReplies, h.lan, hserver]

theorem guards_outputChain : Guards P (outputChain cfg) := by
  have hservers := guarded_texts h.dnsServers
  unfold outputChain
  simp (disch := exact printable_literal rfl) only [printable_of, every_append,
    every_ite, every_cons, guarded_comment, printable_append_iff, guards_squidIsolation h,
    guards_serviceReplies h, guards_wgClientOutputRules h, guards_wanEgress h (givens_num _),
    guards_wanEgress h (givens_nums _ _), guards_wakeOnLan h]
  simp [h.wan, hservers]

theorem guards_postroutingChain : Guards P (postroutingChain cfg) := by
  simp (disch := exact printable_literal rfl) [printable_of, postroutingChain, h.wan]
  exact fun he => plain_wgClientInterface h he

theorem guards_deviceProfilesChain (hP : Declares P u digest cfg) :
    Guards P (deviceProfilesChain u cfg) := by
  unfold deviceProfilesChain
  refine every_ite.mpr ⟨fun _ => every_nil, fun hsome => ?_⟩
  have hon := enabled_of_activeManagedServices (Bool.not_eq_true _ ▸ hsome)
  refine every_append.mpr ⟨every_flatMap.mpr fun profile hmem => ?_, by simp⟩
  have hprofile := h.profiles profile hmem
  unfold writeDeviceProfile
  refine every_ite.mpr ⟨fun _ => every_nil, fun henabled => ?_⟩
  rw [not_not] at henabled
  refine every_append.mpr ⟨?_, every_flatMap.mpr fun ip hip => ?_⟩
  · simp (disch := exact printable_literal rfl) [printable_of, hprofile.name]
  have hip := hprofile.addresses ip hip
  refine every_append.mpr ⟨by simp [hip], every_flatMap.mpr fun service hservice => ?_⟩
  exact guards_managedService hip (hprofile.services service hservice)
    (fun hdomains => hP.service _ (mem_activeManagedServices hon hmem henabled hservice hdomains))
    (plainWindows_effective hprofile)

theorem guards_tableOf (hP : Declares P tools.unicode tools.digest cfg) :
    Guards P (tableOf tools cfg).deviceProfiles ∧ Guards P (tableOf tools cfg).input ∧
      Guards P (tableOf tools cfg).forward ∧ Guards P (tableOf tools cfg).output ∧
      Guards P (tableOf tools cfg).prerouting ∧ Guards P (tableOf tools cfg).postrouting :=
  ⟨guards_deviceProfilesChain h hP, guards_inputChain h hP, guards_forwardChain h hP,
    guards_outputChain h, guards_tunnelPortForwards h tools.unicode, guards_postroutingChain h⟩

end

theorem plain_of_serviceDomains (h : (serviceDomains service).isSome = true) : Plain service :=
  Config.Accepted.plain_services service (mem_services_of_serviceDomains h)

def commentLine (s : String) : Template := [.own "    # ", .given s]

/-- The strings of a line are plain, unless it is a comment, which ends with its line. -/
def GuardedLine (line : Template) : Prop :=
  line.Confined plainChar ∨ ∃ s, line = commentLine s ∧ line.Confined printableChar

theorem guardedLine_of_item {item : Item} (h : item.Guarded P) : GuardedLine item.template := by
  cases item with
  | rule => exact .inl (confined_iff.mpr h.1)
  | comment s => exact .inr ⟨s, rfl, confined_iff.mpr (List.forall_mem_singleton.mpr h)⟩
  | blank => exact .inl (confined_iff.mpr (List.forall_mem_nil _))

theorem plain_activeManagedServices : ∀ service ∈ activeManagedServices u cfg, Plain service := by
  intro service hservice
  unfold activeManagedServices at hservice
  rw [List.mem_mergeSort, List.mem_eraseDups] at hservice
  exact plain_of_serviceDomains (List.mem_filter.mp hservice).2

theorem guardedLines_own (lines : List String) : Every GuardedLine (ownLines lines) :=
  List.forall_mem_map.mpr fun _ _ => .inl (confined_iff.mpr (List.forall_mem_nil _))

theorem guardedLines_items (h : Guards P items) : Every GuardedLine (items.map Item.template) :=
  List.forall_mem_map.mpr fun item hitem => guardedLine_of_item (h item hitem)

theorem guardedLines_base (h : Guards P items) (name declaration : String) :
    Every GuardedLine (baseTemplates name declaration items) := by
  simp only [baseTemplates, every_append, guardedLines_own, guardedLines_items h, and_self]

theorem guardedLine_tableOf (h : PlainTexts cfg) (tools : Tools) :
    Every GuardedLine (tableOf tools cfg).templates := by
  have hP : Declares (fun _ => True) tools.unicode tools.digest cfg :=
    ⟨fun _ _ => trivial, fun _ => ⟨trivial, trivial⟩, fun _ => trivial, fun _ _ => trivial⟩
  obtain ⟨hdevices, hinput, hforward, houtput, hforwards, hpost⟩ := guards_tableOf h hP
  have hprofiles : Every GuardedLine (deviceProfileTemplates (tableOf tools cfg)) := by
    unfold deviceProfileTemplates
    split
    · exact every_nil
    simp only [regularTemplates, every_append, guardedLines_own,
      guardedLines_items hdevices, true_and, and_true]
    refine List.forall_mem_map.mpr fun service hservice => .inl (confined_iff.mpr ?_)
    exact List.forall_mem_singleton.mpr (plain_activeManagedServices service hservice)
  have hpre : Every GuardedLine (if (tableOf tools cfg).prerouting.isEmpty then []
      else baseTemplates "prerouting" "nat hook prerouting priority dstnat; policy accept"
        (tableOf tools cfg).prerouting ++ ownLines [""]) := by
    split
    · exact List.forall_mem_nil _
    · exact every_append.mpr ⟨guardedLines_base hforwards _ _, guardedLines_own _⟩
  simp only [Table.templates, every_append, guardedLines_own, hprofiles, hpre,
    guardedLines_base hinput, guardedLines_base hforward, guardedLines_base houtput,
    guardedLines_base hpost, and_self]

theorem plainTexts_runtime (h : PlainTexts cfg) : PlainTexts (runtime cfg) :=
  { h with
    lan := by
      rw [runtime_lan_interface]
      unfold SystemConfig.runtimeLanInterface
      split
      · decide
      · exact h.lan }

end MinimalRouter.Firewall
