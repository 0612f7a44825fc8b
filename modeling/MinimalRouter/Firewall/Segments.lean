import Mathlib.Data.List.Nodup
import MinimalRouter.Firewall.Isolation

namespace MinimalRouter.Firewall

open Goish Config Lib

def ruleInterfaces (cfg : SystemConfig) : List String :=
  ["lo", cfg.wan.interface, cfg.runtimeLanInterface, "wg0", wgClientInterface cfg] ++
    segmentInterfaces cfg

structure DistinctInterfaces (cfg : SystemConfig) : Prop where
  nodup : (ruleInterfaces cfg).Nodup
  ppp : ∀ n ∈ ruleInterfaces cfg, startsWith "ppp" n = true → n = cfg.wan.interface

theorem DistinctInterfaces.segment_eq (h : DistinctInterfaces cfg)
    (hlan : lan ∈ cfg.firewall.extraLans.items) (he : lan.enabled = true)
    (hlan' : lan' ∈ cfg.firewall.extraLans.items) (he' : lan'.enabled = true)
    (hname : lan.interface = lan'.interface) : lan = lan' := by
  have hnodup : (segmentInterfaces cfg).Nodup := (List.nodup_append.mp h.nodup).2.1
  exact List.inj_on_of_nodup_map hnodup (List.mem_filter.mpr ⟨hlan, he⟩)
    (List.mem_filter.mpr ⟨hlan', he'⟩) hname

def restrictedInterfaces (cfg : SystemConfig) : List String :=
  wgClientInterface cfg :: segmentInterfaces cfg

theorem DistinctInterfaces.restricted (h : DistinctInterfaces cfg)
    (hn : n ∈ restrictedInterfaces cfg) :
    n ∉ ["lo", cfg.wan.interface, cfg.runtimeLanInterface, "wg0"] ∧ startsWith "ppp" n = false := by
  have hsplit : ruleInterfaces cfg =
      ["lo", cfg.wan.interface, cfg.runtimeLanInterface, "wg0"] ++ restrictedInterfaces cfg := rfl
  have hnodup := h.nodup
  rw [hsplit] at hnodup
  have hother : n ∉ ["lo", cfg.wan.interface, cfg.runtimeLanInterface, "wg0"] := fun hmem =>
    (List.nodup_append.mp hnodup).2.2 n hmem n hn rfl
  refine ⟨hother, ?_⟩
  rw [← Bool.not_eq_true]
  intro hppp
  have hwan := h.ppp n (hsplit ▸ List.mem_append_right _ hn) hppp
  exact hother (by simp [hwan])

theorem DistinctInterfaces.segment_ne_client (h : DistinctInterfaces cfg)
    (hn : n ∈ segmentInterfaces cfg) : n ≠ wgClientInterface cfg := by
  have hnodup := h.nodup
  simp only [ruleInterfaces, List.cons_append, List.nil_append, List.nodup_cons] at hnodup
  rintro rfl
  exact hnodup.2.2.2.2.1 hn

section Reach

/-- The packet may enter the segment: some source that the segment lists contains its own, it came
in on the interface of the home network around that source, and it is addressed as the segment
says. -/
def MayEnter (cfg : SystemConfig) (lan : ExtraLANConfig) (p : Packet) : Prop :=
  ∃ src dst, p.header = .v4 src dst ∧ parseIpv4 lan.dstIp = some dst ∧
    p.proto.name = some (if lan.protocol = "" then "tcp" else lan.protocol) ∧
    (p.dport : Int) = lan.dstPort ∧
    ∃ entry ∈ lan.allowFrom.items, ∃ ip n, parseCidr entry = some (ip, n) ∧
      n.contains (.v4 src) = true ∧
      ∃ address ip' zone, parseCidr address = some (ip', zone) ∧
        (∀ x, n.contains (.v4 x) = true → zone.contains (.v4 x) = true) ∧
        (p.iif = cfg.runtimeLanInterface ∧ address = cfg.lan.cidr ∨
          cfg.wireguard.enabled = true ∧ p.iif = cfg.wireguard.interface ∧
            address = cfg.wireguard.address)

variable {nft : Nft} {p : Packet}

theorem contains_of_trustedIn (h : trustedIn zone src = true) (hbits : src.bits = 32) :
    ∃ z, zone = some z ∧ ∀ x, src.contains (.v4 x) = true → z.contains (.v4 x) = true := by
  obtain ⟨z, rfl, hz⟩ := (Option.any_eq_true _ _).mp h
  rw [Bool.and_eq_true, decide_eq_true_eq] at hz
  obtain ⟨hbase, hones⟩ := hz
  refine ⟨z, rfl, fun x hx => ?_⟩
  rcases z with ⟨zbase | _, zones, zbits⟩
  · rcases src with ⟨base | _, ones, bits⟩
    · obtain rfl : bits = 32 := hbits
      have hle : (IPNet.mk (.v4 zbase) zones zbits).effective ≤ ones := by
        change (if zbits = 128 then zones - 96 else zones) ≤ ones
        dsimp only at hones
        split <;> omega
      exact Block.contains_of_sub (b := ⟨base, ones⟩) hbase hle hx
    · cases hx
  rcases src with ⟨_ | _, ones, bits⟩
  · cases hbase
  · cases hx

theorem source_of_extraLanSourceInterface
    (hiface : extraLanSourceInterface (runtime cfg) entry ≠ "")
    (hiif : p.iif = extraLanSourceInterface (runtime cfg) entry)
    (hsrc : nft.contains (.one (.text entry)) src = true) :
    ∃ ip n, parseCidr entry = some (ip, n) ∧ n.contains (.v4 src) = true ∧
      ∃ address ip' zone, parseCidr address = some (ip', zone) ∧
        (∀ x, n.contains (.v4 x) = true → zone.contains (.v4 x) = true) ∧
        (p.iif = cfg.runtimeLanInterface ∧ address = cfg.lan.cidr ∨
          cfg.wireguard.enabled = true ∧ p.iif = cfg.wireguard.interface ∧
            address = cfg.wireguard.address) := by
  unfold extraLanSourceInterface at hiface hiif
  rw [runtime_lan_cidr, runtime_wireguard, runtime_runtimeLanInterface] at hiface hiif
  rcases hentry : parseCidr entry with _ | ⟨ip, n⟩
  · simp [hentry] at hiface
  simp only [hentry, Option.map_some] at hiface hiif
  obtain ⟨hbits, hn⟩ := Nft.contains_of_parseCidr hentry hsrc
  refine ⟨ip, n, rfl, hn, ?_⟩
  split at hiif
  · next htrusted =>
    obtain ⟨z, hz, hsub⟩ := contains_of_trustedIn htrusted hbits
    obtain ⟨⟨ip', zone⟩, haddress, rfl⟩ := Option.map_eq_some_iff.mp hz
    exact ⟨_, ip', zone, haddress, hsub, .inl ⟨hiif, rfl⟩⟩
  next hlan =>
  split at hiif
  · next htrusted =>
    obtain ⟨z, hz, hsub⟩ := contains_of_trustedIn htrusted.2 hbits
    obtain ⟨⟨ip', zone⟩, haddress, rfl⟩ := Option.map_eq_some_iff.mp hz
    exact ⟨_, ip', zone, haddress, hsub, .inr ⟨htrusted.1, hiif, rfl⟩⟩
  · next hwg => simp [hlan, hwg] at hiface

theorem mayEnter_of_segmentConds (haccepted : Accepted env cfg)
    (hlan : lan ∈ cfg.firewall.extraLans.items) (he : lan.enabled = true)
    (hentry : entry ∈ lan.allowFrom.items)
    (hiface : extraLanSourceInterface (runtime cfg) entry ≠ "")
    (hconds : ∀ m ∈ segmentConds (runtime cfg) lan entry, m.holds nft p = true) :
    MayEnter cfg lan p := by
  simp only [segmentConds, List.forall_mem_cons, List.not_mem_nil, false_implies, implies_true,
    and_true] at hconds
  obtain ⟨hiif, hsaddr, hdaddr, hport, -⟩ := hconds
  obtain ⟨hproto, hport⟩ := portIn_num.mp hport
  obtain ⟨_, hdst'⟩ := (haccepted.extraLan hlan he).dstIp
  rcases hheader : p.header with ⟨src, dst⟩ | ⟨src, dst⟩
  · simp only [Match.holds, hheader] at hsaddr hdaddr
    obtain rfl := Nft.eq_of_contains hdst' hdaddr
    refine ⟨src, dst, hheader, hdst', hproto, hport, entry, hentry, ?_⟩
    exact source_of_extraLanSourceInterface hiface (beq_iff_eq.mp hiif).symm hsaddr
  · simp [Match.holds, hheader] at hsaddr

end Reach

section Isolation

variable {tools : Tools} {nft : Nft}

theorem home_of_accepted (h : Accepted env cfg) (hn : n ∈ "lo" :: homeInterfaces (runtime cfg)) :
    n ∈ ["lo", cfg.wan.interface, cfg.runtimeLanInterface, "wg0"] := by
  rcases List.mem_cons.mp hn with rfl | hn
  · simp
  rcases List.mem_cons.mp hn with rfl | hn
  · simp
  rw [runtime_wireguard] at hn
  split at hn
  · next he =>
    rw [List.mem_singleton.mp hn, h.wireguard_interface he]
    simp
  · cases hn

theorem oif_of_leavesHome (hnames : DistinctInterfaces cfg) (h : LeavesHome (runtime cfg) conds)
    (hconds : ∀ m ∈ conds, m.holds nft p = true) : p.oif ∉ segmentInterfaces cfg := by
  intro hseg
  obtain ⟨hother, hppp⟩ := hnames.restricted (List.mem_cons_of_mem _ hseg)
  have hname : ∀ {n}, Match.oifname (.name n) ∈ conds → n = p.oif := fun hmem =>
    beq_iff_eq.mp (hconds _ hmem)
  rcases h with hwans | hwan | hppp' | hlan | hclient
  · have hwans := hconds _ hwans
    simp only [Match.holds, Iface.covers, List.any_cons, List.any_nil, Bool.or_false, hppp,
      runtime_wan, beq_iff_eq] at hwans
    exact hother (by simp [hwans])
  · exact hother (by simp [← hname hwan])
  · cases hppp.symm.trans (hconds _ hppp')
  · exact hother (by simp [← hname hlan])
  · exact hnames.segment_ne_client hseg (hname hclient).symm

theorem segments_isolated {previous : Option SystemConfig} {table : Table}
    (hcfg : validateLiveCandidate (releaseRules tools.toPlatform) cfg previous = .ok ())
    (htable : generateNftables tools cfg = .ok table)
    (hnames : DistinctInterfaces cfg) (hnew : p.ct = .new) :
    (p.iif ∈ restrictedInterfaces cfg → table.onForward nft p = .drop ∧
      (table.onInput nft p ≠ .drop → table.onInput nft p = .accept ∧
        ∃ lan ∈ cfg.firewall.extraLans.items, lan.enabled = true ∧ p.iif = lan.interface ∧
          p.proto = .icmp ∧ ∃ src dst ip n, p.header = .v4 src dst ∧
            parseCidr lan.cidr = some (ip, n) ∧ n.contains (.v4 src) = true)) ∧
    ∀ lan ∈ cfg.firewall.extraLans.items, lan.enabled = true → p.oif = lan.interface →
      table.onForward nft p ≠ .drop → table.onForward nft p = .accept ∧ MayEnter cfg lan p := by
  have haccepted := accepted_of_live hcfg
  have hwg := wgServerInterface_of_accepted haccepted
  obtain rfl : tableOf tools (runtime cfg) = table :=
    Except.ok.inj ((nftables_of_accepted haccepted).symm.trans htable)
  refine ⟨fun hiif => ?_, fun lan hlan he hoif hne => ?_⟩
  · obtain ⟨hother, hppp⟩ := hnames.restricted hiif
    have houter : p.iif ∉ "lo" :: homeInterfaces (runtime cfg) := fun h =>
      hother (home_of_accepted haccepted h)
    refine ⟨?_, fun hne => ?_⟩
    · rcases onForward_cases hwg with hdrop | ⟨-, conds, hguard, hconds⟩
      · exact hdrop
      · exact absurd (List.mem_cons_of_mem _ (iif_of_forwardGuard hnew hguard hconds)) houter
    obtain ⟨haccept, hreason⟩ := onInput_cases.resolve_left hne
    refine ⟨haccept, ?_⟩
    rcases hreason with ⟨conds, hguard, hconds⟩ | ⟨lan, hlan, he, hiface, hicmp, src, dst, hheader, hsrc⟩
    · rcases hguard with henters | hlistener | hestablished
      · exact absurd (iif_of_entersOn henters hconds) houter
      · rcases (listener_of_conds hlistener hconds).2.2.2 with hwan | hppp'
        · exact absurd (by simp [hwan]) hother
        · cases hppp.symm.trans hppp'
      · exact absurd hestablished (not_established hnew hconds)
    obtain ⟨ip, n, hcidr, -⟩ := (haccepted.extraLan hlan he).network
    exact ⟨lan, hlan, he, hiface, hicmp, src, dst, ip, n, hheader, hcidr,
      (Nft.contains_of_parseCidr hcidr hsrc).2⟩
  obtain ⟨haccept, conds, hguard, hconds⟩ := (onForward_cases hwg).resolve_left hne
  refine ⟨haccept, ?_⟩
  have hseg : p.oif ∈ segmentInterfaces cfg := mem_segmentInterfaces.mpr ⟨lan, hlan, he, hoif.symm⟩
  rcases hguard with ⟨-, hleaves⟩ | ⟨lan', hlan', he', entry, hentry, hiface, rfl⟩ | hestablished
  · exact absurd hseg (oif_of_leavesHome hnames hleaves hconds)
  · have hmem : Match.oifname (.name lan'.interface) ∈ segmentConds (runtime cfg) lan' entry := by
      simp [segmentConds]
    have hout : lan'.interface = p.oif := beq_iff_eq.mp (hconds _ hmem)
    obtain rfl := hnames.segment_eq hlan' he' hlan he (hout.trans hoif)
    exact mayEnter_of_segmentConds haccepted hlan he hentry hiface hconds
  · exact absurd hestablished (not_established hnew hconds)

theorem segments_isolated_cameras :
    ∃ table p, generateNftables sampleTools sampleConfig = .ok table ∧ p.iif = "eth2" ∧
      p.oif = "eth1" ∧ p.ct = .new ∧ table.onForward .plain p = .drop := by
  have htable : generateNftables sampleTools sampleConfig = .ok _ :=
    nftables_of_accepted (accepted_of_live live_sampleConfig)
  refine ⟨_, samplePacket "eth2" "eth1" (.v4 0xC0A8320A#32 0xC0A80132#32) .tcp 445, htable, rfl, rfl,
    rfl, ?_⟩
  have hisolated := @segments_isolated sampleTools .plain sampleConfig _ none _
    live_sampleConfig htable ⟨by decide, by decide⟩
    (rfl : (samplePacket "eth2" "eth1" (.v4 0xC0A8320A#32 0xC0A80132#32) .tcp 445).ct = .new)
  exact (hisolated.1 (by decide)).1

end Isolation

end MinimalRouter.Firewall
