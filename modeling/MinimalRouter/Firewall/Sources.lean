import MinimalRouter.Config.Disjoint
import MinimalRouter.Firewall.Generate

namespace MinimalRouter.Firewall

open Goish Config Lib Lib.Checks

variable {c : SystemConfig}

/-- The networks that a source may belong to, with the interfaces that carry them. -/
def sourceZones (c : SystemConfig) : List (IPNet × String) :=
  (c.lanNetwork.toList.map fun n => (n, c.runtimeLanInterface)) ++
    c.wireguardServerNetwork.toList.map fun n => (n, c.wireguard.interface)

/-- The rules that are written for a source are one, for the interface that carries the network
around it. -/
def Admitted (c : SystemConfig) (lan : ExtraLANConfig) (src : String) (items : List Item) : Prop :=
  ∃ ip n zone iface, parseCidr (trim src) = some (ip, n) ∧ n.ip.to4.isSome = true ∧
    (zone, iface) ∈ sourceZones c ∧
    (∀ x, n.contains (.v4 x) = true → zone.contains (.v4 x) = true) ∧
    items = [rule [.iifname (.name iface), .saddr (.one (.text src)),
      .daddr (.one (.text lan.dstIp)),
      .dport (if lan.protocol = "" then "tcp" else lan.protocol) (.one (.num lan.dstPort)),
      .oifname (.name lan.interface)] .accept]

/-- A source without white space around it, which stands for an IPv4 network whose prefix, among the
bits of an IPv4 address, is at least as long as that of the zone it begins in. -/
def Narrow (c : SystemConfig) (src : String) : Prop :=
  trim src = src ∧ ∃ ip n, parseCidr src = some (ip, n) ∧ n.ip.to4.isSome = true ∧
    ∀ z ∈ sourceZones c, z.1.contains n.ip = true → z.1.effective ≤ n.effective

theorem mem_sourceZones : z ∈ sourceZones c ↔
    c.lanNetwork = some z.1 ∧ z.2 = c.runtimeLanInterface ∨
      c.wireguardServerNetwork = some z.1 ∧ z.2 = c.wireguard.interface := by
  obtain ⟨n, _⟩ := z
  simp only [sourceZones, List.mem_append, List.mem_map, Option.mem_toList,
    Prod.mk.injEq]
  constructor
  · rintro (⟨m, hm, rfl, rfl⟩ | ⟨m, hm, rfl, rfl⟩)
    · exact .inl ⟨hm, rfl⟩
    · exact .inr ⟨hm, rfl⟩
  rintro (⟨hm, rfl⟩ | ⟨hm, rfl⟩)
  · exact .inl ⟨n, hm, rfl, rfl⟩
  · exact .inr ⟨n, hm, rfl, rfl⟩

theorem exists_v4 {n : IPNet} (h : n.ip.to4.isSome = true) : ∃ base, n.ip = .v4 base := by
  cases hip : n.ip with
  | v4 base => exact ⟨base, rfl⟩
  | v6 =>
    rw [hip] at h
    cases h

theorem zone_parsed (h : z ∈ sourceZones c) : ∃ text ip, parseCidr text = some (ip, z.1) := by
  rcases mem_sourceZones.mp h with ⟨hn, -⟩ | ⟨hn, -⟩
  · exact ⟨_, Accepted.lanNetwork_parsed hn⟩
  · exact ⟨_, (Accepted.server_parsed hn).2⟩

theorem eq_of_mem_sourceZones (h : Accepted env c) (hz : z ∈ sourceZones c)
    (hz' : z' ∈ sourceZones c) (hx : z.1.contains (.v4 x) = true)
    (hx' : z'.1.contains (.v4 x) = true) : z = z' := by
  have happart {n n' : IPNet} (hn : c.lanNetwork = some n) (hn' : c.wireguardServerNetwork = some n')
      (hx : n.contains (.v4 x) = true) : n'.contains (.v4 x) = false := by
    obtain ⟨hon, _, hparse⟩ := Accepted.server_parsed hn'
    exact h.server_apart hon hn hparse x hx
  rcases mem_sourceZones.mp hz with ⟨hn, hi⟩ | ⟨hn, hi⟩ <;>
    rcases mem_sourceZones.mp hz' with ⟨hn', hi'⟩ | ⟨hn', hi'⟩
  · exact Prod.ext (Option.some.inj (hn.symm.trans hn')) (hi.trans hi'.symm)
  · cases (happart hn hn' hx).symm.trans hx'
  · cases (happart hn' hn hx').symm.trans hx
  · exact Prod.ext (Option.some.inj (hn.symm.trans hn')) (hi.trans hi'.symm)

theorem sub_iff_effective {base : BitVec 32} (hn : parseCidr s = some (ip, n))
    (hzone : parseCidr s' = some (ip', zone)) (hbase : n.ip = .v4 base)
    (hin : zone.contains n.ip = true) :
    (∀ x, n.contains (.v4 x) = true → zone.contains (.v4 x) = true) ↔
      zone.effective ≤ n.effective := by
  rw [hbase] at hin
  obtain ⟨first, hfirst, hin⟩ := base_of_contains hin
  obtain ⟨x, -, hmask, hle, -⟩ := parseCidr_of_v4 hn hbase
  obtain ⟨y, -, hmask', hle', -⟩ := parseCidr_of_v4 hzone hfirst
  have haligned : (Block.mk base n.effective).Aligned := hmask ▸ Block.aligned_mask _ x
  have haligned' : (Block.mk first zone.effective).Aligned := hmask' ▸ Block.aligned_mask _ y
  simp only [contains_of_base hbase, contains_of_base hfirst]
  constructor
  · exact fun hsub => haligned.ones_le haligned' hle hsub hle'
  · exact fun hones x hx => Block.contains_of_sub (b := ⟨base, n.effective⟩) hin hones hx

theorem trusted_of_allowFromErrors (h : allowFromErrors c field seen entries = [])
    (hsrc : src ∈ entries) :
    ∃ ip n, parseCidr (trim src) = some (ip, n) ∧ (trustedIn c.lanNetwork n = true ∨
      c.wireguard.enabled = true ∧
        trustedIn ((parseCidr c.wireguard.address).map (·.2)) n = true) := by
  induction entries generalizing seen with
  | nil => cases hsrc
  | cons entry entries ih =>
  unfold allowFromErrors at h
  dsimp only at h
  generalize hserver : (if c.wireguard.enabled = true then _ else _) = server at h
  split at h
  next => cases h
  next ip n hparse =>
  split at h
  next => cases h
  next htrusted =>
  split at h
  next => cases h
  next =>
  rcases List.mem_cons.mp hsrc with rfl | hsrc
  · refine ⟨ip, n, hparse, ?_⟩
    rw [not_and_or, not_not, not_not, ← hserver] at htrusted
    refine htrusted.imp_right fun htrusted => ?_
    split at htrusted
    next hon => exact ⟨hon, htrusted⟩
    next => cases htrusted
  · exact ih h hsrc

theorem trusted_source (h : Accepted env c) (hlan : lan ∈ c.firewall.extraLans.items)
    (he : lan.enabled = true) (hsrc : src ∈ lan.allowFrom.items) :
    ∃ ip n, parseCidr (trim src) = some (ip, n) ∧ (trustedIn c.lanNetwork n = true ∨
      c.wireguard.enabled = true ∧
        trustedIn ((parseCidr c.wireguard.address).map (·.2)) n = true) := by
  obtain ⟨s, i, hi⟩ := eachFrom_eq_nil h.valid.extraLans hlan
  unfold extraLanErrors at hi
  simp only [he, not_true_eq_false, if_false, List.append_eq_nil_iff] at hi
  exact trusted_of_allowFromErrors hi.2 hsrc

theorem parsed_lan (h : Accepted env c) : (parseCidr c.lan.cidr).map (·.2) = c.lanNetwork := by
  obtain ⟨-, _, -, hnetwork, -⟩ := h.lan_address
  obtain ⟨_, hparse⟩ := Accepted.lanNetwork_parsed hnetwork
  rw [hparse, hnetwork]
  rfl

theorem parsed_server (he : c.wireguard.enabled = true) :
    (parseCidr c.wireguard.address).map (·.2) = c.wireguardServerNetwork := by
  unfold SystemConfig.wireguardServerNetwork
  by_cases hempty : c.wireguard.address = ""
  · rw [hempty]
    simp [show parseCidr "" = none from rfl]
  · rw [if_neg (by simp [he, hempty])]

theorem zone_of_trusted (h : Accepted env c) (hparse : parseCidr src = some (ip, n))
    (htrusted : trustedIn c.lanNetwork n = true ∨ c.wireguard.enabled = true ∧
      trustedIn ((parseCidr c.wireguard.address).map (·.2)) n = true) :
    ∃ z ∈ sourceZones c, z.1.contains n.ip = true ∧ z.2 ≠ "" ∧
      extraLanSourceInterface (runtime c) src = z.2 := by
  unfold extraLanSourceInterface
  rw [hparse, runtime_lan_cidr, runtime_wireguard, runtime_runtimeLanInterface, parsed_lan h]
  dsimp only [Option.map_some]
  split
  next hlan =>
    obtain ⟨zone, hzone, hin⟩ := (Option.any_eq_true _ _).mp hlan
    exact ⟨(zone, _), mem_sourceZones.mpr (.inl ⟨hzone, rfl⟩), (Bool.and_eq_true_iff.mp hin).1,
      h.runtimeLanInterface_ne_empty, rfl⟩
  next hlan =>
  obtain ⟨hon, hserver⟩ := htrusted.resolve_left hlan
  rw [if_pos ⟨hon, hserver⟩]
  obtain ⟨zone, hzone, hin⟩ := (Option.any_eq_true _ _).mp hserver
  refine ⟨(zone, _), mem_sourceZones.mpr (.inr ⟨parsed_server hon ▸ hzone, rfl⟩),
    (Bool.and_eq_true_iff.mp hin).1, ?_, rfl⟩
  change c.wireguard.interface ≠ ""
  rw [h.wireguard_interface hon]
  decide

theorem parsed_of_writeExtraLanSource
    (h : writeExtraLanSource (runtime c) lan src = item :: items) :
    (parseCidr src).isSome = true ∧ trim src = src := by
  cases hparse : parseCidr src with
  | some => exact ⟨rfl, trim_of_parseCidr hparse⟩
  | none =>
    rw [writeExtraLanSource, extraLanSourceInterface, hparse] at h
    cases h

theorem admitted_iff_narrow (h : Accepted env c) (hlan : lan ∈ c.firewall.extraLans.items)
    (he : lan.enabled = true) (hsrc : src ∈ lan.allowFrom.items) :
    Admitted c lan src (writeExtraLanSource (runtime c) lan src) ↔ Narrow c src := by
  obtain ⟨ip, n, hparse, htrusted⟩ := trusted_source h hlan he hsrc
  constructor
  · rintro ⟨ip', n', _, _, hparse', hv4, hzone, hsub, hitems⟩
    obtain ⟨-, htrim⟩ := parsed_of_writeExtraLanSource hitems
    rw [htrim] at hparse hparse'
    obtain ⟨rfl, rfl⟩ := Prod.mk.inj (Option.some.inj (hparse.symm.trans hparse'))
    refine ⟨htrim, ip, n, hparse, hv4, fun z hz hin => ?_⟩
    obtain ⟨base, hbase⟩ := exists_v4 hv4
    have hin' : z.1.contains (.v4 base) = true := hbase ▸ hin
    have hown : n.contains (.v4 base) = true := by
      rw [contains_of_base hbase]
      exact Block.contains_base _
    obtain rfl := eq_of_mem_sourceZones h hz hzone hin' (hsub base hown)
    obtain ⟨text, ip', hparsed⟩ := zone_parsed hz
    exact (sub_iff_effective hparse hparsed hbase hin).mp hsub
  rintro ⟨htrim, ip', n', hparse', hv4, hnarrow⟩
  rw [htrim] at hparse
  obtain ⟨rfl, rfl⟩ := Prod.mk.inj (Option.some.inj (hparse.symm.trans hparse'))
  obtain ⟨z, hz, hin, hne, hiface⟩ := zone_of_trusted h hparse htrusted
  obtain ⟨text, ip', hzone⟩ := zone_parsed hz
  obtain ⟨base, hbase⟩ := exists_v4 hv4
  have hsub := (sub_iff_effective hparse hzone hbase hin).mpr (hnarrow z hz hin)
  refine ⟨ip, n, z.1, z.2, htrim.symm ▸ hparse, hv4, hz, hsub, ?_⟩
  rw [writeExtraLanSource, hiface]
  exact if_neg hne

theorem infix_flatMap {α β : Type} {x : α} {xs : List α} (f : α → List β) (h : x ∈ xs) :
    f x <:+: xs.flatMap f := by
  obtain ⟨as, bs, rfl⟩ := List.append_of_mem h
  exact ⟨as.flatMap f, bs.flatMap f, by simp⟩

theorem forwardRules_infix : writeExtraLanForwardRules cfg <:+: forwardChain u digest cfg := by
  have hstep {xs ys zs : List Item} (h : xs <:+: ys) : xs <:+: ys ++ zs :=
    h.trans (List.prefix_append ys zs).isInfix
  unfold forwardChain
  exact hstep (hstep (hstep (hstep (List.suffix_append _ _).isInfix)))

theorem source_infix_forward (h : Accepted.CheckedSegment c lan)
    (hlan : lan ∈ c.firewall.extraLans.items) (he : lan.enabled = true)
    (hsrc : src ∈ lan.allowFrom.items) :
    writeExtraLanSource (runtime c) lan src <:+: (tableOf tools (runtime c)).forward := by
  obtain ⟨_, n, hcidr, -⟩ := h.network
  obtain ⟨_, hdst⟩ := h.dstIp
  have hwritten : writeExtraLanSource (runtime c) lan src <:+:
      writeExtraLanForward (runtime c) lan := by
    have hcidr' : lan.cidr ≠ "" := by
      rintro hempty
      rw [hempty] at hcidr
      cases hcidr
    have hdst' : lan.dstIp ≠ "" := by
      rintro hempty
      rw [hempty] at hdst
      cases hdst
    have hname : lan.interface ≠ "" := ne_empty_of_validInterfaceName h.interface.valid
    rw [writeExtraLanForward, if_neg (by simp [he, hcidr', hdst', hname])]
    exact (infix_flatMap _ hsrc).trans (List.suffix_append _ _).isInfix
  have hrules : writeExtraLanForward (runtime c) lan <:+: writeExtraLanForwardRules (runtime c) :=
    infix_flatMap _ hlan
  exact (hwritten.trans hrules).trans forwardRules_infix

/-- Every source of a segment is admitted by one rule, for addresses of the trusted networks only,
exactly if every source is a narrow one. -/
theorem segment_sources_iff {previous : Option SystemConfig} {table : Table}
    (h : validateLiveCandidate (releaseRules env) c previous = .ok ())
    (htable : generateNftables tools c = .ok table) :
    (∀ lan ∈ c.firewall.extraLans.items, lan.enabled = true → ∀ src ∈ lan.allowFrom.items,
      Admitted c lan src (writeExtraLanSource (runtime c) lan src) ∧
        writeExtraLanSource (runtime c) lan src <:+: table.forward) ↔
    ∀ lan ∈ c.firewall.extraLans.items, lan.enabled = true → ∀ src ∈ lan.allowFrom.items,
      Narrow c src := by
  have haccepted := accepted_of_live h
  rw [nftables_of_accepted haccepted] at htable
  cases htable
  refine forall₂_congr fun lan hlan => forall_congr' fun he => forall₂_congr fun src hsrc => ?_
  rw [and_iff_left (source_infix_forward (haccepted.extraLan hlan he) hlan he hsrc)]
  exact admitted_iff_narrow haccepted hlan he hsrc

def spelledConfig : SystemConfig :=
  { sampleConfig with firewall := { sampleConfig.firewall with extraLans := .of [{ sampleSegment with
      allowFrom := .of [" 192.168.1.0/24", "::ffff:10.8.0.0/112"] }] } }

/-- The first source is dropped, and the second reaches beyond the network of the tunnel. -/
theorem sources_dropped_and_widened :
    validateLiveCandidate (releaseRules samplePlatform) spelledConfig none = .ok () ∧
      writeExtraLanSource (runtime spelledConfig) sampleSegment " 192.168.1.0/24" = [] ∧
      ∃ ip n, parseCidr "::ffff:10.8.0.0/112" = some (ip, n) ∧ n.contains (.v4 0x0A08FF01#32) = true ∧
        ∀ z ∈ sourceZones spelledConfig, z.1.contains (.v4 0x0A08FF01#32) = false := by
  refine ⟨by decide +kernel, by decide +kernel, .v4 0x0A080000#32, ⟨.v4 0x0A080000#32, 112, 128⟩,
    by decide +kernel, by decide +kernel, by decide +kernel⟩

theorem segment_sources_iff_sampleConfig :
    (∀ lan ∈ sampleConfig.firewall.extraLans.items, lan.enabled = true →
      ∀ src ∈ lan.allowFrom.items,
        Admitted sampleConfig lan src (writeExtraLanSource (runtime sampleConfig) lan src) ∧
          writeExtraLanSource (runtime sampleConfig) lan src <:+:
            (tableOf sampleTools (runtime sampleConfig)).forward) ↔
    ∀ lan ∈ sampleConfig.firewall.extraLans.items, lan.enabled = true →
      ∀ src ∈ lan.allowFrom.items, Narrow sampleConfig src :=
  segment_sources_iff live_sampleConfig
    (nftables_of_accepted (accepted_of_live
      live_sampleConfig))

end MinimalRouter.Firewall
