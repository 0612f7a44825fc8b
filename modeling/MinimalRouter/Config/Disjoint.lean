import MinimalRouter.Config.Facts
import MinimalRouter.Goish.AddressText

namespace MinimalRouter.Config

open Goish Lib Lib.Checks

section Networks

variable {n : IPNet}

def Apart (a b : IPNet) : Prop := ∀ x, a.contains (.v4 x) = true → b.contains (.v4 x) = false

theorem Apart.symm (h : Apart a b) : Apart b a := by
  intro x hb
  cases ha : a.contains (.v4 x) with
  | false => rfl
  | true => exact absurd ((h x ha).symm.trans hb) (by decide)

theorem base_of_contains (h : n.contains (.v4 x) = true) :
    ∃ base, n.ip = .v4 base ∧ (Block.mk base n.effective).contains x = true := by
  obtain ⟨_ | _, _⟩ := n
  · exact ⟨_, rfl, h⟩
  · cases h

theorem contains_of_base {base : BitVec 32} (hbase : n.ip = .v4 base) :
    n.contains (.v4 x) = (Block.mk base n.effective).contains x := by
  unfold IPNet.contains
  rw [hbase]

theorem apart_of_not_overlap (h : a.networksOverlap b = false) : Apart a b := by
  intro x ha
  refine Bool.eq_false_iff.mpr fun hb => ?_
  exact Bool.eq_false_iff.mp h (IPNet.networksOverlap_iff.mpr ⟨_, ha, hb⟩)

/-- An address that is written with a prefix belongs to the network of the prefix, unless that is not
an IPv4 network. -/
theorem contains_parsed (h : parseCidr s = some (.v4 x, n)) {base : BitVec 32} (hbase : n.ip = .v4 base) :
    n.contains (.v4 x) = true := by
  obtain ⟨y, hy, rfl, -⟩ := parseCidr_of_v4 h hbase
  cases hy
  rw [contains_of_base hbase]
  exact Block.agree_mask _ _

end Networks

namespace Accepted

variable {c : SystemConfig}

theorem apart_of_not_any (h : ¬ o.any (·.networksOverlap n') = true) (hn : o = some n) :
    Apart n n' := by
  rw [hn, Option.any_some, Bool.not_eq_true] at h
  exact apart_of_not_overlap h

theorem lanNetwork_parsed (h : c.lanNetwork = some n) :
    ∃ ip, parseCidr c.lan.cidr = some (ip, n) := by
  unfold SystemConfig.lanNetwork at h
  split at h
  next x network hparse =>
    cases h
    exact ⟨_, hparse⟩
  next => cases h

theorem server_parsed (hn : c.wireguardServerNetwork = some n) :
    c.wireguard.enabled = true ∧ ∃ ip, parseCidr c.wireguard.address = some (ip, n) := by
  unfold SystemConfig.wireguardServerNetwork at hn
  split at hn
  · cases hn
  · next hon =>
    obtain ⟨⟨ip, _⟩, hparse, rfl⟩ := Option.map_eq_some_iff.mp hn
    simp only [Bool.or_eq_true, Bool.not_eq_true', not_or, Bool.not_eq_false] at hon
    exact ⟨hon.1, ip, hparse⟩

theorem address_ne_empty (hparse : parseCidr c.wgClient.address = some (ip, n)) :
    c.wgClient.address ≠ "" := by
  intro hempty
  rw [hempty] at hparse
  cases hparse

theorem segment_checks (he : lan.enabled = true) (hi : (extraLanErrors env c s i lan).2 = [])
    (hparse : parseCidr lan.cidr = some (ip, n')) :
    n'.ip.to4.isSome = true ∧ ∃ base, extraNetworkErrors c base s.2 lan n' = [] := by
  unfold extraLanErrors at hi
  simp only [he, not_true_eq_false, if_false, List.append_eq_nil_iff, hparse, Option.map_some] at hi
  obtain ⟨⟨⟨⟨⟨⟨-, hnetwork⟩, -⟩, -⟩, -⟩, -⟩, -⟩ := hi
  cases hv4 : n'.ip.to4.isSome with
  | false => simp [Option.filter, hv4] at hnetwork
  | true =>
    simp only [Option.filter, hv4, if_true] at hnetwork
    exact ⟨rfl, _, hnetwork⟩

theorem extraLanErrors_networks : (extraLanErrors env c s i lan).1.2 = if lan.enabled then
      (((parseCidr lan.cidr).map (·.2)).filter (·.ip.to4.isSome)).toList ++ s.2 else s.2 := by
  unfold extraLanErrors
  cases lan.enabled with
  | false | true => rfl

def SegmentsApart (lan lan' : ExtraLANConfig) : Prop :=
  lan.enabled = true → lan'.enabled = true → ∀ ip n ip' n', parseCidr lan.cidr = some (ip, n) →
    parseCidr lan'.cidr = some (ip', n') → Apart n n'

section

variable (h : Accepted env c)

include h

theorem lan_address : ∃ ip network, c.lanIp = some ip ∧
    c.lanNetwork = some network ∧ network.contains (.v4 ip) = true := by
  have hlan := h.valid.lan
  unfold lanErrors at hlan
  obtain ⟨hip, hlan⟩ := List.append_eq_nil_iff.mp hlan
  split at hlan
  · cases hlan
  split at hlan
  · cases hlan
  · cases hlan
  · next cidrIp network hparse =>
    cases hlanIp : c.lanIp with
    | none => simp [hlanIp] at hip
    | some ip =>
      rw [hlanIp] at hlan
      obtain ⟨haddress, -⟩ := List.append_eq_nil_iff.mp hlan
      unfold lanAddressErrors at haddress
      simp only [List.append_eq_nil_iff, failIf_eq_nil, not_not] at haddress
      refine ⟨ip, network, rfl, ?_, haddress.1.1⟩
      unfold SystemConfig.lanNetwork
      rw [hparse]

theorem server_apart (he : c.wireguard.enabled = true)
    (hn : c.lanNetwork = some n) (hparse : parseCidr c.wireguard.address = some (ip, n')) :
    Apart n n' := by
  have hw := h.valid.wireguard he
  unfold validateWireguard at hw
  simp only [List.append_eq_nil_iff] at hw
  obtain ⟨⟨-, haddress⟩, -⟩ := hw
  rw [hparse] at haddress
  cases ip with
  | v6 => cases haddress
  | v4 =>
  dsimp only at haddress
  split at haddress
  · obtain ⟨_, _, hlanIp, hnetwork, hcontains⟩ := h.lan_address
    obtain rfl := Option.some.inj (hn.symm.trans hnetwork)
    rw [failIf_eq_nil, hn, hlanIp, Option.any_some, Option.any_some, not_or] at haddress
    obtain ⟨hhost, hlan⟩ := haddress
    intro x hx
    refine Bool.eq_false_iff.mpr fun hx' => ?_
    obtain ⟨_, hip, hblock⟩ := base_of_contains hx
    obtain ⟨_, hip', hblock'⟩ := base_of_contains hx'
    have hown := contains_parsed hparse hip'
    rw [contains_of_base hip] at hhost hcontains
    rw [contains_of_base hip'] at hown hlan
    rcases Block.contains_of_common hblock hblock' hcontains hown with hin | hin
    · exact hhost hin
    · exact hlan ⟨hin, rfl⟩
  · cases haddress

theorem client_apart (he : c.wgClient.enabled = true)
    (hparse : parseCidr c.wgClient.address = some (ip, n')) :
    (c.lanNetwork = some n → Apart n n') ∧ (c.wireguardServerNetwork = some n → Apart n n') := by
  have hclient := h.valid.wgClient
  unfold validateWgClient at hclient
  simp only [he, not_true_eq_false, if_false, List.append_eq_nil_iff] at hclient
  have haddress : clientAddressErrors c = [] := by tauto
  unfold clientAddressErrors at haddress
  dsimp only at haddress
  rw [if_neg (address_ne_empty hparse), hparse] at haddress
  cases ip with
  | v6 => cases haddress
  | v4 =>
    dsimp only at haddress
    split at haddress
    · cases haddress
    next hlan =>
    split at haddress
    · cases haddress
    next hserver => exact ⟨apart_of_not_any hlan, apart_of_not_any hserver⟩

theorem remote_apart (he : c.wgClient.enabled = true)
    (hentry : entry ∈ c.wgClient.allowedIps.items)
    (hparse : parseCidr (trim entry) = some (ip, n')) :
    (c.lanNetwork = some n → Apart n n') ∧ (c.wireguardServerNetwork = some n → Apart n n') ∧
      (∀ ip, parseCidr c.wgClient.address = some (ip, n) → Apart n n') ∧
      ∀ lan ∈ c.firewall.extraLans.items, lan.enabled = true →
        ∀ ip, parseCidr lan.cidr = some (ip, n) → Apart n n' := by
  obtain ⟨s, i, hi⟩ := eachFrom_eq_nil (h.wgClient_allowedIps he).2 hentry
  unfold allowedIpErrors at hi
  rw [hparse] at hi
  cases ip with
  | v6 => cases hi
  | v4 =>
  obtain ⟨hnetwork, -⟩ := List.append_eq_nil_iff.mp hi
  unfold allowedNetworkErrors at hnetwork
  simp only [List.append_eq_nil_iff, failIf_eq_nil] at hnetwork
  obtain ⟨⟨⟨⟨-, hlan⟩, hserver⟩, hclient⟩, hsegments⟩ := hnetwork
  refine ⟨apart_of_not_any hlan, apart_of_not_any hserver, fun ip hparse' => ?_,
    fun lan hmem hon ip hparse' => ?_⟩
  · rw [if_neg (address_ne_empty hparse'), hparse'] at hclient
    exact apart_of_not_any hclient rfl
  have hcidr : lan.cidr ≠ "" := by
    intro hempty
    rw [hempty] at hparse'
    cases hparse'
  have hsegment : ∀ lan ∈ c.firewall.extraLans.items.filter (fun lan => lan.enabled && lan.cidr != ""),
      ¬ (parseCidr lan.cidr).any (fun r => r.2.networksOverlap n') = true := by
    simpa using hsegments
  have hnot := hsegment lan (List.mem_filter.mpr ⟨hmem, by simp [hon, hcidr]⟩)
  rw [hparse', Option.any_some, Bool.not_eq_true] at hnot
  exact apart_of_not_overlap hnot

theorem segment_apart (hlan : lan ∈ c.firewall.extraLans.items)
    (he : lan.enabled = true) (hparse : parseCidr lan.cidr = some (ip, n')) :
    (c.lanNetwork = some n → Apart n n') ∧ (c.wireguardServerNetwork = some n → Apart n n') ∧
      ∀ ip, parseCidr c.wgClient.address = some (ip, n) → Apart n n' := by
  obtain ⟨s, i, hi⟩ := eachFrom_eq_nil h.valid.extraLans hlan
  obtain ⟨-, _, hnetwork⟩ := segment_checks he hi hparse
  unfold extraNetworkErrors at hnetwork
  simp only [List.append_eq_nil_iff, failIf_eq_nil, not_and] at hnetwork
  obtain ⟨⟨⟨⟨hlan, hserver⟩, hclient⟩, -⟩, -⟩ := hnetwork
  refine ⟨apart_of_not_any hlan, fun hn => ?_, fun ip hparse' => ?_⟩
  · obtain ⟨hon, ip, hparse'⟩ := server_parsed hn
    rw [if_pos hon, hparse'] at hserver
    exact apart_of_not_any hserver rfl
  have hoverlap := hclient (address_ne_empty hparse')
  rw [hparse'] at hoverlap
  exact apart_of_not_any hoverlap rfl

theorem segments_apart : c.firewall.extraLans.items.Pairwise SegmentsApart := by
  refine (pairwise_of_eachFrom (K := fun lan s => lan.enabled = true → ∀ ip n,
    parseCidr lan.cidr = some (ip, n) → n ∈ s.2) ?_ ?_ ?_ h.valid.extraLans).1
  · intro s i x y hy he ip n hparse
    rw [extraLanErrors_networks]
    split
    · exact List.mem_append_right _ (hy he ip n hparse)
    · exact hy he ip n hparse
  · intro s i x hx he ip n hparse
    obtain ⟨hv4, -⟩ := segment_checks he hx hparse
    rw [extraLanErrors_networks, if_pos he, hparse]
    simp [Option.filter, hv4]
  intro s i x hx y hy he he' ip n ip' n' hparse hparse'
  obtain ⟨-, _, hnetwork⟩ := segment_checks he' hx hparse'
  unfold extraNetworkErrors at hnetwork
  simp only [List.append_eq_nil_iff, List.flatMap_eq_nil_iff, failIf_eq_nil] at hnetwork
  obtain ⟨⟨-, hseen⟩, -⟩ := hnetwork
  exact apart_of_not_overlap (Bool.eq_false_iff.mpr (hseen n (hy he ip n hparse)))

end

end Accepted

inductive Zone
  | lan | server | client
  | remote : Nat → Zone
  | segment : Nat → Zone

def SystemConfig.zoneNetwork (c : SystemConfig) : Zone → Option IPNet
  | .lan => c.lanNetwork
  | .server => c.wireguardServerNetwork
  | .client => if c.wgClient.enabled then (parseCidr c.wgClient.address).map (·.2) else none
  | .remote i =>
    if c.wgClient.enabled then
      c.wgClient.allowedIps.items[i]?.bind fun entry => (parseCidr (trim entry)).map (·.2)
    else none
  | .segment i => (c.firewall.extraLans.items[i]?.filter (·.enabled)).bind fun lan =>
      (parseCidr lan.cidr).map (·.2)

def Zone.isRemote : Zone → Bool
  | remote _ => true
  | _ => false

section Zones

variable {c : SystemConfig}

theorem parsed_client (h : c.zoneNetwork .client = some n) :
    c.wgClient.enabled = true ∧ ∃ ip, parseCidr c.wgClient.address = some (ip, n) := by
  simp only [SystemConfig.zoneNetwork] at h
  split at h
  · next he =>
    obtain ⟨⟨ip, _⟩, hparse, rfl⟩ := Option.map_eq_some_iff.mp h
    exact ⟨he, ip, hparse⟩
  · cases h

theorem parsed_remote (h : c.zoneNetwork (.remote i) = some n) : c.wgClient.enabled = true ∧
      ∃ entry ∈ c.wgClient.allowedIps.items, ∃ ip, parseCidr (trim entry) = some (ip, n) := by
  simp only [SystemConfig.zoneNetwork] at h
  split at h
  · next he =>
    obtain ⟨entry, hentry, h⟩ := Option.bind_eq_some_iff.mp h
    obtain ⟨⟨ip, _⟩, hparse, rfl⟩ := Option.map_eq_some_iff.mp h
    exact ⟨he, entry, List.mem_of_getElem? hentry, ip, hparse⟩
  · cases h

theorem parsed_segment (h : c.zoneNetwork (.segment i) = some n) :
    ∃ lan, c.firewall.extraLans.items[i]? = some lan ∧ lan.enabled = true ∧
      ∃ ip, parseCidr lan.cidr = some (ip, n) := by
  obtain ⟨lan, hlan, h⟩ := Option.bind_eq_some_iff.mp h
  obtain ⟨hlan, he⟩ := Option.filter_eq_some_iff.mp hlan
  obtain ⟨⟨ip, _⟩, hparse, rfl⟩ := Option.map_eq_some_iff.mp h
  exact ⟨lan, hlan, he, ip, hparse⟩

section

variable (h : Accepted env c)

include h

theorem Accepted.zones_segments (hij : i < j)
    (hn : c.zoneNetwork (.segment i) = some n) (hn' : c.zoneNetwork (.segment j) = some n') :
    Apart n n' := by
  obtain ⟨_, hlan, he, ip, hparse⟩ := parsed_segment hn
  obtain ⟨_, hlan', he', ip', hparse'⟩ := parsed_segment hn'
  obtain ⟨hi, rfl⟩ := List.getElem?_eq_some_iff.mp hlan
  obtain ⟨hj, rfl⟩ := List.getElem?_eq_some_iff.mp hlan'
  exact List.pairwise_iff_getElem.mp h.segments_apart i j hi hj hij he he' ip n ip' n' hparse hparse'

theorem Accepted.lan_zone (hn : c.lanNetwork = some n)
    (hn' : c.zoneNetwork z = some n') (hne : z ≠ .lan) : Apart n n' := by
  cases z with
  | lan => exact absurd rfl hne
  | server =>
    obtain ⟨he, ip, hparse⟩ := Accepted.server_parsed hn'
    exact h.server_apart he hn hparse
  | client =>
    obtain ⟨he, ip, hparse⟩ := parsed_client hn'
    exact (h.client_apart he hparse).1 hn
  | remote =>
    obtain ⟨he, _, hentry, ip, hparse⟩ := parsed_remote hn'
    exact (h.remote_apart he hentry hparse).1 hn
  | segment =>
    obtain ⟨lan, hlan, he, ip, hparse⟩ := parsed_segment hn'
    exact (h.segment_apart (List.mem_of_getElem? hlan) he hparse).1 hn

theorem Accepted.server_zone (hn : c.wireguardServerNetwork = some n)
    (hn' : c.zoneNetwork z = some n') (hlan : z ≠ .lan) (hne : z ≠ .server) : Apart n n' := by
  cases z with
  | lan => exact absurd rfl hlan
  | server => exact absurd rfl hne
  | client =>
    obtain ⟨he, ip, hparse⟩ := parsed_client hn'
    exact (h.client_apart he hparse).2 hn
  | remote =>
    obtain ⟨he, _, hentry, ip, hparse⟩ := parsed_remote hn'
    exact (h.remote_apart he hentry hparse).2.1 hn
  | segment =>
    obtain ⟨lan, hlan, he, ip, hparse⟩ := parsed_segment hn'
    exact (h.segment_apart (List.mem_of_getElem? hlan) he hparse).2.1 hn

theorem Accepted.client_remote (hn : c.zoneNetwork .client = some n)
    (hn' : c.zoneNetwork (.remote i) = some n') : Apart n n' := by
  obtain ⟨-, ip, hparse⟩ := parsed_client hn
  obtain ⟨he, _, hentry, _, hparse'⟩ := parsed_remote hn'
  exact (h.remote_apart he hentry hparse').2.2.1 ip hparse

theorem Accepted.client_segment (hn : c.zoneNetwork .client = some n)
    (hn' : c.zoneNetwork (.segment i) = some n') : Apart n n' := by
  obtain ⟨-, ip, hparse⟩ := parsed_client hn
  obtain ⟨_, hlan, he, _, hparse'⟩ := parsed_segment hn'
  exact (h.segment_apart (List.mem_of_getElem? hlan) he hparse').2.2 ip hparse

theorem Accepted.segment_remote (hn : c.zoneNetwork (.segment i) = some n)
    (hn' : c.zoneNetwork (.remote j) = some n') : Apart n n' := by
  obtain ⟨lan, hlan, hon, ip, hparse⟩ := parsed_segment hn
  obtain ⟨he, _, hentry, _, hparse'⟩ := parsed_remote hn'
  exact (h.remote_apart he hentry hparse').2.2.2 lan (List.mem_of_getElem? hlan) hon ip hparse

theorem Accepted.zones_apart (hne : z ≠ z')
    (hremote : ¬ (z.isRemote = true ∧ z'.isRemote = true)) (hn : c.zoneNetwork z = some n)
    (hn' : c.zoneNetwork z' = some n') : Apart n n' := by
  cases z with
  | lan => exact h.lan_zone hn hn' hne.symm
  | server =>
    cases z' with
    | lan => exact (h.lan_zone hn' hn nofun).symm
    | server => exact absurd rfl hne
    | client | remote | segment => exact h.server_zone hn hn' nofun nofun
  | client =>
    cases z' with
    | lan => exact (h.lan_zone hn' hn nofun).symm
    | server => exact (h.server_zone hn' hn nofun nofun).symm
    | client => exact absurd rfl hne
    | remote => exact h.client_remote hn hn'
    | segment => exact h.client_segment hn hn'
  | remote =>
    cases z' with
    | lan => exact (h.lan_zone hn' hn nofun).symm
    | server => exact (h.server_zone hn' hn nofun nofun).symm
    | client => exact (h.client_remote hn' hn).symm
    | remote => exact absurd ⟨rfl, rfl⟩ hremote
    | segment => exact (h.segment_remote hn' hn).symm
  | segment =>
    cases z' with
    | lan => exact (h.lan_zone hn' hn nofun).symm
    | server => exact (h.server_zone hn' hn nofun nofun).symm
    | client => exact (h.client_segment hn' hn).symm
    | remote => exact h.segment_remote hn hn'
    | segment =>
      rcases Nat.lt_or_gt_of_ne (fun hij => hne (congrArg Zone.segment hij)) with hij | hij
      · exact h.zones_segments hij hn hn'
      · exact (h.zones_segments hij hn' hn).symm

end

end Zones

/-- No IPv4 address belongs to two networks of an accepted configuration, except that the remote
networks of the client tunnel may overlap each other. -/
theorem local_networks_disjoint {env : Platform} {c : SystemConfig} {previous : Option SystemConfig}
    (h : validateLiveCandidate (releaseRules env) c previous = .ok ()) {z z' : Zone} (hne : z ≠ z')
    (hremote : ¬ (z.isRemote = true ∧ z'.isRemote = true)) (x : BitVec 32) :
    ¬ ((c.zoneNetwork z).any (·.contains (.v4 x)) = true ∧
      (c.zoneNetwork z').any (·.contains (.v4 x)) = true) := by
  rintro ⟨hx, hx'⟩
  obtain ⟨n, hn, hx⟩ := (Option.any_eq_true _ _).mp hx
  obtain ⟨_, hn', hx'⟩ := (Option.any_eq_true _ _).mp hx'
  have hapart := (accepted_of_live h).zones_apart hne hremote hn hn' x hx
  rw [hapart] at hx'
  cases hx'

theorem local_networks_disjoint_sampleConfig :
    (sampleConfig.zoneNetwork .lan).isSome = true ∧ (sampleConfig.zoneNetwork (.segment 0)).isSome = true ∧
      ¬ ((sampleConfig.zoneNetwork .lan).any (·.contains (.v4 0xC0A80105#32)) = true ∧
        (sampleConfig.zoneNetwork (.segment 0)).any (·.contains (.v4 0xC0A80105#32)) = true) :=
  ⟨by decide +kernel, by decide +kernel,
    local_networks_disjoint live_sampleConfig (by nofun) (by simp [Zone.isRemote]) _⟩

end MinimalRouter.Config
