import Mathlib.Data.List.Nodup
import MinimalRouter.Services.Generators

namespace MinimalRouter.Services

open Goish Config Firewall Wireguard Lib

def OwnAddress (peer : WireGuardPeer) (x : BitVec 32) : Prop :=
  ∃ allowed, peer.allowedIps.items = [allowed] ∧
    parseCidr (trim allowed) = some (.v4 x, ⟨.v4 x, 32, 32⟩)

def OwnAddresses (wg : WireGuardConfig) : Prop :=
  ∃ addresses, List.Forall₂ OwnAddress (enabledPeers wg) addresses ∧ addresses.Nodup

def routeText (x : BitVec 32) : String := octetsString x ++ "/32"

theorem hostRoute_of_ownAddress :
    hostRoute peer = .ok route ↔ ∃ x, OwnAddress peer x ∧ route = routeText x := by
  rw [hostRoute_eq_ok]
  constructor
  · rintro ⟨allowed, x, hallowed, hparse, rfl⟩
    exact ⟨x, ⟨allowed, hallowed, hparse⟩, rfl⟩
  · rintro ⟨x, ⟨allowed, hallowed, hparse⟩, rfl⟩
    exact ⟨allowed, x, hallowed, hparse, rfl⟩

theorem routeText_injective : Function.Injective routeText := fun _ _ h =>
  octetsString_injective (String.append_left_inj _ |>.mp h)

theorem addresses_of_routes
    (h : List.Forall₂ (fun peer route => hostRoute peer = .ok route) peers routes) :
    ∃ addresses, List.Forall₂ OwnAddress peers addresses ∧ routes = addresses.map routeText := by
  induction h with
  | nil => exact ⟨[], .nil, rfl⟩
  | cons hroute _ ih =>
    obtain ⟨x, hx, rfl⟩ := hostRoute_of_ownAddress.mp hroute
    obtain ⟨addresses, haddresses, rfl⟩ := ih
    exact ⟨x :: addresses, .cons hx haddresses, rfl⟩

theorem generateWireguard_ok_iff : (∃ text, generateWireguard wg = .ok text) ↔ OwnAddresses wg := by
  simp only [generateWireguard, generate, Result.map_eq_ok, writePeers_eq_ok]
  constructor
  · rintro ⟨_, _, ⟨_, ⟨hroutes, hnodup, -⟩, -⟩, -⟩
    obtain ⟨addresses, haddresses, rfl⟩ := addresses_of_routes hroutes
    exact ⟨addresses, haddresses, hnodup.of_map routeText⟩
  rintro ⟨addresses, haddresses, hnodup⟩
  refine ⟨_, _, ⟨addresses.map routeText, ⟨?_, ?_, fun _ _ => List.not_mem_nil⟩, rfl⟩, rfl⟩
  · rw [List.forall₂_map_right_iff]
    exact haddresses.imp fun peer x hx => hostRoute_of_ownAddress.mpr ⟨x, hx, rfl⟩
  · exact hnodup.map routeText_injective

theorem ownAddress_of_checked (h : Accepted.CheckedPeer env peer)
    (hplain : ∀ allowed ∈ peer.allowedIps.items, ':' ∉ allowed.toList) :
    ∃ x, OwnAddress peer x := by
  obtain ⟨allowed, x, _, hallowed, hparse, hones⟩ := h.allowedIps
  have hbits := (bits_iff_of_parseCidr hparse).mpr (hplain allowed (by simp [hallowed]))
  obtain ⟨y, hy, hnetwork, -⟩ := parseCidr_of_bits hparse hbits
  cases hy
  rw [hones, Block.mask_width] at hnetwork
  refine ⟨x, allowed, hallowed, ?_⟩
  rw [trim_of_parseCidr hparse, hparse, hnetwork]

theorem parseCidr_of_ownAddress (h : Accepted.CheckedPeer env peer) (hx : OwnAddress peer x) :
    ∃ allowed, peer.allowedIps.items = [allowed] ∧
      parseCidr allowed = some (.v4 x, ⟨.v4 x, 32, 32⟩) := by
  obtain ⟨allowed, y, _, hallowed, hparse, -⟩ := h.allowedIps
  obtain ⟨_, hallowed', hown⟩ := hx
  rw [hallowed, List.cons.injEq] at hallowed'
  obtain ⟨rfl, -⟩ := hallowed'
  exact ⟨allowed, hallowed, trim_of_parseCidr hparse ▸ hown⟩

theorem ownAddresses_iff (h : Accepted env c) (he : c.wireguard.enabled = true) :
    OwnAddresses c.wireguard ↔ ∀ peer ∈ c.wireguard.peers.items, peer.enabled = true →
      ∀ allowed ∈ peer.allowedIps.items, ':' ∉ allowed.toList := by
  constructor
  · rintro ⟨_, haddresses, -⟩ peer hpeer hpe
    have hmem : peer ∈ enabledPeers c.wireguard := List.mem_filter.mpr ⟨hpeer, hpe⟩
    obtain ⟨i, hi, rfl⟩ := List.mem_iff_getElem.mp hmem
    obtain ⟨allowed, hallowed, hparse⟩ := parseCidr_of_ownAddress (h.wireguard_peer he hpeer hpe)
      (haddresses.get hi (haddresses.length_eq ▸ hi))
    rw [hallowed]
    exact List.forall_mem_singleton.mpr ((bits_iff_of_parseCidr hparse).mp rfl)
  intro hplain
  have hchecked : ∀ peer ∈ enabledPeers c.wireguard, Accepted.CheckedPeer env peer := fun peer hpeer =>
    have hmem := List.mem_filter.mp hpeer
    h.wireguard_peer he hmem.1 hmem.2
  have hown : ∀ peer ∈ enabledPeers c.wireguard, ∃ x, OwnAddress peer x := fun peer hpeer =>
    have hmem := List.mem_filter.mp hpeer
    ownAddress_of_checked (hchecked peer hpeer) (hplain peer hmem.1 hmem.2)
  choose! address haddress using hown
  refine ⟨(enabledPeers c.wireguard).map address, ?_, ?_⟩
  · exact List.forall₂_map_right_iff.mpr (List.forall₂_same.mpr haddress)
  refine List.pairwise_map.mpr (List.Pairwise.imp_of_mem ?_ ((h.peers_pairwise he).filter _))
  intro peer peer' hpeer hpeer' hne heq
  obtain ⟨allowed, hallowed, hparse⟩ :=
    parseCidr_of_ownAddress (hchecked peer hpeer) (haddress peer hpeer)
  obtain ⟨allowed', hallowed', hparse'⟩ :=
    parseCidr_of_ownAddress (hchecked peer' hpeer') (haddress peer' hpeer')
  refine hne (List.mem_filter.mp hpeer).2 (List.mem_filter.mp hpeer').2 allowed (by simp [hallowed])
    allowed' (by simp [hallowed']) ?_
  rw [hparse, hparse', heq]

theorem clientAddress_eq_ok : clientAddress wg = .ok () ↔
      ∃ x network, parseCidr (trim wg.address) = some (.v4 x, network) ∧ network.bits = 32 ∧
        network.ones = 32 := by
  unfold clientAddress
  split
  · next x network hparse =>
    rw [hparse]
    simp only [Option.some.injEq, Prod.mk.injEq, IP.v4.injEq]
    constructor
    · intro h
      split at h
      · cases h
      · next hsize =>
        rw [not_or, not_not, not_not] at hsize
        exact ⟨x, network, ⟨rfl, rfl⟩, hsize⟩
    · rintro ⟨_, _, ⟨rfl, rfl⟩, hbits, hones⟩
      rw [if_neg (by simp [hbits, hones])]
  · next hparse =>
    refine iff_of_false nofun ?_
    rintro ⟨x, network, h, -⟩
    exact hparse x network h

theorem clientNetworks_cons : clientNetworks seen (entry :: entries) = .ok networks ↔
      ∃ ip network rest, parseCidr (trim entry) = some (ip, network) ∧ network.ip.to4.isSome = true ∧
        network.toString ∉ seen ∧ clientNetworks (network.toString :: seen) entries = .ok rest ∧
          networks = network.toString :: rest := by
  rw [clientNetworks]
  rcases parseCidr (trim entry) with _ | ⟨ip, network⟩
  · simp
  simp only [Option.map_some, Option.some.injEq, Prod.mk.injEq]
  constructor
  · intro h
    split at h
    · cases h
    split at h
    · cases h
    next hv4 hseen =>
    obtain ⟨rest, hrest, rfl⟩ := Result.map_eq_ok.mp h
    exact ⟨ip, network, rest, ⟨rfl, rfl⟩, Option.isSome_iff_ne_none.mpr hv4, hseen, hrest, rfl⟩
  rintro ⟨_, _, rest, ⟨rfl, rfl⟩, hv4, hseen, hrest, rfl⟩
  rw [if_neg (Option.isSome_iff_ne_none.mp hv4), if_neg hseen, hrest]
  rfl

theorem clientNetworks_ok_iff (h : Checks.eachFrom (allowedIpErrors c) seen i entries = []) :
    (∃ networks, clientNetworks seen entries = .ok networks) ↔
      ∀ entry ∈ entries, ∃ ip network, parseCidr (trim entry) = some (ip, network) ∧
        network.ip.to4.isSome = true := by
  induction entries generalizing seen i with
  | nil => simp [clientNetworks]
  | cons entry entries ih =>
  obtain ⟨hentry, hentries⟩ := List.append_eq_nil_iff.mp h
  unfold allowedIpErrors at hentry
  dsimp only at hentry
  split at hentry
  · next x network hparse =>
    have hseen : network.toString ∉ seen :=
      Checks.failIf_eq_nil.mp (List.append_eq_nil_iff.mp hentry).2
    have hstate : (allowedIpErrors c seen i entry).1 = network.toString :: seen := by
      unfold allowedIpErrors
      dsimp only
      rw [hparse]
    rw [hstate] at hentries
    simp only [clientNetworks_cons, hparse, Option.some.injEq, Prod.mk.injEq, List.forall_mem_cons,
      ← ih hentries]
    constructor
    · rintro ⟨_, _, _, rest, ⟨rfl, rfl⟩, hv4, -, hrest, -⟩
      exact ⟨⟨_, _, ⟨rfl, rfl⟩, hv4⟩, rest, hrest⟩
    · rintro ⟨⟨_, _, ⟨rfl, rfl⟩, hv4⟩, rest, hrest⟩
      exact ⟨_, _, _, rest, ⟨rfl, rfl⟩, hv4, hseen, hrest, rfl⟩
  · cases hentry

theorem generateWireguardClientRuntime_ok_iff :
    (∃ text, generateWireguardClientRuntime wg = .ok text) ↔
      clientAddress wg = .ok () ∧ wg.allowedIps.isEmpty = false ∧
        ∃ networks, clientNetworks [] wg.allowedIps.items = .ok networks := by
  unfold generateWireguardClientRuntime
  rcases clientAddress wg with e | ⟨⟨⟩⟩
  · exact iff_of_false nofun nofun
  cases wg.allowedIps.isEmpty with
  | true => exact iff_of_false nofun nofun
  | false =>
    rcases clientNetworks [] wg.allowedIps.items with e | networks
    · exact iff_of_false nofun nofun
    · exact iff_of_true ⟨_, rfl⟩ ⟨rfl, rfl, networks, rfl⟩

theorem clientRuntime_ok_iff (h : Accepted env c) (he : c.wgClient.enabled = true) :
    (∃ text, generateWireguardClientRuntime c.wgClient = .ok text) ↔
      ':' ∉ (trim c.wgClient.address).toList ∧
        ∀ entry ∈ c.wgClient.allowedIps.items, ':' ∉ (trim entry).toList := by
  obtain ⟨hlisted, heach⟩ := h.wgClient_allowedIps he
  obtain ⟨x, network, haddress, hones⟩ := h.wgClient_address he
  rw [generateWireguardClientRuntime_ok_iff, clientAddress_eq_ok, clientNetworks_ok_iff heach,
    ← bits_iff_of_parseCidr haddress]
  constructor
  · rintro ⟨⟨_, _, haddress', hbits, -⟩, -, hentries⟩
    rw [haddress] at haddress'
    cases haddress'
    refine ⟨hbits, fun entry hentry => ?_⟩
    obtain ⟨ip, remote, hparse, hv4⟩ := hentries entry hentry
    exact (bits_iff_of_parseCidr hparse).mp (h.wgClient_remote he hentry hparse hv4)
  rintro ⟨hbits, hentries⟩
  refine ⟨⟨x, network, haddress, hbits, hones⟩, ?_, fun entry hentry => ?_⟩
  · exact Bool.eq_false_iff.mpr fun hempty => hlisted (List.isEmpty_iff.mp hempty)
  obtain ⟨ip, remote, hparse⟩ := h.wgClient_parsed he hentry
  have hbits := (bits_iff_of_parseCidr hparse).mpr (hentries entry hentry)
  obtain ⟨y, -, hremote, -⟩ := parseCidr_of_bits hparse hbits
  exact ⟨ip, remote, hparse, by rw [hremote]; rfl⟩

structure Generates (tools : Tools) (c : SystemConfig) : Prop where
  nftables : ∃ table, generateNftables tools c = .ok table
  pppoe : ∃ bundle, generatePppoe c = .ok bundle
  dnsmasq : ∃ text, generateDnsmasq tools.unicode c = .ok text
  hostapd : ∃ text, generateHostapd c = .ok text
  wireguard : ∃ text, generateWireguard c.wireguard = .ok text
  client : c.wgClient.enabled = true →
    ∃ text, generateWireguardClientRuntime c.wgClient = .ok text

/-- The tunnels' addresses are dotted, and the peers of an idle server have addresses of their own. -/
structure DottedRoutes (c : SystemConfig) : Prop where
  peers : c.wireguard.enabled = true → ∀ peer ∈ c.wireguard.peers.items, peer.enabled = true →
    ∀ allowed ∈ peer.allowedIps.items, ':' ∉ allowed.toList
  idle : c.wireguard.enabled = false → OwnAddresses c.wireguard
  client : c.wgClient.enabled = true → ':' ∉ (trim c.wgClient.address).toList ∧
    ∀ entry ∈ c.wgClient.allowedIps.items, ':' ∉ (trim entry).toList

theorem generateHostapd_ok (c : SystemConfig) : ∃ text, generateHostapd c = .ok text := by
  unfold generateHostapd
  dsimp only
  split
  · exact ⟨_, rfl⟩
  · exact ⟨_, rfl⟩

theorem generates_iff {previous : Option SystemConfig}
    (hc : validateLiveCandidate (releaseRules tools.toPlatform) c previous = .ok ()) :
    Generates tools c ↔ DottedRoutes c := by
  have h := accepted_of_live hc
  constructor
  · rintro ⟨-, -, -, -, hwireguard, hclient⟩
    have hown := generateWireguard_ok_iff.mp hwireguard
    exact ⟨fun he => (ownAddresses_iff h he).mp hown, fun _ => hown,
      fun he => (clientRuntime_ok_iff h he).mp (hclient he)⟩
  rintro ⟨hpeers, hidle, hclient⟩
  have hown : OwnAddresses c.wireguard := by
    cases he : c.wireguard.enabled with
    | false => exact hidle he
    | true => exact (ownAddresses_iff h he).mpr (hpeers he)
  exact ⟨⟨_, nftables_of_accepted h⟩, ⟨_, rfl⟩, ⟨_, rfl⟩, generateHostapd_ok c,
    generateWireguard_ok_iff.mpr hown, fun he => (clientRuntime_ok_iff h he).mpr (hclient he)⟩

theorem generates_sampleConfig : Generates sampleTools sampleConfig := by
  refine (generates_iff live_sampleConfig).mpr ⟨fun _ => ?_, nofun, fun _ => ?_⟩
  · decide
  · decide

def idleConfig : SystemConfig :=
  { sampleConfig with wireguard := { sampleConfig.wireguard with
      enabled := false
      peers := .of [{ samplePeer with allowedIps := .of [] }] } }

theorem idle_peer_not_rendered :
    validateLiveCandidate (releaseRules sampleTools.toPlatform) idleConfig none = .ok () ∧
      generateWireguard idleConfig.wireguard =
        .error "WireGuard peer \"phone\" must have exactly one IPv4 /32 address" ∧
      ¬Generates sampleTools idleConfig := by
  have herror : generateWireguard idleConfig.wireguard =
      .error "WireGuard peer \"phone\" must have exactly one IPv4 /32 address" := by decide +kernel
  refine ⟨by decide +kernel, herror, fun h => ?_⟩
  obtain ⟨_, htext⟩ := h.wireguard
  rw [herror] at htext
  cases htext

end MinimalRouter.Services
