import MinimalRouter.Config.Admission

namespace MinimalRouter.Config

open Goish Lib.Checks

namespace Accepted

structure CheckedPeer (env : Platform) (peer : WireGuardPeer) : Prop where
  name : safeNamePattern env.unicode peer.name = true
  publicKey : validWireguardKey peer.publicKey = true
  presharedKey : peer.presharedKey = "" ∨ validWireguardKey peer.presharedKey = true
  allowedIps : ∃ allowed x network, peer.allowedIps.items = [allowed] ∧
    parseCidr allowed = some (.v4 x, network) ∧ network.ones = 32

theorem peerErrors_route (he : peer.enabled = true)
    (hi : (peerErrors env wgNetwork seen i peer).2 = []) :
    ∃ allowed x network, peer.allowedIps.items = [allowed] ∧
      parseCidr allowed = some (.v4 x, network) ∧ network.ones = 32 ∧ network ∉ seen ∧
        (peerErrors env wgNetwork seen i peer).1 = network :: seen := by
  unfold peerErrors at hi ⊢
  simp only [he, not_true_eq_false, if_false, List.append_eq_nil_iff, failIf_eq_nil, not_not] at hi ⊢
  obtain ⟨⟨⟨-, hlength⟩, hroutes⟩, -⟩ := hi
  obtain ⟨allowed, hallowed⟩ := List.length_eq_one_iff.mp hlength
  rw [hallowed] at hroutes ⊢
  obtain ⟨hroute, -⟩ := List.append_eq_nil_iff.mp hroutes
  have hstate : ([allowed].zipIdx.foldl
      (fun seen x => (peerRouteErrors wgNetwork i seen x.2 x.1).1) seen) =
        (peerRouteErrors wgNetwork i seen 0 allowed).1 := rfl
  rw [hstate]
  unfold peerRouteErrors at hroute ⊢
  dsimp only at hroute ⊢
  split at hroute
  · next x network hparse =>
    split at hroute
    · next hones =>
      rw [if_pos hones]
      exact ⟨allowed, x, network, rfl, hparse, hones.1, failIf_eq_nil.mp hroute, rfl⟩
    · cases hroute
  · cases hroute

theorem checked_of_peerErrors (he : peer.enabled = true)
    (hi : (peerErrors env wgNetwork seen i peer).2 = []) : CheckedPeer env peer := by
  obtain ⟨allowed, x, network, hallowed, hparse, hones, -⟩ := peerErrors_route he hi
  unfold peerErrors at hi
  simp only [he, not_true_eq_false, if_false, List.append_eq_nil_iff, failIf_eq_nil, not_not] at hi
  obtain ⟨⟨⟨⟨⟨hname, hpublic⟩, _⟩, -⟩, -⟩, -⟩ := hi
  exact ⟨hname, hpublic, by tauto, allowed, x, network, hallowed, hparse, hones⟩

theorem mem_peerErrors (h : network ∈ seen) :
    network ∈ (peerErrors env wgNetwork seen i peer).1 := by
  unfold peerErrors
  dsimp only
  split
  · exact h
  refine List.foldlRecOn _ _ h fun seen h x _ => ?_
  unfold peerRouteErrors
  dsimp only
  split
  · split
    · exact List.mem_cons_of_mem _ h
    · exact h
  · exact h

theorem bits_of_isPrivateSiteNetwork (h : isPrivateSiteNetwork network = true) :
    network.bits = 32 := by
  unfold isPrivateSiteNetwork at h
  generalize List.filterMap parseCidr _ = zones at h
  obtain ⟨_, -, hcontained⟩ := List.any_eq_true.mp h
  simp only [networkContainedIn, Bool.and_eq_true, beq_iff_eq] at hcontained
  exact hcontained.1.1.1.2

structure FreeInterface (c : SystemConfig) (iface : String) : Prop where
  valid : validInterfaceName iface = true
  notPpp : startsWith "ppp" iface = false
  notWan : iface ≠ c.wan.interface
  notLan : iface ≠ c.lan.interface
  notBridge : iface ≠ wifiBridgeInterface
  notWireguard : c.wireguard.enabled = true → iface ≠ c.wireguard.interface
  notClient : c.wgClient.enabled = true → iface ≠ c.wgClient.interface
  notRadio : c.wifi.enabled = true → iface ≠ c.wifi.interface

theorem freeInterface_of_checked {base : String} (h : extraInterfaceErrors c base seen lan = []) :
    FreeInterface c lan.interface ∧ lan.interface ∉ seen := by
  unfold extraInterfaceErrors at h
  dsimp only at h
  split at h
  · cases h
  next hname =>
  simp only [not_or, Bool.not_eq_true, Bool.not_eq_false] at hname
  obtain ⟨hfree, hseen⟩ := List.append_eq_nil_iff.mp h
  simp only [ite_eq_right_iff, List.cons_ne_nil, imp_false, ite_eq_iff, and_false, false_or, not_or,
    not_and] at hfree
  obtain ⟨hwan, hlan, hwireguard, hclient, hradio⟩ := hfree
  exact ⟨⟨hname.1, hname.2, hwan, hlan.1, hlan.2, hwireguard, hclient, fun he => (hradio he).1⟩,
    failIf_eq_nil.mp hseen⟩

structure CheckedSegment (c : SystemConfig) (lan : ExtraLANConfig) : Prop where
  interface : FreeInterface c lan.interface
  network : ∃ ip n, parseCidr lan.cidr = some (ip, n) ∧ n.ip.to4.isSome = true
  dstIp : ∃ dst, parseIpv4 lan.dstIp = some dst
  protocol : lan.protocol = "" ∨ lan.protocol = "tcp" ∨ lan.protocol = "udp"

theorem checked_of_extraLanErrors (he : lan.enabled = true)
    (hi : (extraLanErrors env c s i lan).2 = []) : CheckedSegment c lan ∧ lan.interface ∉ s.1 := by
  unfold extraLanErrors at hi
  simp only [he, not_true_eq_false, if_false, List.append_eq_nil_iff, failIf_eq_nil] at hi
  obtain ⟨⟨⟨⟨⟨⟨⟨⟨-, -⟩, hinterface⟩, hnetwork⟩, hdst⟩, -⟩, _⟩, -⟩, -⟩ := hi
  obtain ⟨hfree, hseen⟩ := freeInterface_of_checked hinterface
  refine ⟨⟨hfree, ?_, ?_, ?_⟩, hseen⟩
  · rcases hcidr : parseCidr lan.cidr with _ | ⟨ip, n⟩
    · simp [hcidr] at hnetwork
    cases hv4 : n.ip.to4.isSome with
    | false => simp [hcidr, Option.filter, hv4] at hnetwork
    | true => exact ⟨ip, n, rfl, hv4⟩
  · unfold dstIpErrors at hdst
    rcases hip : parseIpv4 lan.dstIp with _ | dst
    · simp [hip] at hdst
    · exact ⟨dst, rfl⟩
  · tauto

theorem extraLanErrors_interfaces (s : List String × List IPNet) (i : Nat) (lan : ExtraLANConfig) :
    (extraLanErrors env c s i lan).1.1 =
      if lan.enabled && validInterfaceName lan.interface && !startsWith "ppp" lan.interface then
        lan.interface :: s.1 else s.1 := by
  unfold extraLanErrors
  cases lan.enabled with
  | false | true => rfl

section

variable (h : Accepted env c)

include h

theorem wan_interface : validInterfaceName c.wan.interface = true := by
  have hi := h.valid.interfaces
  unfold interfaceErrors at hi
  simp only [List.append_eq_nil_iff, failIf_eq_nil, not_not] at hi
  exact hi.1.1

theorem lan_interface : validInterfaceName c.lan.interface = true := by
  have hi := h.valid.interfaces
  unfold interfaceErrors at hi
  simp only [List.append_eq_nil_iff, failIf_eq_nil, not_not] at hi
  exact hi.1.2

theorem wan_ne_lan : c.wan.interface ≠ c.lan.interface := by
  have hi := h.valid.interfaces
  unfold interfaceErrors at hi
  simp only [List.append_eq_nil_iff, failIf_eq_nil] at hi
  exact hi.2

theorem runtimeLanInterface_ne_empty : c.runtimeLanInterface ≠ "" := by
  unfold SystemConfig.runtimeLanInterface
  split
  · decide
  · exact ne_empty_of_validInterfaceName h.lan_interface

theorem wireguard_checks (he : c.wireguard.enabled = true) :
    c.wan.enabled = true ∧ c.wireguard.interface = "wg0" ∧
      (1024 ≤ c.wireguard.listenPort ∧ c.wireguard.listenPort ≤ 65535 ∧
        c.wireguard.listenPort ≠ c.system.httpsPort) ∧
      eachFrom (peerErrors env ((parseCidr c.wireguard.address).map (·.2))) [] 0
        c.wireguard.peers.items = [] := by
  have hw := h.valid.wireguard he
  unfold validateWireguard at hw
  simp only [List.append_eq_nil_iff, failIf_eq_nil, not_not, not_or] at hw
  obtain ⟨⟨⟨⟨⟨hwan, hinterface⟩, -⟩, _, _, hport⟩, -⟩, hpeers⟩ := hw
  exact ⟨hwan, hinterface, ⟨by omega, by omega, hport⟩, hpeers⟩

theorem wireguard_interface (he : c.wireguard.enabled = true) :
    c.wireguard.interface = "wg0" := (h.wireguard_checks he).2.1

theorem wireguard_peer (he : c.wireguard.enabled = true)
    (hpeer : peer ∈ c.wireguard.peers.items) (hpe : peer.enabled = true) :
    CheckedPeer env peer := by
  obtain ⟨s, i, hi⟩ := eachFrom_eq_nil (h.wireguard_checks he).2.2.2 hpeer
  exact checked_of_peerErrors hpe hi

theorem peers_pairwise (he : c.wireguard.enabled = true) :
    c.wireguard.peers.items.Pairwise fun peer peer' => peer.enabled = true → peer'.enabled = true →
        ∀ allowed ∈ peer.allowedIps.items, ∀ allowed' ∈ peer'.allowedIps.items,
          (parseCidr allowed).map (·.2) ≠ (parseCidr allowed').map (·.2) := by
  refine (pairwise_of_eachFrom (K := fun peer seen => peer.enabled = true →
    ∀ allowed ∈ peer.allowedIps.items, ∃ network ∈ seen, (parseCidr allowed).map (·.2) = some network)
    ?_ ?_ ?_ (h.wireguard_checks he).2.2.2).1
  · intro s i x y hy hye allowed hallowed
    obtain ⟨network, hnetwork, hparse⟩ := hy hye allowed hallowed
    exact ⟨network, mem_peerErrors hnetwork, hparse⟩
  · intro s i x hx hxe allowed hallowed
    obtain ⟨_, y, network, hitems, hparse, -, -, hstate⟩ := peerErrors_route hxe hx
    rw [hitems, List.mem_singleton] at hallowed
    rw [hstate, hallowed, hparse]
    exact ⟨network, List.mem_cons_self, rfl⟩
  intro s i x hx y hy hye hxe allowed hallowed allowed' hallowed' heq
  obtain ⟨_, z, _, hitems, hparse, -, hnew, -⟩ := peerErrors_route hxe hx
  obtain ⟨network, hnetwork, hparse'⟩ := hy hye allowed hallowed
  rw [hitems, List.mem_singleton] at hallowed'
  rw [hparse', hallowed', hparse] at heq
  cases heq
  exact hnew hnetwork

theorem wireguard_address (he : c.wireguard.enabled = true) :
    ∃ x network, parseCidr c.wireguard.address = some (.v4 x, network) := by
  have hw := h.valid.wireguard he
  unfold validateWireguard at hw
  simp only [List.append_eq_nil_iff] at hw
  obtain ⟨⟨-, haddress⟩, -⟩ := hw
  split at haddress
  · next x network hparse => exact ⟨x, network, hparse⟩
  · cases haddress

theorem wgClient_interface (he : c.wgClient.enabled = true) : c.wgClient.interface = "wg1" := by
  have hclient := h.valid.wgClient
  unfold validateWgClient at hclient
  simp only [he, not_true_eq_false, if_false, List.append_eq_nil_iff, failIf_eq_nil, not_not]
    at hclient
  tauto

theorem clientScenario (he : c.wgClient.enabled = true) : clientScenarioErrors c = [] := by
  have hsafe := h.safe
  unfold scenarioErrors at hsafe
  simp only [he, if_true, List.append_eq_nil_iff] at hsafe
  exact hsafe.1.2

theorem wgClient_address (he : c.wgClient.enabled = true) :
    ∃ x network, parseCidr (trim c.wgClient.address) = some (.v4 x, network) ∧
      network.ones = 32 := by
  have hclient := h.clientScenario he
  unfold clientScenarioErrors at hclient
  have haddress := (List.append_eq_nil_iff.mp (List.append_eq_nil_iff.mp hclient).1).1
  split at haddress
  · next x network hparse => exact ⟨x, network, hparse, by simpa using haddress⟩
  · cases haddress

theorem wgClient_allowedIps (he : c.wgClient.enabled = true) : c.wgClient.allowedIps.items ≠ [] ∧
      eachFrom (allowedIpErrors c) [] 0 c.wgClient.allowedIps.items = [] := by
  have hclient := h.valid.wgClient
  unfold validateWgClient at hclient
  simp only [he, not_true_eq_false, if_false, List.append_eq_nil_iff, failIf_eq_nil, not_not]
    at hclient
  obtain ⟨⟨⟨⟨-, hlisted⟩, heach⟩, -⟩, -⟩ := hclient
  exact ⟨hlisted, heach⟩

theorem wgClient_parsed (he : c.wgClient.enabled = true)
    (hentry : entry ∈ c.wgClient.allowedIps.items) :
    ∃ ip network, parseCidr (trim entry) = some (ip, network) := by
  obtain ⟨s, i, hi⟩ := eachFrom_eq_nil (h.wgClient_allowedIps he).2 hentry
  unfold allowedIpErrors at hi
  dsimp only at hi
  split at hi
  · next x network hparse => exact ⟨_, network, hparse⟩
  · cases hi

theorem wgClient_remote (he : c.wgClient.enabled = true)
    (hentry : entry ∈ c.wgClient.allowedIps.items)
    (hparse : parseCidr (trim entry) = some (ip, network)) (hv4 : network.ip.to4.isSome = true) :
    network.bits = 32 := by
  have hclient := h.clientScenario he
  unfold clientScenarioErrors at hclient
  have hentries := (List.append_eq_nil_iff.mp (List.append_eq_nil_iff.mp hclient).1).2
  obtain ⟨i, hi⟩ := each_eq_nil hentries hentry
  rw [hparse] at hi
  exact bits_of_isPrivateSiteNetwork (by simpa [hv4] using hi)

theorem wifi_interface (he : c.wifi.enabled = true) :
    c.wifi.interface ≠ c.wan.interface ∧ c.wifi.interface ≠ c.lan.interface ∧
      c.wifi.interface ≠ wifiBridgeInterface := by
  have hwifi := h.valid.wifi
  unfold wifiErrors at hwifi
  simp only [he, not_true_eq_false, if_false, List.append_eq_nil_iff, failIf_eq_nil, not_or]
    at hwifi
  tauto

theorem extraLan (hlan : lan ∈ c.firewall.extraLans.items)
    (he : lan.enabled = true) : CheckedSegment c lan := by
  obtain ⟨s, i, hi⟩ := eachFrom_eq_nil h.valid.extraLans hlan
  exact (checked_of_extraLanErrors he hi).1

theorem extraLans_pairwise : c.firewall.extraLans.items.Pairwise fun lan lan' =>
      lan.enabled = true → lan'.enabled = true → lan.interface ≠ lan'.interface := by
  refine (pairwise_of_eachFrom (K := fun lan s => lan.enabled = true → lan.interface ∈ s.1)
    ?_ ?_ ?_ h.valid.extraLans).1
  · intro s i x y hy he
    rw [extraLanErrors_interfaces]
    split
    · exact List.mem_cons_of_mem _ (hy he)
    · exact hy he
  · intro s i x hx he
    have hfree := (checked_of_extraLanErrors he hx).1.interface
    rw [extraLanErrors_interfaces, if_pos (by simp [he, hfree.valid, hfree.notPpp])]
    exact List.mem_cons_self
  · intro s i x hx y hy he he' hname
    exact (checked_of_extraLanErrors he' hx).2 (hname ▸ hy he)

end

end Accepted

def samplePlatform : Platform := ⟨⟨fun _ => false, fun _ => false, id⟩, fun _ _ _ => 0⟩

def sampleKey (c : Char) : String := String.ofList (List.replicate 42 c ++ ['A', '='])

def sampleSegment : ExtraLANConfig where
  id := "cameras"
  name := "cameras"
  interface := "eth2"
  cidr := "192.168.50.0/24"
  routerAddress := "192.168.50.1/24"
  dstIp := "192.168.50.10"
  dstPort := 443
  allowFrom := .of ["192.168.1.0/24"]
  enabled := true

def samplePeer : WireGuardPeer where
  id := "phone"
  name := "phone"
  publicKey := sampleKey 'b'
  allowedIps := .of ["10.8.0.2/32"]
  enabled := true

def sampleConfig : SystemConfig :=
  let c := defaultConfig Time.zero
  { c with
    wan := { c.wan with enabled := true, username := "user", password := "secret" }
    firewall := { c.firewall with extraLans := .of [sampleSegment] }
    wireguard := { c.wireguard with
      enabled := true, privateKey := sampleKey 'a', peers := .of [samplePeer] }
    wgClient := { c.wgClient with
      enabled := true, privateKey := sampleKey 'c', publicKey := sampleKey 'd',
      address := "10.9.0.2/32", endpoint := "198.51.100.7:51820",
      allowedIps := .of ["10.20.0.0/16"] } }

/-- The router at another address of its network. -/
def movedTo (ip : String) : SystemConfig :=
  { sampleConfig with lan := { sampleConfig.lan with ipAddress := ip, cidr := ip ++ "/24" } }

theorem live_sampleConfig :
    validateLiveCandidate (releaseRules samplePlatform) sampleConfig none = .ok () := by
  decide +kernel

end MinimalRouter.Config
