import MinimalRouter.Config.Facts
import MinimalRouter.Goish.AddressText

namespace MinimalRouter.Wireguard

open Goish Config Lib

def renderLines (lines : List String) : String :=
  String.ofList (Segments.terminated '\n' (lines.map String.toList))

@[simp] theorem toList_renderLines (lines : List String) :
    (renderLines lines).toList = Segments.terminated '\n' (lines.map String.toList) :=
  String.toList_ofList

def interfaceLines (wg : WireGuardConfig) (includeAddress : Bool) : List String :=
  ["# Generated by Minimal Router OS — do not edit manually"] ++
  (if includeAddress then ["# Runtime file: /run/minimalrouter/wg0.conf", ""]
    else ["# Runtime input for wg setconf; interface address is applied separately", ""]) ++
  ["[Interface]", "PrivateKey = " ++ wg.privateKey,
    if wg.listenPort > 0 then "ListenPort = " ++ toString wg.listenPort else "ListenPort = 51820"] ++
  (if includeAddress then ["Address = " ++ wg.address] else []) ++
  [""]

def hostRoute (peer : WireGuardPeer) : Except String String :=
  match peer.allowedIps.items with
  | [allowed] =>
    match parseCidr (trim allowed) with
    | some (.v4 _, network) =>
      if network.ones = 32 ∧ network.bits = 32 then .ok network.toString
      else .error ("WireGuard peer " ++ quote peer.name ++ " must use an IPv4 /32 address")
    | _ => .error ("WireGuard peer " ++ quote peer.name ++ " must use an IPv4 /32 address")
  | _ => .error ("WireGuard peer " ++ quote peer.name ++ " must have exactly one IPv4 /32 address")

def peerLines (peer : WireGuardPeer) (route : String) : List String :=
  ["# Peer: " ++ peer.name, "[Peer]", "PublicKey = " ++ peer.publicKey] ++
  (if peer.presharedKey = "" then [] else ["PresharedKey = " ++ peer.presharedKey]) ++
  ["AllowedIPs = " ++ route] ++
  (if peer.endpoint = "" then [] else ["Endpoint = " ++ peer.endpoint]) ++
  ["PersistentKeepalive = 25", ""]

def writePeers : List String → List WireGuardPeer → Except String (List String)
  | _, [] => .ok []
  | seen, peer :: peers =>
    if ¬peer.enabled then writePeers seen peers
    else
      match hostRoute peer with
      | .error e => .error e
      | .ok route =>
        if route ∈ seen then
          .error ("WireGuard peer " ++ quote peer.name ++ " duplicates address " ++ route)
        else (writePeers (route :: seen) peers).map (peerLines peer route ++ ·)

def generate (wg : WireGuardConfig) (includeAddress : Bool) : Except String String :=
  (writePeers [] wg.peers.items).map fun peers =>
    renderLines (interfaceLines wg includeAddress ++ peers)

def generateWireguard (wg : WireGuardConfig) : Except String String := generate wg true

def clientAddress (wg : WGClientConfig) : Except String Unit :=
  match parseCidr (trim wg.address) with
  | some (.v4 _, network) =>
    if network.bits ≠ 32 ∨ network.ones ≠ 32 then
      .error "WireGuard client address must be an IPv4 /32"
    else .ok ()
  | _ => .error "WireGuard client address is required and must be a valid IPv4 /32"

def clientNetworks : List String → List String → Except String (List String)
  | _, [] => .ok []
  | seen, entry :: entries =>
    match (parseCidr (trim entry)).map (·.2) with
    | some network =>
      if network.ip.to4 = none then
        .error ("WireGuard client allowed network " ++ quote entry ++ " must be valid IPv4 CIDR")
      else
        let cidr := network.toString
        if cidr ∈ seen then .error ("WireGuard client duplicates allowed network " ++ cidr)
        else (clientNetworks (cidr :: seen) entries).map (cidr :: ·)
    | none => .error ("WireGuard client allowed network " ++ quote entry ++ " must be valid IPv4 CIDR")

def generateWireguardClientRuntime (wg : WGClientConfig) : Except String String := do
  clientAddress wg
  if wg.allowedIps.isEmpty then throw "WireGuard client must list at least one allowed network"
  let allowed ← clientNetworks [] wg.allowedIps.items
  return renderLines (
    ["# Generated by Minimal Router OS — do not edit manually",
      "# Runtime input for wg setconf; interface address is applied separately", "",
      "[Interface]", "PrivateKey = " ++ wg.privateKey, "",
      "# Peer: remote site (outbound tunnel)", "[Peer]", "PublicKey = " ++ wg.publicKey] ++
    (if wg.presharedKey = "" then [] else ["PresharedKey = " ++ wg.presharedKey]) ++
    ["AllowedIPs = " ++ ", ".intercalate allowed] ++
    (if wg.endpoint = "" then [] else ["Endpoint = " ++ wg.endpoint]) ++
    ["PersistentKeepalive = " ++ toString wg.persistentKeepalive])

theorem generateWireguard_of_writePeers (h : writePeers [] wg.peers.items = .ok peers) :
    generateWireguard wg = .ok (renderLines (interfaceLines wg true ++ peers)) := by
  unfold generateWireguard generate
  rw [h]
  rfl

theorem hostRoute_eq_ok :
    hostRoute peer = .ok route ↔ ∃ allowed x, peer.allowedIps.items = [allowed] ∧
      parseCidr (trim allowed) = some (.v4 x, ⟨.v4 x, 32, 32⟩) ∧ route = octetsString x ++ "/32" := by
  unfold hostRoute
  constructor
  · intro h
    split at h
    · next allowed hallowed =>
      split at h
      · next y network hparse =>
        split at h
        · next hsize =>
          obtain ⟨x, hx, hnetwork, -⟩ := parseCidr_of_bits hparse hsize.2
          rw [hsize.1, Block.mask_width] at hnetwork
          cases hx
          cases h
          rw [hnetwork] at hparse ⊢
          exact ⟨allowed, y, hallowed, hparse, IPNet.toString_host y⟩
        · cases h
      · cases h
    · cases h
  rintro ⟨allowed, x, hallowed, hparse, rfl⟩
  rw [hallowed]
  dsimp only
  rw [hparse, ← IPNet.toString_host]
  rfl

def enabledPeers (wg : WireGuardConfig) : List WireGuardPeer := wg.peers.items.filter (·.enabled)

def Routed (seen : List String) (peers : List WireGuardPeer) (routes : List String) : Prop :=
  List.Forall₂ (fun peer route => hostRoute peer = .ok route) (peers.filter (·.enabled)) routes ∧
    routes.Nodup ∧ ∀ route ∈ routes, route ∉ seen

theorem routed_nil : Routed seen [] routes ↔ routes = [] := by
  constructor
  · exact fun h => List.forall₂_nil_left_iff.mp h.1
  · rintro rfl
    exact ⟨.nil, .nil, nofun⟩

theorem routed_skip (h : peer.enabled = false) :
    Routed seen (peer :: peers) routes ↔ Routed seen peers routes := by
  unfold Routed
  rw [List.filter_cons_of_neg (by simp [h])]

theorem routed_cons (h : peer.enabled = true) : Routed seen (peer :: peers) routes ↔
      ∃ route rest, routes = route :: rest ∧ hostRoute peer = .ok route ∧ route ∉ seen ∧
        Routed (route :: seen) peers rest := by
  unfold Routed
  rw [List.filter_cons_of_pos (by simp [h]), List.forall₂_cons_left_iff]
  constructor
  · rintro ⟨⟨route, rest, hroute, hrest, rfl⟩, hnodup, hseen⟩
    obtain ⟨hroute_rest, hnodup⟩ := List.nodup_cons.mp hnodup
    refine ⟨route, rest, rfl, hroute, hseen _ List.mem_cons_self, hrest, hnodup, fun r hr => ?_⟩
    rw [List.mem_cons, not_or]
    exact ⟨fun heq => hroute_rest (heq ▸ hr), hseen r (List.mem_cons_of_mem _ hr)⟩
  rintro ⟨route, rest, rfl, hroute, hseen, hrest, hnodup, hrest_seen⟩
  refine ⟨⟨route, rest, hroute, hrest, rfl⟩, List.nodup_cons.mpr ⟨?_, hnodup⟩, ?_⟩
  · exact fun hmem => hrest_seen route hmem List.mem_cons_self
  · refine List.forall_mem_cons.mpr ⟨hseen, fun r hr => ?_⟩
    exact fun hmem => hrest_seen r hr (List.mem_cons_of_mem _ hmem)

theorem writePeers_eq_ok : writePeers seen peers = .ok lines ↔ ∃ routes, Routed seen peers routes ∧
      lines = ((peers.filter (·.enabled)).zip routes).flatMap fun pr => peerLines pr.1 pr.2 := by
  induction peers generalizing seen lines with
  | nil =>
    simp only [writePeers, Except.ok.injEq, routed_nil, exists_eq_left]
    exact eq_comm
  | cons peer peers ih =>
  unfold writePeers
  cases he : peer.enabled with
  | false =>
    rw [if_pos (by simp), ih]
    simp only [routed_skip he, List.filter_cons_of_neg (by simp [he] : ¬peer.enabled = true)]
  | true =>
  rw [if_neg (by simp)]
  simp only [routed_cons he, List.filter_cons_of_pos (by simp [he] : peer.enabled = true)]
  cases hroute : hostRoute peer with
  | error => simp
  | ok route =>
    dsimp only
    split
    · next hseen => simp [hseen]
    · next hseen =>
      rw [Result.map_eq_ok]
      constructor
      · rintro ⟨rest, hrest, rfl⟩
        obtain ⟨routes, hrouted, rfl⟩ := ih.mp hrest
        exact ⟨route :: routes, ⟨route, routes, rfl, rfl, hseen, hrouted⟩, rfl⟩
      rintro ⟨routes, ⟨route', rest, rfl, hroute', -, hrouted⟩, rfl⟩
      cases hroute'
      exact ⟨_, ih.mpr ⟨rest, hrouted, rfl⟩, rfl⟩

end MinimalRouter.Wireguard
