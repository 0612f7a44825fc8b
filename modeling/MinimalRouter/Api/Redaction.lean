import MinimalRouter.Config.Facts

namespace MinimalRouter.Api

open Goish Config

def redactedSecret : String := "[REDACTED]"

def redactPreshared (key : String) : String := if key = "" then key else redactedSecret

/-- A detached public view. Identifiers that the administrator manages stay visible. -/
def redactConfig (cfg : SystemConfig) : SystemConfig :=
  { cfg with
    wan := { cfg.wan with password := redactedSecret }
    wireguard := { cfg.wireguard with
      privateKey := redactedSecret
      peers := cfg.wireguard.peers.map fun peer =>
        { peer with presharedKey := redactPreshared peer.presharedKey } }
    wgClient := { cfg.wgClient with
      privateKey := redactedSecret
      presharedKey := redactPreshared cfg.wgClient.presharedKey }
    cloudflare := { cfg.cloudflare with apiToken := redactedSecret, tunnelToken := redactedSecret }
    squidProxy := { cfg.squidProxy with password := redactedSecret }
    wifi := { cfg.wifi with passphrase := redactedSecret } }

/-- The only peer with the identifier, and with the public key when one is given. -/
def uniqueWireguardPeer (peers : List WireGuardPeer) (id publicKey : String) :
    Option WireGuardPeer :=
  if id = "" then none
  else
    match peers.filter fun p => p.id = id ∧ (publicKey = "" ∨ p.publicKey = publicKey) with
    | [found] => some found
    | _ => none

def restore (value original : String) : String := if value = redactedSecret then original else value

def restorePeer (current : List WireGuardPeer) (peer : WireGuardPeer) : WireGuardPeer :=
  if peer.presharedKey ≠ redactedSecret then peer
  else
    match uniqueWireguardPeer current peer.id peer.publicKey with
    | some existing => { peer with presharedKey := existing.presharedKey }
    | none => peer

def restoreRedactedConfig (candidate current : SystemConfig) : SystemConfig :=
  { candidate with
    wan := { candidate.wan with password := restore candidate.wan.password current.wan.password }
    wireguard := { candidate.wireguard with
      privateKey := restore candidate.wireguard.privateKey current.wireguard.privateKey
      peers := candidate.wireguard.peers.map (restorePeer current.wireguard.peers.items) }
    wgClient := { candidate.wgClient with
      privateKey := restore candidate.wgClient.privateKey current.wgClient.privateKey
      presharedKey := restore candidate.wgClient.presharedKey current.wgClient.presharedKey }
    cloudflare := { candidate.cloudflare with
      apiToken := restore candidate.cloudflare.apiToken current.cloudflare.apiToken
      tunnelToken := restore candidate.cloudflare.tunnelToken current.cloudflare.tunnelToken }
    squidProxy := { candidate.squidProxy with
      password := restore candidate.squidProxy.password current.squidProxy.password }
    wifi := { candidate.wifi with
      passphrase := restore candidate.wifi.passphrase current.wifi.passphrase } }

/-- The secrets of a configuration. A preshared key belongs to the peer at a position. -/
structure Secrets where
  (wanPassword wireguardKey clientKey clientPreshared apiToken tunnelToken proxyPassword
    passphrase : String)
  preshared : Nat → String

def secrets (c : SystemConfig) : Secrets where
  wanPassword := c.wan.password
  wireguardKey := c.wireguard.privateKey
  clientKey := c.wgClient.privateKey
  clientPreshared := c.wgClient.presharedKey
  apiToken := c.cloudflare.apiToken
  tunnelToken := c.cloudflare.tunnelToken
  proxyPassword := c.squidProxy.password
  passphrase := c.wifi.passphrase
  preshared i := (c.wireguard.peers.items[i]?.map (·.presharedKey)).getD ""

def withSecrets (c : SystemConfig) (s : Secrets) : SystemConfig :=
  { c with
    wan := { c.wan with password := s.wanPassword }
    wireguard := { c.wireguard with
      privateKey := s.wireguardKey
      peers := c.wireguard.peers.mapIdx fun i peer => { peer with presharedKey := s.preshared i } }
    wgClient := { c.wgClient with privateKey := s.clientKey, presharedKey := s.clientPreshared }
    cloudflare := { c.cloudflare with apiToken := s.apiToken, tunnelToken := s.tunnelToken }
    squidProxy := { c.squidProxy with password := s.proxyPassword }
    wifi := { c.wifi with passphrase := s.passphrase } }

def OnlyPeer (stored : List WireGuardPeer) (peer existing : WireGuardPeer) : Prop :=
  peer.id ≠ "" ∧ stored.filter (fun p => p.id = peer.id ∧
    (peer.publicKey = "" ∨ p.publicKey = peer.publicKey)) = [existing]

/-- A configuration that comes out of a candidate by putting stored secrets in place of
placeholders. -/
structure Restores (candidate current result : SystemConfig) : Prop where
  others : ∃ s, result = withSecrets candidate s
  wan : result.wan.password = restore candidate.wan.password current.wan.password
  wireguard : result.wireguard.privateKey =
    restore candidate.wireguard.privateKey current.wireguard.privateKey
  client : result.wgClient.privateKey =
    restore candidate.wgClient.privateKey current.wgClient.privateKey
  clientPreshared : result.wgClient.presharedKey =
    restore candidate.wgClient.presharedKey current.wgClient.presharedKey
  apiToken : result.cloudflare.apiToken =
    restore candidate.cloudflare.apiToken current.cloudflare.apiToken
  tunnelToken : result.cloudflare.tunnelToken =
    restore candidate.cloudflare.tunnelToken current.cloudflare.tunnelToken
  proxy : result.squidProxy.password =
    restore candidate.squidProxy.password current.squidProxy.password
  passphrase : result.wifi.passphrase = restore candidate.wifi.passphrase current.wifi.passphrase
  preshared : ∀ (i : Nat) peer, candidate.wireguard.peers.items[i]? = some peer →
    ∃ key, result.wireguard.peers.items[i]? = some { peer with presharedKey := key } ∧
      (peer.presharedKey ≠ redactedSecret → key = peer.presharedKey) ∧
      (peer.presharedKey = redactedSecret →
        (∃ existing, OnlyPeer current.wireguard.peers.items peer existing ∧
          key = existing.presharedKey) ∨
        (¬∃ existing, OnlyPeer current.wireguard.peers.items peer existing) ∧ key = redactedSecret)

theorem uniqueWireguardPeer_eq_some :
    uniqueWireguardPeer stored peer.id peer.publicKey = some existing ↔
      OnlyPeer stored peer existing := by
  unfold uniqueWireguardPeer OnlyPeer
  split
  · simp [*]
  · next hid =>
    split
    · next found hfound =>
      rw [hfound]
      simp [hid]
    · next hnone =>
      simp only [reduceCtorEq, false_iff, not_and]
      exact fun _ => hnone existing

theorem restorePeer_cases (stored : List WireGuardPeer) (peer : WireGuardPeer) :
    ∃ key, restorePeer stored peer = { peer with presharedKey := key } ∧
      (peer.presharedKey ≠ redactedSecret → key = peer.presharedKey) ∧
      (peer.presharedKey = redactedSecret →
        (∃ existing, OnlyPeer stored peer existing ∧ key = existing.presharedKey) ∨
        (¬∃ existing, OnlyPeer stored peer existing) ∧ key = redactedSecret) := by
  unfold restorePeer
  split
  · next hkey => exact ⟨peer.presharedKey, rfl, fun _ => rfl, fun h => absurd h hkey⟩
  next hkey =>
  rw [not_not] at hkey
  split
  · next existing hfound =>
    exact ⟨existing.presharedKey, rfl, fun h => absurd hkey h,
      fun _ => .inl ⟨existing, uniqueWireguardPeer_eq_some.mp hfound, rfl⟩⟩
  · next hnone =>
    refine ⟨peer.presharedKey, rfl, fun _ => rfl, fun _ => .inr ⟨?_, hkey⟩⟩
    rintro ⟨existing, honly⟩
    cases hnone.symm.trans (uniqueWireguardPeer_eq_some.mpr honly)

theorem OnlyPeer.eq_self (hmem : peer ∈ stored) (h : OnlyPeer stored peer existing) :
    existing = peer := by
  have hpeer : peer ∈ stored.filter fun p => p.id = peer.id ∧
      (peer.publicKey = "" ∨ p.publicKey = peer.publicKey) := by
    simp [hmem]
  rw [h.2] at hpeer
  exact (List.mem_singleton.mp hpeer).symm

theorem restorePeer_redacted (hmem : peer ∈ stored) :
    restorePeer stored { peer with presharedKey := redactPreshared peer.presharedKey } = peer ↔
      peer.presharedKey = "" ∨ peer.presharedKey = redactedSecret ∨ OnlyPeer stored peer peer := by
  obtain ⟨key, hkey, hkept, hfound⟩ :=
    restorePeer_cases stored { peer with presharedKey := redactPreshared peer.presharedKey }
  have hsame : ({ peer with presharedKey := key } : WireGuardPeer) = peer ↔ key = peer.presharedKey := by
    constructor
    · exact fun h => congrArg (·.presharedKey) h
    · rintro rfl
      rfl
  rw [hkey]
  by_cases hempty : peer.presharedKey = ""
  · have hnot : redactPreshared peer.presharedKey ≠ redactedSecret := by
      rw [redactPreshared, if_pos hempty, hempty]
      decide
    have hkey' : key = redactPreshared peer.presharedKey := hkept hnot
    rw [redactPreshared, if_pos hempty] at hkey'
    exact ⟨fun _ => .inl hempty, fun _ => hsame.mpr hkey'⟩
  have hredacted : redactPreshared peer.presharedKey = redactedSecret := if_neg hempty
  rcases hfound hredacted with ⟨existing, honly, rfl⟩ | ⟨hnone, rfl⟩
  · have honly : OnlyPeer stored peer existing := honly
    have heq : existing = peer := honly.eq_self hmem
    rw [heq] at honly ⊢
    exact ⟨fun _ => .inr (.inr honly), fun _ => rfl⟩
  rw [hsame]
  constructor
  · exact fun h => .inr (.inl h.symm)
  rintro (h | h | h)
  · exact absurd h hempty
  · exact h.symm
  · exact absurd ⟨peer, h⟩ hnone

theorem restores (candidate current : SystemConfig) :
    Restores candidate current (restoreRedactedConfig candidate current) where
  others := by
    refine ⟨secrets (restoreRedactedConfig candidate current), ?_⟩
    have hpeers : candidate.wireguard.peers.map (restorePeer current.wireguard.peers.items) =
        candidate.wireguard.peers.mapIdx fun i peer => { peer with
          presharedKey := (secrets (restoreRedactedConfig candidate current)).preshared i } := by
      refine GoList.map_eq_mapIdx fun i peer hi => ?_
      obtain ⟨key, hkey, -⟩ := restorePeer_cases current.wireguard.peers.items peer
      simp [secrets, restoreRedactedConfig, GoList.items_map, hi, hkey]
    unfold withSecrets
    rw [← hpeers]
    rfl
  wan := rfl
  wireguard := rfl
  client := rfl
  clientPreshared := rfl
  apiToken := rfl
  tunnelToken := rfl
  proxy := rfl
  passphrase := rfl
  preshared i peer hi := by
    obtain ⟨key, hkey, hspec⟩ := restorePeer_cases current.wireguard.peers.items peer
    refine ⟨key, ?_, hspec⟩
    change (candidate.wireguard.peers.map _).items[i]? = _
    rw [GoList.items_map, List.getElem?_map, hi, ← hkey]
    rfl

theorem restore_redacted (original : String) : restore redactedSecret original = original := if_pos rfl

theorem restore_redactPreshared (key : String) : restore (redactPreshared key) key = key := by
  unfold redactPreshared
  split
  · next h => simp [restore, h]
  · exact restore_redacted key

theorem redactPreshared_congr (h : key = "" ↔ key' = "") :
    redactPreshared key = redactPreshared key' := by
  unfold redactPreshared
  by_cases hkey : key = ""
  · rw [if_pos hkey, if_pos (h.mp hkey), hkey, h.mp hkey]
  · rw [if_neg hkey, if_neg (mt h.mpr hkey)]

theorem roundTrip_iff (c : SystemConfig) : restoreRedactedConfig (redactConfig c) c = c ↔
    ∀ peer ∈ c.wireguard.peers.items, peer.presharedKey = "" ∨ peer.presharedKey = redactedSecret ∨
      OnlyPeer c.wireguard.peers.items peer peer := by
  have hpeers : restoreRedactedConfig (redactConfig c) c = c ↔
      (c.wireguard.peers.map fun peer => restorePeer c.wireguard.peers.items
        { peer with presharedKey := redactPreshared peer.presharedKey }) = c.wireguard.peers := by
    rw [← GoList.map_map]
    constructor
    · exact fun h => congrArg (·.wireguard.peers) h
    intro h
    unfold restoreRedactedConfig
    simp only [redactConfig, h, restore_redacted, restore_redactPreshared]
  rw [hpeers, GoList.map_eq_self]
  exact forall₂_congr fun peer hmem => restorePeer_redacted hmem

theorem redactConfig_withSecrets (c : SystemConfig) (s : Secrets)
    (hclient : s.clientPreshared = "" ↔ c.wgClient.presharedKey = "")
    (hpeers : ∀ (i : Nat) peer, c.wireguard.peers.items[i]? = some peer →
      (s.preshared i = "" ↔ peer.presharedKey = "")) :
    redactConfig (withSecrets c s) = redactConfig c := by
  have hlist : (c.wireguard.peers.mapIdx fun i peer => { peer with presharedKey := s.preshared i }).map
      (fun peer => { peer with presharedKey := redactPreshared peer.presharedKey }) =
      c.wireguard.peers.map fun peer =>
        { peer with presharedKey := redactPreshared peer.presharedKey } := by
    rw [GoList.map_mapIdx]
    refine (GoList.map_eq_mapIdx fun i peer hi => ?_).symm
    rw [redactPreshared_congr (hpeers i peer hi)]
  unfold redactConfig
  simp only [withSecrets, hlist, redactPreshared_congr hclient]

/-- Redaction and restoration: when the way back leads to the start, what comes back in general,
and what the public view shows of the secrets. -/
theorem redaction_lens : (∀ c, restoreRedactedConfig (redactConfig c) c = c ↔
      ∀ peer ∈ c.wireguard.peers.items, peer.presharedKey = "" ∨
        peer.presharedKey = redactedSecret ∨ OnlyPeer c.wireguard.peers.items peer peer) ∧
    (∀ k c, Restores k c (restoreRedactedConfig k c)) ∧
    ∀ c s, (s.clientPreshared = "" ↔ c.wgClient.presharedKey = "") →
      (∀ (i : Nat) peer, c.wireguard.peers.items[i]? = some peer →
        (s.preshared i = "" ↔ peer.presharedKey = "")) →
      redactConfig (withSecrets c s) = redactConfig c :=
  ⟨roundTrip_iff, restores, redactConfig_withSecrets⟩

def withPeer (c : SystemConfig) (peer : WireGuardPeer) : SystemConfig :=
  { c with wireguard := { c.wireguard with peers := .of [peer] } }

/-- A preshared key whose peer has no identifier does not come back, and one that is asked for
without a public key comes from a peer that has one. -/
theorem preshared_not_restored :
    let nameless := withPeer sampleConfig { samplePeer with id := "", presharedKey := sampleKey 'e' }
    let stored := withPeer sampleConfig { samplePeer with presharedKey := sampleKey 'e' }
    let keyless := withPeer sampleConfig { samplePeer with
      publicKey := "", presharedKey := redactedSecret }
    validateLiveCandidate (releaseRules samplePlatform) nameless none = .ok () ∧
      restoreRedactedConfig (redactConfig nameless) nameless ≠ nameless ∧
      (restoreRedactedConfig keyless stored).wireguard.peers.items =
        [{ samplePeer with publicKey := "", presharedKey := sampleKey 'e' }] := by
  refine ⟨by decide +kernel, ?_, by decide +kernel⟩
  intro h
  rcases (roundTrip_iff _).mp h _ List.mem_cons_self with hempty | hredacted | honly
  · exact absurd hempty (by decide +kernel)
  · exact absurd hredacted (by decide +kernel)
  · exact honly.1 rfl

end MinimalRouter.Api
