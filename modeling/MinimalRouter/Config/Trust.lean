import MinimalRouter.Config.Disjoint

namespace MinimalRouter.Config

open Goish Lib Lib.Checks

/-- The address that a remote address is read as: that of a host and a port, or a bare one. -/
inductive ReadsAs (remote : String) (ip : IP) : Prop
  | hostPort (hsplit : splitHostPort remote = some (host, port)) (hhost : parseIp host = some ip) :
      ReadsAs remote ip
  | bare (hbare : parseIp (trim remote) = some ip) : ReadsAs remote ip

theorem readsAs_of_parseRemoteIp (h : parseRemoteIp remote = some ip) : ReadsAs remote ip := by
  unfold parseRemoteIp at h
  split at h
  · cases h
  split at h
  next host port hsplit => exact .hostPort hsplit h
  next => exact .bare h

/-- A network that a client may come from: what it has of IPv4 addresses is limited, and an IPv6
network has none. -/
structure TrustedNetwork (entry : String) (n : IPNet) : Prop where
  parsed : ∃ ip, parseCidr entry = some (ip, n)
  size : ∀ xs : List (BitVec 32), xs.Nodup → (∀ x ∈ xs, n.contains (.v4 x) = true) →
    xs.length ≤ 2 ^ 24
  unspecified : n.contains (.v4 0) = false
  v6 : ∀ ip, parseCidr entry = some (ip, n) → ip.to4 = none → ∀ x, n.contains (.v4 x) = false

section Networks

variable {base : BitVec 32}

theorem prefix_of_trustedNetworkErrors (h : (trustedNetworkErrors seen i entry).2 = []) :
    ∃ ip n, parseCidr entry = some (ip, n) ∧ minimumTrustedPrefixLength ip n ≤ n.ones ∧
      n.ip.isUnspecified = false := by
  unfold trustedNetworkErrors at h
  dsimp only at h
  split at h
  next => cases h
  next =>
  split at h
  next => cases h
  next ip n hparse =>
  split at h
  next => cases h
  next =>
  split at h
  next => cases h
  next hspecific =>
    rw [not_or, Nat.not_lt, Bool.not_eq_true] at hspecific
    exact ⟨ip, n, hparse, hspecific⟩

theorem effective_of_minimum (hparse : parseCidr entry = some (ip, n)) (hbase : n.ip = .v4 base)
    (hones : minimumTrustedPrefixLength ip n ≤ n.ones) : 8 ≤ n.effective := by
  obtain ⟨x, rfl, -, -, ⟨hbits, heq⟩ | ⟨hbits, heq⟩⟩ := parseCidr_of_v4 hparse hbase
  · rw [minimumTrustedPrefixLength, if_pos hbits] at hones
    omega
  have hmapped : (IP.v4 x).to4.isSome = true := rfl
  rw [minimumTrustedPrefixLength, if_neg (by omega), if_pos hmapped] at hones
  omega

theorem trustedNetwork_of_v4 (hparse : parseCidr entry = some (ip, n)) (hbase : n.ip = .v4 base)
    (hones : minimumTrustedPrefixLength ip n ≤ n.ones) (hspecified : n.ip.isUnspecified = false) :
    TrustedNetwork entry n := by
  have heffective := effective_of_minimum hparse hbase hones
  obtain ⟨x, -, hmask, -, -⟩ := parseCidr_of_v4 hparse hbase
  have haligned : (Block.mk base n.effective).Aligned := hmask ▸ Block.aligned_mask n.effective x
  refine ⟨⟨ip, hparse⟩, fun xs hnodup hxs => ?_, ?_, fun ip hparse hnone => ?_⟩
  · have hlength : xs.length ≤ 2 ^ (32 - n.effective) :=
      haligned.length_le hnodup fun x hx => contains_of_base hbase ▸ hxs x hx
    exact hlength.trans (Nat.pow_le_pow_right (by decide) (by omega))
  · rw [contains_of_base hbase, Bool.eq_false_iff, Ne, haligned.contains_iff]
    rintro ⟨hle, -⟩
    have hzero : base = 0 := BitVec.eq_of_toNat_eq (Nat.le_zero.mp hle)
    rw [hbase, hzero] at hspecified
    cases hspecified
  · obtain ⟨x, rfl, -⟩ := parseCidr_of_v4 hparse hbase
    cases hnone

theorem trustedNetwork_of_v6 {base : BitVec 128} (hparse : parseCidr entry = some (ip, n))
    (hbase : n.ip = .v6 base) : TrustedNetwork entry n := by
  have hnone : ∀ x, n.contains (.v4 x) = false := by
    intro x
    simp only [IPNet.contains, hbase]
  refine ⟨⟨ip, hparse⟩, fun xs _ hxs => ?_, hnone 0, fun _ _ _ => hnone⟩
  cases xs with
  | nil => exact Nat.zero_le _
  | cons x => cases (hnone x).symm.trans (hxs x List.mem_cons_self)

end Networks

theorem Accepted.trustedNetwork (h : Accepted env c) (hentry : entry ∈ c.trustedNetworks.items) :
    ∃ n, TrustedNetwork entry n := by
  have htrust := (List.append_eq_nil_iff.mp h.valid.trust).2
  obtain ⟨_, i, hi⟩ := eachFrom_eq_nil htrust hentry
  obtain ⟨ip, n, hparse, hones, hspecified⟩ := prefix_of_trustedNetworkErrors hi
  cases hbase : n.ip with
  | v4 => exact ⟨n, trustedNetwork_of_v4 hparse hbase hones hspecified⟩
  | v6 => exact ⟨n, trustedNetwork_of_v6 hparse hbase⟩

/-- The boundary of management: a client that is trusted is the router itself or comes from a network
that is listed, and every listed network is a trusted network. -/
theorem management_trust_boundary {previous : Option SystemConfig}
    (h : validateLiveCandidate (releaseRules env) c previous = .ok ()) :
    (∀ remote, c.isTrustedClientAddress remote = true → ∃ ip, ReadsAs remote ip ∧
      (ip.isLoopback = true ∨ ∃ entry ∈ c.trustedNetworks.items, ∃ n, TrustedNetwork entry n ∧
        n.contains ip = true)) ∧
    ∀ entry ∈ c.trustedNetworks.items, ∃ n, TrustedNetwork entry n := by
  have haccepted := accepted_of_live h
  refine ⟨fun remote hremote => ?_, fun entry => haccepted.trustedNetwork⟩
  unfold SystemConfig.isTrustedClientAddress at hremote
  split at hremote
  next => cases hremote
  next ip hip =>
  refine ⟨ip, readsAs_of_parseRemoteIp hip, ?_⟩
  rcases Bool.or_eq_true_iff.mp hremote with hloopback | hlisted
  · exact .inl hloopback
  obtain ⟨entry, hentry, hcontains⟩ := List.any_eq_true.mp hlisted
  obtain ⟨n, hn⟩ := haccepted.trustedNetwork hentry
  obtain ⟨_, hparse⟩ := hn.parsed
  rw [hparse] at hcontains
  exact .inr ⟨entry, hentry, n, hn, hcontains⟩

theorem management_trust_boundary_sampleConfig :
    sampleConfig.isTrustedClientAddress "192.168.1.7:50000" = true ∧
      ∃ ip, ReadsAs "192.168.1.7:50000" ip ∧ (ip.isLoopback = true ∨
        ∃ entry ∈ sampleConfig.trustedNetworks.items, ∃ n, TrustedNetwork entry n ∧
          n.contains ip = true) := by
  have htrusted : sampleConfig.isTrustedClientAddress "192.168.1.7:50000" = true := by decide +kernel
  exact ⟨htrusted, (management_trust_boundary live_sampleConfig).1 _ htrusted⟩

end MinimalRouter.Config
