import MinimalRouter.Config.Disjoint

namespace MinimalRouter.Config

open Goish Lib Lib.Checks

structure Plan where
  network : IPNet
  (first last gateway start stop : BitVec 32)

namespace Plan

def Within (p : Plan) (x : BitVec 32) : Prop := p.network.contains (.v4 x) = true

def Pooled (p : Plan) (x : BitVec 32) : Prop := p.start.toNat ≤ x.toNat ∧ x.toNat ≤ p.stop.toNat

structure Usable (p : Plan) (x : BitVec 32) : Prop where
  within : p.Within x
  first : x ≠ p.first
  last : x ≠ p.last
  gateway : x ≠ p.gateway

end Plan

structure Describes (c : SystemConfig) (p : Plan) : Prop where
  network : c.lanNetwork = some p.network
  gateway : parseIpv4 c.lan.ipAddress = some p.gateway
  start : parseIpv4 c.dhcp.rangeStart = some p.start
  stop : parseIpv4 c.dhcp.rangeEnd = some p.stop
  first : p.Within p.first ∧ ∀ x, p.Within x → p.first.toNat ≤ x.toNat
  last : p.Within p.last ∧ ∀ x, p.Within x → x.toNat ≤ p.last.toNat

/-- The pool and the reserved addresses are those of hosts, and no address is given twice. -/
structure SoundPlan (c : SystemConfig) (p : Plan) : Prop where
  nonempty : p.start.toNat ≤ p.stop.toNat
  pool : ∀ x, p.Pooled x → p.Usable x
  leases : ∀ lease ∈ c.dhcp.staticLeases.items, ∃ x, parseIpv4 lease.ipAddress = some x ∧
    p.Usable x ∧ ¬p.Pooled x
  distinct : c.dhcp.staticLeases.items.Pairwise fun lease other =>
    parseIpv4 lease.ipAddress ≠ parseIpv4 other.ipAddress

def LeavesLast (c : SystemConfig) (p : Plan) : Prop :=
  p.stop ≠ p.last ∧ ∀ lease ∈ c.dhcp.staticLeases.items, parseIpv4 lease.ipAddress ≠ some p.last

theorem SoundPlan.leavesLast (h : SoundPlan c p) : LeavesLast c p := by
  refine ⟨(h.pool p.stop ⟨h.nonempty, Nat.le_refl _⟩).last, fun lease hlease heq => ?_⟩
  obtain ⟨x, hx, husable, -⟩ := h.leases lease hlease
  exact husable.last (Option.some.inj (hx.symm.trans heq))

section Checks

variable {base : BitVec 32}

theorem last_host (x : BitVec 32) : (Block.mk x 32).last = x := by
  simp [Block.last]

/-- The broadcast address that is compared with: the last one, unless the network is written as an
IPv6 network. -/
theorem broadcast_of_parsed (h : parseCidr s = some (ip, n)) (hbase : n.ip = .v4 base) :
    n.ipv4Broadcast = some (if n.bits = 32 then (Block.mk base n.effective).last else base) := by
  obtain ⟨x, -, -, hle, ⟨hbits, hones⟩ | ⟨hbits, hones⟩⟩ := parseCidr_of_v4 h hbase
  · rw [IPNet.ipv4Broadcast, hbase, hones, Nat.min_eq_left hle, if_pos hbits]
    rfl
  · rw [IPNet.ipv4Broadcast, hbase, Nat.min_eq_right (by omega), if_neg (by omega)]
    exact congrArg some (last_host base)

structure CheckedPool (n : IPNet) (gateway start stop : BitVec 32) : Prop where
  nonempty : start.toNat ≤ stop.toNat
  bottom : n.contains (.v4 start) = true
  top : n.contains (.v4 stop) = true
  first : n.ip ≠ .v4 start
  broadcast : n.ipv4Broadcast ≠ some stop
  outside : ¬(start.toNat ≤ gateway.toNat ∧ gateway.toNat ≤ stop.toNat)

theorem checkedPool (hn : c.lanNetwork = some n) (hip : c.lanIp = some gateway)
    (h : dhcpRangeErrors c start stop = []) : CheckedPool n gateway start stop := by
  unfold dhcpRangeErrors at h
  simp only [hn, hip, List.append_eq_nil_iff, failIf_eq_nil, Nat.not_lt, not_or, not_not] at h
  obtain ⟨⟨hle, ⟨hstart, hstop⟩, hfirst, hlast⟩, hgateway⟩ := h
  exact ⟨hle, hstart, hstop, hfirst, hlast, hgateway⟩

structure CheckedLease (n : IPNet) (gateway start stop x : BitVec 32) : Prop where
  contains : n.contains (.v4 x) = true
  gateway : x ≠ gateway
  first : n.ip ≠ .v4 x
  broadcast : n.ipv4Broadcast ≠ some x
  pool : ¬(start.toNat ≤ x.toNat ∧ x.toNat ≤ stop.toNat)

theorem checkedLease_of_address
    (h : leaseAddressErrors field (some gateway) (some start) (some stop) n x = []) :
    CheckedLease n gateway start stop x := by
  unfold leaseAddressErrors at h
  split at h
  next => cases h
  next hcontains =>
  split at h
  next => cases h
  next hgateway =>
  split at h
  next => cases h
  next hfirst =>
  split at h
  next => cases h
  next hlast =>
    refine ⟨not_not.mp hcontains, fun heq => hgateway (heq ▸ rfl), hfirst, hlast, ?_⟩
    exact failIf_eq_nil.mp h

theorem checkedLease (hn : c.lanNetwork = some n) (hip : c.lanIp = some gateway)
    (h : (staticLeaseErrors c (some start) (some stop) seen i lease).2 = []) :
    ∃ x, parseIpv4 lease.ipAddress = some x ∧ x ∉ seen.2 ∧ CheckedLease n gateway start stop x := by
  unfold staticLeaseErrors at h
  dsimp only at h
  simp only [List.append_eq_nil_iff] at h
  obtain ⟨⟨⟨-, haddress⟩, hseen⟩, -⟩ := h
  cases hx : parseIpv4 lease.ipAddress with
  | none => simp [hx] at haddress
  | some x =>
    simp only [hx, hn, hip] at haddress
    simp only [hx, failIf_eq_nil] at hseen
    exact ⟨x, rfl, hseen, checkedLease_of_address haddress⟩

theorem leases_distinct (h : eachFrom (staticLeaseErrors c (some start) (some stop)) ([], []) 0
    c.dhcp.staticLeases.items = []) (hn : c.lanNetwork = some n) (hip : c.lanIp = some gateway) :
    c.dhcp.staticLeases.items.Pairwise fun lease other =>
      parseIpv4 lease.ipAddress ≠ parseIpv4 other.ipAddress := by
  refine (pairwise_of_eachFrom (K := fun lease seen =>
    ∀ x, parseIpv4 lease.ipAddress = some x → x ∈ seen.2) ?keep ?add ?check h).1
  case keep =>
    intro seen i lease other hother x hx
    exact List.mem_append_right _ (hother x hx)
  case add =>
    intro seen i lease _ x hx
    exact List.mem_append_left _ (by simp [hx])
  case check =>
    intro seen i lease hlease other hother heq
    obtain ⟨x, hx, hnew, -⟩ := checkedLease hn hip hlease
    exact hnew (hother x (heq.trans hx))

end Checks

theorem extremes_of_parsed {base : BitVec 32} (h : parseCidr s = some (ip, n))
    (hbase : n.ip = .v4 base) :
    (n.contains (.v4 base) = true ∧ ∀ x, n.contains (.v4 x) = true → base.toNat ≤ x.toNat) ∧
      n.contains (.v4 (Block.mk base n.effective).last) = true ∧
      ∀ x, n.contains (.v4 x) = true → x.toNat ≤ (Block.mk base n.effective).last.toNat := by
  obtain ⟨x, -, hmask, hle, -⟩ := parseCidr_of_v4 h hbase
  have haligned : (Block.mk base n.effective).Aligned := hmask ▸ Block.aligned_mask _ x
  have hcontains (y : BitVec 32) : n.contains (.v4 y) = true ↔
      base.toNat ≤ y.toNat ∧ y.toNat < base.toNat + 2 ^ (32 - n.effective) := by
    rw [contains_of_base hbase]
    exact haligned.contains_iff
  have hlast := haligned.toNat_last hle
  have hpos : 0 < 2 ^ (32 - n.effective) := Nat.two_pow_pos _
  dsimp only at hlast
  refine ⟨⟨?_, fun y hy => ((hcontains y).mp hy).1⟩, ?_, fun y hy => ?_⟩
  · rw [hcontains]
    omega
  · rw [hcontains]
    omega
  · have hy := (hcontains y).mp hy
    omega

theorem Describes.within_of_between (h : Describes c p) (hx : p.Within x) (hz : p.Within z)
    (hxy : x.toNat ≤ y.toNat) (hyz : y.toNat ≤ z.toNat) : p.Within y := by
  obtain ⟨_, hparse⟩ := Accepted.lanNetwork_parsed h.network
  obtain ⟨base, hbase, -⟩ := base_of_contains hx
  obtain ⟨w, -, hmask, -⟩ := parseCidr_of_v4 hparse hbase
  have haligned : (Block.mk base p.network.effective).Aligned := hmask ▸ Block.aligned_mask _ w
  unfold Plan.Within at *
  rw [contains_of_base hbase, haligned.contains_iff] at *
  dsimp only at *
  omega

theorem exists_plan (h : Accepted env c) (he : c.dhcp.enabled = true) :
    ∃ p, Describes c p ∧ p.network.ip = .v4 p.first ∧
      p.last = (Block.mk p.first p.network.effective).last ∧
      CheckedPool p.network p.gateway p.start p.stop ∧
      eachFrom (staticLeaseErrors c (some p.start) (some p.stop)) ([], []) 0
        c.dhcp.staticLeases.items = [] := by
  obtain ⟨gateway, n, hip, hn, hcontains⟩ := h.lan_address
  obtain ⟨ip, hparse⟩ := Accepted.lanNetwork_parsed hn
  obtain ⟨base, hbase, -⟩ := base_of_contains hcontains
  obtain ⟨hfirst, hlast⟩ := extremes_of_parsed hparse hbase
  have hdhcp := h.valid.dhcp he
  unfold validateDhcp at hdhcp
  simp only [List.append_eq_nil_iff, failIf_eq_nil] at hdhcp
  obtain ⟨⟨⟨⟨hstart, hstop⟩, hrange⟩, -⟩, hleases⟩ := hdhcp
  obtain ⟨start, hstart⟩ := Option.ne_none_iff_exists'.mp hstart
  obtain ⟨stop, hstop⟩ := Option.ne_none_iff_exists'.mp hstop
  rw [hstart, hstop] at hrange hleases
  exact ⟨⟨n, base, (Block.mk base n.effective).last, gateway, start, stop⟩,
    ⟨hn, hip, hstart, hstop, hfirst, hlast⟩, hbase, rfl, checkedPool hn hip hrange, hleases⟩

theorem soundPlan_of_leavesLast (h : Describes c p) (hbase : p.network.ip = .v4 p.first)
    (hpool : CheckedPool p.network p.gateway p.start p.stop)
    (hleases : eachFrom (staticLeaseErrors c (some p.start) (some p.stop)) ([], []) 0
      c.dhcp.staticLeases.items = []) (hlast : LeavesLast c p) : SoundPlan c p where
  nonempty := hpool.nonempty
  pool := by
    rintro x ⟨hstart, hstop⟩
    have hfirst := h.first.2 p.start hpool.bottom
    have hend := h.last.2 p.stop hpool.top
    refine ⟨h.within_of_between hpool.bottom hpool.top hstart hstop, ?_, ?_, ?_⟩
    · rintro rfl
      exact hpool.first (hbase.trans (congrArg _ (BitVec.eq_of_toNat_eq (by omega))))
    · rintro rfl
      exact hlast.1 (BitVec.eq_of_toNat_eq (by omega))
    · rintro rfl
      exact hpool.outside ⟨hstart, hstop⟩
  leases := by
    intro lease hlease
    obtain ⟨_, i, hchecked⟩ := eachFrom_eq_nil hleases hlease
    obtain ⟨x, hx, -, hchecked⟩ := checkedLease h.network h.gateway hchecked
    refine ⟨x, hx, ⟨hchecked.contains, ?_, ?_, hchecked.gateway⟩, hchecked.pool⟩
    · rintro rfl
      exact hchecked.first hbase
    · rintro rfl
      exact hlast.2 lease hlease hx
  distinct := leases_distinct hleases h.network h.gateway

theorem leavesLast_of_dotted (h : Describes c p) (hbase : p.network.ip = .v4 p.first)
    (hend : p.last = (Block.mk p.first p.network.effective).last)
    (hpool : CheckedPool p.network p.gateway p.start p.stop)
    (hleases : eachFrom (staticLeaseErrors c (some p.start) (some p.stop)) ([], []) 0
      c.dhcp.staticLeases.items = []) (hdotted : ':' ∉ c.lan.cidr.toList) : LeavesLast c p := by
  obtain ⟨ip, hparse⟩ := Accepted.lanNetwork_parsed h.network
  have hbroadcast := broadcast_of_parsed hparse hbase
  rw [if_pos ((bits_iff_of_parseCidr hparse).mpr hdotted), ← hend] at hbroadcast
  refine ⟨fun heq => hpool.broadcast (heq ▸ hbroadcast), fun lease hlease heq => ?_⟩
  obtain ⟨_, i, hchecked⟩ := eachFrom_eq_nil hleases hlease
  obtain ⟨x, hx, -, hchecked⟩ := checkedLease h.network h.gateway hchecked
  cases hx.symm.trans heq
  exact hchecked.broadcast hbroadcast

/-- The plan of an accepted configuration is sound exactly if the LAN is written as an IPv4 network,
or its last address is left alone. -/
theorem dhcp_plan_sound_iff {previous : Option SystemConfig}
    (h : validateLiveCandidate (releaseRules env) c previous = .ok ())
    (he : c.dhcp.enabled = true) :
    ∃ p, Describes c p ∧ (SoundPlan c p ↔ ':' ∉ c.lan.cidr.toList ∨ LeavesLast c p) := by
  obtain ⟨p, hp, hbase, hend, hpool, hleases⟩ :=
    exists_plan (accepted_of_live h) he
  refine ⟨p, hp, fun hsound => .inr hsound.leavesLast, fun hcond => ?_⟩
  refine soundPlan_of_leavesLast hp hbase hpool hleases ?_
  rcases hcond with hdotted | hlast
  · exact leavesLast_of_dotted hp hbase hend hpool hleases hdotted
  · exact hlast

/-- The sample without its segment, with the LAN written as an IPv6 network and a pool up to its
end. -/
def mappedLanConfig : SystemConfig :=
  { sampleConfig with
    lan := { sampleConfig.lan with
      cidr := "::ffff:192.168.1.1/120", netmask := "ffff:ffff:ffff:ffff:ffff:ffff:ffff:ff00" }
    dhcp := { sampleConfig.dhcp with rangeEnd := "192.168.1.255" }
    firewall := { sampleConfig.firewall with extraLans := .of [] } }

theorem broadcast_in_pool :
    validateLiveCandidate (releaseRules samplePlatform) mappedLanConfig none = .ok () ∧
      mappedLanConfig.dhcp.enabled = true ∧
      ∃ p, Describes mappedLanConfig p ∧ p.Pooled p.last ∧ ¬SoundPlan mappedLanConfig p := by
  have hvalid : validateLiveCandidate (releaseRules samplePlatform) mappedLanConfig none = .ok () := by
    decide +kernel
  obtain ⟨p, hp, hbase, hend, hpool, -⟩ :=
    exists_plan (accepted_of_live hvalid) rfl
  have hnetwork : p.network = ⟨.v4 0xC0A80100#32, 120, 128⟩ :=
    Option.some.inj (hp.network.symm.trans (by decide +kernel))
  have hstop : p.stop = 0xC0A801FF#32 := Option.some.inj (hp.stop.symm.trans (by decide +kernel))
  have hfirst : p.first = 0xC0A80100#32 := by
    rw [hnetwork] at hbase
    exact (IP.v4.inj hbase).symm
  have hlast : p.last = p.stop := by
    rw [hend, hstop, hfirst, hnetwork]
    decide +kernel
  refine ⟨hvalid, rfl, p, hp, ?_, fun hsound => hsound.leavesLast.1 hlast.symm⟩
  rw [hlast]
  exact ⟨hpool.nonempty, Nat.le_refl _⟩

theorem dhcp_plan_sound_iff_sampleConfig : ∃ p, Describes sampleConfig p ∧
      (SoundPlan sampleConfig p ↔ ':' ∉ sampleConfig.lan.cidr.toList ∨ LeavesLast sampleConfig p) :=
  dhcp_plan_sound_iff live_sampleConfig rfl

end MinimalRouter.Config
