import MinimalRouter.Config.Admission
import MinimalRouter.Goish.AddressText

namespace MinimalRouter.Config

open Goish Lib

/-- An enabled segment without the address of the router, whose network has hosts. -/
def Legacy (lan : ExtraLANConfig) (base : BitVec 32) (ones : Nat) : Prop :=
  lan.enabled = true ∧ trim lan.routerAddress = "" ∧ ones ≤ 30 ∧
    ∃ ip, parseCidr (trim lan.cidr) = some (ip, ⟨.v4 base, ones, 32⟩)

def firstHost (base : BitVec 32) (ones : Nat) : String :=
  octetsString (base + 1) ++ "/" ++ Nat.repr ones

namespace Legacy

variable {base : BitVec 32}

theorem aligned (h : Legacy lan base ones) : (Block.mk base ones).Aligned := by
  obtain ⟨-, -, -, ip, hip⟩ := h
  obtain ⟨x, -, hn, -⟩ := parseCidr_of_bits hip rfl
  have hbase : base = Block.mask ones x := IP.v4.inj (congrArg IPNet.ip hn)
  rw [hbase]
  exact Block.aligned_mask ones x

/-- Four addresses at least: the first host is not the last address. -/
theorem toNat_firstHost (h : Legacy lan base ones) : (base + 1).toNat = base.toNat + 1 ∧
    (base + 1).toNat < (Block.mk base ones).last.toNat ∧ base.toNat + 1 < base.toNat + 2 ^ (32 - ones) := by
  have hlast := h.aligned.toNat_last (show ones ≤ 32 by have := h.2.2.1; omega)
  have hsize : 2 ^ 2 ≤ 2 ^ (32 - ones) :=
    Nat.pow_le_pow_right (by decide) (by have := h.2.2.1; omega)
  have hlt := (Block.mk base ones).last.isLt
  have hadd : (base + 1).toNat = (base.toNat + 1) % 2 ^ 32 := BitVec.toNat_add _ _
  dsimp only at hlast
  omega

theorem contains_firstHost (h : Legacy lan base ones) :
    (Block.mk base ones).contains (base + 1) = true := by
  obtain ⟨hnext, -, _⟩ := h.toNat_firstHost
  exact h.aligned.contains_iff.mpr ⟨by rw [hnext]; exact Nat.le_succ _, by rwa [hnext]⟩

theorem mask_firstHost (h : Legacy lan base ones) : Block.mask ones (base + 1) = base := by
  have hagree := Block.agree_iff.mp h.contains_firstHost
  have hbase : Block.mask ones base = base := h.aligned
  rw [Block.mask] at hbase ⊢
  rw [← hagree]
  exact hbase

theorem migrated (h : Legacy lan base ones) :
    migrateRouterAddress lan = { lan with routerAddress := firstHost base ones } := by
  obtain ⟨-, _, -⟩ := h.toNat_firstHost
  obtain ⟨he, hblank, _, _, hip⟩ := h
  unfold migrateRouterAddress
  rw [if_neg (by simp [he, hblank]), hip]
  dsimp only
  rw [if_neg (by omega), if_neg (by omega)]
  rfl

theorem passes (h : Legacy lan base ones) (field : String) :
    routerAddressErrors field (firstHost base ones) ⟨.v4 base, ones, 32⟩ = [] := by
  have hones := h.2.2.1
  obtain ⟨_, hlast, -⟩ := h.toNat_firstHost
  have hparse := parseCidr_octetsString (base + 1) (show ones ≤ 32 by omega)
  rw [h.mask_firstHost] at hparse
  have hne : firstHost base ones ≠ "" := fun heq => by
    rw [← firstHost, heq] at hparse
    cases hparse
  have hcontains : IPNet.contains ⟨.v4 base, ones, 32⟩ (.v4 (base + 1)) = true := h.contains_firstHost
  have hbase : IP.v4 base ≠ .v4 (base + 1) := fun heq => by
    have := congrArg BitVec.toNat (IP.v4.inj heq)
    omega
  have hbroadcast : IPNet.ipv4Broadcast ⟨.v4 base, ones, 32⟩ ≠ some (base + 1) := fun heq => by
    have hsame : (Block.mk base (min ones 32)).last = base + 1 := Option.some.inj heq
    rw [Nat.min_eq_left (by omega)] at hsame
    exact Nat.lt_irrefl _ (hsame ▸ hlast)
  unfold routerAddressErrors
  rw [if_neg hne, firstHost, hparse]
  dsimp only
  rw [if_neg (fun hnot => hnot hcontains), if_neg hbase, if_neg hbroadcast]
  exact if_neg (by simp)

end Legacy

theorem migrate_of_not_legacy (h : ∀ base ones, ¬Legacy lan base ones) :
    migrateRouterAddress lan = lan := by
  unfold migrateRouterAddress
  split
  · rfl
  next hcurrent =>
  simp only [not_or, Classical.not_not] at hcurrent
  split
  · next ip base ones bits hip =>
    split
    · rfl
    next hbits =>
    simp only [not_or, Classical.not_not, ge_iff_le, Nat.not_le] at hbits
    obtain ⟨rfl, _⟩ := hbits
    exact absurd ⟨hcurrent.1, hcurrent.2, by omega, ip, hip⟩ (h base ones)
  · rfl

theorem migrate_migrate (lan : ExtraLANConfig) :
    migrateRouterAddress (migrateRouterAddress lan) = migrateRouterAddress lan := by
  by_cases h : ∃ base ones, Legacy lan base ones
  · obtain ⟨base, ones, h⟩ := h
    refine migrate_of_not_legacy fun base' ones' h' => ?_
    have hparse := parseCidr_octetsString (base + 1) (show ones ≤ 32 by have := h.2.2.1; omega)
    have hblank := h'.2.1
    rw [h.migrated, firstHost, trim_of_parseCidr hparse] at hblank
    rw [hblank] at hparse
    cases hparse
  · have hsame := migrate_of_not_legacy fun base ones hlegacy => h ⟨base, ones, hlegacy⟩
    rw [hsame, hsame]

/-- Only segments without the address of the router change, they get the first host of their
network, which passes the checks of the validation, and a second migration changes nothing. -/
theorem migration_minimal (c : SystemConfig) :
    migrateLegacyFields c = { c with firewall := { c.firewall with
        extraLans := c.firewall.extraLans.map migrateRouterAddress } } ∧
      migrateLegacyFields (migrateLegacyFields c) = migrateLegacyFields c ∧
      ∀ lan ∈ c.firewall.extraLans.items,
        ((∀ base ones, ¬Legacy lan base ones) → migrateRouterAddress lan = lan) ∧
        ∀ base ones, Legacy lan base ones →
          migrateRouterAddress lan = { lan with routerAddress := firstHost base ones } ∧
          (trim lan.cidr = lan.cidr → ∃ ip extra, parseCidr lan.cidr = some (ip, extra) ∧
            ∀ field, routerAddressErrors field (migrateRouterAddress lan).routerAddress extra = []) := by
  refine ⟨rfl, ?_, fun lan _ => ⟨migrate_of_not_legacy, fun base ones h =>
    ⟨h.migrated, fun htrim => ?_⟩⟩⟩
  · have hmap : (c.firewall.extraLans.map migrateRouterAddress).map migrateRouterAddress =
        c.firewall.extraLans.map migrateRouterAddress := by
      cases c.firewall.extraLans with
      | nil => rfl
      | of => simp [GoList.map, migrate_migrate]
    simp only [migrateLegacyFields, hmap]
  obtain ⟨ip, hip⟩ := h.2.2.2
  rw [htrim] at hip
  exact ⟨ip, _, hip, fun field => by rw [h.migrated]; exact h.passes field⟩

end MinimalRouter.Config
