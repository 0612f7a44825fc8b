import MinimalRouter.Config.Facts

namespace MinimalRouter.Config

open Goish

def segmentInterfaces (c : SystemConfig) : List String :=
  (c.firewall.extraLans.items.filter (·.enabled)).map (·.interface)

def tunnelInterfaces (c : SystemConfig) : List String :=
  (if c.wireguard.enabled then [c.wireguard.interface] else []) ++
    if c.wgClient.enabled then [c.wgClient.interface] else []

def radioInterfaces (c : SystemConfig) : List String :=
  if c.wifi.enabled then [c.wifi.interface] else []

def otherInterfaces (c : SystemConfig) : List String :=
  radioInterfaces c ++ tunnelInterfaces c ++ segmentInterfaces c

/-- No interface has two roles, except that the LAN may be its own bridge, and point-to-point links
are left to the WAN. -/
structure RolesDistinct (c : SystemConfig) : Prop where
  runtime : ("lo" :: c.wan.interface :: c.runtimeLanInterface :: otherInterfaces c).Nodup
  configured : ("lo" :: c.wan.interface :: c.lan.interface :: otherInterfaces c).Nodup
  ppp : ∀ n ∈ "lo" :: c.runtimeLanInterface :: c.lan.interface :: otherInterfaces c,
    startsWith "ppp" n = false

def reservedNames (c : SystemConfig) : List String :=
  "lo" :: (if c.wireguard.enabled then ["wg0"] else []) ++ if c.wgClient.enabled then ["wg1"] else []

/-- No interface of the configuration bears a name that the router gives to another one. -/
structure AvoidsReserved (c : SystemConfig) : Prop where
  wan : c.wan.interface ∉ reservedNames c ∧
    (c.wifi.enabled = true → c.wan.interface ≠ wifiBridgeInterface)
  lan : c.lan.interface ∉ reservedNames c ∧ startsWith "ppp" c.lan.interface = false
  radio : c.wifi.enabled = true →
    c.wifi.interface ∉ reservedNames c ∧ startsWith "ppp" c.wifi.interface = false
  segments : "lo" ∉ segmentInterfaces c

section Facts

variable {c : SystemConfig}

theorem mem_segmentInterfaces : n ∈ segmentInterfaces c ↔
    ∃ lan ∈ c.firewall.extraLans.items, lan.enabled = true ∧ lan.interface = n := by
  simp [segmentInterfaces, and_assoc]

theorem mem_radioInterfaces :
    n ∈ radioInterfaces c ↔ c.wifi.enabled = true ∧ n = c.wifi.interface := by
  simp [radioInterfaces]

theorem radioInterfaces_nodup : (radioInterfaces c).Nodup := by
  unfold radioInterfaces
  split <;> simp

theorem runtimeLanInterface_cases :
    c.wifi.enabled = true ∧ c.runtimeLanInterface = wifiBridgeInterface ∨
      c.wifi.enabled = false ∧ c.runtimeLanInterface = c.lan.interface := by
  unfold SystemConfig.runtimeLanInterface
  cases c.wifi.enabled <;> simp

section

variable (h : Accepted env c)

include h

theorem Accepted.segmentInterface (hn : n ∈ segmentInterfaces c) : Accepted.FreeInterface c n := by
  obtain ⟨_, hlan, he, rfl⟩ := mem_segmentInterfaces.mp hn
  exact (h.extraLan hlan he).interface

theorem Accepted.segmentInterfaces_nodup : (segmentInterfaces c).Nodup := by
  unfold segmentInterfaces List.Nodup
  rw [List.pairwise_map, List.pairwise_filter]
  exact h.extraLans_pairwise

theorem Accepted.tunnelInterfaces_eq : tunnelInterfaces c =
    (if c.wireguard.enabled then ["wg0"] else []) ++ if c.wgClient.enabled then ["wg1"] else [] := by
  unfold tunnelInterfaces
  congr 1
  · split
    · next he => rw [h.wireguard_interface he]
    · rfl
  split
  · next he => rw [h.wgClient_interface he]
  · rfl

theorem Accepted.mem_reservedNames : n ∈ reservedNames c ↔ n = "lo" ∨ n ∈ tunnelInterfaces c := by
  rw [h.tunnelInterfaces_eq]
  simp [reservedNames]

theorem Accepted.tunnel (hn : n ∈ tunnelInterfaces c) :
    n ≠ "lo" ∧ n ≠ wifiBridgeInterface ∧ startsWith "ppp" n = false := by
  rw [h.tunnelInterfaces_eq] at hn
  rcases List.mem_append.mp hn with hn | hn
  · split at hn
    · rw [List.mem_singleton.mp hn]
      decide
    · cases hn
  split at hn
  · rw [List.mem_singleton.mp hn]
    decide
  · cases hn

theorem Accepted.tunnelInterfaces_nodup : (tunnelInterfaces c).Nodup := by
  rw [h.tunnelInterfaces_eq]
  cases c.wireguard.enabled <;> cases c.wgClient.enabled <;> decide

theorem Accepted.tunnel_ne_segment (hn : n ∈ tunnelInterfaces c)
    (hm : m ∈ segmentInterfaces c) : n ≠ m := by
  have hfree := h.segmentInterface hm
  rintro rfl
  rcases List.mem_append.mp hn with hn | hn
  · split at hn
    · next he => exact hfree.notWireguard he (List.mem_singleton.mp hn)
    · cases hn
  split at hn
  · next he => exact hfree.notClient he (List.mem_singleton.mp hn)
  · cases hn

theorem Accepted.radio_ne_segment (hn : n ∈ radioInterfaces c)
    (hm : m ∈ segmentInterfaces c) : n ≠ m := by
  obtain ⟨he, rfl⟩ := mem_radioInterfaces.mp hn
  exact ((h.segmentInterface hm).notRadio he).symm

theorem Accepted.otherInterfaces_nodup :
    (otherInterfaces c).Nodup ↔ ∀ n ∈ radioInterfaces c, n ∉ tunnelInterfaces c := by
  unfold otherInterfaces
  rw [List.nodup_append, List.nodup_append]
  constructor
  · rintro ⟨⟨-, -, hdisjoint⟩, -⟩ n hn hn'
    exact hdisjoint n hn n hn' rfl
  intro hdisjoint
  refine ⟨⟨radioInterfaces_nodup, h.tunnelInterfaces_nodup, ?_⟩, h.segmentInterfaces_nodup, ?_⟩
  · rintro n hn _ hm rfl
    exact hdisjoint n hn hm
  intro n hn m hm
  rcases List.mem_append.mp hn with hn | hn
  · exact h.radio_ne_segment hn hm
  · exact h.tunnel_ne_segment hn hm

end

namespace AvoidsReserved

theorem others (hav : AvoidsReserved c) (h : Accepted env c) (hn : n ∈ otherInterfaces c) :
    "lo" ≠ n ∧ c.wan.interface ≠ n ∧ c.lan.interface ≠ n ∧ wifiBridgeInterface ≠ n ∧
      startsWith "ppp" n = false := by
  obtain ⟨⟨hwan, -⟩, ⟨hlan, -⟩, hradio, hsegments⟩ := hav
  rw [h.mem_reservedNames, not_or] at hwan hlan
  rcases List.mem_append.mp hn with hn | hn
  · rcases List.mem_append.mp hn with hn | hn
    · obtain ⟨he, rfl⟩ := mem_radioInterfaces.mp hn
      obtain ⟨hne_wan, hne_lan, hne_bridge⟩ := h.wifi_interface he
      obtain ⟨hreserved, hppp⟩ := hradio he
      rw [h.mem_reservedNames, not_or] at hreserved
      exact ⟨Ne.symm hreserved.1, hne_wan.symm, hne_lan.symm, hne_bridge.symm, hppp⟩
    obtain ⟨hlo, hne_bridge, hppp⟩ := h.tunnel hn
    exact ⟨hlo.symm, fun heq => hwan.2 (heq ▸ hn), fun heq => hlan.2 (heq ▸ hn),
      hne_bridge.symm, hppp⟩
  have hfree := h.segmentInterface hn
  exact ⟨fun heq => hsegments (heq ▸ hn), hfree.notWan.symm, hfree.notLan.symm,
    hfree.notBridge.symm, hfree.notPpp⟩

theorem nodup (hav : AvoidsReserved c) (h : Accepted env c) {lan : String}
    (hlo : "lo" ≠ lan) (hwan : c.wan.interface ≠ lan) (hlan : ∀ n ∈ otherInterfaces c, lan ≠ n) :
    ("lo" :: c.wan.interface :: lan :: otherInterfaces c).Nodup := by
  have hwan_lo := hav.wan.1
  rw [h.mem_reservedNames, not_or] at hwan_lo
  have hothers : (otherInterfaces c).Nodup := by
    refine h.otherInterfaces_nodup.mpr fun n hn hmem => ?_
    obtain ⟨he, rfl⟩ := mem_radioInterfaces.mp hn
    exact (hav.radio he).1 (h.mem_reservedNames.mpr (.inr hmem))
  simp only [List.nodup_cons, List.mem_cons, not_or]
  exact ⟨⟨Ne.symm hwan_lo.1, hlo, fun hn => (hav.others h hn).1 rfl⟩,
    ⟨hwan, fun hn => (hav.others h hn).2.1 rfl⟩, fun hn => hlan _ hn rfl, hothers⟩

theorem rolesDistinct (hav : AvoidsReserved c) (h : Accepted env c) : RolesDistinct c := by
  have hlo_lan : "lo" ≠ c.lan.interface := fun heq =>
    hav.lan.1 (h.mem_reservedNames.mpr (.inl heq.symm))
  have hlan : ∀ n ∈ otherInterfaces c, c.lan.interface ≠ n := fun n hn => (hav.others h hn).2.2.1
  have hbridge : ∀ n ∈ otherInterfaces c, wifiBridgeInterface ≠ n := fun n hn =>
    (hav.others h hn).2.2.2.1
  have hppp : ∀ n ∈ otherInterfaces c, startsWith "ppp" n = false := fun n hn =>
    (hav.others h hn).2.2.2.2
  refine ⟨?_, hav.nodup h hlo_lan h.wan_ne_lan hlan, ?_⟩
  · rcases runtimeLanInterface_cases (c := c) with ⟨he, heq⟩ | ⟨-, heq⟩
    · rw [heq]
      exact hav.nodup h (by decide) (hav.wan.2 he) hbridge
    · rw [heq]
      exact hav.nodup h hlo_lan h.wan_ne_lan hlan
  simp only [List.forall_mem_cons]
  refine ⟨by decide, ?_, hav.lan.2, hppp⟩
  rcases runtimeLanInterface_cases (c := c) with ⟨-, heq⟩ | ⟨-, heq⟩
  · rw [heq]
    decide
  · rw [heq]
    exact hav.lan.2

end AvoidsReserved

/-- Roles are told apart by what was checked, except against the names that the router gives. -/
theorem rolesDistinct_iff {previous : Option SystemConfig}
    (hc : validateLiveCandidate (releaseRules env) c previous = .ok ()) :
    RolesDistinct c ↔ AvoidsReserved c := by
  have h := accepted_of_live hc
  constructor
  · rintro ⟨hruntime, hconfigured, hppp⟩
    simp only [List.nodup_cons, List.mem_cons, not_or] at hruntime hconfigured
    obtain ⟨⟨hlo_wan, -, hlo⟩, ⟨hwan_lan, hwan⟩, -, hothers⟩ := hruntime
    obtain ⟨⟨-, hlo_lan, -⟩, -, hlan, -⟩ := hconfigured
    have htunnel : ∀ {n}, n ∉ otherInterfaces c → n ∉ tunnelInterfaces c := fun hn hmem =>
      hn (List.mem_append_left _ (List.mem_append_right _ hmem))
    refine ⟨⟨?_, fun he => ?_⟩, ⟨?_, hppp _ (by simp)⟩, fun he => ?_, fun hmem => ?_⟩
    · rw [h.mem_reservedNames]
      exact fun hmem => hmem.elim (fun heq => hlo_wan heq.symm) (htunnel hwan)
    · rcases runtimeLanInterface_cases (c := c) with ⟨-, hbridge⟩ | ⟨hoff, -⟩
      · exact hbridge ▸ hwan_lan
      · cases he.symm.trans hoff
    · rw [h.mem_reservedNames]
      exact fun hmem => hmem.elim (fun heq => hlo_lan heq.symm) (htunnel hlan)
    · have hradio := mem_radioInterfaces.mpr ⟨he, rfl⟩
      have hother : c.wifi.interface ∈ otherInterfaces c :=
        List.mem_append_left _ (List.mem_append_left _ hradio)
      refine ⟨?_, hppp _ (by simp [hother])⟩
      rw [h.mem_reservedNames]
      rintro (heq | hmem)
      · exact hlo (heq ▸ hother)
      · exact h.otherInterfaces_nodup.mp hothers _ hradio hmem
    · exact hlo (List.mem_append_right _ hmem)
  · exact fun hav => hav.rolesDistinct h

def loopbackConfig : SystemConfig :=
  { sampleConfig with wan := { sampleConfig.wan with interface := "lo" } }

theorem loopback_accepted :
    validateLiveCandidate (releaseRules samplePlatform) loopbackConfig none = .ok () ∧
      ¬RolesDistinct loopbackConfig :=
  ⟨by decide +kernel, fun h => absurd h.runtime (by decide)⟩

theorem rolesDistinct_sampleConfig : RolesDistinct sampleConfig :=
  (rolesDistinct_iff live_sampleConfig).mpr
    ⟨by decide, by decide, by decide, by decide⟩

end Facts

end MinimalRouter.Config
