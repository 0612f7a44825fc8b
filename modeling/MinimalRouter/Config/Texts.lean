import MinimalRouter.Config.Alphabet

namespace MinimalRouter.Config

open Goish Lib Lib.Checks

def PlainWindows (windows : List AccessWindow) : Prop := ∀ w ∈ windows, Plain w.start ∧ Plain w.end

structure PlainRule (rule : FirewallRule) : Prop where
  name : Printable rule.name
  protocol : Plain rule.protocol
  srcIp : Plain rule.srcIp

structure PlainSegment (lan : ExtraLANConfig) : Prop where
  name : Printable lan.name
  interface : Plain lan.interface
  cidr : Plain lan.cidr
  dstIp : Plain lan.dstIp
  protocol : Plain lan.protocol

structure PlainProfile (profile : DeviceProfile) : Prop where
  name : Printable profile.name
  addresses : ∀ ip ∈ profile.ipAddresses.items, Plain ip
  services : ∀ service ∈ profile.services.items, Plain service
  days : ∀ day ∈ profile.schedule.dayWindows, PlainWindows day.2.items
  weekdays : profile.schedule.dayWindows.isEmpty = true →
    PlainWindows profile.schedule.weekdayWindows.items
  weekend : profile.schedule.dayWindows.isEmpty = true → profile.schedule.weekendMode = "custom" →
    PlainWindows profile.schedule.weekendWindows.items

structure PlainLease (lease : StaticLease) : Prop where
  mac : Plain lease.mac
  ipAddress : Plain lease.ipAddress
  hostname : Plain (trim lease.hostname)

structure PlainTexts (c : SystemConfig) : Prop where
  domain : Plain c.system.domain
  wan : Plain c.wan.interface
  username : Printable c.wan.username
  password : Printable c.wan.password
  lan : Plain c.lan.interface
  lanIp : Plain c.lan.ipAddress
  lanCidr : Plain c.lan.cidr
  netmask : Plain c.lan.netmask
  dnsServers : ∀ server ∈ c.dhcp.dnsServers.items, Plain server
  pool : c.dhcp.enabled = true → Plain c.dhcp.rangeStart ∧ Plain c.dhcp.rangeEnd ∧
    ∀ ch ∈ c.dhcp.leaseTime.toList, durationChar ch = true
  leases : c.dhcp.enabled = true → ∀ lease ∈ c.dhcp.staticLeases.items, PlainLease lease
  rules : ∀ rule ∈ c.firewall.customRules.items, PlainRule rule
  forwards : ∀ forward ∈ c.firewall.portForwards.items, Plain forward.internalIp
  segments : ∀ lan ∈ c.firewall.extraLans.items, lan.enabled = true → PlainSegment lan
  wireguard : c.wireguard.enabled = true →
    Plain c.wireguard.interface ∧ ∃ r, parseCidr c.wireguard.address = some r
  wgClient : c.wgClient.enabled = true → Plain c.wgClient.interface ∧
    ∀ host port, splitHostPort c.wgClient.endpoint = some (host, port) → Plain port
  restricted : ∀ item ∈ c.squidProxy.restrictedIps.items, Plain item.ipAddress
  profiles : ∀ profile ∈ c.adguard.deviceProfiles.items, PlainProfile profile
  records : ∀ record ∈ c.dns.records.items, Plain record.name ∧ Plain record.ip
  wifi : c.wifi.enabled = true →
    Plain c.wifi.interface ∧ Printable c.wifi.ssid ∧ Printable c.wifi.passphrase

theorem plain_empty : Plain "" := by decide

theorem printable_of_safe (h : ¬(¬safeNamePattern u s = true ∨ hasUnsafeControl s = true)) :
    Printable s := by
  rw [not_or, Bool.not_eq_true (hasUnsafeControl s)] at h
  exact printable_of_not_hasUnsafeControl h.2

theorem plain_trim (h : Plain s) : Plain (trim s) := by
  intro c hc
  rw [trim, String.toList_ofList] at hc
  exact h c (Utf8.mem_of_mem_trim hc)

structure Checked (w : AccessWindow) (start stop : Nat) : Prop where
  minutes : windowMinutes w = some (start, stop)
  order : start < stop

theorem checked_of_validateWindows (h : validateWindows field windows = []) :
    ∀ w ∈ windows, ∃ start stop, Checked w start stop := by
  intro w hw
  unfold validateWindows at h
  split at h
  next => cases h
  next =>
  obtain ⟨i, hi⟩ := each_eq_nil (List.append_eq_nil_iff.mp h).1 hw
  split at hi
  next => cases hi
  next start stop hminutes => exact ⟨start, stop, hminutes, Nat.lt_of_not_le (failIf_eq_nil.mp hi)⟩

theorem Checked.clocks (hw : Checked w start stop) : ∃ h m h' m', parseClock w.start = some (h, m) ∧
    parseClock w.end = some (h', m') ∧ start = h * 60 + m ∧ stop = h' * 60 + m' := by
  have hminutes := hw.minutes
  unfold windowMinutes at hminutes
  simp only [Option.bind_eq_bind, Option.bind_eq_some_iff, Option.pure_def, Option.some.injEq,
    Prod.exists, Prod.mk.injEq] at hminutes
  obtain ⟨h, m, hstart, h', m', hstop, rfl, rfl⟩ := hminutes
  exact ⟨h, m, h', m', hstart, hstop, rfl, rfl⟩

theorem plainWindows_of_validateWindows (h : validateWindows field windows = []) :
    PlainWindows windows := by
  intro w hw
  obtain ⟨_, _, hchecked⟩ := checked_of_validateWindows h w hw
  obtain ⟨_, _, _, _, hstart, hend, -⟩ := hchecked.clocks
  exact ⟨plain_of_parseClock hstart, plain_of_parseClock hend⟩

theorem windows_of_schedule {Q : List AccessWindow → Prop}
    (hQ : ∀ field windows, validateWindows field windows = [] → Q windows)
    (h : validateProfileSchedule field schedule = []) :
    (∀ day ∈ schedule.dayWindows, Q day.2.items) ∧
      (schedule.dayWindows.isEmpty = true → Q schedule.weekdayWindows.items) ∧
      (schedule.dayWindows.isEmpty = true → schedule.weekendMode = "custom" →
        Q schedule.weekendWindows.items) := by
  unfold validateProfileSchedule at h
  split at h
  next hdays =>
    rw [Bool.not_eq_true] at hdays
    refine ⟨fun day hday => ?_, fun hempty => ?_, fun hempty => ?_⟩
    · have hday' := List.flatMap_eq_nil_iff.mp (List.append_eq_nil_iff.mp h).2 day hday
      dsimp only at hday'
      split at hday'
      next => cases hday'
      next => exact hQ _ _ hday'
    · rw [hempty] at hdays
      cases hdays
    · rw [hempty] at hdays
      cases hdays
  next hdays =>
  have hdays : schedule.dayWindows = [] := by simpa using hdays
  obtain ⟨hweekdays, hweekend⟩ := List.append_eq_nil_iff.mp h
  refine ⟨by simp [hdays], fun _ => hQ _ _ hweekdays, fun _ hcustom => ?_⟩
  rw [hcustom, if_neg (by decide), if_pos rfl] at hweekend
  exact hQ _ _ (List.append_eq_nil_iff.mp hweekend).2

namespace Accepted

theorem plain_of_lanAddressField (h : lanAddressFieldErrors c field message value = []) :
    Plain value := by
  unfold lanAddressFieldErrors at h
  split at h
  next => cases h
  next x hx => exact plain_of_parseIpv4 hx

theorem plain_services : ∀ service ∈ supportedProfileServices, Plain service := by
  simp only [supportedProfileServices, List.forall_mem_cons]
  exact ⟨plain_literal rfl, plain_literal rfl, plain_literal rfl, plain_literal rfl, plain_literal rfl,
    plain_literal rfl, plain_literal rfl, plain_literal rfl, plain_literal rfl, plain_literal rfl,
    plain_literal rfl, List.forall_mem_nil _⟩

section

variable (h : Accepted env c)

include h

theorem plain_lan : Plain c.lan.ipAddress ∧ Plain c.lan.cidr ∧ Plain c.lan.netmask := by
  have hlan := h.valid.lan
  unfold lanErrors at hlan
  obtain ⟨hip, hlan⟩ := List.append_eq_nil_iff.mp hlan
  rw [failIf_eq_nil] at hip
  obtain ⟨x, hx⟩ := Option.ne_none_iff_exists'.mp hip
  split at hlan
  next => cases hlan
  split at hlan
  next => cases hlan
  next => cases hlan
  next ip network hparse =>
  have hmask := (List.append_eq_nil_iff.mp hlan).2
  rw [failIf_eq_nil, not_not] at hmask
  refine ⟨plain_of_parseIpv4 hx, plain_of_parseCidr hparse, ?_⟩
  rw [hmask]
  exact plain_maskString network

theorem plain_dnsServers : ∀ server ∈ c.dhcp.dnsServers.items, Plain server := by
  intro server hserver
  have hservers := h.valid.dnsServers
  unfold dnsServerErrors at hservers
  obtain ⟨s, i, hi⟩ := eachFrom_eq_nil (List.append_eq_nil_iff.mp hservers).2 hserver
  dsimp only at hi
  split at hi
  next => cases hi
  next x hx => exact plain_of_parseIpv4 hx

theorem plain_pool (he : c.dhcp.enabled = true) : Plain c.dhcp.rangeStart ∧ Plain c.dhcp.rangeEnd ∧
      ∀ ch ∈ c.dhcp.leaseTime.toList, durationChar ch = true := by
  have hdhcp := h.valid.dhcp he
  unfold validateDhcp at hdhcp
  simp only [List.append_eq_nil_iff, failIf_eq_nil, not_not] at hdhcp
  obtain ⟨⟨⟨⟨hstart, hstop⟩, -⟩, hduration⟩, -⟩ := hdhcp
  obtain ⟨x, hx⟩ := Option.ne_none_iff_exists'.mp hstart
  obtain ⟨y, hy⟩ := Option.ne_none_iff_exists'.mp hstop
  obtain ⟨_, hlease, -⟩ := (Option.any_eq_true _ _).mp hduration
  exact ⟨plain_of_parseIpv4 hx, plain_of_parseIpv4 hy, durationChar_of_parseDuration hlease⟩

theorem plain_leases (he : c.dhcp.enabled = true) :
    ∀ lease ∈ c.dhcp.staticLeases.items, PlainLease lease := by
  intro lease hlease
  have hdhcp := h.valid.dhcp he
  unfold validateDhcp at hdhcp
  obtain ⟨s, i, hi⟩ := eachFrom_eq_nil (List.append_eq_nil_iff.mp hdhcp).2 hlease
  unfold staticLeaseErrors at hi
  simp only [List.append_eq_nil_iff, failIf_eq_nil] at hi
  obtain ⟨⟨⟨hmac, haddress⟩, -⟩, hhostname⟩ := hi
  refine ⟨?_, ?_, ?_⟩
  · cases hparsed : parseMac lease.mac with
    | none => simp [hparsed] at hmac
    | some => exact plain_of_parseMac hparsed
  · cases hparsed : parseIpv4 lease.ipAddress with
    | none => simp [hparsed] at haddress
    | some => exact plain_of_parseIpv4 hparsed
  by_cases hempty : lease.hostname = ""
  · rw [hempty]
    exact plain_trim plain_empty
  refine plain_trim (plain_of_hostnamePattern ?_)
  by_contra hbad
  exact hhostname ⟨hempty, hbad⟩

theorem plain_rules : ∀ rule ∈ c.firewall.customRules.items, PlainRule rule := by
  intro rule hrule
  have hfirewall := h.valid.firewall
  unfold validateFirewall at hfirewall
  obtain ⟨i, hi⟩ := each_eq_nil (List.append_eq_nil_iff.mp hfirewall).2 hrule
  unfold customRuleErrors at hi
  simp only [List.append_eq_nil_iff] at hi
  obtain ⟨⟨⟨⟨⟨⟨-, hname⟩, -⟩, -⟩, hprotocol⟩, hsource⟩, -⟩ := hi
  refine ⟨printable_of_safe (failIf_eq_nil.mp hname), ?_, ?_⟩
  · split at hprotocol
    next hport => rcases hport with hport | hport <;> rw [hport] <;> decide
    split at hprotocol
    next hport => rcases hport with hport | hport <;> rw [hport] <;> decide
    next => cases hprotocol
  split at hsource
  next hempty =>
    rw [hempty]
    exact plain_empty
  next =>
  unfold ruleSourceErrors at hsource
  split at hsource
  next x hx => exact plain_of_parseIpv4 hx
  next =>
  split at hsource
  next src hsrc =>
    obtain ⟨r, hr, -⟩ := Option.map_eq_some_iff.mp hsrc
    exact plain_of_parseCidr hr
  next => cases hsource

theorem plain_forwards : ∀ forward ∈ c.firewall.portForwards.items, Plain forward.internalIp := by
  intro forward hforward
  have hfirewall := h.valid.firewall
  unfold validateFirewall at hfirewall
  have heach := (List.append_eq_nil_iff.mp (List.append_eq_nil_iff.mp hfirewall).1).2
  obtain ⟨s, i, hi⟩ := eachFrom_eq_nil heach hforward
  unfold portForwardErrors at hi
  simp only [List.append_eq_nil_iff] at hi
  obtain ⟨⟨⟨-, haddress⟩, -⟩, -⟩ := hi
  split at haddress
  next => cases haddress
  next x hx => exact plain_of_parseIpv4 hx

theorem plain_segments :
    ∀ lan ∈ c.firewall.extraLans.items, lan.enabled = true → PlainSegment lan := by
  intro lan hlan he
  have hchecked := h.extraLan hlan he
  obtain ⟨s, i, hi⟩ := eachFrom_eq_nil h.valid.extraLans hlan
  unfold extraLanErrors at hi
  simp only [he, not_true_eq_false, if_false, List.append_eq_nil_iff, failIf_eq_nil, not_or] at hi
  obtain ⟨⟨⟨⟨⟨⟨⟨⟨⟨-, hname, -⟩, -⟩, -⟩, -⟩, -⟩, -⟩, -⟩, -⟩, -⟩ := hi
  obtain ⟨_, n, hcidr, -⟩ := hchecked.network
  obtain ⟨_, hdst⟩ := hchecked.dstIp
  refine ⟨printable_of_not_hasUnsafeControl (Bool.not_eq_true _ ▸ hname),
    plain_of_validInterfaceName hchecked.interface.valid, plain_of_parseCidr hcidr,
    plain_of_parseIpv4 hdst, ?_⟩
  rcases hchecked.protocol with hprotocol | hprotocol | hprotocol <;> rw [hprotocol] <;> decide

theorem plain_wireguard (he : c.wireguard.enabled = true) :
    Plain c.wireguard.interface ∧ ∃ r, parseCidr c.wireguard.address = some r := by
  obtain ⟨x, _, hparse⟩ := h.wireguard_address he
  rw [h.wireguard_interface he]
  exact ⟨by decide, _, hparse⟩

theorem plain_wgClient (he : c.wgClient.enabled = true) : Plain c.wgClient.interface ∧
      ∀ host port, splitHostPort c.wgClient.endpoint = some (host, port) → Plain port := by
  rw [h.wgClient_interface he]
  refine ⟨by decide, fun host port hsplit => ?_⟩
  have hclient := h.valid.wgClient
  unfold validateWgClient at hclient
  simp only [he, not_true_eq_false, if_false, List.append_eq_nil_iff] at hclient
  obtain ⟨⟨⟨⟨⟨-, hendpoint⟩, -⟩, -⟩, -⟩, -⟩ := hclient
  unfold clientEndpointErrors at hendpoint
  rw [hsplit] at hendpoint
  dsimp only at hendpoint
  split at hendpoint
  next => cases hendpoint
  next =>
  have hport := (List.append_eq_nil_iff.mp hendpoint).2
  rw [failIf_eq_nil, not_not] at hport
  obtain ⟨n, hn, -⟩ := (Option.any_eq_true _ _).mp hport
  exact plain_of_goAtoi hn

theorem plain_restricted : ∀ item ∈ c.squidProxy.restrictedIps.items, Plain item.ipAddress := by
  intro item hitem
  obtain ⟨i, hi⟩ := each_eq_nil h.valid.restricted hitem
  exact plain_of_lanAddressField hi

theorem plain_profiles : ∀ profile ∈ c.adguard.deviceProfiles.items, PlainProfile profile := by
  intro profile hprofile
  have hprofiles := h.valid.profiles
  unfold validateDeviceProfiles at hprofiles
  obtain ⟨s, i, hi⟩ := eachFrom_eq_nil (List.append_eq_nil_iff.mp hprofiles).2 hprofile
  unfold deviceProfileErrors at hi
  simp only [List.append_eq_nil_iff] at hi
  obtain ⟨⟨⟨⟨⟨⟨-, hname⟩, -⟩, haddresses⟩, -⟩, hservices⟩, hschedule⟩ := hi
  obtain ⟨hdays, hweekdays, hweekend⟩ :=
    windows_of_schedule (fun _ _ => plainWindows_of_validateWindows) hschedule
  refine ⟨printable_of_safe (failIf_eq_nil.mp hname), fun ip hip => ?_, fun service hservice => ?_,
    hdays, hweekdays, hweekend⟩
  · obtain ⟨_, j, hj⟩ := eachFrom_eq_nil haddresses hip
    exact plain_of_lanAddressField (List.append_eq_nil_iff.mp hj).1
  obtain ⟨_, j, hj⟩ := eachFrom_eq_nil hservices hservice
  unfold profileServiceErrors at hj
  simp only [List.append_eq_nil_iff, failIf_eq_nil, not_not] at hj
  exact plain_services service hj.1.2

theorem plain_records : ∀ record ∈ c.dns.records.items, Plain record.name ∧ Plain record.ip := by
  intro record hrecord
  obtain ⟨s, i, hi⟩ := eachFrom_eq_nil h.valid.dns hrecord
  unfold dnsRecordErrors at hi
  simp only [List.append_eq_nil_iff, failIf_eq_nil, not_or, not_not] at hi
  obtain ⟨⟨⟨hname, -⟩, -⟩, hip⟩ := hi
  refine ⟨plain_of_domainPattern hname.1, ?_⟩
  split at hip
  next => cases hip
  next x hx => exact plain_of_parseIpv4 hx

theorem plain_wifi (he : c.wifi.enabled = true) :
    Plain c.wifi.interface ∧ Printable c.wifi.ssid ∧ Printable c.wifi.passphrase := by
  have hwifi := h.valid.wifi
  unfold wifiErrors at hwifi
  simp only [he, not_true_eq_false, if_false, List.append_eq_nil_iff, failIf_eq_nil, not_or,
    Bool.not_eq_true, Bool.not_eq_false] at hwifi
  obtain ⟨⟨⟨⟨⟨⟨hinterface, -⟩, -, -, hssid⟩, -, -, hpassphrase⟩, -⟩, -⟩, -⟩ := hwifi
  exact ⟨plain_of_validInterfaceName hinterface, printable_of_not_hasUnsafeControl hssid,
    printable_of_not_hasUnsafeControl hpassphrase⟩

theorem printable_credentials : Printable c.wan.username ∧ Printable c.wan.password := by
  have hwan := h.valid.wan
  unfold wanErrors at hwan
  simp only [List.append_eq_nil_iff, failIf_eq_nil, not_or, Bool.not_eq_true] at hwan
  obtain ⟨⟨⟨⟨-, husername, -⟩, hpassword, -⟩, -⟩, -⟩ := hwan
  exact ⟨printable_of_not_hasUnsafeControl husername, printable_of_not_hasUnsafeControl hpassword⟩

theorem plain_domain : Plain c.system.domain := by
  have hsystem := h.valid.system
  unfold systemErrors at hsystem
  simp only [List.append_eq_nil_iff, failIf_eq_nil, not_or, not_not] at hsystem
  obtain ⟨⟨⟨⟨⟨⟨-, hdomain, -⟩, -⟩, -⟩, -⟩, -⟩, -⟩ := hsystem
  exact plain_of_domainPattern hdomain

theorem plainTexts : PlainTexts c where
  domain := h.plain_domain
  wan := plain_of_validInterfaceName h.wan_interface
  username := h.printable_credentials.1
  password := h.printable_credentials.2
  lan := plain_of_validInterfaceName h.lan_interface
  lanIp := h.plain_lan.1
  lanCidr := h.plain_lan.2.1
  netmask := h.plain_lan.2.2
  dnsServers := h.plain_dnsServers
  pool := h.plain_pool
  leases := h.plain_leases
  rules := h.plain_rules
  forwards := h.plain_forwards
  segments := h.plain_segments
  wireguard := h.plain_wireguard
  wgClient := h.plain_wgClient
  restricted := h.plain_restricted
  profiles := h.plain_profiles
  records := h.plain_records
  wifi := h.plain_wifi

end

end Accepted

end MinimalRouter.Config
