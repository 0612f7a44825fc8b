import MinimalRouter.Wireguard.File

namespace MinimalRouter.Wireguard

open Goish Config Lib Lib.Checks Segments

def allowedLine (networks : List IPNet) : String :=
  "AllowedIPs = " ++ ", ".intercalate (networks.map IPNet.toString)

def allowedLines (text : String) : List (List Char) :=
  (textLines text).filter fun line => "AllowedIPs = ".toList.isPrefixOf line

/-- Nothing in a line that is written, or in the lines it breaks into, lists networks. -/
def Foreign (line : String) : Prop :=
  (line.toList.splitOn '\n').filter (fun line => "AllowedIPs = ".toList.isPrefixOf line) = []

theorem space_of_allowedStart (h : "AllowedIPs = ".toList.isPrefixOf cs = true) : ' ' ∈ cs := by
  obtain ⟨_, rfl⟩ := List.isPrefixOf_iff_prefix.mp h
  exact List.mem_append_left _ (by decide)

theorem foreign_directive (hstart : start.toList = c :: cs) (hc : c ≠ 'A')
    (hbreak : '\n' ∉ start.toList) (hvalue : ' ' ∉ value.toList ∨ '\n' ∉ value.toList) :
    Foreign (start ++ value) := by
  have hne : value.toList.splitOn '\n' ≠ [] := splitOn_ne_nil _
  obtain ⟨p, ps, hps⟩ := List.exists_cons_of_ne_nil hne
  have hhead : "AllowedIPs = ".toList.isPrefixOf (start.toList ++ p) = false := by
    rw [hstart]
    simp [List.isPrefixOf, Ne.symm hc]
  have htail : ∀ line ∈ ps, "AllowedIPs = ".toList.isPrefixOf line = false := by
    intro line hline
    rcases hvalue with hspace | hnone
    · refine Bool.eq_false_iff.mpr fun h => hspace ?_
      have hpart : line ∈ value.toList.splitOn '\n' := hps ▸ List.mem_cons_of_mem p hline
      exact mem_of_mem_splitOn hpart (space_of_allowedStart h)
    rw [splitOn_of_not_mem hnone] at hps
    cases hps
    cases hline
  unfold Foreign
  rw [String.toList_append, splitOn_append_of_not_mem hbreak, hps, List.modifyHead_cons,
    List.filter_cons_of_neg (Bool.eq_false_iff.mp hhead), List.filter_eq_nil_iff]
  exact fun line hline => Bool.eq_false_iff.mp (htail line hline)

theorem allowedLines_renderLines {before after : List String} (hbefore : ∀ l ∈ before, Foreign l)
    (hafter : ∀ l ∈ after, Foreign l) (hline : '\n' ∉ line.toList)
    (hstart : "AllowedIPs = ".toList.isPrefixOf line.toList = true) :
    allowedLines (renderLines (before ++ [line] ++ after)) = [line.toList] := by
  have hforeign {lines : List String} (h : ∀ l ∈ lines, Foreign l) :
      ((lines.map String.toList).flatMap (·.splitOn '\n')).filter
        (fun line => "AllowedIPs = ".toList.isPrefixOf line) = [] := by
    induction lines with
    | nil => rfl
    | cons l lines ih =>
      obtain ⟨hl, hlines⟩ := List.forall_mem_cons.mp h
      rw [List.map_cons, List.flatMap_cons, List.filter_append, ih hlines, List.append_nil]
      exact hl
  unfold allowedLines textLines
  rw [toList_renderLines, splitOn_terminated, List.map_append, List.map_append,
    List.flatMap_append, List.flatMap_append, List.filter_append, List.filter_append,
    List.filter_append, hforeign hbefore, hforeign hafter]
  simp only [List.map_cons, List.map_nil, List.flatMap_cons, List.flatMap_nil, List.append_nil,
    splitOn_of_not_mem hline, List.nil_append]
  rw [List.filter_cons_of_pos (by exact hstart)]
  rfl

theorem sextet_space : Base64.sextet ' ' = none := by decide

theorem space_not_mem_of_lastGroup (h : Base64.lastGroup a b c d = some bytes) :
    ' ' ∉ [a, b, c, d] := by
  intro hmem
  simp only [List.mem_cons, List.not_mem_nil, or_false] at hmem
  unfold Base64.lastGroup at h
  rcases hmem with rfl | rfl | rfl | rfl
  · simp [sextet_space] at h
  · simp [sextet_space] at h
  · simp [sextet_space] at h
  · simp [sextet_space] at h

theorem space_not_mem_of_decodeGroups (h : Base64.decodeGroups cs = some bytes) : ' ' ∉ cs := by
  induction cs using Base64.decodeGroups.induct generalizing bytes with
  | case1 => exact List.not_mem_nil
  | case2 => exact space_not_mem_of_lastGroup h
  | case3 a b c d rest hrest hpad => simp [Base64.decodeGroups, hpad] at h
  | case4 a b c d rest hrest hpad ih =>
    simp only [Base64.decodeGroups, hpad, if_false, Option.bind_eq_bind, Option.bind_eq_some_iff] at h
    obtain ⟨_, hfirst, _, hothers, -⟩ := h
    have hfirst := space_not_mem_of_lastGroup hfirst
    have hothers := ih hothers
    intro hmem
    have hmem' : ' ' ∈ [a, b, c, d] ++ rest := hmem
    rcases List.mem_append.mp hmem' with h | h
    · exact hfirst h
    · exact hothers h
  | case5 => simp_all [Base64.decodeGroups]

theorem space_not_mem_of_key (h : validWireguardKey key = true) : ' ' ∉ key.toList := by
  unfold validWireguardKey Base64.stdDecode at h
  obtain ⟨_, hbytes, -⟩ := (Option.any_eq_true _ _).mp h
  intro hmem
  exact space_not_mem_of_decodeGroups hbytes (List.mem_filter.mpr ⟨hmem, by decide⟩)

def privateSites : List (Block 32) := [⟨0x0A000000#32, 8⟩, ⟨0xAC100000#32, 12⟩, ⟨0xC0A80000#32, 16⟩]

/-- A network that may be captured: one of a private site, which its text stands for, and which
leaves the endpoint and the resolvers alone. -/
structure SiteNetwork (c : SystemConfig) (n : IPNet) : Prop where
  text : parseCidr n.toString = some (n.ip, n)
  base : ∃ base, n.ip = .v4 base
  bits : n.bits = 32
  ones : 8 ≤ n.ones ∧ n.ones ≤ 32
  site : ∃ zone ∈ privateSites, ∀ x, n.contains (.v4 x) = true → zone.contains x = true
  endpoint : ∀ host port ip, splitHostPort c.wgClient.endpoint = some (host, port) →
    parseIp host = some ip → n.contains ip = false
  upstreams : ∀ server ∈ c.dhcp.dnsServers.items, ∀ x, parseIpv4 server = some x →
    n.contains (.v4 x) = false

theorem parseCidr_toString (hones : ones ≤ 32) :
    parseCidr (IPNet.mk (.v4 (Block.mask ones x)) ones 32).toString =
      some (.v4 (Block.mask ones x), ⟨.v4 (Block.mask ones x), ones, 32⟩) :=
  (parseCidr_octetsString _ hones).trans (by rw [Block.mask_mask])

theorem site_of_isPrivateSiteNetwork (h : isPrivateSiteNetwork n = true) :
    ∃ zone ∈ privateSites, ∀ x, n.contains (.v4 x) = true → zone.contains x = true := by
  have hzones : (["10.0.0.0/8", "172.16.0.0/12", "192.168.0.0/16"].filterMap parseCidr).map (·.2) =
      privateSites.map fun zone => ⟨.v4 zone.base, zone.ones, 32⟩ := by decide +kernel
  unfold isPrivateSiteNetwork at h
  obtain ⟨r, hr, hcontained⟩ := List.any_eq_true.mp h
  have hmem := List.mem_map_of_mem (f := (·.2)) hr
  rw [hzones] at hmem
  obtain ⟨zone, hzone, heq⟩ := List.mem_map.mp hmem
  refine ⟨zone, hzone, fun x hx => ?_⟩
  rw [← heq] at hcontained
  simp only [networkContainedIn, Bool.and_eq_true, beq_iff_eq, decide_eq_true_eq] at hcontained
  obtain ⟨⟨⟨⟨⟨hv4, -⟩, hbits⟩, -⟩, hones⟩, hbase⟩ := hcontained
  obtain ⟨base, hip⟩ := Option.isSome_iff_exists.mp hv4
  rcases n with ⟨_ | _, ones, _⟩
  · cases hip
    subst hbits
    have hinside : (Block.mk base ones).contains x = true := hx
    have hzone : zone.contains (Block.mk base ones).base = true := hbase
    exact Block.contains_of_sub hzone hones hinside
  · cases hip

theorem clientNetworks_eq_ok (h : clientNetworks seen entries = .ok texts) :
    ∃ networks : List IPNet, texts = networks.map IPNet.toString ∧ texts.Nodup ∧ (∀ t ∈ texts, t ∉ seen) ∧
      ∀ n ∈ networks, ∃ entry ∈ entries, ∃ ip, parseCidr (trim entry) = some (ip, n) ∧
        n.ip.to4.isSome = true := by
  induction entries generalizing seen texts with
  | nil =>
    cases h
    exact ⟨[], rfl, .nil, nofun, nofun⟩
  | cons entry entries ih =>
  unfold clientNetworks at h
  split at h
  next network hparse =>
    split at h
    next => cases h
    next hv4 =>
    dsimp only at h
    split at h
    next => cases h
    next hnew =>
    obtain ⟨_, hrest, rfl⟩ := Lib.Result.map_eq_ok.mp h
    obtain ⟨networks, rfl, hnodup, hseen, hentries⟩ := ih hrest
    obtain ⟨⟨ip, n⟩, hparsed, hn⟩ := Option.map_eq_some_iff.mp hparse
    obtain rfl : n = network := hn
    have hfirst : ∃ e ∈ entry :: entries, ∃ ip, parseCidr (trim e) = some (ip, n) ∧
        n.ip.to4.isSome = true :=
      ⟨entry, List.mem_cons_self, ip, hparsed, Option.isSome_iff_ne_none.mpr hv4⟩
    have hothers : ∀ m ∈ networks, ∃ e ∈ entry :: entries, ∃ ip,
        parseCidr (trim e) = some (ip, m) ∧ m.ip.to4.isSome = true := by
      intro m hm
      obtain ⟨e, he, hparsed⟩ := hentries m hm
      exact ⟨e, List.mem_cons_of_mem _ he, hparsed⟩
    refine ⟨n :: networks, rfl, List.nodup_cons.mpr ⟨fun hmem => ?_, hnodup⟩,
      List.forall_mem_cons.mpr ⟨hnew, fun t ht hmem => ?_⟩,
      List.forall_mem_cons.mpr ⟨hfirst, hothers⟩⟩
    · exact hseen _ hmem List.mem_cons_self
    · exact hseen t ht (List.mem_cons_of_mem _ hmem)
  next => cases h

theorem siteNetwork (h : Accepted env c) (he : c.wgClient.enabled = true)
    (hentry : entry ∈ c.wgClient.allowedIps.items) (hparse : parseCidr (trim entry) = some (ip, n))
    (hv4 : n.ip.to4.isSome = true) : SiteNetwork c n := by
  have hbits := h.wgClient_remote he hentry hparse hv4
  obtain ⟨x, hx, hn, hle⟩ := parseCidr_of_bits hparse hbits
  have hsite : isPrivateSiteNetwork n = true := by
    have hclient := h.clientScenario he
    unfold clientScenarioErrors at hclient
    obtain ⟨i, hi⟩ := each_eq_nil (List.append_eq_nil_iff.mp (List.append_eq_nil_iff.mp hclient).1).2
      hentry
    rw [hparse] at hi
    simpa [hv4] using hi
  obtain ⟨s, i, hi⟩ := eachFrom_eq_nil (h.wgClient_allowedIps he).2 hentry
  unfold allowedIpErrors at hi
  rw [hparse, hx] at hi
  obtain ⟨hnetwork, -⟩ := List.append_eq_nil_iff.mp hi
  unfold allowedNetworkErrors at hnetwork
  simp only [List.append_eq_nil_iff, failIf_eq_nil] at hnetwork
  obtain ⟨⟨⟨⟨⟨⟨_, hendpoint⟩, hupstreams⟩, -⟩, -⟩, -⟩, -⟩ := hnetwork
  refine ⟨?_, ⟨Block.mask n.ones x, congrArg IPNet.ip hn⟩, hbits, ⟨by omega, hle⟩,
    site_of_isPrivateSiteNetwork hsite, fun host port ip hsplit hhost => ?_,
    fun server hserver y hy => ?_⟩
  · have htext := parseCidr_toString (x := x) hle
    rw [← hn] at htext
    rw [htext]
    exact congrArg (fun ip => some (ip, n)) (congrArg IPNet.ip hn).symm
  · rw [hsplit, Option.bind_some, hhost, Option.any_some, Bool.not_eq_true] at hendpoint
    exact hendpoint
  have hmem : y ∈ c.dhcp.dnsServers.items.filterMap fun server => parseIpv4 (trim server) :=
    List.mem_filterMap.mpr ⟨server, hserver, by rw [trim_of_parseIpv4 hy, hy]⟩
  exact Bool.eq_false_iff.mpr fun hin => hupstreams (List.any_eq_true.mpr ⟨y, hmem, hin⟩)

/-- The texts that are written between the constant ones of the client file. -/
structure ClientTexts (wg : WGClientConfig) : Prop where
  privateKey : ' ' ∉ wg.privateKey.toList
  publicKey : ' ' ∉ wg.publicKey.toList
  presharedKey : wg.presharedKey ≠ "" → ' ' ∉ wg.presharedKey.toList
  endpoint : '\n' ∉ wg.endpoint.toList
  keepalive : 0 ≤ wg.persistentKeepalive

theorem clientTexts (h : Accepted env c) (he : c.wgClient.enabled = true) :
    ClientTexts c.wgClient := by
  have hclient := h.valid.wgClient
  unfold validateWgClient at hclient
  simp only [he, not_true_eq_false, if_false, List.append_eq_nil_iff, failIf_eq_nil, not_not,
    not_or, not_and] at hclient
  obtain ⟨⟨⟨⟨⟨⟨⟨⟨⟨⟨-, hprivate⟩, hpublic⟩, -⟩, hpreshared⟩, -⟩, -⟩, -⟩, -⟩, _⟩, hendpoint⟩ := hclient
  refine ⟨space_not_mem_of_key hprivate, space_not_mem_of_key hpublic,
    fun hne => space_not_mem_of_key (hpreshared hne), fun hmem => ?_, by omega⟩
  have hcontrol : hasControl c.wgClient.endpoint = true :=
    List.any_eq_true.mpr ⟨'\n', hmem, by decide⟩
  exact hendpoint.1 hcontrol

theorem newline_not_mem_allowedLine (h : ∀ n ∈ networks, SiteNetwork c n) :
    '\n' ∉ (allowedLine networks).toList := by
  unfold allowedLine
  rw [newline_not_mem_append (by decide)]
  intro hmem
  rw [String.toList_intercalate] at hmem
  rcases mem_of_mem_intercalate hmem with hmem | ⟨text, htext, hmem⟩
  · exact absurd hmem (by decide)
  obtain ⟨t, ht, rfl⟩ := List.mem_map.mp htext
  obtain ⟨n, hn, rfl⟩ := List.mem_map.mp ht
  exact newline_not_mem_of_parseCidr (h n hn).text hmem

theorem generateWireguardClientRuntime_eq_ok (h : generateWireguardClientRuntime wg = .ok text) :
    ∃ allowed, clientNetworks [] wg.allowedIps.items = .ok allowed ∧
      text = renderLines (
        (["# Generated by Minimal Router OS — do not edit manually",
          "# Runtime input for wg setconf; interface address is applied separately", "",
          "[Interface]", "PrivateKey = " ++ wg.privateKey, "",
          "# Peer: remote site (outbound tunnel)", "[Peer]", "PublicKey = " ++ wg.publicKey] ++
        (if wg.presharedKey = "" then [] else ["PresharedKey = " ++ wg.presharedKey])) ++
        ["AllowedIPs = " ++ ", ".intercalate allowed] ++
        ((if wg.endpoint = "" then [] else ["Endpoint = " ++ wg.endpoint]) ++
        ["PersistentKeepalive = " ++ toString wg.persistentKeepalive])) := by
  unfold generateWireguardClientRuntime at h
  obtain ⟨-, -, h⟩ := Lib.Result.bind_eq_ok.mp h
  cases hempty : wg.allowedIps.isEmpty with
  | true =>
    simp only [hempty, if_true] at h
    cases h
  | false =>
    simp only [hempty, Bool.false_eq_true, if_false] at h
    obtain ⟨allowed, hallowed, h⟩ := Lib.Result.bind_eq_ok.mp h
    refine ⟨allowed, hallowed, ?_⟩
    cases h
    simp only [List.append_assoc]

theorem foreign_of_isEmpty (h : ((line.toList.splitOn '\n').filter
    fun line => "AllowedIPs = ".toList.isPrefixOf line).isEmpty = true) : Foreign line :=
  List.isEmpty_iff.mp h

/-- The outbound tunnel captures networks of private sites only: the file has one line that lists
networks, no two of them the same. -/
theorem client_captures_private_sites {previous : Option SystemConfig} {text : String}
    (h : validateLiveCandidate (releaseRules env) c previous = .ok ())
    (he : c.wgClient.enabled = true) (htext : generateWireguardClientRuntime c.wgClient = .ok text) :
    ∃ networks, allowedLines text = [(allowedLine networks).toList] ∧
      (networks.map IPNet.toString).Nodup ∧ ∀ n ∈ networks, SiteNetwork c n := by
  have haccepted := accepted_of_live h
  have htexts := clientTexts haccepted he
  obtain ⟨_, hallowed, rfl⟩ := generateWireguardClientRuntime_eq_ok htext
  obtain ⟨networks, rfl, hnodup, -, hentries⟩ := clientNetworks_eq_ok hallowed
  have hsites : ∀ n ∈ networks, SiteNetwork c n := by
    intro n hn
    obtain ⟨_, hentry, _, hparse, hv4⟩ := hentries n hn
    exact siteNetwork haccepted he hentry hparse hv4
  refine ⟨networks, ?_, hnodup, hsites⟩
  refine allowedLines_renderLines ?_ ?_ (newline_not_mem_allowedLine hsites) ?_
  · have hprivate : Foreign ("PrivateKey = " ++ c.wgClient.privateKey) :=
      foreign_directive rfl (by decide) (by decide) (.inl htexts.privateKey)
    have hpublic : Foreign ("PublicKey = " ++ c.wgClient.publicKey) :=
      foreign_directive rfl (by decide) (by decide) (.inl htexts.publicKey)
    refine List.forall_mem_append.mpr ⟨?_, ?_⟩
    · simp only [List.forall_mem_cons]
      refine ⟨?_, ?_, ?_, ?_, hprivate, ?_, ?_, ?_, hpublic, nofun⟩
      all_goals exact foreign_of_isEmpty (by decide +kernel)
    split
    · exact nofun
    next hne =>
      rw [List.forall_mem_singleton]
      exact foreign_directive rfl (by decide) (by decide) (.inl (htexts.presharedKey hne))
  · refine List.forall_mem_append.mpr ⟨?_, ?_⟩
    · split
      · exact nofun
      · rw [List.forall_mem_singleton]
        exact foreign_directive rfl (by decide) (by decide) (.inr htexts.endpoint)
    rw [List.forall_mem_singleton]
    exact foreign_directive rfl (by decide) (by decide)
      (.inr (newline_not_mem_toString htexts.keepalive))
  · rw [String.toList_append]
    exact List.isPrefixOf_iff_prefix.mpr (List.prefix_append _ _)

theorem client_captures_private_sites_sampleConfig :
    ∃ text, generateWireguardClientRuntime sampleConfig.wgClient = .ok text ∧
      ∃ networks, allowedLines text = [(allowedLine networks).toList] ∧
        (networks.map IPNet.toString).Nodup ∧ ∀ n ∈ networks, SiteNetwork sampleConfig n := by
  have hok : (generateWireguardClientRuntime sampleConfig.wgClient).isOk = true := by decide +kernel
  cases htext : generateWireguardClientRuntime sampleConfig.wgClient with
  | error =>
    rw [htext] at hok
    cases hok
  | ok text =>
    exact ⟨text, rfl, client_captures_private_sites live_sampleConfig rfl htext⟩

end MinimalRouter.Wireguard
