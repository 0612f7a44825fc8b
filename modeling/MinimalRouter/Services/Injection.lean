import MinimalRouter.Firewall.Injection
import MinimalRouter.Services.Generators

namespace MinimalRouter.Services

open Goish Config Firewall Wireguard Lib Template Template Piece

def listenTemplates (cfg : SystemConfig) : List Template :=
  let wgIp := (split '/' cfg.wireguard.address).headD ""
  let tunnel := cfg.wireguard.enabled ∧ cfg.wireguard.interface ≠ "" ∧ cfg.wireguard.address ≠ "" ∧
    wgIp ≠ ""
  (if tunnel then [[own "interface=", .given cfg.wireguard.interface]] else []) ++
  [[own "listen-address="] ++ join "," ([[own "127.0.0.1"],
    [.given cfg.lan.ipAddress]] ++ if tunnel then [[given wgIp]] else [])]

def leaseTemplate (lease : StaticLease) : Template :=
  let hostname := trim lease.hostname
  if hostname = "" then [.own "dhcp-host=", .given lease.mac, .own ",", .given lease.ipAddress]
  else [.own "dhcp-host=", .given lease.mac, .own ",", .given lease.ipAddress, .own ",",
    .given hostname]

def dhcpTemplates (cfg : SystemConfig) : List Template :=
  if ¬cfg.dhcp.enabled then ownLines ["# DHCP disabled"]
  else
    ownLines ["# DHCP pool", "dhcp-leasefile=/var/lib/minimalrouter-dhcp/dnsmasq.leases"] ++
    [[own "dhcp-range=", .given cfg.dhcp.rangeStart, .own ",", .given cfg.dhcp.rangeEnd,
        .own ",", .given cfg.lan.netmask, .own ",", .given cfg.dhcp.leaseTime],
      [.own "dhcp-option=option:router,", .given cfg.lan.ipAddress],
      [.own "dhcp-option=option:dns-server,", .given cfg.lan.ipAddress]] ++
    ownLines [""] ++
    if cfg.dhcp.staticLeases.isEmpty then []
    else ownLines ["# Static DHCP leases"] ++ cfg.dhcp.staticLeases.items.map leaseTemplate

def nftsetTemplates (u : Unicode) (cfg : SystemConfig) : List Template :=
  let services := activeManagedServices u cfg
  if services.isEmpty then []
  else ownLines ["", "# Device profile service destination sets"] ++
    services.flatMap fun service =>
      let domains := (serviceDomains service).getD []
      if domains.isEmpty then []
      else [[.own ("nftset=/" ++ "/".intercalate domains ++ "/4#inet#minimalrouter#svc_"),
        .given service]]

/-- The lines of the DHCP and DNS server, with the strings of the configuration in them. -/
def dnsmasqTemplates (u : Unicode) (cfg : SystemConfig) : List Template :=
  ownLines ["# Generated by Minimal Router OS — do not edit manually",
    "# File: /etc/dnsmasq.d/minimalrouter.conf", ""] ++
  [[own "domain=", .given cfg.system.domain], [.own "interface=", .given cfg.lan.interface]] ++
  listenTemplates cfg ++
  ownLines ["bind-dynamic", "no-resolv", "strict-order", "cache-size=1000", "bogus-priv",
    "domain-needed", "# DNS rebind attack protection", "stop-dns-rebind",
    "rebind-domain-ok=/use-application-dns.net/", ""] ++
  (if cfg.dhcp.dnsServers.isEmpty then []
    else ownLines ["# Upstream DNS servers"] ++
      cfg.dhcp.dnsServers.items.map (fun server => [own "server=", .given server]) ++
      ownLines [""]) ++
  ownLines (if cfg.dhcp.dnsEnabled then
    ["# ── DNS-over-HTTPS Integration ──", "# Point dnsmasq upstream to local DoH proxy",
      "server=127.0.0.1#5053"] else []) ++
  dhcpTemplates cfg ++
  (if cfg.dns.records.isEmpty then []
    else ownLines ["", "# Static DNS records"] ++
      cfg.dns.records.items.map fun rec => [own "host-record=", .given rec.name, .own ",",
        .given rec.ip]) ++
  ownLines (if cfg.adguard.enabled then ["", "# DNS Filter global sinkhole blocklist",
    "conf-file=/etc/dnsmasq.d/adblock_hosts.conf"] else []) ++
  nftsetTemplates u cfg

theorem text_pair (start s : String) : text [.own start, .given s] = start ++ s := by
  rw [← String.toList_inj]
  simp

theorem text_listenTemplates (cfg : SystemConfig) :
    (listenTemplates cfg).map text = listenLines cfg := by
  unfold listenTemplates listenLines
  dsimp only
  split
  · simp only [List.map_append, List.map_cons, List.map_nil, text_pair]
    congr 2
    rw [← String.toList_inj]
    simp [chars_join]
  simp only [List.map_append, List.map_cons, List.map_nil]
  congr 2
  rw [← String.toList_inj]
  simp [chars_join]

theorem text_leaseTemplate (lease : StaticLease) : (leaseTemplate lease).text = leaseLine lease := by
  unfold leaseTemplate leaseLine
  dsimp only
  split <;> rw [← String.toList_inj] <;> simp

theorem text_dhcpTemplates (cfg : SystemConfig) : (dhcpTemplates cfg).map text = dhcpLines cfg := by
  unfold dhcpTemplates dhcpLines
  split
  · exact text_ownLines _
  have hrange : text [.own "dhcp-range=", .given cfg.dhcp.rangeStart, .own ",",
      .given cfg.dhcp.rangeEnd, .own ",", .given cfg.lan.netmask, .own ",",
      .given cfg.dhcp.leaseTime] =
      "dhcp-range=" ++ cfg.dhcp.rangeStart ++ "," ++ cfg.dhcp.rangeEnd ++ "," ++
        cfg.lan.netmask ++ "," ++ cfg.dhcp.leaseTime := by
    rw [← String.toList_inj]
    simp
  have hleases : (cfg.dhcp.staticLeases.items.map leaseTemplate).map text =
      cfg.dhcp.staticLeases.items.map leaseLine := by
    rw [List.map_map]
    exact List.map_congr_left fun lease _ => text_leaseTemplate lease
  simp only [List.map_append, text_ownLines, List.map_cons, List.map_nil, text_pair, hrange,
    apply_ite (List.map text), hleases]
  rfl

theorem text_nftsetTemplates (u : Unicode) (cfg : SystemConfig) :
    (nftsetTemplates u cfg).map text = writeDnsFilterNftsets u cfg := by
  unfold nftsetTemplates writeDnsFilterNftsets
  dsimp only
  split
  · rfl
  rw [List.map_append, text_ownLines, List.map_flatMap]
  congr 2
  funext service
  split
  · rfl
  · simp [text_pair]

theorem text_dnsmasqTemplates (u : Unicode) (cfg : SystemConfig) : generateDnsmasq u cfg =
      .ok (renderLines ((dnsmasqTemplates u (runtime cfg)).map text)) := by
  unfold generateDnsmasq
  dsimp only
  generalize runtime cfg = cfg
  have hservers : (cfg.dhcp.dnsServers.items.map fun server =>
      ([.own "server=", .given server] : Template)).map text =
      cfg.dhcp.dnsServers.items.map ("server=" ++ ·) := by
    rw [List.map_map]
    exact List.map_congr_left fun server _ => text_pair _ _
  have hrecords : (cfg.dns.records.items.map fun rec => ([.own "host-record=", .given rec.name,
      .own ",", .given rec.ip] : Template)).map text =
      cfg.dns.records.items.map fun rec => "host-record=" ++ rec.name ++ "," ++ rec.ip := by
    rw [List.map_map]
    refine List.map_congr_left fun rec _ => ?_
    rw [Function.comp_apply, ← String.toList_inj]
    simp
  unfold dnsmasqTemplates
  simp only [List.map_append, text_ownLines, List.map_cons, List.map_nil, text_pair,
    apply_ite (List.map text), text_listenTemplates, text_dhcpTemplates,
    text_nftsetTemplates, hservers, hrecords]
  rfl

/-- A text that may stand where a duration does. -/
def Timed (s : String) : Prop := ∀ c ∈ s.toList, durationChar c = true

theorem timed_of_plain (h : Plain s) : Timed s := fun c hc => durationChar_of_plainChar (h c hc)

theorem confined_timed {line : Template} :
    line.Confined durationChar ↔ ∀ s ∈ line.givens, Timed s := confined_iff

theorem confined_printable {line : Template} :
    line.Confined printableChar ↔ ∀ s ∈ line.givens, Printable s := confined_iff

@[simp] theorem confined_ownLines (lines : List String) (kind : Char → Bool) :
    Every (Template.Confined kind) (ownLines lines) :=
  List.forall_mem_map.mpr fun _ _ => confined_iff.mpr (List.forall_mem_nil _)

theorem plain_head_split (h : Plain s) : Plain ((split '/' s).head?.getD "") := by
  unfold split
  cases hparts : s.toList.splitOn '/' with
  | nil => exact plain_literal rfl
  | cons part =>
    intro c hc
    have hpart : part ∈ s.toList.splitOn '/' := hparts ▸ List.mem_cons_self
    exact h c (Segments.mem_of_mem_splitOn hpart (by simpa using hc))

theorem confined_listenTemplates (h : PlainTexts cfg) :
    Every (Template.Confined durationChar) (listenTemplates cfg) := by
  have hip := timed_of_plain h.lanIp
  unfold listenTemplates
  dsimp only
  split
  · next htunnel =>
    obtain ⟨hiface, r, hr⟩ := h.wireguard htunnel.1
    simp [confined_timed, hip, timed_of_plain hiface,
      timed_of_plain (plain_head_split (plain_of_parseCidr hr))]
  · simp [confined_timed, hip]

theorem confined_leaseTemplate (h : PlainLease lease) :
    (leaseTemplate lease).Confined durationChar := by
  unfold leaseTemplate
  dsimp only
  split <;> simp [confined_timed, timed_of_plain h.mac, timed_of_plain h.ipAddress,
    timed_of_plain h.hostname]

theorem confined_dhcpTemplates (h : PlainTexts cfg) :
    Every (Template.Confined durationChar) (dhcpTemplates cfg) := by
  simp only [dhcpTemplates, every_ite, confined_ownLines, implies_true, true_and, not_not]
  intro he
  obtain ⟨hstart, hstop, hlease⟩ := h.pool he
  have hlease : Timed cfg.dhcp.leaseTime := hlease
  have hleases := fun lease hmem => confined_leaseTemplate (h.leases he lease hmem)
  simp +contextual [confined_timed, hlease, timed_of_plain, hstart, hstop, h.netmask,
    h.lanIp, hleases]

theorem confined_nftsetTemplates (u : Unicode) :
    Every (Template.Confined durationChar) (nftsetTemplates u cfg) := by
  have hservices : ∀ service ∈ activeManagedServices u cfg, Timed service :=
    fun service hmem => timed_of_plain (plain_activeManagedServices service hmem)
  simp +contextual [nftsetTemplates, confined_timed, hservices]

theorem confined_dnsmasqTemplates (h : PlainTexts cfg) (u : Unicode) :
    Every (Template.Confined durationChar) (dnsmasqTemplates u cfg) := by
  unfold dnsmasqTemplates
  simp +contextual [confined_listenTemplates h, confined_dhcpTemplates h, confined_nftsetTemplates,
    confined_timed, timed_of_plain, h.domain, h.lan, h.dnsServers, h.records]

def secretTemplates (cfg : SystemConfig) : List Template :=
  ownLines ["# Generated by Minimal Router OS — do not edit manually"] ++
  [[own "\"", .given (quotePppd cfg.wan.username), .own "\" * \"",
    .given (quotePppd cfg.wan.password), .own "\" *"]]

def peerTemplates (cfg : SystemConfig) : List Template :=
  ownLines ["# Generated by Minimal Router OS — do not edit manually"] ++
  [[own "plugin pppoe.so ", .given cfg.wan.interface],
    [.own "name \"", .given (quotePppd cfg.wan.username), .own "\""]] ++
  ownLines (["noipdefault", "noauth", "noipv6", "defaultroute", "replacedefaultroute",
    "persist", "maxfail 0", "holdoff 5", "lcp-echo-interval 5", "lcp-echo-failure 4"] ++
    if cfg.wan.mtu > 0 then
      ["mtu " ++ toString cfg.wan.mtu, "mru " ++ toString cfg.wan.mtu] else [])

theorem text_pppoe (cfg : SystemConfig) : generatePppoe cfg = .ok {
    peerConfig := renderLines ((peerTemplates cfg).map text)
    chapSecrets := renderLines ((secretTemplates cfg).map text)
    papSecrets := renderLines ((secretTemplates cfg).map text) } := by
  have hsecret : text [.own "\"", .given (quotePppd cfg.wan.username), .own "\" * \"",
      .given (quotePppd cfg.wan.password), .own "\" *"] =
      "\"" ++ quotePppd cfg.wan.username ++ "\" * \"" ++ quotePppd cfg.wan.password ++ "\" *" := by
    rw [← String.toList_inj]
    simp
  have hname : text [.own "name \"", .given (quotePppd cfg.wan.username), .own "\""] =
      "name \"" ++ quotePppd cfg.wan.username ++ "\"" := by
    rw [← String.toList_inj]
    simp
  unfold generatePppoe secretTemplates peerTemplates
  simp only [List.map_append, text_ownLines, List.map_cons, List.map_nil, text_pair, hsecret, hname]
  rfl

theorem printable_quotePppd (h : Printable s) : Printable (quotePppd s) := by
  intro c hc
  rw [quotePppd, String.toList_ofList] at hc
  obtain ⟨d, hd, hc⟩ := List.mem_flatMap.mp hc
  split at hc
  · simp only [List.mem_cons, List.not_mem_nil, or_false, or_self] at hc
    rw [hc]
    decide
  split at hc
  · simp only [List.mem_cons, List.not_mem_nil, or_false] at hc
    rcases hc with rfl | rfl <;> decide
  · rw [List.mem_singleton.mp hc]
    exact h d hd

theorem confined_pppoe (h : PlainTexts cfg) :
    Every (Template.Confined printableChar) (peerTemplates cfg ++ secretTemplates cfg) := by
  simp [peerTemplates, secretTemplates, confined_printable, h.wan.printable,
    printable_quotePppd h.username, printable_quotePppd h.password]

/-- A word as the options and secrets files have it: double quotes may enclose a part of it, and a
backslash makes a quote or a backslash an ordinary character. What it makes of others is left open. -/
def readWord (escape : Char → Char) : Bool → List Char → List Char × List Char
  | _, [] => ([], [])
  | quoted, '\\' :: c :: cs =>
    let (word, rest) := readWord escape quoted cs
    ((if c = '\\' ∨ c = '"' then c else escape c) :: word, rest)
  | quoted, c :: cs =>
    if c = '"' then readWord escape (!quoted) cs
    else if !quoted && c.isWhitespace then ([], c :: cs)
    else
      let (word, rest) := readWord escape quoted cs
      (c :: word, rest)

theorem readWord_cons {quoted : Bool} (h : c ≠ '\\') : readWord escape quoted (c :: cs) =
      if c = '"' then readWord escape (!quoted) cs
      else if !quoted && c.isWhitespace then ([], c :: cs)
      else (c :: (readWord escape quoted cs).1, (readWord escape quoted cs).2) :=
  readWord.eq_3 _ _ _ _ fun _ _ hc => absurd hc h

theorem readWord_quoted (escape : Char → Char) (cs rest : List Char) :
    readWord escape true ((cs.flatMap fun c =>
      if c = '\\' then ['\\', '\\'] else if c = '"' then ['\\', '"'] else [c]) ++ '"' :: rest) =
      (cs ++ (readWord escape false rest).1, (readWord escape false rest).2) := by
  induction cs with
  | nil => simp [readWord]
  | cons c cs ih =>
    rw [List.flatMap_cons, List.append_assoc]
    split
    · next hc => simp [readWord, ih, hc]
    · next hslash =>
      split
      · next hc => simp [readWord, ih, hc]
      · next hquote =>
        rw [List.singleton_append, readWord_cons hslash, if_neg hquote, ih]
        rfl

def Ends (rest : List Char) : Prop := ∀ c ∈ rest.head?, c.isWhitespace = true

theorem readWord_quotePppd (escape : Char → Char) (value : String) (h : Ends rest) :
    readWord escape false (("\"" ++ quotePppd value ++ "\"").toList ++ rest) =
      (value.toList, rest) := by
  have hrest : readWord escape false rest = ([], rest) := by
    cases rest with
    | nil => rfl
    | cons c =>
      have hspace : c.isWhitespace = true := h c rfl
      have hne (d : Char) (hd : d.isWhitespace = false) : c ≠ d := by
        rintro rfl
        rw [hspace] at hd
        cases hd
      rw [readWord_cons (hne '\\' rfl), if_neg (hne '"' rfl), if_pos (by simp [hspace])]
  have hquoted := readWord_quoted escape value.toList rest
  rw [hrest, List.append_nil] at hquoted
  have htext : ("\"" ++ quotePppd value ++ "\"").toList ++ rest =
      '"' :: ((quotePppd value).toList ++ '"' :: rest) := by simp
  rw [htext, readWord_cons (by decide), if_pos rfl]
  unfold quotePppd
  rw [String.toList_ofList]
  exact hquoted

def hostapdTemplates (cfg : SystemConfig) : List Template :=
  let wifi := cfg.wifi
  let start := ownLines ["# Generated by Minimal Router OS — do not edit manually",
    "# File: /etc/hostapd/hostapd.conf", ""]
  if ¬wifi.enabled then start ++ ownLines ["# Wi-Fi Access Point is disabled"]
  else start ++
    [[own "interface=", .given (if wifi.interface = "" then "wlan0" else wifi.interface)]] ++
    ownLines ["bridge=" ++ wifiBridgeInterface, "driver=nl80211"] ++
    [[own "ssid=", .given wifi.ssid]] ++
    ownLines ((if wifi.band = "5ghz" then ["hw_mode=a", "ieee80211n=1", "ieee80211ac=1"]
        else ["hw_mode=g", "ieee80211n=1"]) ++
      ["channel=" ++ toString (if wifi.channel ≤ 0 then 36 else wifi.channel),
        if wifi.hideSsid then "ignore_broadcast_ssid=1" else "ignore_broadcast_ssid=0", "wpa=2"]) ++
    [[own "wpa_passphrase=", .given wifi.passphrase]] ++
    ownLines ["wpa_key_mgmt=WPA-PSK SAE", "ieee80211w=1", "rsn_pairwise=CCMP"]

theorem text_hostapd (cfg : SystemConfig) :
    generateHostapd cfg = .ok (renderLines ((hostapdTemplates cfg).map text)) := by
  unfold generateHostapd hostapdTemplates
  dsimp only
  split
  · simp only [List.map_append, text_ownLines]
  · simp only [List.map_append, text_ownLines, List.map_cons, text_pair,
      List.append_assoc, List.cons_append, List.nil_append]

theorem confined_hostapd (h : PlainTexts cfg) :
    Every (Template.Confined printableChar) (hostapdTemplates cfg) := by
  unfold hostapdTemplates
  dsimp only
  split
  · simp
  · next he =>
    obtain ⟨hiface, hssid, hpassphrase⟩ := h.wifi (by simpa using he)
    have hname : Printable (if cfg.wifi.interface = "" then "wlan0" else cfg.wifi.interface) := by
      split
      · exact printable_literal rfl
      · exact hiface.printable
    simp [confined_printable, hname, hssid, hpassphrase]

theorem renderLines_text (ts : List Template) : renderLines (ts.map text) = (lines ts).text := by
  rw [← String.toList_inj, toList_text, chars_lines, toList_renderLines, Segments.terminated,
    List.map_map, List.flatMap_map]
  simp

theorem toText_templates (t : Table) : t.toText = (lines t.templates).text := by
  rw [← String.toList_inj, toList_text, chars_lines, Table.toText, String.toList_join, ← text_templates,
    List.map_map, List.flatMap_map]
  simp

/-- The strings of an accepted configuration stay what they are in the generated files. -/
theorem strings_confined {previous : Option SystemConfig}
    (h : validateLiveCandidate (releaseRules env) c previous = .ok ()) (tools : Tools) :
    (∃ table, generateNftables tools c = .ok table ∧
      table.toText = (lines table.templates).text ∧
      ∀ line ∈ table.templates, GuardedLine line) ∧ (generateDnsmasq tools.unicode c =
        .ok (lines (dnsmasqTemplates tools.unicode (runtime c))).text ∧
      ∀ line ∈ dnsmasqTemplates tools.unicode (runtime c), line.Confined durationChar) ∧
    (generatePppoe c = .ok {
        peerConfig := (lines (peerTemplates c)).text
        chapSecrets := (lines (secretTemplates c)).text
        papSecrets := (lines (secretTemplates c)).text } ∧
      ∀ line ∈ peerTemplates c ++ secretTemplates c, line.Confined printableChar) ∧
    (generateHostapd c = .ok (lines (hostapdTemplates c)).text ∧
      ∀ line ∈ hostapdTemplates c, line.Confined printableChar) ∧
    ∀ value ∈ [c.wan.username, c.wan.password], ∀ escape rest, Ends rest →
      readWord escape false (("\"" ++ quotePppd value ++ "\"").toList ++ rest) =
        (value.toList, rest) := by
  have haccepted := accepted_of_live h
  have hplain := haccepted.plainTexts
  have hruntime := plainTexts_runtime hplain
  refine ⟨⟨_, nftables_of_accepted haccepted, toText_templates _,
    guardedLine_tableOf hruntime tools⟩, ⟨?_, confined_dnsmasqTemplates hruntime _⟩,
    ⟨?_, confined_pppoe hplain⟩, ⟨?_, confined_hostapd hplain⟩,
    fun value _ escape rest => readWord_quotePppd escape value⟩
  · rw [text_dnsmasqTemplates, renderLines_text]
  · rw [text_pppoe, renderLines_text, renderLines_text]
  · rw [text_hostapd, renderLines_text]

theorem leaseTime_mem_dnsmasqTemplates (he : c.dhcp.enabled = true) :
    ∃ line ∈ dnsmasqTemplates u c, c.dhcp.leaseTime ∈ line.givens := by
  refine ⟨[.own "dhcp-range=", .given c.dhcp.rangeStart, .own ",", .given c.dhcp.rangeEnd, .own ",",
    .given c.lan.netmask, .own ",", .given c.dhcp.leaseTime], ?_, by simp⟩
  have hdhcp : ∀ line ∈ dhcpTemplates c, line ∈ dnsmasqTemplates u c := by
    intro line hline
    unfold dnsmasqTemplates
    simp only [List.mem_append]
    tauto
  exact hdhcp _ (by simp [dhcpTemplates, he])

def greekConfig : SystemConfig :=
  { sampleConfig with dhcp := { sampleConfig.dhcp with leaseTime := "3600000000\u03bcs" } }

theorem greek_mu_in_dnsmasq :
    validateLiveCandidate (releaseRules samplePlatform) greekConfig none = .ok () ∧
      (∃ line ∈ dnsmasqTemplates samplePlatform.unicode (runtime greekConfig),
        greekConfig.dhcp.leaseTime ∈ line.givens) ∧
      ∃ ch ∈ greekConfig.dhcp.leaseTime.toList, plainChar ch = false ∧ ch ≠ '\u00b5' := by
  refine ⟨by decide +kernel, leaseTime_mem_dnsmasqTemplates rfl, '\u03bc', by decide +kernel,
    by decide, by decide⟩

theorem strings_confined_sampleConfig :
    (∃ table, generateNftables sampleTools sampleConfig = .ok table ∧
      table.toText = (lines table.templates).text ∧
      ∀ line ∈ table.templates, GuardedLine line) ∧
    (generateDnsmasq sampleTools.unicode sampleConfig =
        .ok (lines (dnsmasqTemplates sampleTools.unicode (runtime sampleConfig))).text ∧
      ∀ line ∈ dnsmasqTemplates sampleTools.unicode (runtime sampleConfig),
        line.Confined durationChar) ∧ (generatePppoe sampleConfig = .ok {
        peerConfig := (lines (peerTemplates sampleConfig)).text
        chapSecrets := (lines (secretTemplates sampleConfig)).text
        papSecrets := (lines (secretTemplates sampleConfig)).text } ∧
      ∀ line ∈ peerTemplates sampleConfig ++ secretTemplates sampleConfig,
        line.Confined printableChar) ∧
    (generateHostapd sampleConfig = .ok (lines (hostapdTemplates sampleConfig)).text ∧
      ∀ line ∈ hostapdTemplates sampleConfig, line.Confined printableChar) ∧
    ∀ value ∈ [sampleConfig.wan.username, sampleConfig.wan.password], ∀ escape rest, Ends rest →
      readWord escape false (("\"" ++ quotePppd value ++ "\"").toList ++ rest) =
        (value.toList, rest) :=
  strings_confined live_sampleConfig sampleTools

end MinimalRouter.Services
