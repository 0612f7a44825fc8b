import Mathlib.Algebra.GroupWithZero.Nat
import MinimalRouter.Wireguard.Generate

namespace MinimalRouter.Wireguard

open Goish Config Lib

def isSpace (c : Char) : Bool := c == ' ' || (9 ≤ c.toNat && c.toNat ≤ 13)

def bare (cs : List Char) : List Char := (cs.takeWhile (· != '#')).filter fun c => !isSpace c

structure Entry where
  (key value : List Char)
  deriving DecidableEq

inductive Line
  | blank
  | header : List Char → Line
  | entry : Entry → Line
  deriving DecidableEq

def readLine (cs : List Char) : Line :=
  match bare cs with
  | [] => .blank
  | c :: rest =>
    if c = '[' then .header (c :: rest)
    else .entry (((splitOnce '=' (c :: rest)).map fun kv => ⟨kv.1, kv.2⟩).getD ⟨c :: rest, []⟩)

structure Section where
  name : List Char
  entries : List Entry
  deriving DecidableEq

namespace Section

def values (s : Section) (key : String) : List (List Char) :=
  (s.entries.filter fun e => e.key = key.toList).map (·.value)

end Section

def gather : List Line → List Entry × List Section
  | [] => ([], [])
  | .blank :: lines => gather lines
  | .entry e :: lines => (e :: (gather lines).1, (gather lines).2)
  | .header name :: lines => ([], ⟨name, (gather lines).1⟩ :: (gather lines).2)

def textLines (text : String) : List (List Char) := text.toList.splitOn '\n'

def readFile (text : String) : List Entry × List Section := gather ((textLines text).map readLine)

def peerLineCount (peer : WireGuardPeer) : Nat :=
  6 + (if peer.presharedKey = "" then 0 else 1) + if peer.endpoint = "" then 0 else 1

structure PeerSection (peer : WireGuardPeer) (s : Section) : Prop where
  name : s.name = "[Peer]".toList
  publicKey : (s.values "PublicKey").length = 1
  presharedKey : (s.values "PresharedKey").length ≤ 1
  endpoint : (s.values "Endpoint").length ≤ 1
  allowedIps : ∃ allowed x, peer.allowedIps.items = [allowed] ∧
    parseCidr allowed = some (.v4 x, ⟨.v4 x, 32, 32⟩) ∧
    s.values "AllowedIPs" = [(octetsString x ++ "/32").toList]

structure Integrity (wg : WireGuardConfig) (text : String) : Prop where
  /-- No text of the configuration adds a line. -/
  lines : (textLines text).length = 9 + ((enabledPeers wg).map peerLineCount).sum
  sections : ∃ entries sections,
    readFile text = ([], ⟨"[Interface]".toList, entries⟩ :: sections) ∧
    List.Forall₂ PeerSection (enabledPeers wg) sections ∧
    sections.Pairwise fun s t => s.values "AllowedIPs" ≠ t.values "AllowedIPs"

/-- The texts that are written as they stand have no line break. -/
structure Unbroken (wg : WireGuardConfig) : Prop where
  privateKey : '\n' ∉ wg.privateKey.toList
  peers : ∀ peer ∈ wg.peers.items, peer.enabled = true → '\n' ∉ peer.publicKey.toList ∧
    '\n' ∉ peer.presharedKey.toList ∧ '\n' ∉ peer.endpoint.toList

theorem bare_append (h : '#' ∉ as) :
    bare (as ++ bs) = as.filter (fun c => !isSpace c) ++ bare bs := by
  unfold bare
  rw [List.takeWhile_append_of_pos, List.filter_append]
  intro c hc
  simpa using fun heq : c = '#' => h (heq ▸ hc)

def plainKey (key : String) : Bool :=
  key != "" && key.toList.all fun c => c != '#' && c != '=' && c != '[' && !isSpace c

theorem readLine_directive (hkey : plainKey key = true) (value : String) :
    readLine (key ++ " = " ++ value).toList = .entry ⟨key.toList, bare value.toList⟩ := by
  simp only [plainKey, Bool.and_eq_true, bne_iff_ne, List.all_eq_true, Bool.not_eq_true'] at hkey
  obtain ⟨hne, hchars⟩ := hkey
  have hbare : bare (key ++ " = " ++ value).toList = key.toList ++ '=' :: bare value.toList := by
    have hcomment : '#' ∉ (key ++ " = ").toList := by
      rw [String.toList_append, List.mem_append, not_or]
      exact ⟨fun h => (hchars _ h).1.1.1 rfl, by decide⟩
    have hspace : key.toList.filter (fun c => !isSpace c) = key.toList :=
      List.filter_eq_self.mpr fun c hc => by simp [(hchars c hc).2]
    rw [String.toList_append, bare_append hcomment, String.toList_append, List.filter_append, hspace,
      List.append_assoc]
    rfl
  have hsplit : splitOnce '=' (key.toList ++ '=' :: bare value.toList) =
      some (key.toList, bare value.toList) :=
    splitOnce_append fun h => (hchars _ h).1.1.2 rfl
  obtain ⟨c, _, hcs⟩ := List.exists_cons_of_ne_nil (fun h => hne (String.toList_eq_nil_iff.mp h))
  have hc : c ≠ '[' := (hchars c (hcs ▸ List.mem_cons_self)).1.2
  unfold readLine
  rw [hbare]
  rw [hcs, List.cons_append] at hsplit ⊢
  dsimp only
  rw [if_neg hc, hsplit]
  rfl

theorem readLine_start (start key : String) (hstart : start = key ++ " = ")
    (hkey : plainKey key = true) (value : String) :
    readLine (start ++ value).toList = .entry ⟨key.toList, bare value.toList⟩ := by
  rw [hstart]
  exact readLine_directive hkey value

theorem readLine_comment (text : String) : readLine ("# " ++ text).toList = .blank := by
  rw [String.toList_append]
  rfl

def peerEntries (peer : WireGuardPeer) (route : String) : List Entry :=
  [⟨"PublicKey".toList, bare peer.publicKey.toList⟩] ++
  (if peer.presharedKey = "" then [] else
    [⟨"PresharedKey".toList, bare peer.presharedKey.toList⟩]) ++
  [⟨"AllowedIPs".toList, bare route.toList⟩] ++
  (if peer.endpoint = "" then [] else [⟨"Endpoint".toList, bare peer.endpoint.toList⟩]) ++
  [⟨"PersistentKeepalive".toList, "25".toList⟩]

def interfaceEntries (wg : WireGuardConfig) : List Entry :=
  [⟨"PrivateKey".toList, bare wg.privateKey.toList⟩,
    ⟨"ListenPort".toList, bare (if wg.listenPort > 0 then toString wg.listenPort else "51820").toList⟩,
    ⟨"Address".toList, bare wg.address.toList⟩]

def readLines (lines : List String) : List Line := lines.map fun line => readLine line.toList

theorem gather_entries (es : List Entry) (lines : List Line) :
    gather (es.map .entry ++ lines) = (es ++ (gather lines).1, (gather lines).2) := by
  induction es with
  | nil => rfl
  | cons e es ih => simp [gather, ih]

theorem readLines_interface (wg : WireGuardConfig) : readLines (interfaceLines wg true) =
    [Line.blank, .blank, .blank, .header "[Interface]".toList] ++
      (interfaceEntries wg).map Line.entry ++ [Line.blank] := by
  have hkey := readLine_start "PrivateKey = " "PrivateKey" (by decide) (by decide) wg.privateKey
  have haddress := readLine_start "Address = " "Address" (by decide) (by decide) wg.address
  have hport : readLine (if wg.listenPort > 0 then "ListenPort = " ++ toString wg.listenPort
      else "ListenPort = 51820").toList = .entry ⟨"ListenPort".toList,
        bare (if wg.listenPort > 0 then toString wg.listenPort else "51820").toList⟩ := by
    split
    · exact readLine_start "ListenPort = " "ListenPort" (by decide) (by decide) _
    · rfl
  simp only [readLines, interfaceLines, interfaceEntries, if_true, List.map_append, List.map_cons,
    List.map_nil, hkey, haddress, hport]
  rfl

theorem readLines_peer (peer : WireGuardPeer) (route : String) : readLines (peerLines peer route) =
    [Line.blank, .header "[Peer]".toList] ++ (peerEntries peer route).map Line.entry ++ [Line.blank] := by
  have hname := readLine_comment ("Peer: " ++ peer.name)
  have hpublic := readLine_start "PublicKey = " "PublicKey" (by decide) (by decide) peer.publicKey
  have hpreshared := readLine_start "PresharedKey = " "PresharedKey" (by decide) (by decide) peer.presharedKey
  have hallowed := readLine_start "AllowedIPs = " "AllowedIPs" (by decide) (by decide) route
  have hendpoint := readLine_start "Endpoint = " "Endpoint" (by decide) (by decide) peer.endpoint
  have hcomment : "# Peer: " ++ peer.name = "# " ++ ("Peer: " ++ peer.name) := by
    rw [← String.append_assoc]
    rfl
  unfold readLines peerLines peerEntries
  rw [hcomment]
  by_cases hempty : peer.presharedKey = "" <;> by_cases hnone : peer.endpoint = "" <;>
  · simp only [hempty, hnone, if_true, if_false, List.map_append, List.map_cons, List.map_nil, hname,
      hpublic, hpreshared, hallowed, hendpoint]
    rfl

def peerSection (pr : WireGuardPeer × String) : Section := ⟨"[Peer]".toList, peerEntries pr.1 pr.2⟩

theorem gather_peers (prs : List (WireGuardPeer × String)) :
    gather (readLines (prs.flatMap fun pr => peerLines pr.1 pr.2) ++ [Line.blank]) =
      ([], prs.map peerSection) := by
  induction prs with
  | nil => rfl
  | cons pr prs ih =>
    have hlines : readLines ((pr :: prs).flatMap fun pr => peerLines pr.1 pr.2) =
        readLines (peerLines pr.1 pr.2) ++ readLines (prs.flatMap fun pr => peerLines pr.1 pr.2) := by
      rw [List.flatMap_cons, readLines, List.map_append]
      rfl
    rw [hlines, readLines_peer]
    simp only [List.append_assoc, List.cons_append, List.nil_append, gather, gather_entries, ih,
      List.append_nil, List.map_cons]
    rfl

theorem gather_file (wg : WireGuardConfig) (prs : List (WireGuardPeer × String)) :
    gather (readLines (interfaceLines wg true ++ prs.flatMap fun pr => peerLines pr.1 pr.2) ++
      [.blank]) = ([], ⟨"[Interface]".toList, interfaceEntries wg⟩ :: prs.map peerSection) := by
  have hlines : readLines (interfaceLines wg true ++ prs.flatMap fun pr => peerLines pr.1 pr.2) =
      readLines (interfaceLines wg true) ++
        readLines (prs.flatMap fun pr => peerLines pr.1 pr.2) := List.map_append
  rw [hlines, readLines_interface]
  simp only [List.append_assoc, List.cons_append, List.nil_append, gather, gather_entries,
    gather_peers, List.append_nil]

theorem readFile_renderLines (h : ∀ line ∈ lines, '\n' ∉ line.toList) :
    readFile (renderLines lines) = gather (readLines lines ++ [.blank]) := by
  unfold readFile textLines
  rw [toList_renderLines, Segments.splitOn_terminated_of_not_mem (by simpa using h),
    List.map_append, List.map_map]
  rfl

theorem bare_eq_self (h : ∀ c ∈ cs, c ≠ '#' ∧ isSpace c = false) : bare cs = cs := by
  have happend := @bare_append cs [] fun hmem => (h _ hmem).1 rfl
  rw [List.append_nil] at happend
  rw [happend, List.filter_eq_self.mpr fun c hc => by simp [(h c hc).2]]
  exact List.append_nil cs

theorem bare_hostRoute (x : BitVec 32) :
    bare (octetsString x ++ "/32").toList = (octetsString x ++ "/32").toList := by
  refine bare_eq_self fun c hc => ?_
  have hchar : addressChar c = true ∨ c = '/' := by
    rw [String.toList_append] at hc
    rcases List.mem_append.mp hc with hc | hc
    · exact .inl (octetsString_chars x c hc)
    rw [String.toList_ofList (l := ['/', '3', '2'])] at hc
    simp only [List.mem_cons, List.not_mem_nil, or_false] at hc
    rcases hc with rfl | rfl | rfl <;> decide
  obtain ⟨hlow, -⟩ := toNat_of_addressChar hchar
  refine ⟨?_, ?_⟩
  · rintro rfl
    exact absurd hlow (by decide)
  simp only [isSpace, Bool.or_eq_false_iff, beq_eq_false_iff_ne, Bool.and_eq_false_iff,
    decide_eq_false_iff_not]
  refine ⟨?_, by omega⟩
  rintro rfl
  exact absurd hlow (by decide)

theorem values_peerSection (peer : WireGuardPeer) (route : String) :
    (peerSection (peer, route)).values "PublicKey" = [bare peer.publicKey.toList] ∧
      (peerSection (peer, route)).values "PresharedKey" =
        (if peer.presharedKey = "" then [] else [bare peer.presharedKey.toList]) ∧
      (peerSection (peer, route)).values "Endpoint" =
        (if peer.endpoint = "" then [] else [bare peer.endpoint.toList]) ∧
      (peerSection (peer, route)).values "AllowedIPs" = [bare route.toList] := by
  unfold peerSection peerEntries Section.values
  by_cases hempty : peer.presharedKey = "" <;> by_cases hnone : peer.endpoint = "" <;>
  · simp only [hempty, hnone, if_true, if_false]
    exact ⟨rfl, rfl, rfl, rfl⟩

theorem peerSection_ok (hallowed : peer.allowedIps.items = [allowed])
    (hparse : parseCidr allowed = some (.v4 x, ⟨.v4 x, 32, 32⟩)) :
    PeerSection peer (peerSection (peer, octetsString x ++ "/32")) := by
  obtain ⟨hpublic, hpreshared, hendpoint, hroute⟩ :=
    values_peerSection peer (octetsString x ++ "/32")
  refine ⟨rfl, by rw [hpublic]; rfl, ?_, ?_, allowed, x, hallowed, hparse, ?_⟩
  · rw [hpreshared]
    split <;> simp
  · rw [hendpoint]
    split <;> simp
  · rw [hroute, bare_hostRoute]

theorem newline_not_mem_of_parseCidr (h : parseCidr s = some r) : '\n' ∉ s.toList := by
  intro hmem
  have hlow := (toNat_of_addressChar ((chars_of_parseCidr h).2 _ hmem)).1
  exact absurd hlow (by decide)

theorem newline_not_mem_of_safeName (h : safeNamePattern u s = true) : '\n' ∉ s.toList := by
  have hword : (u.isLetter '\n' || u.isNumber '\n') = false := rfl
  unfold safeNamePattern startsThen at h
  split at h
  · cases h
  · next c cs hcs =>
    simp only [Bool.and_eq_true, List.all_eq_true] at h
    rw [hcs, List.mem_cons, not_or]
    refine ⟨?_, fun hmem => ?_⟩
    · rintro rfl
      exact absurd h.1.1 (by rw [hword]; decide)
    have hrest := h.1.2 _ hmem
    rw [hword] at hrest
    exact absurd hrest (by decide)

theorem newline_not_mem_toString {n : Int} (h : 0 ≤ n) : '\n' ∉ (toString n).toList := by
  obtain ⟨k, rfl⟩ := Int.eq_ofNat_of_zero_le h
  change '\n' ∉ (toString k).toList
  intro hmem
  rw [Nat.toString_eq_repr, Nat.repr, String.toList_ofList] at hmem
  exact absurd (Nat.isDigit_of_mem_toDigits (by decide) (by decide) hmem) (by decide)

theorem newline_not_mem_append {start : String} (h : '\n' ∉ start.toList) :
    '\n' ∉ (start ++ s).toList ↔ '\n' ∉ s.toList := by
  rw [String.toList_append, List.mem_append, not_or]
  exact and_iff_right h

theorem newline_not_mem_interfaceLines (h : Accepted env c) (he : c.wireguard.enabled = true) :
    (∀ line ∈ interfaceLines c.wireguard true, '\n' ∉ line.toList) ↔
      '\n' ∉ c.wireguard.privateKey.toList := by
  obtain ⟨x, _, hparse⟩ := h.wireguard_address he
  have haddress : '\n' ∉ ("Address = " ++ c.wireguard.address).toList :=
    (newline_not_mem_append (by decide)).mpr (newline_not_mem_of_parseCidr hparse)
  have hport : '\n' ∉ (if c.wireguard.listenPort > 0 then
      "ListenPort = " ++ toString c.wireguard.listenPort else "ListenPort = 51820").toList := by
    split
    · next hpos => exact (newline_not_mem_append (by decide)).mpr (newline_not_mem_toString (by omega))
    · decide
  unfold interfaceLines
  simp only [if_true, List.forall_mem_append, List.forall_mem_cons, haddress, hport,
    newline_not_mem_append (by decide : '\n' ∉ "PrivateKey = ".toList), List.not_mem_nil,
    false_implies, implies_true, and_true, not_false_eq_true]
  constructor
  · tauto
  · intro hkey
    exact ⟨⟨⟨by decide, by decide, by decide⟩, by decide, hkey⟩, by decide⟩

theorem newline_not_mem_optional (h : '\n' ∉ start.toList) :
    (∀ line ∈ (if s = "" then [] else [start ++ s]), '\n' ∉ line.toList) ↔ '\n' ∉ s.toList := by
  by_cases hs : s = ""
  · rw [if_pos hs, hs]
    decide
  · rw [if_neg hs, List.forall_mem_singleton, newline_not_mem_append h]

theorem newline_not_mem_hostRoute (x : BitVec 32) : '\n' ∉ (octetsString x ++ "/32").toList := by
  intro hmem
  rw [← bare_hostRoute] at hmem
  exact absurd (List.mem_filter.mp hmem).2 (by decide)

theorem newline_not_mem_peerLines (h : Accepted.CheckedPeer env peer) (x : BitVec 32) :
    (∀ line ∈ peerLines peer (octetsString x ++ "/32"), '\n' ∉ line.toList) ↔
      '\n' ∉ peer.publicKey.toList ∧ '\n' ∉ peer.presharedKey.toList ∧
        '\n' ∉ peer.endpoint.toList := by
  have hname : '\n' ∉ ("# Peer: " ++ peer.name).toList :=
    (newline_not_mem_append (by decide)).mpr (newline_not_mem_of_safeName h.name)
  have hroute : '\n' ∉ ("AllowedIPs = " ++ (octetsString x ++ "/32")).toList :=
    (newline_not_mem_append (by decide)).mpr (newline_not_mem_hostRoute x)
  unfold peerLines
  simp only [List.forall_mem_append, newline_not_mem_optional (by decide : '\n' ∉ "PresharedKey = ".toList),
    newline_not_mem_optional (by decide : '\n' ∉ "Endpoint = ".toList), List.forall_mem_cons, hname,
    hroute, newline_not_mem_append (by decide : '\n' ∉ "PublicKey = ".toList), List.not_mem_nil,
    false_implies, implies_true, and_true, true_and, not_false_eq_true]
  constructor
  · rintro ⟨⟨⟨⟨-, hpublic⟩, hpreshared⟩, hendpoint⟩, -⟩
    exact ⟨hpublic, hpreshared, hendpoint⟩
  · rintro ⟨hpublic, hpreshared, hendpoint⟩
    exact ⟨⟨⟨⟨by decide, hpublic⟩, hpreshared⟩, hendpoint⟩, by decide, by decide⟩

theorem routes_of_generate (h : Accepted env c) (he : c.wireguard.enabled = true)
    (htext : generateWireguard c.wireguard = .ok text) : ∃ prs : List (WireGuardPeer × String),
      prs.map Prod.fst = enabledPeers c.wireguard ∧ (prs.map Prod.snd).Nodup ∧
      (∀ pr ∈ prs, ∃ allowed x, pr.1.allowedIps.items = [allowed] ∧
        parseCidr allowed = some (.v4 x, ⟨.v4 x, 32, 32⟩) ∧ pr.2 = octetsString x ++ "/32") ∧
      text = renderLines (interfaceLines c.wireguard true ++
        prs.flatMap fun pr => peerLines pr.1 pr.2) := by
  obtain ⟨_, hlines, rfl⟩ := Result.map_eq_ok.mp htext
  obtain ⟨routes, ⟨hroutes, hnodup, -⟩, rfl⟩ := writePeers_eq_ok.mp hlines
  have hlength := hroutes.length_eq
  refine ⟨(enabledPeers c.wireguard).zip routes, List.map_fst_zip (Nat.le_of_eq hlength), ?_, ?_, rfl⟩
  · unfold enabledPeers
    rw [List.map_snd_zip (Nat.le_of_eq hlength.symm)]
    exact hnodup
  intro pr hpr
  have hroute := (List.forall₂_iff_zip.mp hroutes).2 hpr
  obtain ⟨allowed, x, hallowed, hparse, hx⟩ := hostRoute_eq_ok.mp hroute
  obtain ⟨hmem, hpe⟩ := List.mem_filter.mp (List.of_mem_zip hpr).1
  obtain ⟨allowed', y, _, hallowed', hparse', -⟩ := (h.wireguard_peer he hmem hpe).allowedIps
  obtain rfl : allowed' = allowed := by
    rw [hallowed] at hallowed'
    exact (List.cons.inj hallowed').1.symm
  rw [trim_of_parseCidr hparse'] at hparse
  exact ⟨allowed', x, hallowed, hparse, hx⟩

theorem length_peerLines (peer : WireGuardPeer) (route : String) :
    (peerLines peer route).length = peerLineCount peer := by
  unfold peerLines peerLineCount
  split <;> split <;> rfl

theorem length_lines (wg : WireGuardConfig) (prs : List (WireGuardPeer × String))
    (h : prs.map Prod.fst = enabledPeers wg) :
    (interfaceLines wg true ++ prs.flatMap fun pr => peerLines pr.1 pr.2).length + 1 =
      9 + ((enabledPeers wg).map peerLineCount).sum := by
  have hinterface : (interfaceLines wg true).length = 8 := rfl
  rw [List.length_append, hinterface, List.length_flatMap, ← h, List.map_map]
  simp only [length_peerLines, Function.comp_def]
  omega

theorem newline_not_mem_lines (h : Accepted env c) (he : c.wireguard.enabled = true)
    {prs : List (WireGuardPeer × String)} (hpeers : prs.map Prod.fst = enabledPeers c.wireguard)
    (hroutes : ∀ pr ∈ prs, ∃ x, pr.2 = octetsString x ++ "/32") :
    (∀ line ∈ interfaceLines c.wireguard true ++ prs.flatMap (fun pr => peerLines pr.1 pr.2),
      '\n' ∉ line.toList) ↔ Unbroken c.wireguard := by
  have hchecked : ∀ peer ∈ enabledPeers c.wireguard, Accepted.CheckedPeer env peer := by
    intro peer hpeer
    obtain ⟨hmem, hpe⟩ := List.mem_filter.mp hpeer
    exact h.wireguard_peer he hmem hpe
  rw [List.forall_mem_append, newline_not_mem_interfaceLines h he, List.forall_mem_flatMap]
  constructor
  · rintro ⟨hkey, hlines⟩
    refine ⟨hkey, fun peer hmem hpe => ?_⟩
    have hpeer : peer ∈ prs.map Prod.fst := hpeers ▸ List.mem_filter.mpr ⟨hmem, hpe⟩
    obtain ⟨pr, hpr, rfl⟩ := List.mem_map.mp hpeer
    obtain ⟨x, hx⟩ := hroutes pr hpr
    refine (newline_not_mem_peerLines (hchecked _ (hpeers ▸ hpeer)) x).mp ?_
    rw [← hx]
    exact hlines pr hpr
  rintro ⟨hkey, hpeers'⟩
  refine ⟨hkey, fun pr hpr => ?_⟩
  obtain ⟨x, hx⟩ := hroutes pr hpr
  have hpeer : pr.1 ∈ enabledPeers c.wireguard := hpeers ▸ List.mem_map_of_mem hpr
  obtain ⟨hmem, hpe⟩ := List.mem_filter.mp hpeer
  rw [hx]
  exact (newline_not_mem_peerLines (hchecked _ hpeer) x).mpr (hpeers' _ hmem hpe)

theorem integrity_iff {previous : Option SystemConfig} {text : String}
    (hc : validateLiveCandidate (releaseRules env) c previous = .ok ())
    (he : c.wireguard.enabled = true) (htext : generateWireguard c.wireguard = .ok text) :
    Integrity c.wireguard text ↔ Unbroken c.wireguard := by
  have h := accepted_of_live hc
  obtain ⟨prs, hpeers, hnodup, hroutes, rfl⟩ := routes_of_generate h he htext
  have hbreaks := newline_not_mem_lines h he hpeers fun pr hpr =>
    let ⟨_, x, _, _, hx⟩ := hroutes pr hpr
    ⟨x, hx⟩
  have hlines : (textLines (renderLines (interfaceLines c.wireguard true ++
      prs.flatMap fun pr => peerLines pr.1 pr.2))).length =
        9 + ((enabledPeers c.wireguard).map peerLineCount).sum ↔ Unbroken c.wireguard := by
    rw [← hbreaks, ← length_lines c.wireguard prs hpeers, textLines, toList_renderLines,
      ← List.length_map (f := String.toList), Segments.length_splitOn_terminated]
    exact List.forall_mem_map
  refine ⟨fun hi => hlines.mp hi.lines, fun hu => ⟨hlines.mpr hu, interfaceEntries c.wireguard,
    prs.map peerSection, ?_, ?_, ?_⟩⟩
  · rw [readFile_renderLines (hbreaks.mpr hu), gather_file]
  · rw [← hpeers, List.forall₂_map_left_iff, List.forall₂_map_right_iff, List.forall₂_same]
    rintro ⟨peer, route⟩ hpr
    obtain ⟨allowed, x, hallowed, hparse, rfl⟩ := hroutes _ hpr
    exact peerSection_ok hallowed hparse
  rw [List.pairwise_map]
  refine (List.pairwise_map.mp hnodup).imp_of_mem ?_
  rintro ⟨peer, route⟩ ⟨peer', route'⟩ hpr hpr' hne heq
  obtain ⟨-, x, -, -, rfl⟩ := hroutes _ hpr
  obtain ⟨-, y, -, -, rfl⟩ := hroutes _ hpr'
  rw [(values_peerSection _ _).2.2.2, (values_peerSection _ _).2.2.2, bare_hostRoute,
    bare_hostRoute] at heq
  exact hne (String.toList_inj.mp (List.cons.inj heq).1)

def brokenConfig : SystemConfig :=
  { sampleConfig with wireguard := { sampleConfig.wireguard with
      peers := .of [{ samplePeer with endpoint := "1.2.3.4:51820\nAllowedIPs = 0.0.0.0/0" }] } }

theorem endpoint_adds_line :
    validateLiveCandidate (releaseRules samplePlatform) brokenConfig none = .ok () ∧
      ∃ text, generateWireguard brokenConfig.wireguard = .ok text ∧
        (readFile text).2.map (·.values "AllowedIPs") =
          [[], ["10.8.0.2/32".toList, "0.0.0.0/0".toList]] ∧
        ¬Integrity brokenConfig.wireguard text := by
  have hread : (writePeers [] brokenConfig.wireguard.peers.items).map (fun peers =>
      let lines := ((interfaceLines brokenConfig.wireguard true ++ peers).map String.toList).flatMap
        (·.splitOn '\n') ++ [[]]
      (lines.length, (gather (lines.map readLine)).2.map (·.values "AllowedIPs"))) =
        .ok (17, [[], ["10.8.0.2/32".toList, "0.0.0.0/0".toList]]) := by
    decide +kernel
  obtain ⟨peers, hpeers, hvalues⟩ := Result.map_eq_ok.mp hread
  obtain ⟨hlength, hvalues⟩ := Prod.mk.inj hvalues
  have hlines := toList_renderLines (interfaceLines brokenConfig.wireguard true ++ peers)
  refine ⟨by decide +kernel, _, generateWireguard_of_writePeers hpeers, ?_, fun hi => ?_⟩
  · rw [readFile, textLines, hlines, Segments.splitOn_terminated]
    exact hvalues
  have hcount := hi.lines
  rw [textLines, hlines, Segments.splitOn_terminated] at hcount
  cases hlength.symm.trans hcount

theorem integrity_sampleConfig : ∃ text, generateWireguard sampleConfig.wireguard = .ok text ∧
      Integrity sampleConfig.wireguard text := by
  have hok : (generateWireguard sampleConfig.wireguard).map (fun _ => ()) = .ok () := by
    decide +kernel
  obtain ⟨text, htext, -⟩ := Result.map_eq_ok.mp hok
  exact ⟨text, htext, (integrity_iff live_sampleConfig rfl htext).mpr
    ⟨by decide, by decide⟩⟩

end MinimalRouter.Wireguard
