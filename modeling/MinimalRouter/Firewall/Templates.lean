import MinimalRouter.Firewall.Generate
import MinimalRouter.Lib.Template

namespace MinimalRouter.Firewall

open Goish Config Lib Template Template

def bracedTemplate (ts : List Template) : Template :=
  [Piece.own "\x7b "] ++ join ", " ts ++ [Piece.own " \x7d"]

def Iface.template : Iface → Template
  | .name n => [.given n]
  | .ppp => [.own "ppp*"]

def Addr.template : Addr → Template
  | .text s => [.given s]
  | .net n => [.own n.toString]

def Operand.template : Operand → Template
  | .one a => a.template
  | .set as => bracedTemplate (as.map Addr.template)

def Port.template : Port → Template
  | .num n => [.own (toString n)]
  | .text s => [.given s]

def Ports.template : Ports → Template
  | .one p => p.template
  | .set ps => bracedTemplate (ps.map Port.template)

def quotedTemplate (t : Template) : Template := [.own "\""] ++ t ++ [.own "\""]

def Match.template : Match → Template
  | .iifname i => [.own "iifname "] ++ quotedTemplate i.template
  | .oifname i => [.own "oifname "] ++ quotedTemplate i.template
  | .oifnameIn is => [.own "oifname "] ++ bracedTemplate (is.map Iface.template)
  | .saddr o => [.own "ip saddr "] ++ o.template
  | .saddrNot o => [.own "ip saddr != "] ++ o.template
  | .daddr o => [.own "ip daddr "] ++ o.template
  | .daddrIn set => [.own "ip daddr @", .given set]
  | .dport proto ports => [.given proto, .own " dport "] ++ ports.template
  | .sport proto ports => [.given proto, .own " sport "] ++ ports.template
  | .word w => [.given w]
  | .hour start stop => [.own "meta hour "] ++ quotedTemplate [.given start] ++ [.own "-"] ++
      quotedTemplate [.given stop]
  | other => [.own other.toText]

def Verdict.template : Verdict → Template
  | .dnat ip port => [.own "dnat ip to ", .given ip, .own (":" ++ toString port)]
  | other => [.own other.toText]

def Rule.template (r : Rule) : Template :=
  join " " (r.conds.map Match.template ++ r.effects.map (fun e => [.own e.toText]) ++
    r.verdict.toList.map Verdict.template)

def Item.template : Item → Template
  | .rule r => [.own "    "] ++ r.template
  | .comment s => [.own "    # ", .given s]
  | .blank => []

theorem chars_braced (ts : List Template) :
    (bracedTemplate ts).chars = (braced (ts.map text)).toList := by
  simp only [bracedTemplate, braced, chars_append, chars_own, chars_nil, chars_join,
    String.toList_append, String.toList_intercalate, List.append_nil, List.map_map]
  congr 3
  exact List.map_congr_left fun t _ => (toList_text t).symm

theorem text_iface (i : Iface) : i.template.text = i.text := by
  cases i with
  | name => simp [Iface.template, Iface.text, text]
  | ppp => rfl

theorem text_addr (a : Addr) : a.template.text = a.toText := by
  cases a with
  | text | net => simp [Addr.template, Addr.toText, text]

theorem chars_operand (o : Operand) : o.template.chars = o.toText.toList := by
  cases o with
  | one => rw [Operand.toText, ← text_addr, toList_text, Operand.template]
  | set =>
    rw [Operand.template, chars_braced, Operand.toText, List.map_map]
    congr 2
    exact List.map_congr_left fun a _ => text_addr a

theorem text_port (p : Port) : p.template.text = p.toText := by
  cases p with
  | num | text => simp [Port.template, Port.toText, text]

theorem chars_ports (p : Ports) : p.template.chars = p.toText.toList := by
  cases p with
  | one => rw [Ports.toText, ← text_port, toList_text, Ports.template]
  | set =>
    rw [Ports.template, chars_braced, Ports.toText, List.map_map]
    congr 2
    exact List.map_congr_left fun p _ => text_port p

theorem chars_quoted (h : t.text = s) : (quotedTemplate t).chars = (quoted s).toList := by
  simp [quotedTemplate, quoted, ← h]

theorem chars_match (m : Match) : m.template.chars = m.toText.toList := by
  cases m with
  | iifname i | oifname i => simp [Match.template, Match.toText, chars_quoted (text_iface i)]
  | oifnameIn is =>
    have hfaces : is.map (text ∘ Iface.template) = is.map Iface.text :=
      List.map_congr_left fun i _ => text_iface i
    simp [Match.template, Match.toText, chars_braced, hfaces]
  | saddr | saddrNot | daddr => simp [Match.template, Match.toText, chars_operand]
  | daddrIn | word => simp [Match.template, Match.toText]
  | dport | sport => simp [Match.template, Match.toText, chars_ports]
  | hour => simp [Match.template, Match.toText, quotedTemplate, quoted]
  | _ => exact List.append_nil _

theorem chars_verdict (v : Verdict) : v.template.chars = v.toText.toList := by
  cases v with
  | dnat => simp [Verdict.template, Verdict.toText]
  | _ => exact List.append_nil _

theorem chars_rule (r : Rule) : r.template.chars = r.toText.toList := by
  have heffect (e : Effect) : chars [.own e.toText] = e.toText.toList := List.append_nil _
  simp [Rule.template, Rule.toText, chars_join, String.toList_intercalate, Function.comp_def, chars_match,
    chars_verdict, heffect]

theorem chars_item (item : Item) : item.template.chars = item.toLine.toList := by
  cases item with
  | rule => simp [Item.template, Item.toLine, chars_rule]
  | comment => simp [Item.template, Item.toLine]
  | blank => rfl

def ownLines (lines : List String) : List Template := lines.map fun line => [.own line]

def regularTemplates (name : String) (items : List Item) : List Template :=
  ownLines ["  chain " ++ name ++ " \x7b"] ++ items.map Item.template ++ ownLines ["  \x7d", ""]

def baseTemplates (name declaration : String) (items : List Item) : List Template :=
  ownLines ["  chain " ++ name ++ " \x7b", "    type " ++ declaration ++ ";", ""] ++
    items.map Item.template ++ ownLines ["  \x7d"]

def deviceProfileTemplates (t : Table) : List Template :=
  if t.services.isEmpty then []
  else
    ownLines ["  # Dynamic destination sets populated by dnsmasq from DNS answers."] ++
    t.services.map (fun service => [Piece.own "  set svc_", .given service,
      .own " \x7b type ipv4_addr; flags timeout; timeout 4h; \x7d"]) ++
    ownLines [""] ++ regularTemplates "device_profiles" t.deviceProfiles

def Table.templates (t : Table) : List Template :=
  ownLines (["# Generated by Minimal Router OS — do not edit manually",
    "# Table: inet minimalrouter", "", "table inet minimalrouter \x7b",
    "  counter mr_revision_" ++ toString t.revision ++ " \x7b \x7d"] ++
    t.ruleCounters.map fun name => "  counter " ++ name ++ " \x7b \x7d") ++
  deviceProfileTemplates t ++
  ownLines ((if t.accounting then accountingSetLines "acct_rx" ++ accountingSetLines "acct_tx"
      else []) ++
    ["  counter mr_seen \x7b \x7d", "  counter mr_accepted \x7b \x7d"] ++
    observeLines "input" ++ observeLines "forward") ++
  baseTemplates "input" "filter hook input priority filter; policy drop" t.input ++ ownLines [""] ++
  baseTemplates "forward" "filter hook forward priority filter; policy drop" t.forward ++
  ownLines [""] ++
  baseTemplates "output" "filter hook output priority filter; policy drop" t.output ++
  ownLines [""] ++
  (if t.prerouting.isEmpty then []
    else baseTemplates "prerouting" "nat hook prerouting priority dstnat; policy accept"
      t.prerouting ++ ownLines [""]) ++
  baseTemplates "postrouting" "nat hook postrouting priority srcnat; policy accept" t.postrouting ++
  ownLines ["\x7d"]

theorem text_ownLines (lines : List String) : (ownLines lines).map text = lines := by
  have hline (s : String) : text [.own s] = s := by simp [text]
  simp [ownLines, Function.comp_def, hline]

theorem text_item (item : Item) : item.template.text = item.toLine := by
  rw [← String.toList_inj, toList_text, chars_item]

theorem text_items (items : List Item) :
    (items.map Item.template).map text = items.map Item.toLine := by
  simp [Function.comp_def, text_item]

theorem text_regularTemplates (name : String) (items : List Item) :
    (regularTemplates name items).map text = regularChain name items := by
  simp only [regularTemplates, regularChain, List.map_append, text_ownLines, text_items]

theorem text_baseTemplates (name declaration : String) (items : List Item) :
    (baseTemplates name declaration items).map text = baseChain name declaration items := by
  simp only [baseTemplates, baseChain, List.map_append, text_ownLines, text_items]

theorem text_deviceProfileTemplates (t : Table) :
    (deviceProfileTemplates t).map text = deviceProfileLines t := by
  unfold deviceProfileTemplates deviceProfileLines
  split
  · rfl
  simp only [List.map_append, text_ownLines, text_regularTemplates, List.map_map]
  congr 3
  refine List.map_congr_left fun service _ => ?_
  rw [← String.toList_inj]
  simp

theorem text_templates (t : Table) : t.templates.map text = t.lines := by
  unfold Table.templates Table.lines
  simp only [List.map_append, text_ownLines, text_deviceProfileTemplates, text_baseTemplates,
    apply_ite (List.map text), List.map_nil, List.append_assoc]

end MinimalRouter.Firewall
