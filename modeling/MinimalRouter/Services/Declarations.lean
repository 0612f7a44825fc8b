import Mathlib.Data.List.Count
import Mathlib.Data.List.DropRight
import Mathlib.Data.List.Nodup
import MinimalRouter.Services.Injection
import MinimalRouter.Services.Schedule

namespace MinimalRouter.Services

open Goish Config Firewall Wireguard Lib Template Name

def usedNames (t : Table) : List Name :=
  (t.deviceProfiles ++ t.input ++ t.forward ++ t.output ++ t.prerouting ++ t.postrouting).flatMap
    itemNames ++ [counter "mr_seen", .counter "mr_accepted"]

def firstWord (cs : List Char) : String := String.ofList (cs.takeWhile (· != ' '))

/-- The name that a line of the table declares. The declaration of a counter ends with braces. -/
def declaredName : List Char → Option Name
  | ' ' :: ' ' :: 'c' :: 'o' :: 'u' :: 'n' :: 't' :: 'e' :: 'r' :: ' ' :: rest =>
    some (.counter (String.ofList (rest.take (rest.length - 4))))
  | ' ' :: ' ' :: 's' :: 'e' :: 't' :: ' ' :: rest => some (.set (firstWord rest))
  | ' ' :: ' ' :: 'c' :: 'h' :: 'a' :: 'i' :: 'n' :: ' ' :: rest => some (.chain (firstWord rest))
  | _ => none

def declaredNames (lines : List String) : List Name :=
  lines.filterMap fun line => declaredName line.toList

@[simp] theorem declaredNames_nil : declaredNames [] = [] := rfl

@[simp] theorem declaredNames_append (xs ys : List String) :
    declaredNames (xs ++ ys) = declaredNames xs ++ declaredNames ys :=
  List.filterMap_append

theorem declaredName_literal (h : declaredName cs = none) :
    declaredName (String.ofList cs).toList = none := by rw [String.toList_ofList, h]

theorem declaredNames_none {lines : List String} (h : declaredName line.toList = none) :
    declaredNames (line :: lines) = declaredNames lines :=
  List.filterMap_cons_none (f := fun line : String => declaredName line.toList) h

theorem declaredNames_some {lines : List String} (h : declaredName line.toList = some name) :
    declaredNames (line :: lines) = name :: declaredNames lines :=
  List.filterMap_cons_some (f := fun line : String => declaredName line.toList) h

theorem declaredName_counter (name : String) :
    declaredName ("  counter " ++ name ++ " \x7b \x7d").toList = some (.counter name) := by
  have hline : ("  counter " ++ name ++ " \x7b \x7d").toList = ' ' :: ' ' :: 'c' :: 'o' :: 'u' :: 'n' ::
      't' :: 'e' :: 'r' :: ' ' :: (name.toList ++ [' ', '\x7b', ' ', '\x7d']) := by
    rw [String.toList_append, String.toList_append]
    exact congrArg₂ (fun start stop => start ++ name.toList ++ stop)
      (String.toList_ofList (l := [' ', ' ', 'c', 'o', 'u', 'n', 't', 'e', 'r', ' ']))
      (String.toList_ofList (l := [' ', '\x7b', ' ', '\x7d']))
  rw [hline, declaredName]
  simp

theorem firstWord_append (h : ' ' ∉ name.toList) (rest : List Char) :
    firstWord (name.toList ++ ' ' :: rest) = name := by
  have hword : ∀ c ∈ name.toList, (c != ' ') = true := by
    intro c hc
    rw [bne_iff_ne]
    rintro rfl
    exact h hc
  rw [firstWord, List.takeWhile_append_of_pos hword, List.takeWhile_cons_of_neg (by simp),
    List.append_nil, String.ofList_toList]

theorem declaredName_chain (h : ' ' ∉ name.toList) (hrest : rest.toList = ' ' :: l) :
    declaredName ("  chain " ++ name ++ rest).toList = some (.chain name) := by
  have hline : ("  chain " ++ name ++ rest).toList =
      ' ' :: ' ' :: 'c' :: 'h' :: 'a' :: 'i' :: 'n' :: ' ' :: (name.toList ++ ' ' :: l) := by
    rw [String.toList_append, String.toList_append, hrest]
    exact congrArg (fun start => start ++ name.toList ++ ' ' :: l)
      (String.toList_ofList (l := [' ', ' ', 'c', 'h', 'a', 'i', 'n', ' ']))
  rw [hline, declaredName, firstWord_append h]

theorem declaredName_openChain (h : ' ' ∉ name.toList) :
    declaredName ("  chain " ++ name ++ " \x7b").toList = some (.chain name) :=
  declaredName_chain h (String.toList_ofList (l := [' ', '\x7b']))

theorem declaredName_set (h : ' ' ∉ name.toList) (hrest : rest.toList = ' ' :: cs) :
    declaredName ("  set " ++ name ++ rest).toList = some (.set name) := by
  have hline : ("  set " ++ name ++ rest).toList =
      ' ' :: ' ' :: 's' :: 'e' :: 't' :: ' ' :: (name.toList ++ ' ' :: cs) := by
    rw [String.toList_append, String.toList_append, hrest]
    exact congrArg (fun start => start ++ name.toList ++ ' ' :: cs)
      (String.toList_ofList (l := [' ', ' ', 's', 'e', 't', ' ']))
  rw [hline, declaredName, firstWord_append h]

theorem declaredName_indented (line : String) :
    declaredName (String.ofList (' ' :: ' ' :: ' ' :: cs) ++ line).toList = none := by
  rw [String.toList_append, String.toList_ofList]
  rfl

theorem declaredNames_items (items : List Item) : declaredNames (items.map Item.toLine) = [] := by
  refine List.filterMap_eq_nil_iff.mpr fun line hline => ?_
  obtain ⟨item, -, rfl⟩ := List.mem_map.mp hline
  cases item with
  | rule | comment => exact declaredName_indented _
  | blank => rfl

theorem declaredNames_baseChain (h : ' ' ∉ name.toList) (declaration : String) (items : List Item) :
    declaredNames (baseChain name declaration items) = [.chain name] := by
  have htype : declaredName ("    type " ++ declaration ++ ";").toList = none := by
    rw [String.append_assoc]
    exact declaredName_indented _
  simp (disch := exact declaredName_literal rfl) only [baseChain, declaredNames_append,
    declaredNames_some (declaredName_openChain h), declaredNames_none htype, declaredNames_none,
    declaredNames_items, declaredNames_nil, List.append_nil]

theorem declaredNames_regularChain (h : ' ' ∉ name.toList) (items : List Item) :
    declaredNames (regularChain name items) = [.chain name] := by
  simp (disch := exact declaredName_literal rfl) only [regularChain, declaredNames_append,
    declaredNames_some (declaredName_openChain h), declaredNames_none, declaredNames_items,
    declaredNames_nil, List.append_nil]

theorem declaredNames_accounting (h : ' ' ∉ name.toList) :
    declaredNames (accountingSetLines name) = [.set name] := by
  have hset := declaredName_set h (String.toList_ofList (l := [' ', '\x7b']))
  unfold accountingSetLines
  rw [declaredNames_some hset]
  simp (disch := exact declaredName_literal rfl) only [declaredNames_none, declaredNames_nil]

theorem declaredNames_map {α : Type} {xs : List α} {line : α → String} {name : α → Name}
    (h : ∀ x ∈ xs, declaredName (line x).toList = some (name x)) :
    declaredNames (xs.map line) = xs.map name := by
  induction xs with
  | nil => rfl
  | cons x xs ih =>
    obtain ⟨hx, hxs⟩ := List.forall_mem_cons.mp h
    rw [List.map_cons, declaredNames_some hx, ih hxs, List.map_cons]

def tableNames (t : Table) : List Name :=
  [counter ("mr_revision_" ++ toString t.revision)] ++ t.ruleCounters.map counter ++
  (if t.services.isEmpty then []
    else t.services.map (fun service => set ("svc_" ++ service)) ++ [chain "device_profiles"]) ++
  (if t.accounting then [set "acct_rx", .set "acct_tx"] else []) ++
  [counter "mr_seen", .counter "mr_accepted"] ++
  [chain "observe_input_before", .chain "observe_input_after", .chain "observe_forward_before",
    .chain "observe_forward_after", .chain "input", .chain "forward", .chain "output"] ++
  (if t.prerouting.isEmpty then [] else [chain "prerouting"]) ++ [chain "postrouting"]

theorem declaredNames_profiles (h : ∀ service ∈ t.services, ' ' ∉ service.toList) :
    declaredNames (deviceProfileLines t) = if t.services.isEmpty then []
      else t.services.map (fun service => .set ("svc_" ++ service)) ++ [.chain "device_profiles"] := by
  unfold deviceProfileLines
  split
  · rfl
  have hsets : declaredNames (t.services.map fun service => "  set svc_" ++ service ++
      " \x7b type ipv4_addr; flags timeout; timeout 4h; \x7d") =
      t.services.map fun service => .set ("svc_" ++ service) := by
    refine declaredNames_map fun service hservice => ?_
    have hname : ' ' ∉ ("svc_" ++ service).toList := by
      rw [String.toList_append, List.mem_append, not_or]
      exact ⟨by decide, h service hservice⟩
    have hline : "  set svc_" ++ service = "  set " ++ ("svc_" ++ service) := by
      rw [← String.append_assoc]
      rfl
    rw [hline]
    exact declaredName_set hname (String.toList_ofList)
  simp (disch := exact declaredName_literal rfl) only [declaredNames_append, declaredNames_none,
    declaredNames_nil, hsets, declaredNames_regularChain (by decide : ' ' ∉ "device_profiles".toList),
    List.nil_append, List.append_nil]

theorem declaredNames_observe (h : ' ' ∉ hook.toList) :
    declaredNames (observeLines hook) = [.chain ("observe_" ++ (hook ++ "_before")),
      .chain ("observe_" ++ (hook ++ "_after"))] := by
  have hline {stage : String} (hstage : ' ' ∉ ("_" ++ stage).toList) (rest : String) :
      declaredName
        ("  chain observe_" ++ (hook ++ ("_" ++ (stage ++ (" \x7b type filter hook " ++ rest))))).toList =
        some (.chain ("observe_" ++ (hook ++ ("_" ++ stage)))) := by
    have hname : ' ' ∉ ("observe_" ++ (hook ++ ("_" ++ stage))).toList := by
      rw [String.toList_append, List.mem_append, not_or, String.toList_append, List.mem_append, not_or]
      exact ⟨by decide, h, hstage⟩
    have hsplit : "  chain observe_" ++ (hook ++ ("_" ++ (stage ++ (" \x7b type filter hook " ++ rest)))) =
        "  chain " ++ ("observe_" ++ (hook ++ ("_" ++ stage))) ++ (" \x7b type filter hook " ++ rest) := by
      have hstart : "  chain observe_" = "  chain " ++ "observe_" := rfl
      rw [hstart]
      simp only [String.append_assoc]
    rw [hsplit]
    refine declaredName_chain hname (l := "\x7b type filter hook ".toList ++ rest.toList) ?_
    rw [String.toList_append]
    rfl
  unfold observeLines
  simp only [String.append_assoc]
  rw [declaredNames_some (hline (by decide) _), declaredNames_some (hline (by decide) _)]
  rfl

theorem declaredNames_lines (h : ∀ service ∈ t.services, ' ' ∉ service.toList) :
    declaredNames t.lines = tableNames t := by
  have hcounters : declaredNames (t.ruleCounters.map fun name => "  counter " ++ name ++ " \x7b \x7d") =
      t.ruleCounters.map .counter :=
    declaredNames_map fun name _ => declaredName_counter name
  have hrevision : declaredName ("  counter mr_revision_" ++ toString t.revision ++ " \x7b \x7d").toList =
      some (.counter ("mr_revision_" ++ toString t.revision)) := by
    have hline : "  counter mr_revision_" ++ toString t.revision =
        "  counter " ++ ("mr_revision_" ++ toString t.revision) := by
      rw [← String.append_assoc]
      rfl
    rw [hline]
    exact declaredName_counter _
  have hseen : declaredName "  counter mr_seen \x7b \x7d".toList = some (.counter "mr_seen") :=
    declaredName_counter "mr_seen"
  have hpassed : declaredName "  counter mr_accepted \x7b \x7d".toList = some (.counter "mr_accepted") :=
    declaredName_counter "mr_accepted"
  have haccounting : declaredNames (if t.accounting then
      accountingSetLines "acct_rx" ++ accountingSetLines "acct_tx" else []) =
      if t.accounting then [.set "acct_rx", .set "acct_tx"] else [] := by
    split
    · rw [declaredNames_append, declaredNames_accounting (by decide),
        declaredNames_accounting (by decide)]
      rfl
    · rfl
  have hpre : declaredNames (if t.prerouting.isEmpty then [] else
      baseChain "prerouting" "nat hook prerouting priority dstnat; policy accept" t.prerouting ++
        [""]) = if t.prerouting.isEmpty then [] else [.chain "prerouting"] := by
    split
    · rfl
    · simp (disch := exact declaredName_literal rfl) only [declaredNames_append, declaredNames_none,
        declaredNames_baseChain (by decide : ' ' ∉ "prerouting".toList), declaredNames_nil,
        List.append_nil]
  unfold Table.lines tableNames
  simp (disch := exact declaredName_literal rfl) only [declaredNames_append, declaredNames_none,
    declaredNames_some hrevision, declaredNames_some hseen, declaredNames_some hpassed,
    declaredNames_nil, hcounters, declaredNames_profiles h, haccounting,
    declaredNames_observe (by decide : ' ' ∉ "input".toList),
    declaredNames_observe (by decide : ' ' ∉ "forward".toList),
    declaredNames_baseChain (by decide : ' ' ∉ "input".toList),
    declaredNames_baseChain (by decide : ' ' ∉ "forward".toList),
    declaredNames_baseChain (by decide : ' ' ∉ "output".toList),
    declaredNames_baseChain (by decide : ' ' ∉ "postrouting".toList), hpre,
    List.append_nil, List.append_assoc]
  rfl

section Counts

variable (t : Table) (x : String)

theorem count_map_ne {α : Type} {f : α → Name} (h : ∀ a, f a ≠ n) (xs : List α) :
    (xs.map f).count n = 0 := by
  refine List.count_eq_zero.mpr fun hmem => ?_
  obtain ⟨a, -, ha⟩ := List.mem_map.mp hmem
  exact h a ha

theorem count_counter : (tableNames t).count (.counter x) = t.ruleCounters.count x +
    ["mr_revision_" ++ toString t.revision, "mr_seen", "mr_accepted"].count x := by
  have hcounters : (t.ruleCounters.map counter).count (.counter x) = t.ruleCounters.count x :=
    List.count_map_of_injective _ _ (fun a b h => counter.inj h) _
  have hset : (t.services.map fun service => set ("svc_" ++ service)).count (.counter x) = 0 :=
    count_map_ne (by simp) _
  simp only [tableNames, List.count_append, hcounters, apply_ite (List.count (counter x)), hset,
    List.count_cons, List.count_nil]
  simp
  omega

theorem count_set : (tableNames t).count (.set x) = (t.services.map ("svc_" ++ ·)).count x +
    if t.accounting then ["acct_rx", "acct_tx"].count x else 0 := by
  have hcounters : (t.ruleCounters.map counter).count (.set x) = 0 :=
    count_map_ne (by simp) _
  have hset : (t.services.map fun service => set ("svc_" ++ service)).count (.set x) =
      (t.services.map ("svc_" ++ ·)).count x := by
    rw [← List.count_map_of_injective (t.services.map ("svc_" ++ ·)) set (fun a b h => set.inj h),
      List.map_map]
    rfl
  simp only [tableNames, List.count_append, hcounters, apply_ite (List.count (set x)), hset,
    List.count_cons, List.count_nil]
  cases t.services with
  | nil | cons => simp

theorem count_deviceProfiles (h : t.services.isEmpty = false) :
    (tableNames t).count (.chain "device_profiles") = 1 := by
  have hcounters : (t.ruleCounters.map counter).count (.chain "device_profiles") = 0 :=
    count_map_ne (by simp) _
  have hset : (t.services.map fun service => set ("svc_" ++ service)).count (.chain "device_profiles") = 0 :=
    count_map_ne (by simp) _
  simp only [tableNames, List.count_append, hcounters, apply_ite (List.count _), hset,
    List.count_cons, List.count_nil, h]
  simp
end Counts

def diverge : List Char → List Char → Bool
  | c :: cs, d :: ds => c != d || diverge cs ds
  | _, _ => false

theorem append_ne_append (h : diverge cs ds = true) (rest rest' : List Char) :
    cs ++ rest ≠ ds ++ rest' := by
  induction cs, ds using diverge.induct with
  | case1 c cs d ds ih =>
    intro heq
    obtain ⟨hc, hrest⟩ := List.cons.inj heq
    rw [diverge, hc, bne_self_eq_false, Bool.false_or] at h
    exact ih h hrest
  | case2 cs ds hne =>
    rw [diverge] at h
    · cases h
    · exact hne

theorem literal_append_ne (heq : String.ofList cs ++ s = String.ofList ds ++ s')
    (h : diverge cs ds = true) : False := by
  rw [← String.toList_inj, String.toList_append, String.toList_append, String.toList_ofList,
    String.toList_ofList] at heq
  exact append_ne_append h _ _ heq

theorem literal_ne (heq : String.ofList cs ++ s = String.ofList ds) (h : diverge cs ds = true) :
    False :=
  literal_append_ne (heq.trans String.append_empty.symm) h

section Tables

variable (tools : Tools)

theorem nodup_eraseDups (as : List String) : as.eraseDups.Nodup := by
  -- the rest of the list loses the first element, so the induction is on its length
  induction hn : as.length using Nat.strongRecOn generalizing as with
  | ind n ih =>
    cases as with
    | nil => exact List.nodup_nil
    | cons a as =>
      rw [List.eraseDups_cons]
      have hshort : (as.filter fun b => !b == a).length < n := by
        rw [← hn, List.length_cons]
        exact Nat.lt_succ_of_le (List.length_filter_le _ _)
      refine List.nodup_cons.mpr ⟨?_, ih _ hshort _ rfl⟩
      rw [List.mem_eraseDups]
      simp

theorem nodup_activeManagedServices (u : Unicode) : (activeManagedServices u cfg).Nodup := by
  unfold activeManagedServices
  exact (List.mergeSort_perm _ _).nodup_iff.mpr (nodup_eraseDups _)

theorem ruleCounter_ne (h : name ∈ ruleCounters tools.digest cfg) (revision : Nat) :
    name ∉ ["mr_revision_" ++ toString revision, "mr_seen", "mr_accepted"] := by
  unfold ruleCounters at h
  rw [List.mem_eraseDups] at h
  obtain ⟨r, -, rfl⟩ := List.mem_map.mp h
  unfold firewallRuleCounter
  simp only [List.mem_cons, List.not_mem_nil, or_false, not_or]
  exact ⟨fun heq => literal_append_ne heq rfl, fun heq => literal_ne heq rfl,
    fun heq => literal_ne heq rfl⟩

theorem declares_count : Declares (fun n => (tableNames (tableOf tools cfg)).count n = 1) tools.unicode
    tools.digest cfg where
  counter name hname := by
    have hone : (ruleCounters tools.digest cfg).count name = 1 :=
      List.count_eq_one_of_mem (nodup_eraseDups _) hname
    rw [count_counter, List.count_eq_zero.mpr (ruleCounter_ne tools hname _)]
    exact hone
  accounting hon := by
    have hon : (tableOf tools cfg).accounting = true := hon
    have hother {cs : List Char} (h : diverge "svc_".toList cs = true) :
        ((tableOf tools cfg).services.map ("svc_" ++ ·)).count (String.ofList cs) = 0 := by
      refine List.count_eq_zero.mpr fun hmem => ?_
      obtain ⟨service, -, heq⟩ := List.mem_map.mp hmem
      exact literal_ne heq h
    constructor
    · rw [count_set, hother rfl, if_pos hon]
      decide
    · rw [count_set, hother rfl, if_pos hon]
      decide
  profiles hsome := count_deviceProfiles _ hsome
  service service hs := by
    have hsets : ((activeManagedServices tools.unicode cfg).map ("svc_" ++ ·)).count
        ("svc_" ++ service) = 1 := by
      rw [List.count_map_of_injective _ _ fun s s' h => (String.append_right_inj _).mp h]
      exact List.count_eq_one_of_mem (nodup_activeManagedServices _) hs
    have hacct : "svc_" ++ service ∉ ["acct_rx", "acct_tx"] := by
      simp only [List.mem_cons, List.not_mem_nil, or_false, not_or]
      exact ⟨fun heq => literal_ne heq rfl, fun heq => literal_ne heq rfl⟩
    rw [count_set, List.count_eq_zero.mpr hacct, ite_self]
    exact hsets

theorem names_of_guards (h : Guards P items) : ∀ n ∈ items.flatMap itemNames, P n := by
  refine List.forall_mem_flatMap.mpr fun item hitem => ?_
  cases item with
  | rule => exact (h _ hitem).2
  | comment | blank => exact List.forall_mem_nil _

theorem count_of_usedNames (hplain : PlainTexts cfg) :
    ∀ n ∈ usedNames (tableOf tools cfg), (tableNames (tableOf tools cfg)).count n = 1 := by
  have hP : Declares _ tools.unicode tools.digest cfg := declares_count tools
  have hnone {x : String} (hx : x ∈ ["mr_revision_" ++ toString (tableOf tools cfg).revision,
      "mr_seen", "mr_accepted"]) : (tableOf tools cfg).ruleCounters.count x = 0 :=
    List.count_eq_zero.mpr fun hmem => ruleCounter_ne tools hmem _ hx
  have hseen : "mr_revision_" ++ toString (tableOf tools cfg).revision ≠ "mr_seen" :=
    fun heq => literal_ne heq rfl
  have haccepted : "mr_revision_" ++ toString (tableOf tools cfg).revision ≠ "mr_accepted" :=
    fun heq => literal_ne heq rfl
  obtain ⟨hdevices, hinput, hforward, houtput, hforwards, hpost⟩ := guards_tableOf hplain hP
  have hitems : Every (fun n => (tableNames (tableOf tools cfg)).count n = 1)
      (((tableOf tools cfg).deviceProfiles ++ (tableOf tools cfg).input ++ (tableOf tools cfg).forward ++
        (tableOf tools cfg).output ++ (tableOf tools cfg).prerouting ++
        (tableOf tools cfg).postrouting).flatMap itemNames) :=
    names_of_guards (by simp only [every_append, hdevices, hinput, hforward, houtput, hforwards, hpost,
      and_self])
  refine every_append.mpr ⟨hitems, every_cons.mpr ⟨?_, every_cons.mpr ⟨?_, every_nil⟩⟩⟩
  · rw [count_counter, hnone (by simp), List.count_cons_of_ne hseen]
    decide
  · rw [count_counter, hnone (by simp), List.count_cons_of_ne haccepted]
    decide

end Tables

section Dnsmasq

variable {lines : List String}

def nftsetName : List Char → Option String
  | 'n' :: 'f' :: 't' :: 's' :: 'e' :: 't' :: '=' :: rest =>
    some (String.ofList (rest.rtakeWhile (· != '#')))
  | _ => none

theorem nftsetName_of_diverge (h : diverge cs ['n', 'f', 't', 's', 'e', 't', '='] = true)
    (rest : List Char) : nftsetName (cs ++ rest) = none := by
  generalize hline : cs ++ rest = line
  unfold nftsetName
  split
  next rest' => exact (append_ne_append h rest rest' hline).elim
  next => rfl

/-- A template of one line that fills no other sets than those of the services. -/
structure Fills (services : List String) (line : Template) : Prop where
  skeleton : '\n' ∉ line.skeleton
  name : ∀ name, nftsetName line.chars = some name → ∃ service ∈ services, name = "svc_" ++ service

/-- What a line starts with that fills no set, whatever follows. -/
def Apart (s : String) : Prop := '\n' ∉ s.toList ∧ ∀ rest, nftsetName (s.toList ++ rest) = none

theorem apart_literal (h : (!cs.contains '\n' && diverge cs ['n', 'f', 't', 's', 'e', 't', '=']) = true) :
    Apart (String.ofList cs) := by
  rw [Bool.and_eq_true, Bool.not_eq_true'] at h
  rw [Apart, String.toList_ofList]
  exact ⟨fun hmem => Bool.eq_false_iff.mp h.1 (List.contains_iff_mem.mpr hmem),
    nftsetName_of_diverge h.2⟩

theorem fills_own {line : Template} (h : Apart s) :
    Fills services (.own s :: line) ↔ '\n' ∉ line.skeleton := by
  have hskeleton : '\n' ∉ skeleton (.own s :: line) ↔ '\n' ∉ line.skeleton := by
    rw [skeleton_own, List.mem_append, not_or, and_iff_right h.1]
  refine ⟨fun hfills => hskeleton.mp hfills.skeleton, fun hline => ⟨hskeleton.mpr hline, ?_⟩⟩
  intro name hname
  rw [chars_own, h.2] at hname
  cases hname

@[simp] theorem fills_blank : Fills services [.own ""] := ⟨List.not_mem_nil, fun _ hname => nomatch hname⟩

@[simp] theorem every_ownLines {P : Template → Prop} :
    Every P (ownLines lines) ↔ Every (fun line => P [.own line]) lines := List.forall_mem_map

theorem fills_listenTemplates : Every (Fills services) (listenTemplates cfg) := by
  unfold listenTemplates
  dsimp only
  split <;> simp (disch := exact apart_literal rfl) [fills_own, join, List.intercalate]

theorem fills_dhcpTemplates : Every (Fills services) (dhcpTemplates cfg) := by
  have hlease : ∀ lease, Fills services (leaseTemplate lease) := by
    intro lease
    unfold leaseTemplate
    dsimp only
    split <;> simp (disch := exact apart_literal rfl) [fills_own]
  simp (disch := exact apart_literal rfl) [dhcpTemplates, fills_own, hlease]

theorem rtakeWhile_append (h : a ∉ as) (before : List Char) :
    (before ++ a :: as).rtakeWhile (· != a) = as := by
  have hall : ∀ b ∈ as.reverse, (b != a) = true := fun b hb =>
    bne_iff_ne.mpr fun heq => h (heq ▸ List.mem_reverse.mp hb)
  rw [List.rtakeWhile, List.reverse_append, List.reverse_cons, List.append_assoc,
    List.takeWhile_append_of_pos hall]
  simp

theorem not_mem_of_plain (h : Plain s) (hc : plainChar c = false) : c ∉ s.toList := fun hmem => by
  have hplain := h c hmem
  rw [hc] at hplain
  cases hplain

theorem plain_domains (h : serviceDomains service = some domains) :
    ∀ domain ∈ domains, Plain domain := by
  obtain ⟨before, after, heq, -⟩ := List.lookup_eq_some_iff.mp h
  have hmem : (service, domains) ∈ before ++ (service, domains) :: after := by simp
  rw [← heq] at hmem
  simp only [List.mem_cons, Prod.mk.injEq, List.not_mem_nil, or_false] at hmem
  rcases hmem with ⟨-, rfl⟩ | ⟨-, rfl⟩ | ⟨-, rfl⟩ | ⟨-, rfl⟩ | ⟨-, rfl⟩ | ⟨-, rfl⟩ | ⟨-, rfl⟩ |
    ⟨-, rfl⟩ | ⟨-, rfl⟩ | ⟨-, rfl⟩ | ⟨-, rfl⟩ <;> simp only [List.forall_mem_cons] <;>
    repeat' first
      | exact List.forall_mem_nil _
      | refine ⟨plain_literal rfl, ?_⟩

theorem fills_nftset (hservice : service ∈ services)
    (hmanaged : (serviceDomains service).isSome = true) :
    Fills services [.own ("nftset=/" ++ "/".intercalate ((serviceDomains service).getD []) ++
      "/4#inet#minimalrouter#svc_"), .given service] where
  skeleton := by
    obtain ⟨_, hdomains⟩ := Option.isSome_iff_exists.mp hmanaged
    rw [skeleton_own, skeleton_given, skeleton_nil, List.append_nil, String.toList_append,
      String.toList_append, List.mem_append, List.mem_append, hdomains, Option.getD_some]
    rintro ((hmem | hmem) | hmem)
    · exact absurd hmem (by decide)
    · rw [String.toList_intercalate] at hmem
      obtain hmem | ⟨_, hpart, hmem⟩ := Segments.mem_of_mem_intercalate hmem
      · exact absurd hmem (by decide)
      · obtain ⟨domain, hdomain, rfl⟩ := List.mem_map.mp hpart
        exact not_mem_of_plain (plain_domains hdomains domain hdomain) rfl hmem
    · exact absurd hmem (by decide)
  name name hname := by
    have hline : chars [.own ("nftset=/" ++ "/".intercalate ((serviceDomains service).getD []) ++
        "/4#inet#minimalrouter#svc_"), .given service] = "nftset=".toList ++
        ("/".toList ++ ("/".intercalate ((serviceDomains service).getD [])).toList ++
          "/4#inet#minimalrouter".toList) ++ '#' :: ("svc_" ++ service).toList := by
      simp
    have hclean : '#' ∉ ("svc_" ++ service).toList := by
      rw [String.toList_append, List.mem_append, not_or]
      exact ⟨by decide, not_mem_of_plain (plain_of_serviceDomains hmanaged) rfl⟩
    rw [hline] at hname
    change some (String.ofList (List.rtakeWhile _ (_ ++ '#' :: _))) = _ at hname
    rw [rtakeWhile_append hclean, String.ofList_toList] at hname
    exact ⟨service, hservice, (Option.some.inj hname).symm⟩

theorem fills_nftsetTemplates (u : Unicode) :
    Every (Fills (activeManagedServices u cfg)) (nftsetTemplates u cfg) := by
  unfold nftsetTemplates
  dsimp only
  split
  · exact every_nil
  refine every_append.mpr ⟨by simp (disch := exact apart_literal rfl) [fills_own],
    every_flatMap.mpr fun service hservice => ?_⟩
  split
  · exact every_nil
  next hdomains =>
  refine every_cons.mpr ⟨fills_nftset hservice ?_, every_nil⟩
  cases hfound : serviceDomains service with
  | none => exact absurd (by rw [hfound]; rfl) hdomains
  | some => rfl

theorem fills_dnsmasqTemplates (u : Unicode) :
    Every (Fills (activeManagedServices u cfg)) (dnsmasqTemplates u cfg) := by
  unfold dnsmasqTemplates
  simp (disch := exact apart_literal rfl) [fills_own, fills_listenTemplates, fills_dhcpTemplates,
    fills_nftsetTemplates]

theorem splitOn_dnsmasq (h : Accepted env c) (u : Unicode) :
    (Template.lines (dnsmasqTemplates u (runtime c))).text.toList.splitOn '\n' =
      (dnsmasqTemplates u (runtime c)).map Template.chars ++ [[]] := by
  have hconfined := confined_dnsmasqTemplates (plainTexts_runtime h.plainTexts) u
  have hclean : ∀ part ∈ (dnsmasqTemplates u (runtime c)).map Template.chars, '\n' ∉ part := by
    refine List.forall_mem_map.mpr fun line hline hmem => ?_
    have hothers : '\n' ∈ line.chars.filter fun c => !durationChar c :=
      List.mem_filter.mpr ⟨hmem, rfl⟩
    rw [(hconfined line hline).others] at hothers
    exact (fills_dnsmasqTemplates u line hline).skeleton (List.mem_filter.mp hothers).1
  rw [toList_text, chars_lines, ← Segments.splitOn_terminated_of_not_mem hclean, Segments.terminated,
    List.flatMap_map]

end Dnsmasq

/-- What a rule of the table or a line of the resolver refers to is declared in the table. -/
theorem references_declared {previous : Option SystemConfig}
    (h : validateLiveCandidate (releaseRules env) c previous = .ok ()) (tools : Tools) :
    ∃ table text, generateNftables tools c = .ok table ∧ generateDnsmasq tools.unicode c = .ok text ∧
      (∀ name ∈ usedNames table, (declaredNames table.lines).count name = 1) ∧
      ∀ line ∈ text.toList.splitOn '\n', ∀ name, nftsetName line = some name →
        .set name ∈ declaredNames table.lines := by
  have haccepted := accepted_of_live h
  have hservices : ∀ service ∈ (tableOf tools (runtime c)).services, ' ' ∉ service.toList :=
    fun service hservice => not_mem_of_plain (plain_activeManagedServices service hservice) rfl
  refine ⟨_, (Template.lines (dnsmasqTemplates tools.unicode (runtime c))).text,
    nftables_of_accepted haccepted, ?_, ?_, ?_⟩
  · rw [text_dnsmasqTemplates, renderLines_text]
  · intro name hname
    rw [declaredNames_lines hservices]
    exact count_of_usedNames tools (plainTexts_runtime haccepted.plainTexts) name hname
  rw [splitOn_dnsmasq haccepted, declaredNames_lines hservices]
  refine List.forall_mem_append.mpr ⟨List.forall_mem_map.mpr fun line hline name hname => ?_,
    List.forall_mem_singleton.mpr fun _ hname => nomatch hname⟩
  obtain ⟨service, hservice, rfl⟩ := (fills_dnsmasqTemplates _ line hline).name name hname
  have hmem : "svc_" ++ service ∈ (tableOf tools (runtime c)).services.map ("svc_" ++ ·) :=
    List.mem_map_of_mem hservice
  refine List.count_pos_iff.mp ?_
  rw [count_set]
  exact Nat.add_pos_left (List.count_pos_iff.mpr hmem) _

theorem references_declared_profileConfig :
    ∃ table text, generateNftables sampleTools profileConfig = .ok table ∧
      generateDnsmasq sampleTools.unicode profileConfig = .ok text ∧
      [.set "svc_youtube", .chain "device_profiles",
        .counter (firewallRuleCounter sampleTools.digest blockRule)] ⊆ usedNames table ∧
      (∀ name ∈ usedNames table, (declaredNames table.lines).count name = 1) ∧
      ∀ line ∈ text.toList.splitOn '\n', ∀ name, nftsetName line = some name →
        .set name ∈ declaredNames table.lines := by
  obtain ⟨table, text, htable, htext, hrest⟩ := references_declared live_profileConfig sampleTools
  obtain rfl : tableOf sampleTools (runtime profileConfig) = table :=
    Except.ok.inj ((nftables_of_accepted (accepted_of_live live_profileConfig)).symm.trans htable)
  refine ⟨_, text, htable, htext, ?_, hrest⟩
  have hservice : "youtube" ∈ activeManagedServices sampleTools.unicode (runtime profileConfig) :=
    mem_activeManagedServices rfl (List.mem_cons_self : sampleProfile ∈ [sampleProfile]) rfl
      List.mem_cons_self rfl
  have hset : .set "svc_youtube" ∈
      (tableOf sampleTools (runtime profileConfig)).deviceProfiles.flatMap itemNames := by
    change _ ∈ (deviceProfilesChain _ _).flatMap itemNames
    rw [deviceProfilesChain_of_service hservice]
    decide +kernel
  have hforward : [.chain "device_profiles", .counter (firewallRuleCounter sampleTools.digest blockRule)] ⊆
      (tableOf sampleTools (runtime profileConfig)).forward.flatMap itemNames := by
    change _ ⊆ (forwardChain _ _ _).flatMap itemNames
    unfold forwardChain
    rw [if_neg (c := (activeManagedServices _ _).isEmpty = true) (by simp [List.ne_nil_of_mem hservice])]
    decide +kernel
  unfold usedNames
  simp only [List.flatMap_append, List.append_assoc]
  exact List.cons_subset.mpr ⟨List.mem_append_left _ hset, fun name hname => List.mem_append_right _
    (List.mem_append_right _ (List.mem_append_left _ (hforward hname)))⟩

end MinimalRouter.Services
