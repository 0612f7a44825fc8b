import MinimalRouter.Goish.Net

namespace MinimalRouter.Goish

theorem rsplitOnce_eq_some_iff :
    rsplitOnce sep cs = some (before, after) ↔ cs = before ++ sep :: after ∧ sep ∉ after := by
  unfold rsplitOnce
  constructor
  · intro h
    obtain ⟨_, hsplit, heq⟩ := Option.map_eq_some_iff.mp h
    cases heq
    obtain ⟨hcs, hsep⟩ := splitOnce_eq_some hsplit
    exact ⟨by simpa using congrArg List.reverse hcs, by simpa using hsep⟩
  · rintro ⟨rfl, hsep⟩
    simp [splitOnce_append (show sep ∉ after.reverse by simpa using hsep)]

/-- A part of a text between two offsets, `none` where the slice is out of bounds. The offsets here
are those of ASCII characters, so that counting characters and bytes finds the same ones. -/
def sliced (cs : List Char) (i j : Nat) : Option (List Char) :=
  if i ≤ j ∧ j ≤ cs.length then some ((cs.take j).drop i) else none

/-- The steps of the splitting, with the texts of its errors. The outer `none` is a panic. -/
def scanHostPort (hostport : String) : Option (Except String (String × String)) :=
  let cs := hostport.toList
  let addrErr (why : String) := some (.error ("address " ++ hostport ++ ": " ++ why))
  let finish (host : List Char) (i j k : Nat) : Option (Except String (String × String)) := do
    if (← sliced cs j cs.length).contains '[' then addrErr "unexpected '[' in address"
    else if (← sliced cs k cs.length).contains ']' then addrErr "unexpected ']' in address"
    else return .ok (String.ofList host, String.ofList (← sliced cs (i + 1) cs.length))
  match (rsplitOnce ':' cs).map (·.1.length) with
  | none => addrErr "missing port in address"
  | some i => do
    if (← cs[0]?) = '[' then
      match (splitOnce ']' cs).map (·.1.length) with
      | none => addrErr "missing ']' in address"
      | some close =>
        if close + 1 = cs.length then addrErr "missing port in address"
        else if close + 1 ≠ i then
          if (← cs[close + 1]?) = ':' then addrErr "too many colons in address"
          else addrErr "missing port in address"
        else finish (← sliced cs 1 close) i 1 (close + 1)
    else
      let host ← sliced cs 0 i
      if host.contains ':' then addrErr "too many colons in address" else finish host i 0 0

def joinHostPort (host port : String) : String :=
  if host.toList.contains ':' then "[" ++ host ++ "]:" ++ port else host ++ ":" ++ port

theorem sliced_append (before middle after : List Char) (h : cs = before ++ (middle ++ after)) :
    sliced cs before.length (before.length + middle.length) = some middle := by
  subst h
  simp [sliced, ← List.append_assoc]

theorem sliced_end (before : List Char) (h : cs = before ++ after) :
    sliced cs before.length cs.length = some after := by
  have hlength : cs.length = before.length + after.length := by simp [h]
  rw [hlength]
  exact sliced_append before after [] (by simpa using h)

/-- The steps of a check come to an end without a panic, with the outcome of its model. -/
def Agrees (x : Option (Except String α)) (y : Option α) : Prop :=
  ∃ r, x = some r ∧ r.toOption = y

theorem Agrees.error : Agrees (some (.error e)) (none : Option α) := ⟨_, rfl, rfl⟩

theorem Agrees.ok : Agrees (some (.ok x)) (some x) := ⟨_, rfl, rfl⟩

theorem Agrees.unless [Decidable c] (h : Agrees x y) :
    Agrees (if c then some (.error e) else x) (if c then none else y) := by
  split
  · exact .error
  · exact h

/-- No step of the splitting is out of bounds. -/
theorem agrees_scanHostPort (s : String) : Agrees (scanHostPort s) (splitHostPort s) := by
  unfold scanHostPort splitHostPort
  dsimp only
  generalize s.toList = cs
  cases hlast : rsplitOnce ':' cs with
  | none => exact .error
  | some parts =>
  obtain ⟨before, port⟩ := parts
  obtain ⟨hcs, -⟩ := rsplitOnce_eq_some_iff.mp hlast
  have hport : sliced cs (before.length + 1) cs.length = some port := by
    simpa using sliced_end (before ++ [':']) (by simpa using hcs)
  have hhost : sliced cs 0 before.length = some before := by
    simpa using sliced_append [] before _ hcs
  obtain ⟨c, rest, hhead⟩ : ∃ c rest, cs = c :: rest :=
    List.exists_cons_of_ne_nil (by simp [hcs])
  have hfirst : cs[0]? = some c ∧ cs.head? = some c := by simp [hhead]
  have hall : sliced cs 0 cs.length = some cs := sliced_end [] rfl
  have htail : sliced cs 1 cs.length = some cs.tail := sliced_end [c] (by simp [hhead])
  simp only [Option.map_some, hfirst, Option.bind_eq_bind, Option.bind_some, hport, hall, htail,
    Bool.or_eq_true, ite_or, beq_iff_eq, Option.some.injEq, hhost]
  split
  next hopen =>
    cases hclose : splitOnce ']' cs with
    | none => exact .error
    | some parts =>
    obtain ⟨bracketed, after⟩ := parts
    obtain ⟨hbracket, -⟩ := splitOnce_eq_some hclose
    obtain ⟨host, rfl⟩ : ∃ host, bracketed = '[' :: host := by
      cases bracketed with
      | nil => simp [hhead, hopen] at hbracket
      | cons d host => exact ⟨host, by rw [← hopen, (List.cons.inj (hhead.symm.trans hbracket)).1]⟩
    have hrest : cs = ('[' :: host ++ [']']) ++ after := by simpa using hbracket
    have hhost : sliced cs 1 ('[' :: host).length = some host := by
      simpa [Nat.add_comm] using sliced_append ['['] host _ hbracket
    have hafter : sliced cs (('[' :: host).length + 1) cs.length = some after := by
      simpa using sliced_end _ hrest
    simp only [Option.map_some, hhost, hafter, Option.bind_some]
    cases after with
    | nil =>
      rw [if_pos (by simp [hrest])]
      exact .error
    | cons d more =>
    have hnext : cs[('[' :: host).length + 1]? = some d := by simp [hbracket]
    rw [if_neg (by simp [hrest]), hnext]
    by_cases hi : ('[' :: host).length + 1 = before.length
    · obtain ⟨-, heq⟩ := List.append_inj (hrest.symm.trans hcs) (by simpa using hi)
      rw [if_neg (not_not_intro hi), heq]
      simp only [bne_self_eq_false, Bool.false_eq_true, if_false]
      exact Agrees.ok.unless.unless
    have hne : d :: more ≠ ':' :: port := by
      intro h
      have hlength := congrArg List.length (hrest.symm.trans hcs)
      simp [h] at hlength hi
      omega
    rw [if_pos hi, if_pos (bne_iff_ne.mpr hne)]
    simp only [Option.bind_some]
    split
    · exact .error
    · exact .error
  next => exact Agrees.ok.unless.unless.unless

def Unbracketed (s : String) : Prop := '[' ∉ s.toList ∧ ']' ∉ s.toList

def Bare (s : String) : Prop := ':' ∉ s.toList ∧ Unbracketed s

theorem splitHostPort_bare (hhost : Bare host) (hport : Bare port) :
    splitHostPort (host ++ ":" ++ port) = some (host, port) := by
  obtain ⟨hcolon, hopen, hclose⟩ := hhost
  have hcs : (host ++ ":" ++ port).toList = host.toList ++ ':' :: port.toList := by simp
  have hfirst : (host.toList ++ ':' :: port.toList).head? ≠ some '[' := by
    cases hh : host.toList with
    | nil => simp
    | cons c =>
      rw [hh] at hopen
      simpa using fun h : c = '[' => hopen (by simp [h])
  unfold splitHostPort
  dsimp only
  rw [hcs, rsplitOnce_eq_some_iff.mpr ⟨rfl, hport.1⟩]
  dsimp only
  rw [if_neg (by rw [beq_iff_eq]; exact hfirst)]
  simp [hcolon, hopen, hclose, hport.2.1, hport.2.2]

theorem splitHostPort_bracketed (hhost : Unbracketed host) (hport : Bare port) :
    splitHostPort ("[" ++ host ++ "]:" ++ port) = some (host, port) := by
  have hcs : ("[" ++ host ++ "]:" ++ port).toList =
      ('[' :: host.toList) ++ ']' :: ':' :: port.toList := by simp
  have hlast : ('[' :: host.toList) ++ ']' :: ':' :: port.toList =
      ('[' :: host.toList ++ [']']) ++ ':' :: port.toList := by simp
  unfold splitHostPort
  dsimp only
  rw [hcs, rsplitOnce_eq_some_iff.mpr ⟨hlast, hport.1⟩,
    splitOnce_append (show ']' ∉ '[' :: host.toList by simp [hhost.2])]
  simp [hhost.1, hport.2.1, hport.2.2]

theorem splitHostPort_eq_some_iff : splitHostPort s = some (host, port) ↔
    (s = host ++ ":" ++ port ∧ Bare host ∧ Bare port) ∨
      (s = "[" ++ host ++ "]:" ++ port ∧ Unbracketed host ∧ Bare port) := by
  constructor
  · intro h
    unfold splitHostPort at h
    dsimp only at h
    split at h
    next => cases h
    next before port' hlast =>
    obtain ⟨hcs, _⟩ := rsplitOnce_eq_some_iff.mp hlast
    split at h
    next hfirst =>
      split at h
      next => cases h
      next bracketed after hclose =>
      obtain ⟨hbracket, _⟩ := splitOnce_eq_some hclose
      split at h
      next => cases h
      next hchecks =>
      simp only [Bool.or_eq_true, not_or, bne_iff_ne, not_not, List.contains_iff_mem] at hchecks
      obtain ⟨⟨rfl, hopen⟩, _⟩ := hchecks
      cases h
      obtain ⟨host, rfl⟩ : ∃ host, bracketed = '[' :: host := by
        cases bracketed with
        | nil => simp [hbracket] at hfirst
        | cons c host => exact ⟨host, by simpa [hbracket] using hfirst⟩
      have htail : s.toList.tail = host ++ ']' :: ':' :: port' := by rw [hbracket]; rfl
      rw [htail] at hopen
      refine .inr ⟨String.toList_inj.mp (by simp [hbracket]), ?_, ?_⟩
      · simp_all [Unbracketed]
      · simp_all [Bare, Unbracketed]
    next hfirst =>
    split at h
    next => cases h
    next hchecks =>
    cases h
    simp only [hcs, Bool.or_eq_true, not_or, List.contains_iff_mem] at hchecks
    refine .inl ⟨String.toList_inj.mp (by simp [hcs]), ?_, ?_⟩
    · simp_all [Bare, Unbracketed]
    · simp_all [Bare, Unbracketed]
  rintro (⟨rfl, hhost, hport⟩ | ⟨rfl, hhost, hport⟩)
  · exact splitHostPort_bare hhost hport
  · exact splitHostPort_bracketed hhost hport

/-- What is split is exactly a host and a port around a colon, or a host in brackets, without a step
out of bounds; and what is joined is split again. -/
theorem host_port_exact : (∀ s, ∃ r, scanHostPort s = some r) ∧
    (∀ s host port, scanHostPort s = some (.ok (host, port)) ↔
      (s = host ++ ":" ++ port ∧ Bare host ∧ Bare port) ∨
        (s = "[" ++ host ++ "]:" ++ port ∧ Unbracketed host ∧ Bare port)) ∧
    ∀ host port, Unbracketed host → Bare port →
      scanHostPort (joinHostPort host port) = some (.ok (host, port)) := by
  have hscan (s : String) (host port : String) :
      scanHostPort s = some (.ok (host, port)) ↔ splitHostPort s = some (host, port) := by
    obtain ⟨r, hr, hspec⟩ := agrees_scanHostPort s
    rw [hr, ← hspec]
    cases r with
    | error | ok => simp [Except.toOption]
  refine ⟨fun s => ?_, fun s host port => ?_, fun host port hhost hport => ?_⟩
  · obtain ⟨r, hr, -⟩ := agrees_scanHostPort s
    exact ⟨r, hr⟩
  · rw [hscan, splitHostPort_eq_some_iff]
  rw [hscan]
  unfold joinHostPort
  split
  next => exact splitHostPort_bracketed hhost hport
  next hcolon => exact splitHostPort_bare ⟨by simpa using hcolon, hhost⟩ hport

end MinimalRouter.Goish
