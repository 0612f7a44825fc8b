import MinimalRouter.Httpd.Connection
import Mathlib.Data.List.TakeDrop
import Mathlib.Data.List.TakeWhile

namespace MinimalRouter.Httpd

open Goish Lib Lib.Utf8

def line (limit : Nat) (stream : Bytes) : Option (Bytes × Bytes) :=
  match stream.span (· != 0x0A) with
  | (text, _ :: rest) => if text.length ≤ limit + 1 then some (chomp text, rest) else none
  | (_, []) => none

inductive Trailer : Bytes → Bytes → Prop
  | last (h : line 4096 stream = some ([], rest)) : Trailer stream rest
  | more {stream text rest rest' : Bytes} (h : line 4096 stream = some (text, rest))
      (htext : text ≠ []) (hrest : Trailer rest rest') : Trailer stream rest'

inductive ChunkedBody : Bytes → Bytes → Prop
  | last {stream size rest rest' : Bytes} (hline : line 4096 stream = some (size, rest))
      (hsize : chunkSize size = some 0) (htrailer : Trailer rest rest') : ChunkedBody stream rest'
  | chunk {stream size data rest rest' rest'' : Bytes} {n : Nat}
      (hline : line 4096 stream = some (size, data ++ rest)) (hsize : chunkSize size = some (n + 1))
      (hdata : data.length = n + 1) (hend : line 0 rest = some ([], rest'))
      (hrest : ChunkedBody rest' rest'') : ChunkedBody stream rest''

def MessageBody (request : Request) (stream rest : Bytes) : Prop :=
  if request.contentLength < 0 then ChunkedBody stream rest
  else ∃ data, stream = data ++ rest ∧ data.length = request.contentLength.toNat

def ChunkState.Ends (state : ChunkState) (stream rest : Bytes) : Prop :=
  if state.done then stream = rest
  else ∃ data after, stream = data ++ after ∧ data.length = state.remaining ∧
    if state.needCrlf then ∃ next, line 0 after = some ([], next) ∧ ChunkedBody next rest
    else ChunkedBody after rest

def Body.Ends (body : Body) (stream rest : Bytes) : Prop :=
  match body.chunked with
  | some state => state.Ends stream rest
  | none => ∃ data, stream = data ++ rest ∧ data.length = body.remaining

def BodyError.breaks : BodyError → Bool
  | torn => true
  | lineTooLong => true
  | malformedChunk => true
  | invalidChunkLength => true
  | _ => false

/-- The stream itself is to blame, not the connection or the limit of the handler. -/
def BodyError.framing (e : BodyError) : Bool := e.breaks || e == .unexpectedEof

/-- How a read of lines stops: out of place, at the end of the stream, or before its first byte. -/
inductive Stops (stream : Bytes) : BodyError → Bytes → Prop
  | lost {e : BodyError} (h : e.breaks = true) : Stops stream e rest
  | ended (h : rest = []) : Stops stream .unexpectedEof rest
  | failed (h : rest = stream) : Stops stream .failed rest

section Lines

variable {limit : Nat} {acc rest : Bytes}

theorem line_eq_some : line limit stream = some (text, rest) ↔
    ∃ raw, stream = raw ++ 0x0A :: rest ∧ (∀ b ∈ raw, b ≠ 0x0A) ∧ raw.length ≤ limit + 1 ∧
      chomp raw = text := by
  rw [line, List.span_eq_takeWhile_dropWhile]
  constructor
  · intro h
    split at h
    · next raw b after hspan =>
      obtain ⟨htake, hdrop⟩ := Prod.mk.inj hspan
      have hnl : ∀ c ∈ raw, c ≠ 0x0A := fun c hc =>
        bne_iff_ne.mp (List.mem_takeWhile_imp (p := (· != 0x0A)) (htake ▸ hc))
      have hb : b = 0x0A := by
        have hhead := List.head?_dropWhile_not (· != 0x0A) stream
        simpa [hdrop] using hhead
      subst hb
      have hstream : stream = raw ++ 0x0A :: after := by
        rw [← htake, ← hdrop, List.takeWhile_append_dropWhile]
      split at h
      · next hlength =>
        obtain ⟨htext, hrest⟩ := Prod.mk.inj (Option.some.inj h)
        exact ⟨raw, hrest ▸ hstream, hnl, hlength, htext⟩
      · cases h
    · cases h
  rintro ⟨raw, rfl, hnl, hlength, rfl⟩
  rw [List.takeWhile_append_of_pos (by simpa using hnl),
    List.dropWhile_append_of_pos (by simpa using hnl)]
  simp [hlength]

theorem line_of_split (hnl : ∀ b ∈ acc, b ≠ 0x0A) (hlength : acc.length ≤ limit + 1) :
    line limit (acc ++ 0x0A :: rest) = some (chomp acc, rest) :=
  line_eq_some.mpr ⟨acc, rfl, hnl, hlength, rfl⟩

theorem length_le_of_line (h : line limit (acc ++ stream) = some (text, rest))
    (hnl : ∀ b ∈ acc, b ≠ 0x0A) : acc.length ≤ limit + 1 := by
  obtain ⟨_, hraw, -, hlength, -⟩ := line_eq_some.mp h
  rcases List.append_eq_append_iff.mp hraw with ⟨more, rfl, -⟩ | ⟨more, rfl, hmore⟩
  · rw [List.length_append] at hlength
    omega
  cases more with
  | nil => simpa using hlength
  | cons =>
    obtain ⟨rfl, -⟩ := List.cons.inj hmore
    exact absurd rfl (hnl 0x0A (by simp))

theorem readLine_ok (h : readLine limit fault acc stream = (.ok text, feed))
    (hnl : ∀ b ∈ acc, b ≠ 0x0A) (hlength : acc.length ≤ limit + 1) :
    line limit (acc ++ stream) = some (text, feed.stream) := by
  induction stream generalizing fault acc with
  | nil =>
    simp only [readLine] at h
    split at h <;> cases h
  | cons b rest ih =>
  simp only [readLine] at h
  split at h
  · cases h
  split at h
  · next hb =>
    cases h
    subst hb
    exact line_of_split hnl hlength
  · next hb =>
    split at h
    · cases h
    · next hlong =>
      have hnl' : ∀ c ∈ acc ++ [b], c ≠ 0x0A := by simpa [or_imp, forall_and] using ⟨hnl, hb⟩
      have hacc := ih h hnl' (by simp; omega)
      simpa using hacc

theorem readLine_error (h : readLine limit fault acc stream = (.error e, feed)) :
    Stops stream e feed.stream ∧ (acc ≠ [] → e ≠ .failed) := by
  induction stream generalizing fault acc with
  | nil =>
    simp only [readLine] at h
    split at h
    · cases h
      cases acc with
      | nil => exact ⟨.failed rfl, nofun⟩
      | cons => exact ⟨.lost rfl, fun _ => nofun⟩
    · cases h
      exact ⟨.ended rfl, fun _ => nofun⟩
  | cons b rest ih =>
  simp only [readLine] at h
  split at h
  · cases h
    cases acc with
    | nil => exact ⟨.failed rfl, nofun⟩
    | cons => exact ⟨.lost rfl, fun _ => nofun⟩
  split at h
  · cases h
  split at h
  · cases h
    exact ⟨.lost rfl, fun _ => nofun⟩
  obtain ⟨hstops, hfailed⟩ := ih h
  have hne := hfailed (by simp)
  refine ⟨?_, fun _ => hne⟩
  cases hstops with
  | lost h => exact .lost h
  | ended h => exact .ended h
  | failed => exact absurd rfl hne

theorem readTrailer_ok (h : readTrailer fault acc stream = (.ok (), feed))
    (hnl : ∀ b ∈ acc, b ≠ 0x0A) (hlength : acc.length ≤ 4096 + 1) :
    Trailer (acc ++ stream) feed.stream := by
  induction stream generalizing fault acc with
  | nil =>
    simp only [readTrailer] at h
    split at h <;> cases h
  | cons b rest ih =>
  simp only [readTrailer] at h
  split at h
  · cases h
  split at h
  · next hb =>
    subst hb
    have hline : line 4096 (acc ++ 0x0A :: rest) = some (chomp acc, rest) :=
      line_of_split hnl hlength
    split at h
    · next hempty =>
      cases h
      rw [List.isEmpty_iff.mp hempty] at hline
      exact .last hline
    · next hmore =>
      refine .more hline (fun hnone => hmore (List.isEmpty_iff.mpr hnone)) ?_
      exact ih h (by simp) (by simp)
  · next hb =>
    split at h
    · cases h
    · next hlong =>
      have hnl' : ∀ c ∈ acc ++ [b], c ≠ 0x0A := by simpa [or_imp, forall_and] using ⟨hnl, hb⟩
      have hacc := ih h hnl' (by simp; omega)
      simpa using hacc

theorem readTrailer_error (h : readTrailer fault acc stream = (.error e, feed)) :
    e.breaks = true ∨ e = .unexpectedEof ∧ feed.stream = [] := by
  induction stream generalizing fault acc with
  | nil =>
    simp only [readTrailer] at h
    split at h
    · cases h
      exact .inl rfl
    · cases h
      exact .inr ⟨rfl, rfl⟩
  | cons b rest ih =>
    simp only [readTrailer] at h
    split at h
    · cases h
      exact .inl rfl
    split at h
    · split at h
      · cases h
      · exact ih h
    split at h
    · cases h
      exact .inl rfl
    · exact ih h

theorem readLine_of_line (h : line limit (acc ++ (stream ++ more)) = some (text, rest))
    (hnl : ∀ b ∈ acc, b ≠ 0x0A) :
    readLine limit none acc stream = (.error .unexpectedEof, ⟨[], none⟩) ∨
      ∃ rest', rest = rest' ++ more ∧
        readLine limit none acc stream = (.ok text, ⟨rest', none⟩) := by
  induction stream generalizing acc with
  | nil => exact .inl rfl
  | cons b stream ih =>
  by_cases hb : b = 0x0A
  · subst hb
    have hline := @line_of_split limit acc (stream ++ more) hnl (length_le_of_line h hnl)
    obtain ⟨rfl, rfl⟩ := Prod.mk.inj (Option.some.inj (hline.symm.trans h))
    exact .inr ⟨stream, rfl, rfl⟩
  have hnl' : ∀ c ∈ acc ++ [b], c ≠ 0x0A := by simpa [or_imp, forall_and] using ⟨hnl, hb⟩
  have h' : line limit ((acc ++ [b]) ++ (stream ++ more)) = some (text, rest) := by simpa using h
  have hlength := length_le_of_line h' hnl'
  have hread : readLine limit none acc (b :: stream) = readLine limit none (acc ++ [b]) stream := by
    rw [List.length_append] at hlength
    simp only [readLine, failing, Option.map_none]
    rw [if_neg (by simp), if_neg hb, if_neg (by simpa using hlength)]
  rw [hread]
  exact ih h' hnl'

theorem readLineFrom_of_line (h : line limit (stream ++ more) = some (text, rest)) :
    readLineFrom ⟨stream, none⟩ limit = (.error .unexpectedEof, ⟨[], none⟩) ∨
      ∃ rest', rest = rest' ++ more ∧
        readLineFrom ⟨stream, none⟩ limit = (.ok text, ⟨rest', none⟩) :=
  readLine_of_line h (by simp)

theorem readTrailer_of_trailer (h : Trailer (acc ++ (stream ++ more)) rest)
    (hnl : ∀ b ∈ acc, b ≠ 0x0A) :
    readTrailer none acc stream = (.error .unexpectedEof, ⟨[], none⟩) ∨
      ∃ rest', rest = rest' ++ more ∧ readTrailer none acc stream = (.ok (), ⟨rest', none⟩) := by
  induction stream generalizing acc with
  | nil => exact .inl rfl
  | cons b stream ih =>
  obtain ⟨text, after, hfirst⟩ : ∃ text after,
      line 4096 (acc ++ (b :: stream ++ more)) = some (text, after) := by
    cases h with
    | last h | more h => exact ⟨_, _, h⟩
  by_cases hb : b = 0x0A
  · subst hb
    have hline := @line_of_split 4096 acc (stream ++ more) hnl (length_le_of_line hfirst hnl)
    cases h with
    | last h =>
      obtain ⟨hempty, rfl⟩ := Prod.mk.inj (Option.some.inj (hline.symm.trans h))
      exact .inr ⟨stream, rfl, by simp [readTrailer, failing, hempty]⟩
    | more h htext hrest =>
      obtain ⟨rfl, rfl⟩ := Prod.mk.inj (Option.some.inj (hline.symm.trans h))
      have hread : readTrailer none acc (0x0A :: stream) = readTrailer none [] stream := by
        simp [readTrailer, failing, htext]
      rw [hread]
      exact ih hrest (by simp)
  have hnl' : ∀ c ∈ acc ++ [b], c ≠ 0x0A := by simpa [or_imp, forall_and] using ⟨hnl, hb⟩
  have happend : acc ++ (b :: stream ++ more) = (acc ++ [b]) ++ (stream ++ more) := by simp
  rw [happend] at h hfirst
  have hlength := length_le_of_line hfirst hnl'
  have hread : readTrailer none acc (b :: stream) = readTrailer none (acc ++ [b]) stream := by
    rw [List.length_append] at hlength
    simp only [readTrailer, failing, Option.map_none]
    rw [if_neg (by simp), if_neg hb, if_neg (by simpa using hlength)]
  rw [hread]
  exact ih h hnl'

end Lines

theorem Trailer.unique (h : Trailer stream rest) (h' : Trailer stream rest') : rest = rest' := by
  induction h with
  | last h =>
    cases h' with
    | last h' => exact (Prod.mk.inj (Option.some.inj (h.symm.trans h'))).2
    | more h' htext => exact absurd (Prod.mk.inj (Option.some.inj (h'.symm.trans h))).1 htext
  | more h htext _ ih =>
    cases h' with
    | last h' => exact absurd (Prod.mk.inj (Option.some.inj (h.symm.trans h'))).1 htext
    | more h' _ hrest =>
      obtain ⟨rfl, rfl⟩ := Prod.mk.inj (Option.some.inj (h.symm.trans h'))
      exact ih hrest

theorem ChunkedBody.unique (h : ChunkedBody stream rest) (h' : ChunkedBody stream rest') :
    rest = rest' := by
  induction h with
  | last hline hsize htrailer =>
    cases h' with
    | last hline' _ htrailer' =>
      obtain ⟨rfl, rfl⟩ := Prod.mk.inj (Option.some.inj (hline.symm.trans hline'))
      exact htrailer.unique htrailer'
    | chunk hline' hsize' =>
      obtain ⟨rfl, -⟩ := Prod.mk.inj (Option.some.inj (hline.symm.trans hline'))
      exact absurd (hsize.symm.trans hsize') (by simp)
  | chunk hline hsize hdata hend _ ih =>
    cases h' with
    | last hline' hsize' =>
      obtain ⟨rfl, -⟩ := Prod.mk.inj (Option.some.inj (hline.symm.trans hline'))
      exact absurd (hsize.symm.trans hsize') (by simp)
    | chunk hline' hsize' hdata' hend' hrest' =>
      obtain ⟨rfl, happend⟩ := Prod.mk.inj (Option.some.inj (hline.symm.trans hline'))
      obtain rfl := Nat.succ.inj (Option.some.inj (hsize.symm.trans hsize'))
      obtain ⟨rfl, rfl⟩ := List.append_inj happend (hdata.trans hdata'.symm)
      obtain ⟨-, rfl⟩ := Prod.mk.inj (Option.some.inj (hend.symm.trans hend'))
      exact ih hrest'

theorem MessageBody.unique (h : MessageBody request stream rest)
    (h' : MessageBody request stream rest') : rest = rest' := by
  unfold MessageBody at h h'
  split at h
  · next hchunked =>
    rw [if_pos hchunked] at h'
    exact h.unique h'
  · next hplain =>
    rw [if_neg hplain] at h'
    obtain ⟨_, rfl, hdata⟩ := h
    obtain ⟨_, happend, hdata'⟩ := h'
    exact (List.append_inj happend (hdata.trans hdata'.symm)).2

section Chunks

variable {state : ChunkState} {feed : Feed} {stream : Bytes} {want : Nat}

theorem ChunkState.ends_header (hdone : state.done = false) (hremaining : state.remaining = 0)
    (hcrlf : state.needCrlf = false) : state.Ends stream rest ↔ ChunkedBody stream rest := by
  simp [Ends, hdone, hremaining, hcrlf]

theorem ChunkState.ends_crlf (hdone : state.done = false) (hremaining : state.remaining = 0)
    (hcrlf : state.needCrlf = true) :
    state.Ends stream rest ↔ ∃ next, line 0 stream = some ([], next) ∧ ChunkedBody next rest := by
  simp [Ends, hdone, hremaining, hcrlf]

theorem ChunkState.not_ends_nil (hdone : state.done = false) : ¬ state.Ends [] rest := by
  simp only [Ends, hdone, Bool.false_eq_true, if_false]
  rintro ⟨_, _, happend, -, hrest⟩
  obtain ⟨-, rfl⟩ := List.append_eq_nil_iff.mp happend.symm
  split at hrest
  · obtain ⟨_, hline, -⟩ := hrest
    cases hline
  cases hrest with
  | last hline | chunk hline => cases hline

theorem readData_ok (h : readData feed want deliver = .ok (data, feed')) :
    feed.stream = data ++ feed'.stream ∧ data.length ≤ want := by
  unfold readData at h
  dsimp only at h
  split at h
  · cases h
  split at h
  · cases h
  · cases h
    exact ⟨(List.take_append_drop _ _).symm, by rw [List.length_take]; omega⟩

theorem readData_error (h : readData feed want deliver = .error e) (hwant : 0 < want) :
    e = .failed ∧ feed.fault = some 0 ∨ e = .unexpectedEof ∧ feed.stream = [] := by
  unfold readData at h
  dsimp only at h
  split at h
  · next hfails =>
    cases h
    exact .inl ⟨rfl, eq_of_beq hfails⟩
  split at h
  · next hempty =>
    cases h
    refine .inr ⟨rfl, ?_⟩
    rw [List.isEmpty_iff, List.take_eq_nil_iff] at hempty
    exact hempty.resolve_left (by omega)
  · cases h

/-- What a read leaves behind, whether it delivered data or failed: where the body ends has not
changed, unless the reader has lost its place. -/
structure Keeps {σ : Type} (Ends : σ → Bytes → Bytes → Prop) (finished : σ → Bool) (s : σ)
    (stream : Bytes) (out : ReadOutcome σ) : Prop where
  back : (∀ e, out.result = .error e → e.breaks = false) →
    ∀ rest, Ends out.state out.feed.stream rest → Ends s stream rest
  ended : out.result = .error .unexpectedEof → out.feed.stream = []
  unfinished : ∀ e, out.result = .error e → e.framing = true → finished out.state = false

theorem readChunkData_keeps (hdone : state.done = false) (hremaining : state.remaining ≠ 0)
    (hwant : 0 < want) (size : Option Text) :
    Keeps ChunkState.Ends ChunkState.done state feed.stream
      (readChunkData feed state want deliver size) := by
  unfold readChunkData
  split
  · next e herror =>
    have he := readData_error herror (by omega)
    refine ⟨fun _ _ h => h, fun h => ?_, fun _ _ _ => hdone⟩
    cases h
    exact (he.resolve_left (by simp)).2
  · next data feed' hok =>
    obtain ⟨hstream, _⟩ := readData_ok hok
    refine ⟨fun _ rest h => ?_, nofun, nofun⟩
    simp only [ChunkState.Ends, hdone, Bool.false_eq_true, if_false] at h ⊢
    obtain ⟨more, after, happend, hmore, hrest⟩ := h
    refine ⟨data ++ more, after, ?_, ?_, hrest⟩
    · rw [hstream, happend, List.append_assoc]
    · rw [List.length_append, hmore]
      omega

theorem keeps_of_stops (hdone : state.done = false) (h : Stops stream e feed.stream)
    (size : Option Text) :
    Keeps ChunkState.Ends ChunkState.done state stream ⟨.error e, state, feed, size⟩ := by
  refine ⟨fun hbreaks rest hends => ?_, fun herror => ?_, fun _ _ _ => hdone⟩
  · cases h with
    | lost h => exact absurd h (by simp [hbreaks _ rfl])
    | ended h => exact absurd (h ▸ hends) (ChunkState.not_ends_nil hdone)
    | failed h => exact h ▸ hends
  cases herror
  cases h with
  | lost h => cases h
  | ended h => exact h

theorem readChunkHeader_keeps (hdone : state.done = false) (hremaining : state.remaining = 0)
    (hcrlf : state.needCrlf = false) (hwant : 0 < want) :
    Keeps ChunkState.Ends ChunkState.done state feed.stream
      (readChunkHeader feed state want deliver) := by
  unfold readChunkHeader
  split
  · next e feed' herror => exact keeps_of_stops hdone (readLine_error herror).1 none
  · next text feed' hok =>
    have hline := readLine_ok hok (by simp) (by simp)
    split
    · exact keeps_of_stops hdone (.lost rfl) none
    · next hsize =>
      split
      · next e feed'' herror =>
        refine keeps_of_stops hdone ?_ (some (sizeText text))
        rcases readTrailer_error herror with hlost | ⟨rfl, hend⟩
        · exact .lost hlost
        · exact .ended hend
      · next feed'' htrailer =>
        refine ⟨fun _ rest h => ?_, nofun, nofun⟩
        obtain rfl : feed''.stream = rest := by simpa [ChunkState.Ends] using h
        exact (ChunkState.ends_header hdone hremaining hcrlf).mpr
          (.last hline hsize (readTrailer_ok htrailer (by simp) (by simp)))
    · next n hsize =>
      let opened := { state with remaining := n + 1, needCrlf := true }
      have hkeeps := @readChunkData_keeps opened feed' want deliver hdone (by simp [opened]) hwant
        (some (sizeText text))
      refine ⟨fun hbreaks rest h => ?_, hkeeps.ended, hkeeps.unfinished⟩
      have hends := hkeeps.back hbreaks rest h
      simp only [ChunkState.Ends, opened, hdone, Bool.false_eq_true, if_false, if_true] at hends
      obtain ⟨_, _, happend, hdata, next, hend, hrest⟩ := hends
      refine (ChunkState.ends_header hdone hremaining hcrlf).mpr ?_
      exact .chunk (happend ▸ hline) hsize hdata hend hrest

theorem readChunked_keeps (hwant : 0 < want) :
    Keeps ChunkState.Ends ChunkState.done state feed.stream
      (readChunked feed state want deliver) := by
  unfold readChunked
  split
  · exact ⟨fun _ _ h => h, nofun, nofun⟩
  next hdone =>
  have hdone : state.done = false := Bool.not_eq_true _ ▸ hdone
  split
  · next hremaining => exact readChunkData_keeps hdone hremaining hwant none
  next hremaining =>
  have hremaining : state.remaining = 0 := not_not.mp hremaining
  split
  · next hcrlf => exact readChunkHeader_keeps hdone hremaining (by simpa using hcrlf) hwant
  next hcrlf =>
  have hcrlf : state.needCrlf = true := by simpa using hcrlf
  split
  · next e feed' herror => exact keeps_of_stops hdone (readLine_error herror).1 none
  · next text feed' hok =>
    have hline := readLine_ok hok (by simp) (by simp)
    split
    · exact keeps_of_stops hdone (.lost rfl) none
    · next hempty =>
      have htext : text = [] := by simpa using hempty
      let fresh := { state with needCrlf := false }
      have hkeeps := @readChunkHeader_keeps fresh feed' want deliver hdone hremaining rfl hwant
      refine ⟨fun hbreaks rest h => ?_, hkeeps.ended, hkeeps.unfinished⟩
      have hends := (@ChunkState.ends_header fresh _ _ hdone hremaining rfl).mp
        (hkeeps.back hbreaks rest h)
      exact (ChunkState.ends_crlf hdone hremaining hcrlf).mpr ⟨_, htext ▸ hline, hends⟩

def ChunkState.Fits (state : ChunkState) (stream : Bytes) : Prop :=
  ∃ more rest, state.Ends (stream ++ more) rest

def Flows (out : ReadOutcome ChunkState) : Prop :=
  (∀ e, out.result = .error e → e.breaks = false) ∧ out.state.Fits out.feed.stream

theorem ChunkedBody.zero : ChunkedBody [0x30, 0x0A, 0x0A] [] :=
  @ChunkedBody.last _ [0x30] [0x0A] _ rfl rfl (.last rfl)

theorem ChunkState.fits_nil (state : ChunkState) : state.Fits [] := by
  cases hdone : state.done with
  | true => exact ⟨[], [], by simp [Ends, hdone]⟩
  | false =>
    refine ⟨List.replicate state.remaining 0 ++
      ((if state.needCrlf then [0x0A] else []) ++ [0x30, 0x0A, 0x0A]), [], ?_⟩
    simp only [Ends, hdone, Bool.false_eq_true, if_false, List.nil_append]
    refine ⟨_, _, rfl, List.length_replicate, ?_⟩
    split
    · exact ⟨_, rfl, .zero⟩
    · exact .zero

theorem flows_of_eof (state : ChunkState) (size : Option Text) :
    Flows ⟨.error .unexpectedEof, state, ⟨[], none⟩, size⟩ :=
  ⟨fun _ h => by cases h; rfl, state.fits_nil⟩

theorem readChunkData_flows (hdone : state.done = false) (hremaining : state.remaining ≠ 0)
    (hwant : 0 < want) (size : Option Text) (hfits : state.Fits stream) :
    Flows (readChunkData ⟨stream, none⟩ state want deliver size) := by
  unfold readChunkData
  split
  · next e herror =>
    refine ⟨fun _ h => ?_, hfits⟩
    cases h
    rcases readData_error herror (by omega) with ⟨rfl, -⟩ | ⟨rfl, -⟩ <;> rfl
  · next data feed' hok =>
    refine ⟨nofun, ?_⟩
    obtain ⟨rfl, _⟩ : stream = data ++ feed'.stream ∧ _ := readData_ok hok
    obtain ⟨more, rest, hends⟩ := hfits
    simp only [ChunkState.Ends, hdone, Bool.false_eq_true, if_false] at hends
    obtain ⟨whole, after, happend, hwhole, hrest⟩ := hends
    rw [List.append_assoc] at happend
    obtain ⟨tail, rfl, htail⟩ : ∃ tail, whole = data ++ tail ∧ feed'.stream ++ more = tail ++ after := by
      rcases List.append_eq_append_iff.mp happend with ⟨tail, h, h'⟩ | ⟨tail, h, h'⟩
      · exact ⟨tail, h, h'⟩
      have hnil : tail = [] := by
        have hlen := congrArg List.length h
        rw [List.length_append] at hlen
        exact List.eq_nil_of_length_eq_zero (by omega)
      subst hnil
      exact ⟨[], by simpa using h.symm, by simpa using h'.symm⟩
    refine ⟨more, rest, ?_⟩
    simp only [ChunkState.Ends, hdone, Bool.false_eq_true, if_false]
    refine ⟨tail, after, htail, ?_, hrest⟩
    rw [List.length_append] at hwhole
    omega

theorem readChunkHeader_flows (hdone : state.done = false) (hremaining : state.remaining = 0)
    (hcrlf : state.needCrlf = false) (hwant : 0 < want) (hfits : state.Fits stream) :
    Flows (readChunkHeader ⟨stream, none⟩ state want deliver) := by
  obtain ⟨more, rest, hends⟩ := hfits
  rw [ChunkState.ends_header hdone hremaining hcrlf] at hends
  unfold readChunkHeader
  cases hends with
  | last hline hsize htrailer =>
    rcases readLineFrom_of_line hline with hread | ⟨stream', rfl, hread⟩
    · rw [hread]
      exact flows_of_eof state none
    rw [hread]
    dsimp only
    rw [hsize]
    dsimp only
    rcases @readTrailer_of_trailer [] _ _ _ htrailer (by simp) with hread | ⟨_, rfl, hread⟩
    · rw [hread]
      exact flows_of_eof state _
    · rw [hread]
      exact ⟨nofun, more, _, rfl⟩
  | @chunk _ _ _ _ _ _ n hline hsize hdata hend hrest =>
    rcases readLineFrom_of_line hline with hread | ⟨stream', happend, hread⟩
    · rw [hread]
      exact flows_of_eof state none
    rw [hread]
    dsimp only
    rw [hsize]
    let opened := { state with remaining := n + 1, needCrlf := true }
    refine @readChunkData_flows opened _ _ _ hdone (Nat.succ_ne_zero _) hwant _ ⟨more, rest, ?_⟩
    simp only [ChunkState.Ends, opened, hdone, Bool.false_eq_true, if_false, if_true]
    exact ⟨_, _, happend.symm, hdata, _, hend, hrest⟩

theorem readChunked_flows (hwant : 0 < want) (hfits : state.Fits stream) :
    Flows (readChunked ⟨stream, none⟩ state want deliver) := by
  unfold readChunked
  split
  · exact ⟨nofun, hfits⟩
  next hdone =>
  have hdone : state.done = false := Bool.not_eq_true _ ▸ hdone
  split
  · next hremaining => exact readChunkData_flows hdone hremaining hwant none hfits
  next hremaining =>
  have hremaining : state.remaining = 0 := not_not.mp hremaining
  split
  · next hcrlf => exact readChunkHeader_flows hdone hremaining (by simpa using hcrlf) hwant hfits
  next hcrlf =>
  have hcrlf : state.needCrlf = true := by simpa using hcrlf
  obtain ⟨more, rest, hends⟩ := hfits
  obtain ⟨next, hend, hrest⟩ := (ChunkState.ends_crlf hdone hremaining hcrlf).mp hends
  rcases readLineFrom_of_line hend with hread | ⟨_, rfl, hread⟩
  · rw [hread]
    exact flows_of_eof state none
  rw [hread]
  refine readChunkHeader_flows hdone hremaining rfl hwant ⟨more, rest, ?_⟩
  exact (@ChunkState.ends_header { state with needCrlf := false } _ _ hdone hremaining rfl).mpr hrest

end Chunks

section Bodies

variable {body : Body} {c : Conditions} {stream : Bytes}

theorem Body.ends_of_finished (h : body.finished = true) : body.Ends stream stream := by
  rcases hchunked : body.chunked with _ | state <;> simp only [finished, Ends, hchunked] at h ⊢
  · exact ⟨[], rfl, (eq_of_beq h).symm⟩
  · simp [ChunkState.Ends, h]

theorem Body.not_ends_nil (h : body.finished = false) : ¬ body.Ends [] rest := by
  rcases hchunked : body.chunked with _ | state <;> simp only [finished, Ends, hchunked] at h ⊢
  · rintro ⟨_, happend, hdata⟩
    obtain ⟨rfl, -⟩ := List.append_eq_nil_iff.mp happend.symm
    exact absurd hdata.symm (by simpa using h)
  · exact ChunkState.not_ends_nil h

theorem Body.readSource_keeps (hwant : 0 < want) :
    Keeps Body.Ends Body.finished body feed.stream (body.readSource feed want deliver) := by
  unfold readSource
  cases hchunked : body.chunked with
  | some state =>
    have hkeeps := @readChunked_keeps state feed want deliver hwant
    refine ⟨fun hbreaks rest h => ?_, hkeeps.ended, hkeeps.unfinished⟩
    have hends := hkeeps.back hbreaks rest h
    simpa only [Ends, hchunked] using hends
  | none =>
  dsimp only
  split
  · exact ⟨fun _ _ h => h, nofun, nofun⟩
  next hremaining =>
  split
  · next e herror =>
    have he := readData_error herror (by omega)
    refine ⟨fun _ _ h => h, fun h => ?_, fun _ _ _ => ?_⟩
    · cases h
      exact (he.resolve_left (by simp)).2
    · simpa [finished, hchunked] using hremaining
  · next data feed' hok =>
    obtain ⟨hstream, _⟩ := readData_ok hok
    refine ⟨fun _ rest h => ?_, nofun, nofun⟩
    simp only [Ends, hchunked] at h ⊢
    obtain ⟨more, hmore, hlen⟩ := h
    refine ⟨data ++ more, ?_, ?_⟩
    · rw [List.append_assoc, ← hmore]
      exact hstream
    · rw [List.length_append, hlen]
      omega

theorem Body.readFramed_keeps (hwant : 0 < want) :
    Keeps Body.Ends Body.finished body stream (body.readFramed c stream want) := by
  unfold readFramed
  split
  · have hkeeps := @readSource_keeps body.invited want ⟨stream, c.fault⟩ c.deliver hwant
    exact ⟨hkeeps.back, hkeeps.ended, hkeeps.unfinished⟩
  · exact ⟨fun _ _ h => h, nofun, fun e h hframing => by cases h; cases hframing⟩

theorem Keeps.counted (h : Keeps Body.Ends Body.finished body stream out) :
    Keeps Body.Ends Body.finished body stream (Body.counted out) := by
  unfold Body.counted
  split
  · exact h
  · next data hok => exact ⟨fun _ => h.back (by simp [hok]), by simp [hok], by simp [hok]⟩

theorem Keeps.refused (h : Keeps Body.Ends Body.finished body stream out)
    (hbreaks : ∀ e, out.result = .error e → e.breaks = false) :
    Keeps Body.Ends Body.finished body stream (Body.refused out) :=
  ⟨fun _ => h.back hbreaks, nofun, fun e h hframing => by cases h; cases hframing⟩

theorem Body.read_keeps : Keeps Body.Ends Body.finished body stream (body.read c stream len) := by
  unfold read
  split
  · exact ⟨fun _ _ h => h, nofun, nofun⟩
  next hlen =>
  split
  · exact (readFramed_keeps (by omega)).counted
  next limit hlimit =>
  split
  · exact Keeps.refused ⟨fun _ _ h => h, nofun, nofun⟩ nofun
  split
  · have hkeeps : Keeps Body.Ends Body.finished body stream (body.readFramed c stream 1) :=
      readFramed_keeps Nat.one_pos
    dsimp only
    split
    · next hok => exact hkeeps.refused (by simp [hok])
    · exact hkeeps
  · exact (readFramed_keeps (by omega)).counted

def Body.Fits (body : Body) (stream : Bytes) : Prop :=
  ∀ state, body.chunked = some state → state.Fits stream

structure Advances (body : Body) (out : ReadOutcome Body) : Prop where
  intact : ∀ e, out.result = .error e → e.breaks = false
  fits : out.state.Fits out.feed.stream
  framing : out.state.chunked.isSome = body.chunked.isSome

theorem Body.readSource_advances (hwant : 0 < want) (hfits : body.Fits feed.stream)
    (hfault : body.chunked.isSome = true → feed.fault = none) :
    Advances body (body.readSource feed want deliver) := by
  unfold readSource
  cases hchunked : body.chunked with
  | some state =>
    obtain ⟨stream, fault⟩ := feed
    obtain rfl : fault = none := hfault (by rw [hchunked]; rfl)
    obtain ⟨hintact, hflows⟩ := @readChunked_flows state stream want deliver hwant
      (hfits state hchunked)
    exact ⟨hintact, fun _ h => Option.some.inj h ▸ hflows, by rw [hchunked]; rfl⟩
  | none =>
    have hplain : ∀ stream, body.Fits stream := fun _ _ h => nomatch hchunked.symm.trans h
    dsimp only
    split
    · exact ⟨nofun, hplain _, rfl⟩
    next hremaining =>
    split
    · next e herror =>
      refine ⟨fun e h => ?_, hplain _, rfl⟩
      cases h
      rcases readData_error herror (by omega) with ⟨rfl, -⟩ | ⟨rfl, -⟩ <;> rfl
    · exact ⟨nofun, nofun, by rw [hchunked]⟩

theorem Body.readFramed_advances (hwant : 0 < want) (hfits : body.Fits stream)
    (hfault : body.chunked.isSome = true → c.fault = none) :
    Advances body (body.readFramed c stream want) := by
  unfold readFramed
  split
  · have hadvances := @readSource_advances body.invited want ⟨stream, c.fault⟩ c.deliver hwant
      hfits hfault
    exact ⟨hadvances.intact, hadvances.fits, hadvances.framing⟩
  · exact ⟨fun e h => by cases h; rfl, hfits, rfl⟩

theorem Advances.counted (h : Advances body out) : Advances body (Body.counted out) := by
  unfold Body.counted
  split
  · exact h
  · exact ⟨h.intact, h.fits, h.framing⟩

theorem Advances.refused (h : Advances body out) : Advances body (Body.refused out) :=
  ⟨fun e h => by cases h; rfl, h.fits, h.framing⟩

theorem Body.read_advances (hfits : body.Fits stream)
    (hfault : body.chunked.isSome = true → c.fault = none) :
    Advances body (body.read c stream len) := by
  unfold read
  split
  · exact ⟨nofun, hfits, rfl⟩
  next hlen =>
  split
  · exact (readFramed_advances (by omega) hfits hfault).counted
  next limit hlimit =>
  split
  · exact Advances.refused ⟨nofun, hfits, rfl⟩
  split
  · have hadvances := readFramed_advances Nat.one_pos hfits hfault
    dsimp only
    split
    · exact hadvances.refused
    · exact hadvances
  · exact (readFramed_advances (by omega) hfits hfault).counted

end Bodies

section Readings

variable {r : Reading}

def Reading.Intact (r : Reading) : Prop := ∀ e, .error e ∈ r.results → e.breaks = false

/-- What is left of the body ends where the whole one does, and the stream has not ended in it. -/
def Placed (start : Body) (bodyStart : Bytes) (r : Reading) : Prop :=
  r.Intact → ∀ rest, r.body.Ends r.stream rest →
    start.Ends bodyStart rest ∧ .error .unexpectedEof ∉ r.results

theorem Reading.error_mem_read : .error e ∈ (r.read c len).results ↔
    .error e ∈ r.results ∨ (r.body.read c r.stream len).result = .error e := by
  simp [read, eq_comm]

theorem Placed.read (h : Placed start bodyStart r) : Placed start bodyStart (r.read c len) := by
  intro hintact rest hends
  have hkeeps := @Body.read_keeps r.body c r.stream len
  have hold := h (fun e he => hintact e (Reading.error_mem_read.mpr (.inl he))) rest
    (hkeeps.back (fun e he => hintact e (Reading.error_mem_read.mpr (.inr he))) rest hends)
  refine ⟨hold.1, fun heof => ?_⟩
  rcases Reading.error_mem_read.mp heof with heof | heof
  · exact hold.2 heof
  have hstream : (r.read c len).stream = [] := hkeeps.ended heof
  rw [hstream] at hends
  exact Body.not_ends_nil (hkeeps.unfinished _ heof rfl) hends

theorem Reading.drainLoop_clean
    (hfinished : (drainLoop draining fuel drained r).body.finished = true)
    (he : .error e ∈ (drainLoop draining fuel drained r).results) (hframing : e.framing = true) :
    .error e ∈ r.results := by
  induction fuel generalizing drained r with
  | zero => exact he
  | succ fuel ih =>
    rcases drainLoop_succ draining fuel drained r with heq | heq | ⟨⟨_, hok⟩, _, heq⟩
    · exact heq ▸ he
    · rw [heq] at hfinished he
      refine (error_mem_read.mp he).resolve_right fun herror => ?_
      have hunfinished : (r.read (draining fuel) 8192).body.finished = false :=
        Body.read_keeps.unfinished e herror hframing
      rw [hunfinished] at hfinished
      cases hfinished
    rw [heq] at hfinished he
    refine (error_mem_read.mp (ih hfinished he)).resolve_right fun herror => ?_
    cases hok.symm.trans herror

theorem Reading.drain_clean (hfinished : (r.drain draining).body.finished = true)
    (he : .error e ∈ (r.drain draining).results) (hframing : e.framing = true) :
    .error e ∈ r.results := by
  unfold drain at hfinished he
  split at he
  · next hdrain =>
    rw [if_pos hdrain] at hfinished
    exact @drainLoop_clean r.unlimited _ _ _ _ hfinished he hframing
  · exact he

theorem Reading.acts_intact (hintact : r.Intact) (hfits : r.body.Fits r.stream)
    (hacts : r.body.chunked.isSome = true → ∀ len c, .read len c ∈ as → c.fault = none) :
    (r.acts as).Intact := by
  induction as generalizing r with
  | nil => exact hintact
  | cons a as ih =>
    cases a with
    | read len c =>
      have hadvances := @Body.read_advances r.body c r.stream len hfits
        fun hchunked => hacts hchunked len c List.mem_cons_self
      refine @ih (r.read c len) (fun e he => ?_) hadvances.fits fun hchunked len c hmem => ?_
      · rcases error_mem_read.mp he with he | he
        · exact hintact e he
        · exact hadvances.intact e he
      · exact hacts (hadvances.framing ▸ hchunked) len c (List.mem_cons_of_mem _ hmem)
    | limitBody limit =>
      exact @ih (r.act (.limitBody limit)) hintact hfits fun hchunked len c hmem =>
        hacts hchunked len c (List.mem_cons_of_mem _ hmem)

theorem Reading.acts_results (h : ∀ len c, .read len c ∉ as) : (r.acts as).results = r.results := by
  induction as generalizing r with
  | nil => rfl
  | cons a as ih =>
    have htail : ∀ len c, .read len c ∉ as := fun len c hmem => h len c (List.mem_cons_of_mem _ hmem)
    cases a with
    | read len c => exact absurd List.mem_cons_self (h len c)
    | limitBody limit => exact @ih (r.act (.limitBody limit)) htail

end Readings

theorem openBody_ends (h : receive remote localAddr head = .ok request) :
    (openBody head request).Ends stream rest ↔ MessageBody request stream rest := by
  unfold Body.Ends MessageBody openBody
  by_cases hchunked : head.chunked = true
  · rw [if_pos ((contentLength_neg_iff h).mpr hchunked)]
    simp only [hchunked, if_true]
    exact ChunkState.ends_header rfl rfl rfl
  rw [if_neg fun hneg => hchunked ((contentLength_neg_iff h).mp hneg)]
  simp only [hchunked]
  rfl

theorem Serves.framed (h : Serves options remote localAddr stream handled stream')
    (hintact : handled.byHandler.Intact) : MessageBody handled.request handled.bodyStart stream' ∧
      ∀ e, .error e ∈ handled.drained.results → e.framing = false := by
  obtain ⟨-, _, -, hreceive, hopened, hacts, hdrain, hnext⟩ := serveRequest_eq_some h.1
  obtain ⟨hfinished, rfl⟩ := hnext _ h.2
  have hplaced : Placed handled.opened handled.bodyStart handled.drained := by
    have hread : ∀ r c len, Placed handled.opened handled.bodyStart r →
        Placed handled.opened handled.bodyStart (r.read c len) := fun _ _ _ h => h.read
    rw [hdrain, hacts]
    exact Reading.drain_keeps hread (fun _ h => h)
      (Reading.acts_keeps hread (fun _ _ h => h) fun _ rest hends => ⟨hends, by simp⟩)
  have hclean : ∀ e, .error e ∈ handled.drained.results → e.framing = true →
      .error e ∈ handled.byHandler.results := fun e he hframing =>
    Reading.drain_clean (hdrain ▸ hfinished) (hdrain ▸ he) hframing
  have hbreaks : handled.drained.Intact := fun e he => by
    cases hbreaks : e.breaks with
    | false => rfl
    | true => exact hbreaks ▸ hintact e (hclean e he (by simp [BodyError.framing, hbreaks]))
  obtain ⟨hbody, heof⟩ := hplaced hbreaks _ (Body.ends_of_finished hfinished)
  refine ⟨(openBody_ends hreceive).mp (hopened ▸ hbody), fun e he => ?_⟩
  have hne : e ≠ .unexpectedEof := fun h => heof (h ▸ he)
  simp [BodyError.framing, hbreaks e he, hne]

/-- The handler reads no chunk that is out of place, and no read of a body in chunks is cut off. -/
def Handled.Tame (handled : Handled) : Prop :=
  handled.request.contentLength < 0 → ∀ len c, .read len c ∈ handled.turn.acts →
    c.fault = none ∧ ∃ more rest, ChunkedBody (handled.bodyStart ++ more) rest

theorem Serves.intact (h : Serves options remote localAddr stream handled stream')
    (htame : handled.Tame) : handled.byHandler.Intact := by
  obtain ⟨-, _, -, hreceive, hopened, hacts, -⟩ := serveRequest_eq_some h.1
  have hnone : (⟨handled.opened, handled.bodyStart, [], []⟩ : Reading).Intact := nofun
  rw [hacts]
  by_cases hread : ∃ len c, HandlerAct.read len c ∈ handled.turn.acts
  · obtain ⟨len, c, hread⟩ := hread
    have hchunked : ∀ state, handled.opened.chunked = some state →
        handled.request.contentLength < 0 ∧ state = {} := by
      intro state hstate
      rw [hopened, openBody] at hstate
      dsimp only at hstate
      split at hstate
      · next hchunked =>
        exact ⟨(contentLength_neg_iff hreceive).mpr hchunked, (Option.some.inj hstate).symm⟩
      · cases hstate
    refine Reading.acts_intact hnone (fun state hstate => ?_) fun hsome len c hmem => ?_
    · obtain ⟨hneg, rfl⟩ := hchunked state hstate
      obtain ⟨-, more, rest, hbody⟩ := htame hneg len c hread
      exact ⟨more, rest, (ChunkState.ends_header rfl rfl rfl).mpr hbody⟩
    · obtain ⟨state, hstate⟩ := Option.isSome_iff_exists.mp hsome
      exact (htame (hchunked state hstate).1 len c hmem).1
  intro e he
  rw [Reading.acts_results fun len c hmem => hread ⟨len, c, hmem⟩] at he
  exact hnone e he

end MinimalRouter.Httpd
