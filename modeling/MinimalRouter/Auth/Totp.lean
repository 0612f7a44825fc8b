import MinimalRouter.Auth.Base32
import MinimalRouter.Goish.Strings
import MinimalRouter.Goish.Time
import MinimalRouter.Lib.Path

namespace MinimalRouter.Auth

open Goish Lib Utf8

structure TotpBasis where
  upper : Char → Char
  hmacSha1 : List UInt8 → List UInt8 → Vector UInt8 20
  sha256 : List UInt8 → List UInt8

def totpPeriod : Int := 30

def totpDigits : Nat := 6

namespace TotpBasis

variable (B : TotpBasis)

def toUpper (cs : List Char) : List Char :=
  if cs.all isAscii then cs.map asciiUpper else cs.map B.upper

def decoded (secret : String) : Option (List UInt8) :=
  Base32.decode (encode (B.toUpper (secret.toList.filter (· ≠ ' '))))

/-- Line breaks and unused bits are made the same by decoding and encoding again. -/
def canonicalTotpInputs (secret code : String) : List UInt8 × List UInt8 :=
  let text := encode (B.toUpper (secret.toList.filter (· ≠ ' ')))
  let canonical := match Base32.decode text with
    | some bytes => Base32.encode bytes
    | none => text
  (canonical, encode (trim code.toList))

def totpReplayKey (secret code : String) : List UInt8 :=
  let (secret, code) := B.canonicalTotpInputs secret code
  B.sha256 (secret ++ 0 :: code)

def counterBytes (counter : Int) : List UInt8 :=
  (List.range 8).map fun i => UInt8.ofNat ((counter % 2 ^ 64).toNat >>> (56 - i * 8))

def decimal (n : Nat) : List UInt8 :=
  (List.range totpDigits).map fun i => UInt8.ofNat (48 + n / 10 ^ (totpDigits - 1 - i) % 10)

def computeTotp (secret : List UInt8) (counter : Int) : List UInt8 :=
  let hash := B.hmacSha1 secret (counterBytes counter)
  let byte := fun i => (hash.toList.getD i 0).toNat
  let offset := byte 19 % 16
  let truncated :=
    (((byte offset * 256 + byte (offset + 1)) * 256 + byte (offset + 2)) * 256 + byte (offset + 3)) % 2 ^ 31
  decimal (truncated % 1000000)

def validateTotpAt (secret code : String) (nowUnix : Int) : Bool :=
  let (secret, code) := B.canonicalTotpInputs secret code
  if code.length ≠ totpDigits then false
  else match Base32.decode secret with
    | none => false
    | some bytes =>
      let counter := nowUnix / totpPeriod
      [-1, 0, 1].any fun i => code == B.computeTotp bytes (counter + i)

abbrev Replay := List UInt8 → Option Time

def consumeTotp (now : Time) (secret code : String) (replay : Replay) : Bool × Replay :=
  let key := B.totpReplayKey secret code
  let replay := fun k => (replay k).filter fun expires => !now.after expires
  if (replay key).isSome then (false, replay)
  else (true, Function.update replay key (some (now.add (2 * 60 * 1000000000))))

end TotpBasis

section Spelling

variable {B : TotpBasis} {secret secret' code code' : String} {bytes : List UInt8}

theorem canonicalTotpInputs_eq (h : B.decoded secret = some bytes) :
    B.canonicalTotpInputs secret code = (Base32.encode bytes, encode (trim code.toList)) := by
  unfold TotpBasis.decoded at h
  unfold TotpBasis.canonicalTotpInputs
  dsimp only
  rw [h]

theorem totpReplayKey_eq (h : B.decoded secret = some bytes) : B.totpReplayKey secret code =
    B.sha256 (Base32.encode bytes ++ 0 :: encode (trim code.toList)) := by
  unfold TotpBasis.totpReplayKey
  rw [canonicalTotpInputs_eq h]

theorem validateTotpAt_congr (h : B.decoded secret = some bytes) (h' : B.decoded secret' = some bytes)
    (nowUnix : Int) : B.validateTotpAt secret code nowUnix = B.validateTotpAt secret' code nowUnix := by
  unfold TotpBasis.validateTotpAt
  rw [canonicalTotpInputs_eq h, canonicalTotpInputs_eq h']

end Spelling

section Attempts

/-- The wall clock is not set back: it advances at least as far as the monotonic clock. -/
structure Advances (a b : Reading) : Prop where
  wall : a.wall ≤ b.wall
  mono : a.mono ≤ b.mono
  steady : (b.mono : Int) - a.mono ≤ b.wall - a.wall

theorem Advances.trans (h : Advances a b) (h' : Advances b c) : Advances a c := by
  have hsteady := h.steady
  have hsteady' := h'.steady
  exact ⟨Nat.le_trans h.wall h'.wall, Nat.le_trans h.mono h'.mono, by omega⟩

/-- An attempt: the secret and the code as they are spelled, and when the clock is read to validate
and to consume the code. -/
structure TotpAttempt where
  (secret code : String)
  (validated now : Reading)

def TotpBasis.attempt (B : TotpBasis) (x : TotpAttempt) (replay : TotpBasis.Replay) :
    Bool × TotpBasis.Replay :=
  if B.validateTotpAt x.secret x.code x.validated.now.unix then
    B.consumeTotp x.now.now x.secret x.code replay
  else (false, replay)

structure Replays where
  replay : TotpBasis.Replay := fun _ => none
  clock : Reading

/-- Attempts consume their codes one after the other, however long ago they have read the clock. -/
inductive TotpStep (B : TotpBasis) (s : Replays) : TotpAttempt × Bool → Replays → Prop
  | attempt (hvalidated : Advances x.validated x.now) (hnow : Advances x.now clock)
      (hclock : Advances s.clock clock) :
      TotpStep B s (x, (B.attempt x s.replay).1) ⟨(B.attempt x s.replay).2, clock⟩

def totpCounter (r : Reading) : Int := r.now.unix / totpPeriod

theorem Advances.counter (h : Advances a b) : totpCounter a ≤ totpCounter b := by
  have hwall := h.wall
  simp only [totpCounter, Time.unix, Reading.now, totpPeriod]
  omega

def ValidDuring (step : Int) (r : Reading) : Prop := step - 1 ≤ totpCounter r ∧ totpCounter r ≤ step + 1

structure HasCode (B : TotpBasis) (bytes : List UInt8) (step : Int) (x : TotpAttempt) : Prop where
  secret : B.decoded x.secret = some bytes
  code : encode (trim x.code.toList) = B.computeTotp bytes step

theorem HasCode.key (h : HasCode B bytes step x) : B.totpReplayKey x.secret x.code =
      B.sha256 (Base32.encode bytes ++ 0 :: B.computeTotp bytes step) := by
  rw [totpReplayKey_eq h.secret, h.code]

theorem wall_sub_lt (h : step - 1 ≤ totpCounter r) (h' : totpCounter r' ≤ step + 1) :
    (r'.wall : Int) - r.wall < 2 * 60 * 1000000000 := by
  simp only [totpCounter, Time.unix, Reading.now, totpPeriod] at h h'
  omega

variable {B : TotpBasis} {key bytes : List UInt8} {consumed : Reading} {step : Int} {s s' : Replays}
  {x : TotpAttempt} {passed : Bool}

/-- A code that was consumed is remembered for as long as it is valid. -/
structure Remembered (key : List UInt8) (consumed : Reading) (step : Int) (s : Replays) : Prop where
  started : step - 1 ≤ totpCounter consumed
  advances : Advances consumed s.clock
  kept : totpCounter s.clock ≤ step + 1 →
    s.replay key = some (consumed.now.add (2 * 60 * 1000000000))

theorem not_after (hstarted : step - 1 ≤ totpCounter consumed) (hadvances : Advances consumed clock)
    (hnow : Advances now clock) (hvalid : totpCounter clock ≤ step + 1) :
    now.now.after (consumed.now.add (2 * 60 * 1000000000)) = false := by
  have hlt := wall_sub_lt hstarted hvalid
  have hsteady := hadvances.steady
  have hmono := hnow.mono
  refine decide_eq_false (Int.not_lt.mpr ?_)
  dsimp only
  omega

/-- What an attempt leaves of an entry that is not over, and that it is refused if the entry is its
own. -/
theorem attempt_kept (hkey : replay key = some t) (hafter : x.now.now.after t = false) :
    (B.attempt x replay).2 key = some t ∧
      (B.totpReplayKey x.secret x.code = key → (B.attempt x replay).1 = false) := by
  unfold TotpBasis.attempt
  split
  · have hretained : (replay key).filter (fun expires => !x.now.now.after expires) = some t := by
      simp [hkey, hafter]
    unfold TotpBasis.consumeTotp
    dsimp only
    split
    · next hused => exact ⟨hretained, fun _ => rfl⟩
    · next hunused =>
      have hne : B.totpReplayKey x.secret x.code ≠ key := by
        rintro rfl
        rw [hretained] at hunused
        exact hunused rfl
      refine ⟨?_, fun h => absurd h hne⟩
      dsimp only
      rw [Function.update_of_ne (Ne.symm hne), hretained]
  · exact ⟨hkey, fun _ => rfl⟩

theorem Remembered.attempted (h : Remembered key consumed step s) (hstep : TotpStep B s (x, passed) s') :
    Remembered key consumed step s' ∧
      (totpCounter s'.clock ≤ step + 1 → B.totpReplayKey x.secret x.code = key → passed = false) := by
  cases hstep with
  | attempt hvalidated hnow hclock =>
    have hadvances := h.advances.trans hclock
    refine ⟨⟨h.started, hadvances, fun hvalid => ?_⟩, fun hvalid => ?_⟩
    · exact (attempt_kept (h.kept (Int.le_trans hclock.counter hvalid))
        (not_after h.started hadvances hnow hvalid)).1
    · exact (attempt_kept (h.kept (Int.le_trans hclock.counter hvalid))
        (not_after h.started hadvances hnow hvalid)).2

theorem remembered_of_passed (hvalid : step - 1 ≤ totpCounter x.validated)
    (hstep : TotpStep B s (x, true) s') :
    Remembered (B.totpReplayKey x.secret x.code) x.now step s' := by
  generalize hpassed : true = passed at hstep
  cases hstep with
  | attempt hvalidated hnow =>
    refine ⟨Int.le_trans hvalid hvalidated.counter, hnow, fun _ => ?_⟩
    unfold TotpBasis.attempt TotpBasis.consumeTotp at hpassed ⊢
    split at hpassed
    · next hvalidates =>
      rw [if_pos hvalidates]
      dsimp only at hpassed ⊢
      split at hpassed
      · cases hpassed
      · next hunused =>
        rw [if_neg hunused]
        dsimp only
        rw [Function.update_self]
    · cases hpassed

theorem Remembered.run (h : Remembered key consumed step s) (hpath : Path (TotpStep B) s steps s') :
    Remembered key consumed step s' := by
  induction hpath with
  | nil => exact h
  | snoc _ hstep ih => exact (ih.attempted hstep).1

end Attempts

/-- Of the attempts that have the code of one step for one secret, however they are spelled, only one
passes while that code is valid.  Secrets that are spelled differently are the same secret, and what
is encoded is read back. -/
theorem totp_one_time (B : TotpBasis) :
    (∀ (start : Reading) steps s (past : List (Transition Replays (TotpAttempt × Bool))) e
        (between : List (Transition Replays (TotpAttempt × Bool))) e'
        (rest : List (Transition Replays (TotpAttempt × Bool))) bytes step,
      Path (TotpStep B) { clock := start } steps s → steps = past ++ e :: (between ++ e' :: rest) →
      HasCode B bytes step e.label.1 → HasCode B bytes step e'.label.1 →
      ValidDuring step e.label.1.validated → ValidDuring step e.after.clock →
      ValidDuring step e'.label.1.validated → ValidDuring step e'.after.clock →
      ¬ (e.label.2 = true ∧ e'.label.2 = true)) ∧
    (∀ secret secret' code nowUnix bytes, B.decoded secret = some bytes → B.decoded secret' = some bytes →
      B.validateTotpAt secret code nowUnix = B.validateTotpAt secret' code nowUnix ∧
        B.totpReplayKey secret code = B.totpReplayKey secret' code) ∧
    ∀ data, Base32.decode (Base32.encode data) = some data := by
  refine ⟨?_, fun secret secret' code nowUnix bytes h h' => ?_, Base32.decode_encode⟩
  · rintro start steps s past e between e' rest bytes step hpath hsteps hcode hcode' hvalid - - hvalid'
      ⟨hpassed, hpassed'⟩
    have hstep := (hpath.split hsteps).2
    have hlater := hpath.rest_of_split hsteps
    obtain ⟨hbetween, hstep'⟩ := hlater.split rfl
    obtain ⟨_, ⟨x, _⟩, after⟩ := e
    subst hpassed
    have hremembered := (remembered_of_passed hvalid.1 hstep).run hbetween
    have hrefused := (hremembered.attempted hstep').2 hvalid'.2 (hcode'.key.trans hcode.key.symm)
    rw [hrefused] at hpassed'
    cases hpassed'
  · exact ⟨validateTotpAt_congr h h' nowUnix, by rw [totpReplayKey_eq h, totpReplayKey_eq h']⟩

def plainTotp : TotpBasis := ⟨id, fun _ _ => Vector.replicate 20 0, id⟩

def totpReading : Reading := ⟨1760000000000000000, 0, 5000000000⟩

def spelledAttempt (secret : String) : TotpAttempt := ⟨secret, " 000000", totpReading, totpReading⟩

theorem hasCode_spelledAttempt (h : plainTotp.decoded secret = some [97, 98, 99, 100, 101]) :
    HasCode plainTotp [97, 98, 99, 100, 101] (totpCounter totpReading) (spelledAttempt secret) :=
  ⟨h, by
    show encode (trim " 000000".toList) = _
    decide +kernel⟩

theorem totp_one_time_at_spellings :
    let first := plainTotp.attempt (spelledAttempt "MFRGGZDF") fun _ => none
    first.1 = true ∧ (plainTotp.attempt (spelledAttempt "mfrg gzdf\n") first.2).1 = false := by
  have hsame : Advances totpReading totpReading := ⟨Nat.le_refl _, Nat.le_refl _, Int.le_refl _⟩
  have hvalid : ValidDuring (totpCounter totpReading) totpReading := by
    unfold ValidDuring
    omega
  have hpassed : (plainTotp.attempt (spelledAttempt "MFRGGZDF") fun _ => none).1 = true := by
    decide +kernel
  have hpath := Path.cons (TotpStep.attempt (B := plainTotp) (s := { clock := totpReading })
    (x := spelledAttempt "MFRGGZDF") hsame hsame hsame)
    (.single (TotpStep.attempt (x := spelledAttempt "mfrg gzdf\n") hsame hsame hsame))
  have hone := (totp_one_time plainTotp).1 _ _ _ [] _ [] _ [] _ _ hpath rfl
    (hasCode_spelledAttempt (by decide +kernel)) (hasCode_spelledAttempt (by decide +kernel))
    hvalid hvalid hvalid hvalid
  exact ⟨hpassed, Bool.eq_false_iff.mpr fun h => hone ⟨hpassed, h⟩⟩

end MinimalRouter.Auth
