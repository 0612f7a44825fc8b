import MinimalRouter.Httpd.Message

namespace MinimalRouter.Httpd

open Goish Lib Lib.Utf8

/-- Why a read fails.  The connection can fail between two lines of the framing or inside one. -/
inductive BodyError
  | tooLarge | failed | torn | unexpectedEof | lineTooLong | malformedChunk | invalidChunkLength
  deriving DecidableEq

/-- What the connection has for one read: the bytes to come, and after how many of them it fails. -/
structure Feed where
  stream : Bytes
  fault : Option Nat := none

def failing (fault : Option Nat) : Bool := fault == some 0

def readLine (limit : Nat) : Option Nat → Bytes → Bytes → Except BodyError Bytes × Feed
  | fault, line, [] =>
    if failing fault then (.error (if line.isEmpty then .failed else .torn), ⟨[], fault⟩)
    else (.error .unexpectedEof, ⟨[], fault⟩)
  | fault, line, b :: rest =>
    if failing fault then (.error (if line.isEmpty then .failed else .torn), ⟨b :: rest, fault⟩)
    else if b = 0x0A then (.ok (chomp line), ⟨rest, fault.map (· - 1)⟩)
    else if line.length + 1 > limit + 1 then (.error .lineTooLong, ⟨rest, fault.map (· - 1)⟩)
    else readLine limit (fault.map (· - 1)) (line ++ [b]) rest

def readLineFrom (feed : Feed) (limit : Nat) : Except BodyError Bytes × Feed :=
  readLine limit feed.fault [] feed.stream

def readTrailer : Option Nat → Bytes → Bytes → Except BodyError Unit × Feed
  | fault, _, [] =>
    if failing fault then (.error .torn, ⟨[], fault⟩) else (.error .unexpectedEof, ⟨[], fault⟩)
  | fault, line, b :: rest =>
    if failing fault then (.error .torn, ⟨b :: rest, fault⟩)
    else if b = 0x0A then
      if (chomp line).isEmpty then (.ok (), ⟨rest, fault.map (· - 1)⟩)
      else readTrailer (fault.map (· - 1)) [] rest
    else if line.length + 1 > 4096 + 1 then (.error .lineTooLong, ⟨rest, fault.map (· - 1)⟩)
    else readTrailer (fault.map (· - 1)) (line ++ [b]) rest

def sizeText (line : Bytes) : Text := Utf8.trim (((fromUtf8Lossy line).splitOn ';').headD [])

def chunkSize (line : Bytes) : Option Nat := parseUnsigned 16 (2 ^ 64) (sizeText line)

structure ChunkState where
  remaining : Nat := 0
  (needCrlf done : Bool := false)
  deriving DecidableEq

/-- A read: the data, the reader after it, what is left of the connection, and the size that was
accepted on the way. -/
structure ReadOutcome (σ : Type) where
  result : Except BodyError Bytes
  state : σ
  feed : Feed
  size : Option Text := none

/-- Up to a number of bytes, of which the connection delivers as many as it likes but at least one;
none at its end. -/
def readData (feed : Feed) (want deliver : Nat) : Except BodyError (Bytes × Feed) :=
  let n := min want (max 1 deliver)
  let data := feed.stream.take n
  if failing feed.fault then .error .failed
  else if data.isEmpty then .error .unexpectedEof
  else .ok (data, ⟨feed.stream.drop n, feed.fault.map (· - 1)⟩)

def readChunkData (feed : Feed) (state : ChunkState) (want deliver : Nat) (size : Option Text) :
    ReadOutcome ChunkState :=
  match readData feed (min want state.remaining) deliver with
  | .error e => { result := .error e, state, feed, size }
  | .ok (data, feed) => {
      result := .ok data
      state := { state with remaining := state.remaining - data.length }
      feed, size }

def readChunkHeader (feed : Feed) (state : ChunkState) (want deliver : Nat) :
    ReadOutcome ChunkState :=
  match readLineFrom feed 4096 with
  | (.error e, feed) => { result := .error e, state, feed }
  | (.ok line, feed) =>
    match chunkSize line with
    | none => { result := .error .invalidChunkLength, state, feed }
    | some 0 =>
      match readTrailer feed.fault [] feed.stream with
      | (.error e, feed) => { result := .error e, state, feed, size := some (sizeText line) }
      | (.ok _, feed) => {
          result := .ok [], state := { state with done := true }, feed
          size := some (sizeText line) }
    | some (n + 1) =>
      readChunkData feed { state with remaining := n + 1, needCrlf := true } want deliver
        (some (sizeText line))

def readChunked (feed : Feed) (state : ChunkState) (want deliver : Nat) :
    ReadOutcome ChunkState :=
  if state.done then { result := .ok [], state, feed }
  else if state.remaining ≠ 0 then readChunkData feed state want deliver none
  else if !state.needCrlf then readChunkHeader feed state want deliver
  else match readLineFrom feed 0 with
    | (.error e, feed) => { result := .error e, state, feed }
    | (.ok line, feed) =>
      if !line.isEmpty then { result := .error .malformedChunk, state, feed }
      else readChunkHeader feed { state with needCrlf := false } want deliver

/-- The reader of a body, with the limit that the handler has set and what it has read. -/
structure Body where
  remaining : Nat
  chunked : Option ChunkState
  limit : Option Nat := none
  consumed : Nat := 0
  continuePending : Bool
  exceeded : Bool := false

/-- How the connection behaves during one read: whether it takes the interim response, whether the
deadline has not passed, after how many bytes it fails, and how many bytes of data it delivers. -/
structure Conditions where
  (continues armed : Bool := true)
  fault : Option Nat := none
  deliver : Nat := 8192

namespace Body

def finished (body : Body) : Bool :=
  match body.chunked with
  | some state => state.done
  | none => body.remaining == 0

def readSource (body : Body) (feed : Feed) (want deliver : Nat) : ReadOutcome Body :=
  match body.chunked with
  | some state =>
    let out := readChunked feed state want deliver
    { out with state := { body with chunked := some out.state } }
  | none =>
    if body.remaining = 0 then { result := .ok [], state := body, feed }
    else match readData feed (min want body.remaining) deliver with
      | .error e => { result := .error e, state := body, feed }
      | .ok (data, feed) => {
          result := .ok data
          state := { body with remaining := body.remaining - data.length }
          feed }

def ready (body : Body) (c : Conditions) : Bool :=
  (!body.continuePending || c.continues) && c.armed

def invited (body : Body) : Body := { body with continuePending := false }

def readFramed (body : Body) (c : Conditions) (stream : Bytes) (want : Nat) :
    ReadOutcome Body :=
  if body.ready c then body.invited.readSource ⟨stream, c.fault⟩ want c.deliver
  else { result := .error .failed, state := body.invited, feed := ⟨stream, c.fault⟩ }

def counted (out : ReadOutcome Body) : ReadOutcome Body :=
  match out.result with
  | .error _ => out
  | .ok data => { out with
      state := { out.state with consumed := out.state.consumed + data.length } }

def refused (out : ReadOutcome Body) : ReadOutcome Body :=
  { out with result := .error .tooLarge, state := { out.state with exceeded := true } }

def read (body : Body) (c : Conditions) (stream : Bytes) (len : Nat) : ReadOutcome Body :=
  if len = 0 then { result := .ok [], state := body, feed := ⟨stream, c.fault⟩ }
  else match body.limit with
    | none => counted (body.readFramed c stream len)
    | some limit =>
      if body.continuePending && body.chunked.isNone && body.remaining > limit then
        refused { result := .ok [], state := body.invited, feed := ⟨stream, c.fault⟩ }
      else if body.consumed ≥ limit then
        -- one more byte proves that the body is larger than allowed
        let out := body.readFramed c stream 1
        match out.result with
        | .ok (_ :: _) => refused out
        | _ => out
      else counted (body.readFramed c stream (min (limit - body.consumed) len))

end Body

end MinimalRouter.Httpd
