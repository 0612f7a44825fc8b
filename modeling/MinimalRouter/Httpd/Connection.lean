import MinimalRouter.Httpd.Body

namespace MinimalRouter.Httpd

open Goish Lib Lib.Utf8

inductive HandlerAct
  | read : Nat → Conditions → HandlerAct
  | limitBody : Nat → HandlerAct

/-- What the connection does for one request: the acts of its handler, the conditions under which
the rest of the body is drained, and whether the response can be written. -/
structure Turn where
  acts : List HandlerAct := []
  draining : Nat → Conditions := fun _ => {}
  written : Bool := true

structure Reading where
  body : Body
  stream : Bytes
  results : List (Except BodyError Bytes) := []
  sizes : List Text := []

namespace Reading

def read (r : Reading) (c : Conditions) (len : Nat) : Reading :=
  let out := r.body.read c r.stream len
  { body := out.state, stream := out.feed.stream, results := r.results ++ [out.result]
    sizes := r.sizes ++ out.size.toList }

def act (r : Reading) : HandlerAct → Reading
  | .read len c => r.read c len
  | .limitBody limit => { r with body := { r.body with limit := some (r.body.consumed + limit) } }

def acts (r : Reading) (acts : List HandlerAct) : Reading := acts.foldl act r

def drainLimit : Nat := 256 * 1024

/-- Reads on until the body ends, a read fails or the limit is reached.  Every read that goes on
adds at least one byte, so that the limit also bounds the number of reads. -/
def drainLoop (draining : Nat → Conditions) : Nat → Nat → Reading → Reading
  | 0, _, r => r
  | fuel + 1, drained, r =>
    if drained < drainLimit then
      let r' := r.read (draining fuel) 8192
      match r'.results.getLast? with
      | some (.ok (b :: data)) => drainLoop draining fuel (drained + (b :: data).length) r'
      | _ => r'
    else r

def unlimited (r : Reading) : Reading := { r with body := { r.body with limit := none } }

def drain (draining : Nat → Conditions) (r : Reading) : Reading :=
  if !r.body.finished && !r.body.continuePending && !r.body.exceeded then
    drainLoop draining drainLimit 0 r.unlimited
  else r

end Reading

structure ServerOptions where
  maxHeaderBytes : Nat

structure Handled where
  turn : Turn
  request : Request
  opened : Body
  bodyStart : Bytes
  (byHandler drained : Reading)
  next : Option Bytes

def Head.closes (head : Head) : Bool :=
  let connection := (head.headers.get "Connection").map asciiLower
  containsText "close".toList connection ||
    (head.proto == "HTTP/1.0".toList && !containsText "keep-alive".toList connection)

def Head.expectsContinue (head : Head) : Bool :=
  eqIgnoreAsciiCase (head.headers.get "Expect") "100-continue".toList &&
    head.proto == "HTTP/1.1".toList

def openBody (head : Head) (request : Request) : Body where
  remaining := request.contentLength.toNat
  chunked := if head.chunked then some {} else none
  continuePending := head.expectsContinue && request.contentLength != 0

def serveRequest (options : ServerOptions) (remote localAddr : String) (turn : Turn)
    (stream : Bytes) : Option Handled :=
  match readHead options.maxHeaderBytes stream with
  | .error _ => none
  | .ok (head, bodyStart) =>
    match receive remote localAddr head with
    | .error _ => none
    | .ok request =>
      let opened := openBody head request
      let byHandler := Reading.acts ⟨opened, bodyStart, [], []⟩ turn.acts
      let drained := byHandler.drain turn.draining
      let close := head.closes || !drained.body.finished || drained.body.exceeded
      some { turn, request, opened, bodyStart, byHandler, drained
             next := if turn.written && !close then some drained.stream else none }

def Serves (options : ServerOptions) (remote localAddr : String) (stream : Bytes) (handled : Handled)
    (stream' : Bytes) : Prop :=
  serveRequest options remote localAddr handled.turn stream = some handled ∧
    handled.next = some stream'

section Readings

theorem Reading.drainLoop_succ (draining : Nat → Conditions) (fuel drained : Nat) (r : Reading) :
    drainLoop draining (fuel + 1) drained r = r ∨
      drainLoop draining (fuel + 1) drained r = r.read (draining fuel) 8192 ∨
      (∃ data, (r.body.read (draining fuel) r.stream 8192).result = .ok data) ∧
        ∃ drained', drainLoop draining (fuel + 1) drained r =
          drainLoop draining fuel drained' (r.read (draining fuel) 8192) := by
  simp only [drainLoop]
  split
  · split
    · next b data hlast =>
      exact .inr (.inr ⟨⟨_, Option.some.inj (by simpa [read] using hlast)⟩, _, rfl⟩)
    · exact .inr (.inl rfl)
  · exact .inl rfl

variable {I : Reading → Prop}

/-- What every read keeps, and what does not depend on the limit, holds after all that a handler
does. -/
theorem Reading.acts_keeps (hread : ∀ r c len, I r → I (r.read c len))
    (hlimit : ∀ r limit, I r → I (r.act (.limitBody limit))) (h : I r) : I (r.acts as) := by
  induction as generalizing r with
  | nil => exact h
  | cons a as ih =>
    cases a with
    | read len c => exact ih (hread r c len h)
    | limitBody limit => exact ih (hlimit r limit h)

theorem Reading.drain_keeps (hread : ∀ r c len, I r → I (r.read c len))
    (hunlimited : ∀ r, I r → I r.unlimited) (h : I r) : I (r.drain draining) := by
  have hloop : ∀ fuel drained r, I r → I (drainLoop draining fuel drained r) := by
    intro fuel
    induction fuel with
    | zero => exact fun _ _ h => h
    | succ fuel ih =>
      intro drained r h
      rcases drainLoop_succ draining fuel drained r with heq | heq | ⟨-, _, heq⟩
      · rw [heq]
        exact h
      · rw [heq]
        exact hread _ _ _ h
      · rw [heq]
        exact ih _ _ (hread _ _ _ h)
  unfold drain
  split
  · exact hloop _ _ _ (hunlimited r h)
  · exact h

end Readings

theorem serveRequest_eq_some
    (h : serveRequest options remote localAddr turn stream = some handled) :
    handled.turn = turn ∧ ∃ head,
      readHead options.maxHeaderBytes stream = .ok (head, handled.bodyStart) ∧
      receive remote localAddr head = .ok handled.request ∧
      handled.opened = openBody head handled.request ∧
      handled.byHandler = Reading.acts ⟨handled.opened, handled.bodyStart, [], []⟩ turn.acts ∧
      handled.drained = handled.byHandler.drain turn.draining ∧ ∀ after, handled.next = some after →
        handled.drained.body.finished = true ∧ handled.drained.stream = after := by
  unfold serveRequest at h
  split at h
  · cases h
  next head bodyStart hhead =>
  split at h
  · cases h
  next request hreceive =>
  cases h
  refine ⟨rfl, head, hhead, hreceive, rfl, rfl, rfl, fun after hnext => ?_⟩
  dsimp only at hnext
  split at hnext
  · next hopen =>
    simp only [Bool.and_eq_true, Bool.not_eq_true', Bool.or_eq_false_iff,
      Bool.not_eq_false'] at hopen
    exact ⟨hopen.2.1.2, Option.some.inj hnext⟩
  · cases hnext

def sampleOptions : ServerOptions := ⟨4096⟩

def served (turn : Turn) (stream : Bytes) : Option Handled :=
  serveRequest sampleOptions "client" "server" turn stream

end MinimalRouter.Httpd
