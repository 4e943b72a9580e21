/-
  CallPump.Call.Bidi — many requests, then many responses.

  The requests are written as in a request stream and the responses read as in a response
  stream, in this order: nothing is read before the writing has ended. A write that fails
  ends the writing, and the responses are then read only for how they end.
-/

import CallPump.Call.RequestStream

namespace CallPump

inductive BidiStep where
  | writeRequest
  /-- The last request is on its way. -/
  | writesDone
  | openStream
  | startRead
  | readOn
  | callback
  deriving DecidableEq, Repr, Inhabited

structure BidiCall (Req Resp C : Type) where
  resolver : Resolver C := {}
  step : BidiStep := .writeRequest
  pending : List Req := []
  /-- Whether the writing end of the channel is held. -/
  writer : Bool := false
  /-- Whether the body is held, to be joined. -/
  body : Bool := false
  responses : List Resp := []
  deadline : Option Instant := none

namespace BidiCall

variable {Req Resp C : Type}

def start (s : BidiCall Req Resp C) (live : Bool) (ctx : Context) (requests : List Req) (cb : C) :
    Option (Move (BidiCall Req Resp C) Req Resp C) :=
  match s.resolver.begin? cb with
  | none => none
  | some (r, .reap) => some { next := { s with resolver := r }, cmds := [.post (.nudge false)] }
  | some (r, .started) =>
    let s := { s with step := .writeRequest, pending := requests, deadline := ctx.deadline }
    if live then
      some { next := { s with resolver := r, writer := true, body := true },
             cmds := [.spawn ctx, .post (.nudge true)] }
    else
      let (r, back) := r.fail
      some { next := { s with resolver := r, writer := false, body := false },
             reject := if back then some .shutdown else none }

def cancel (s : BidiCall Req Resp C) : Move (BidiCall Req Resp C) Req Resp C :=
  let (r, back) := s.resolver.cancel
  { next := { s with resolver := r, writer := false, pending := [], responses := [] }, cmds := [.hangUp],
    reject := if back then some .cancelled else none }

def closeWrites (s : BidiCall Req Resp C) : Move (BidiCall Req Resp C) Req Resp C :=
  { next := { s with writer := false, step := .openStream }, cmds := [.hangUp, .post (.nudge true)] }

def writeNext (s : BidiCall Req Resp C) : Move (BidiCall Req Resp C) Req Resp C :=
  match s.pending with
  | [] => s.closeWrites
  | q :: rest =>
    { next := { s with pending := rest, step := if rest.isEmpty then .writesDone else s.step },
      cmds := [.post (writeOp s.writer s.deadline q)] }

def openStream (s : BidiCall Req Resp C) : Move (BidiCall Req Resp C) Req Resp C :=
  { next := { s with step := .startRead, body := false },
    cmds := [.post (if s.body then .joinStream else .settled false (.opened (.error .neverOpened)))] }

def read (s : BidiCall Req Resp C) : Move (BidiCall Req Resp C) Req Resp C :=
  { next := { s with step := .readOn }, cmds := [.post (.read s.deadline)] }

def finish (s : BidiCall Req Resp C) (r : Except GrpcStatus Unit) : Move (BidiCall Req Resp C) Req Resp C :=
  { next := { s with step := .callback }, cmds := [.post (.settled true (.closed r))] }

/-- Writes no more and reads the responses only for how they end. -/
def abandonWrites (s : BidiCall Req Resp C) : Move (BidiCall Req Resp C) Req Resp C :=
  { next := { s with writer := false, pending := [], step := .callback, body := false },
    cmds := [.hangUp,
      .post (if s.body then .drain s.deadline else .settled true (.closed (.error .neverOpened)))] }

def advance (s : BidiCall Req Resp C) (ok : Bool) (p : Payload Resp) : Move (BidiCall Req Resp C) Req Resp C :=
  if s.resolver.state ≠ .called then .done s
  else match s.step with
    | .writeRequest => if ok then s.writeNext else s.abandonWrites
    | .writesDone => if ok then s.closeWrites else s.abandonWrites
    | .openStream => s.openStream
    | .startRead =>
      match p.takeOpened with
      | .ok () => s.read
      | .error e => s.finish (.error e)
    | .readOn =>
      match p.takeItem with
      | .ok (some r) => read { s with responses := s.responses ++ [r] }
      | .ok none => s.finish (.ok ())
      | .error e => s.finish (.error e)
    | .callback =>
      match s.resolver.complete with
      | (r, some cb) =>
        { next := { s with resolver := r, responses := [] },
          answer := some (cb, p.takeClosed.map fun () => .many s.responses), release := true }
      | (r, none) => .done { s with resolver := r, responses := [] }

end BidiCall

end CallPump
