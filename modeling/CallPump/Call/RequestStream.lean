/-
  CallPump.Call.RequestStream — many requests, one response.

  The body runs from the start. Requests are written one at a time, each after the one
  before it was accepted; then the channel is closed and the body's answer awaited. A
  write that fails ends the writing: the body's answer tells why.
-/

import CallPump.Call.Op
import CallPump.Call.Resolver

namespace CallPump

inductive RequestStep where
  | writeRequest
  /-- The last request is on its way. -/
  | writesDone
  | finish
  | callback
  deriving DecidableEq, Repr, Inhabited

structure RequestStreamCall (Req C : Type) where
  resolver : Resolver C := {}
  step : RequestStep := .writeRequest
  pending : List Req := []
  /-- Whether the writing end of the channel is held. -/
  writer : Bool := false
  /-- Whether the body is held, to be joined. -/
  body : Bool := false
  deadline : Option Instant := none

/-- Writing needs the writing end; without it the write fails at once. -/
def writeOp {Req Resp : Type} (writer : Bool) (deadline : Option Instant) (request : Req) : Op Req Resp :=
  if writer then .write deadline request else .nudge false

namespace RequestStreamCall

variable {Req Resp C : Type}

def start (s : RequestStreamCall Req C) (live : Bool) (ctx : Context) (requests : List Req) (cb : C) :
    Option (Move (RequestStreamCall Req C) Req Resp C) :=
  match s.resolver.begin? cb with
  | none => none
  | some (r, .reap) => some { next := { s with resolver := r }, cmds := [.post (.nudge false)] }
  | some (r, .started) =>
    let s := { s with step := .writeRequest, pending := requests, deadline := ctx.deadline }
    if live then
      some { next := { s with resolver := r, writer := true, body := true },
             cmds := [.spawn ctx, .post (.nudge true)] }
    else
      let (r, back) := r.fail
      some { next := { s with resolver := r, writer := false, body := false },
             reject := if back then some .shutdown else none }

def cancel (s : RequestStreamCall Req C) : Move (RequestStreamCall Req C) Req Resp C :=
  let (r, back) := s.resolver.cancel
  { next := { s with resolver := r, writer := false, pending := [] }, cmds := [.hangUp],
    reject := if back then some .cancelled else none }

def closeWrites (s : RequestStreamCall Req C) : Move (RequestStreamCall Req C) Req Resp C :=
  { next := { s with writer := false, step := .finish }, cmds := [.hangUp, .post (.nudge true)] }

def writeNext (s : RequestStreamCall Req C) : Move (RequestStreamCall Req C) Req Resp C :=
  match s.pending with
  | [] => s.closeWrites
  | q :: rest =>
    { next := { s with pending := rest, step := if rest.isEmpty then .writesDone else s.step },
      cmds := [.post (writeOp s.writer s.deadline q)] }

/-- Writes no more and awaits the body's answer. -/
def finish (s : RequestStreamCall Req C) : Move (RequestStreamCall Req C) Req Resp C :=
  { next := { s with writer := false, pending := [], step := .callback, body := false },
    cmds := [.hangUp, .post (if s.body then .join else .settled true (.outcome (.error .neverOpened)))] }

def advance (s : RequestStreamCall Req C) (ok : Bool) (p : Payload Resp) :
    Move (RequestStreamCall Req C) Req Resp C :=
  if s.resolver.state ≠ .called then .done s
  else match s.step with
    | .writeRequest => if ok then s.writeNext else s.finish
    | .writesDone => if ok then s.closeWrites else s.finish
    | .finish => s.finish
    | .callback =>
      match s.resolver.complete with
      | (r, some cb) =>
        { next := { s with resolver := r }, answer := some (cb, p.takeOutcome.map .one), release := true }
      | (r, none) => .done { s with resolver := r }

end RequestStreamCall

end CallPump
