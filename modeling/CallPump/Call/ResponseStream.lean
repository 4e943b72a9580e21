/-
  CallPump.Call.ResponseStream — one request, many responses.

  The stream is opened, then read response by response, each read issued after the one
  before it was dispatched. The first error, or the end, closes the call.
-/

import CallPump.Call.Op
import CallPump.Call.Resolver

namespace CallPump

inductive ResponseStep where
  | startRead
  | readOn
  | callback
  deriving DecidableEq, Repr, Inhabited

structure ResponseStreamCall (Resp C : Type) where
  resolver : Resolver C := {}
  step : ResponseStep := .startRead
  responses : List Resp := []
  deadline : Option Instant := none

namespace ResponseStreamCall

variable {Req Resp C : Type}

def start (s : ResponseStreamCall Resp C) (live : Bool) (ctx : Context) (request : Req) (cb : C) :
    Option (Move (ResponseStreamCall Resp C) Req Resp C) :=
  match s.resolver.begin? cb with
  | none => none
  | some (r, .reap) => some { next := { s with resolver := r }, cmds := [.post (.nudge false)] }
  | some (r, .started) =>
    let s := { s with step := .startRead, deadline := ctx.deadline }
    if live then some { next := { s with resolver := r }, cmds := [.post (.openStream ctx request)] }
    else
      let (r, back) := r.fail
      some { next := { s with resolver := r }, reject := if back then some .shutdown else none }

def cancel (s : ResponseStreamCall Resp C) : Move (ResponseStreamCall Resp C) Req Resp C :=
  let (r, back) := s.resolver.cancel
  { next := { s with resolver := r, responses := [] }, reject := if back then some .cancelled else none }

def read (s : ResponseStreamCall Resp C) : Move (ResponseStreamCall Resp C) Req Resp C :=
  { next := { s with step := .readOn }, cmds := [.post (.read s.deadline)] }

def finish (s : ResponseStreamCall Resp C) (r : Except GrpcStatus Unit) :
    Move (ResponseStreamCall Resp C) Req Resp C :=
  { next := { s with step := .callback }, cmds := [.post (.settled true (.closed r))] }

def advance (s : ResponseStreamCall Resp C) (_ok : Bool) (p : Payload Resp) :
    Move (ResponseStreamCall Resp C) Req Resp C :=
  if s.resolver.state ≠ .called then .done s
  else match s.step with
    | .startRead =>
      match p.takeOpened with
      | .ok () => s.read
      | .error e => s.finish (.error e)
    | .readOn =>
      match p.takeItem with
      | .ok (some r) => read { s with responses := s.responses ++ [r] }
      | .ok none => s.finish (.ok ())
      | .error e => s.finish (.error e)
    | .callback =>
      match s.resolver.complete with
      | (r, some cb) =>
        { next := { s with resolver := r, responses := [] },
          answer := some (cb, p.takeClosed.map fun () => .many s.responses), release := true }
      | (r, none) => .done { s with resolver := r, responses := [] }

end ResponseStreamCall

end CallPump
