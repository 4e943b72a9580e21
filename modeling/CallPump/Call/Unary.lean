/-
  CallPump.Call.Unary — one request, one response.

  The whole RPC is one operation; its completion runs the callback.
-/

import CallPump.Call.Op
import CallPump.Call.Resolver

namespace CallPump

structure UnaryCall (C : Type) where
  resolver : Resolver C := {}

namespace UnaryCall

variable {Req Resp C : Type}

/-- `live`: the queue takes operations. `none`: the call was started before. -/
def start (s : UnaryCall C) (live : Bool) (ctx : Context) (request : Req) (cb : C) :
    Option (Move (UnaryCall C) Req Resp C) :=
  match s.resolver.begin? cb with
  | none => none
  | some (r, .reap) => some { next := { s with resolver := r }, cmds := [.post (.nudge false)] }
  | some (r, .started) =>
    if live then some { next := { s with resolver := r }, cmds := [.post (.exchange ctx request)] }
    else
      let (r, back) := r.fail
      some { next := { s with resolver := r }, reject := if back then some .shutdown else none }

def cancel (s : UnaryCall C) : Move (UnaryCall C) Req Resp C :=
  let (r, back) := s.resolver.cancel
  { next := { s with resolver := r }, reject := if back then some .cancelled else none }

/-- A completion; a call that is not running is only released. -/
def advance (s : UnaryCall C) (_ok : Bool) (p : Payload Resp) : Move (UnaryCall C) Req Resp C :=
  match s.resolver.complete with
  | (r, some cb) =>
    { next := { s with resolver := r }, answer := some (cb, p.takeOutcome.map .one), release := true }
  | (r, none) => .done { s with resolver := r }

end UnaryCall

end CallPump
