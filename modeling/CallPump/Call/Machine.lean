/-
  CallPump.Call.Machine — a call of any of the four kinds, driven through one interface.
-/

import CallPump.Call.Bidi
import CallPump.Call.ResponseStream
import CallPump.Call.Unary

namespace CallPump

inductive CallKind where
  | unary
  | requestStream
  | responseStream
  | bidi
  deriving DecidableEq, Repr, Inhabited

def CallKind.name : CallKind → String
  | .unary => "Unary"
  | .requestStream => "RequestStream"
  | .responseStream => "ResponseStream"
  | .bidi => "RequestResponseStream"

/-- Whether the responses come as a stream. -/
def CallKind.streams : CallKind → Bool
  | .unary | .requestStream => false
  | .responseStream | .bidi => true

/-- The requests that a start of each kind takes. -/
inductive Launch (Req : Type) where
  | unary (request : Req)
  | requestStream (requests : List Req)
  | responseStream (request : Req)
  | bidi (requests : List Req)
  deriving Repr

def Launch.kind {Req : Type} : Launch Req → CallKind
  | .unary _ => .unary
  | .requestStream _ => .requestStream
  | .responseStream _ => .responseStream
  | .bidi _ => .bidi

inductive Machine (Req Resp C : Type) where
  | unary (s : UnaryCall C)
  | requestStream (s : RequestStreamCall Req C)
  | responseStream (s : ResponseStreamCall Resp C)
  | bidi (s : BidiCall Req Resp C)

namespace Machine

variable {Req Resp C : Type}

def new : CallKind → Machine Req Resp C
  | .unary => .unary {}
  | .requestStream => .requestStream {}
  | .responseStream => .responseStream {}
  | .bidi => .bidi {}

def kind : Machine Req Resp C → CallKind
  | .unary _ => .unary
  | .requestStream _ => .requestStream
  | .responseStream _ => .responseStream
  | .bidi _ => .bidi

def resolver : Machine Req Resp C → Resolver C
  | .unary s => s.resolver
  | .requestStream s => s.resolver
  | .responseStream s => s.resolver
  | .bidi s => s.resolver

def state (m : Machine Req Resp C) : CallState := m.resolver.state

/-- `none`: the call was started before. A launch of another kind starts nothing. -/
def start (m : Machine Req Resp C) (live : Bool) (ctx : Context) (l : Launch Req) (cb : C) :
    Option (Move (Machine Req Resp C) Req Resp C) :=
  match m, l with
  | .unary s, .unary q => (s.start live ctx q cb).map (·.map .unary)
  | .requestStream s, .requestStream qs => (s.start live ctx qs cb).map (·.map .requestStream)
  | .responseStream s, .responseStream q => (s.start live ctx q cb).map (·.map .responseStream)
  | .bidi s, .bidi qs => (s.start live ctx qs cb).map (·.map .bidi)
  | m, _ => some { next := m }

def cancel : Machine Req Resp C → Move (Machine Req Resp C) Req Resp C
  | .unary s => s.cancel.map .unary
  | .requestStream s => s.cancel.map .requestStream
  | .responseStream s => s.cancel.map .responseStream
  | .bidi s => s.cancel.map .bidi

/-- Takes one completion. -/
def advance (m : Machine Req Resp C) (ok : Bool) (p : Payload Resp) : Move (Machine Req Resp C) Req Resp C :=
  match m with
  | .unary s => (s.advance ok p).map .unary
  | .requestStream s => (s.advance ok p).map .requestStream
  | .responseStream s => (s.advance ok p).map .responseStream
  | .bidi s => (s.advance ok p).map .bidi

end Machine

end CallPump
