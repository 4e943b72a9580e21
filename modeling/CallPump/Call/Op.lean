/-
  CallPump.Call.Op — what calls ask of the transport, what comes back, and what a
  transition of a call consists of.

  A call has at most one body (the RPC running over a channel of requests) and at most
  one response stream, so an operation need not name them. Every operation is posted on
  the completion queue and comes back once, as a flag and a payload.
-/

import CallPump.Context
import CallPump.Status

namespace CallPump

/-- One message or a list of them, as the kind of call has it. -/
inductive Answer (α : Type) where
  | one (a : α)
  | many (as : List α)
  deriving Repr

/-- What a completion carries. -/
inductive Payload (Resp : Type) where
  | unit
  /-- The answer of an RPC with a single response. -/
  | outcome (r : Except GrpcStatus Resp)
  /-- An attempt to open the response stream. -/
  | opened (r : Except GrpcStatus Unit)
  /-- The stream's next item; none at its end. -/
  | item (r : Option (Except GrpcStatus Resp))
  /-- How the responses ended. -/
  | closed (r : Except GrpcStatus Unit)

namespace Payload

variable {Resp : Type}

/-! What a step takes from a payload; any other payload is an error of the transport. -/

def takeOutcome : Payload Resp → Except GrpcStatus Resp
  | .outcome r => r
  | _ => .error .wrongPayload

def takeOpened : Payload Resp → Except GrpcStatus Unit
  | .opened r => r
  | _ => .error .wrongPayload

def takeItem : Payload Resp → Except GrpcStatus (Option Resp)
  | .item none => .ok none
  | .item (some (.ok r)) => .ok (some r)
  | .item (some (.error e)) => .error e
  | _ => .error .wrongPayload

def takeClosed : Payload Resp → Except GrpcStatus Unit
  | .closed r => r
  | _ => .error .wrongPayload

/-- Whether an open response stream travels in the payload. -/
def hasStream : Payload Resp → Bool
  | .opened (.ok _) => true
  | .item _ => true
  | _ => false

end Payload

inductive Op (Req Resp : Type) where
  /-- Completes at once. -/
  | settled (ok : Bool) (payload : Payload Resp)
  /-- The whole RPC: one request, one response. -/
  | exchange (context : Context) (request : Req)
  /-- Opens a response stream for one request. -/
  | openStream (context : Context) (request : Req)
  /-- Puts a request on the channel; the flag says whether it was accepted. -/
  | write (deadline : Option Instant) (request : Req)
  /-- Waits for the body's answer. -/
  | join
  /-- Waits for the body to open the response stream. -/
  | joinStream
  /-- Reads the next response. -/
  | read (deadline : Option Instant)
  /-- Waits for the body to open the stream, then reads it to its end for its status. -/
  | drain (deadline : Option Instant)

/-- Completes at once and says nothing. -/
def Op.nudge {Req Resp : Type} (ok : Bool) : Op Req Resp := .settled ok .unit

inductive Cmd (Req Resp : Type) where
  /-- Starts the body over a new channel of requests. -/
  | spawn (context : Context)
  /-- Gives up the writing end of the channel. -/
  | hangUp
  | post (op : Op Req Resp)

/-- A transition of a call in state type `S` with callbacks of type `C`. -/
structure Move (S Req Resp C : Type) where
  next : S
  cmds : List (Cmd Req Resp) := []
  /-- The promise is to be rejected with this. -/
  reject : Option Status := none
  /-- The callback is to run on this, and its result resolves the promise. -/
  answer : Option (C × Except GrpcStatus (Answer Resp)) := none
  /-- The call is done with the queue. -/
  release : Bool := false

namespace Move

variable {S S' Req Resp C : Type}

def map (f : S → S') (m : Move S Req Resp C) : Move S' Req Resp C where
  next := f m.next
  cmds := m.cmds
  reject := m.reject
  answer := m.answer
  release := m.release

/-- Nothing is left to do for the call. -/
def done (s : S) : Move S Req Resp C := { next := s, release := true }

end Move

end CallPump
