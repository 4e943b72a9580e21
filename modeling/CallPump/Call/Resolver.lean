/-
  CallPump.Call.Resolver — the part that every kind of call shares: its state, its
  callback and its promise.

  A call goes from not started to called to completed; it can be cancelled until it has
  completed. Callback and promise leave the resolver together when the call completes;
  a cancelled call gives up its callback and hands back the promise to be rejected.
-/

import CallPump.Status

namespace CallPump

inductive CallState where
  | notStarted
  | called
  | cancelled
  | completed
  deriving DecidableEq, Repr, Inhabited

def CallState.name : CallState → String
  | .notStarted => "NotStarted"
  | .called => "Called"
  | .cancelled => "Cancelled"
  | .completed => "Completed"

structure Resolver (C : Type) where
  state : CallState := .notStarted
  callback : Option C := none
  /-- Whether the promise is still here. -/
  promise : Bool := true

/-- What a start that is allowed leads to. -/
inductive Begin where
  /-- The first operation is to be issued. -/
  | started
  /-- The call was cancelled before: it only has to come by the pump once to be freed. -/
  | reap
  deriving DecidableEq, Repr

namespace Resolver

variable {C : Type}

/-- `none`: the call was started before. -/
def begin? (r : Resolver C) (cb : C) : Option (Resolver C × Begin) :=
  match r.state with
  | .notStarted => some ({ r with state := .called, callback := some cb }, .started)
  | .cancelled => some (r, .reap)
  | .called | .completed => none

/-- Whether the promise was handed back, to be rejected. -/
def cancel (r : Resolver C) : Resolver C × Bool :=
  match r.state with
  | .notStarted | .called => ({ state := .cancelled, callback := none, promise := false }, r.promise)
  | .cancelled | .completed => (r, false)

/-- Completes a called call; its callback, if the promise is there to take its result. -/
def complete (r : Resolver C) : Resolver C × Option C :=
  if r.state = .called then
    ({ state := .completed, callback := none, promise := false }, if r.promise then r.callback else none)
  else (r, none)

/-- Completes a called call without its callback; whether the promise was handed back. -/
def fail (r : Resolver C) : Resolver C × Bool :=
  if r.state = .called then ({ state := .completed, callback := none, promise := false }, r.promise)
  else (r, false)

end Resolver

end CallPump
