/-
  CallPump.Handoff — one outcome, handed from a promise to a future.

  The promise is set at most once or dropped; the future takes the outcome at most once.
  A future whose promise went away unset, or that has already been read to its end, reads
  as a dropped promise. Setting a promise whose future is gone loses the outcome.
-/

import CallPump.Status

namespace CallPump

inductive PromiseHalf where
  | held
  | used
  | dropped
  deriving DecidableEq, Repr, Inhabited

inductive FutureHalf where
  | unread
  /-- It gave an outcome and has none left. -/
  | spent
  | dropped
  deriving DecidableEq, Repr, Inhabited

structure Handoff (T : Type) where
  promise : PromiseHalf := .held
  future : FutureHalf := .unread
  stored : Option (Outcome T) := none

/-- One look at a future. -/
inductive Look (T : Type) where
  | pending
  | outcome (o : Outcome T)

namespace Handoff

variable {T : Type}

/-- A future that was born with its outcome. -/
def ready (o : Outcome T) : Handoff T := { promise := .used, stored := some o }

/-- Sets a held promise; whether the future will see it. -/
def set (h : Handoff T) (o : Outcome T) : Handoff T × Bool :=
  if h.promise = .held then
    if h.future = .dropped then ({ h with promise := .used }, false)
    else ({ h with promise := .used, stored := some o }, true)
  else (h, false)

def dropPromise (h : Handoff T) : Handoff T :=
  if h.promise = .held then { h with promise := .dropped } else h

def dropFuture (h : Handoff T) : Handoff T := { h with future := .dropped, stored := none }

/-- Takes the outcome if there is one to take. -/
def look (h : Handoff T) : Handoff T × Look T :=
  match h.future, h.stored with
  | .unread, some o => ({ h with future := .spent, stored := none }, .outcome o)
  | .unread, none =>
    if h.promise = .held then (h, .pending) else ({ h with future := .spent }, .outcome (.error .promiseDropped))
  | _, _ => (h, .outcome (.error .promiseDropped))

/-- A spent future must not be polled or waited on. -/
def canPoll (h : Handoff T) : Bool := h.future = .unread

/-- A wait would not end while the promise is held and unset. -/
def wouldBlock (h : Handoff T) : Bool := h.future = .unread && h.promise = .held

end Handoff

end CallPump
