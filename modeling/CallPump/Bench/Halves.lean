/-
  CallPump.Bench.Halves — one promise and one future, in the same hands.

  The holder may use up or drop either half. A wait is not begun while the promise is
  held, since nobody else would set it. A future can be shared into handles, which read
  the outcome without taking it; a future that was spent before must not be polled, and
  handles of such a future stay broken after the first poll. A new pair takes the place of
  both halves, but the handles stay with the pair that they were made from.
-/

import CallPump.Handoff

namespace CallPump.Bench

/-- The handles that a future was shared into. -/
structure Handles (T : Type) where
  count : Nat := 0
  broken : Bool := false
  /-- Their pair, once another has taken its place. -/
  left : Option (Handoff T) := none

structure Halves (T : Type) where
  handoff : Handoff T := { promise := .dropped, future := .dropped }
  /-- The future is in hand. -/
  inHand : Bool := false
  handles : Handles T := {}

/-- What is seen of a future. -/
inductive Sight (T : Type) where
  | noFuture
  | wouldBlock
  | pending
  | outcome (o : Outcome T)
  /-- Ends by a panic. -/
  | panic (text : String)

namespace Halves

variable {T : Type}

def calledAfterComplete : String := "called after complete"

def innerPanicked : String := "inner future panicked during poll"

/-- A pair in place of the one that was held; its promise is dropped. -/
def replace (h : Halves T) (p : Handoff T) : Halves T where
  handoff := p
  inHand := true
  handles := { h.handles with left := some (h.handles.left.getD h.handoff.dropPromise) }

def new (h : Halves T) : Halves T := h.replace {}

def ready (h : Halves T) (o : Outcome T) : Halves T := h.replace (.ready o)

def hasPromise (h : Halves T) : Bool := h.handoff.promise = .held

/-- `none` without a promise; else whether the future will see the outcome. -/
def set (h : Halves T) (o : Outcome T) : Halves T × Option Bool :=
  if h.hasPromise then
    let (f, b) := h.handoff.set o
    ({ h with handoff := f }, some b)
  else (h, none)

def dropPromise (h : Halves T) : Halves T × Bool :=
  ({ h with handoff := h.handoff.dropPromise }, h.hasPromise)

def dropFuture (h : Halves T) : Halves T × Bool :=
  if h.inHand then ({ h with handoff := h.handoff.dropFuture, inHand := false }, true) else (h, false)

def sightOf : Look T → Sight T
  | .pending => .pending
  | .outcome o => .outcome o

def look (h : Halves T) : Halves T × Sight T :=
  let (f, l) := h.handoff.look
  ({ h with handoff := f }, sightOf l)

def tryTake (h : Halves T) : Halves T × Sight T := if h.inHand then h.look else (h, .noFuture)

def poll (h : Halves T) : Halves T × Sight T :=
  if !h.inHand then (h, .noFuture)
  else if h.handoff.canPoll then h.look
  else (h, .panic calledAfterComplete)

def wait (h : Halves T) : Halves T × Sight T :=
  if h.hasPromise then (h, .wouldBlock)
  else
    let (g, s) := h.poll
    ({ g with inHand := false }, s)

/-- Waits while another thread sets the promise; `none` when a half is missing, and then the
    other is lost. -/
def setFromThread (h : Halves T) (o : Outcome T) : Halves T × Option (Sight T × Bool) :=
  if h.hasPromise && h.inHand then
    let (f, b) := h.handoff.set o
    let (g, s) := { h with handoff := f }.look
    ({ g with inHand := false }, some (s, b))
  else (h.dropPromise.1.dropFuture.1, none)

/-- Waiting where tasks run is not allowed. `false` without a future. -/
def waitAmongTasks (h : Halves T) : Halves T × Bool := h.dropFuture

/-- `false` without a future. A future that is shared among nobody is dropped. -/
def share (h : Halves T) (n : Nat) : Halves T × Bool :=
  let (g, had) := if n = 0 then h.dropFuture else ({ h with inHand := false }, h.inHand)
  if had then ({ g with handles := { count := n } }, true) else (h, false)

/-- What each handle reads. -/
def pollShared (h : Halves T) : Halves T × Except String (List (Sight T)) :=
  let pair := h.handles.left.getD h.handoff
  if h.handles.count = 0 then (h, .ok [])
  else if h.handles.broken then (h, .error innerPanicked)
  else if pair.canPoll then (h, .ok (List.replicate h.handles.count (sightOf pair.look.2)))
  else ({ h with handles := { h.handles with broken := true } }, .error calledAfterComplete)

end Halves

end CallPump.Bench
