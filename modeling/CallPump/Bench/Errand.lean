/-
  CallPump.Bench.Errand — a completion queue on its own, fed with errands.

  An errand waits for this and that and then brings its payload. Posted, it comes back as
  a completion; spawned, under a name, it is joined. A posted errand that panics never
  comes back. When the queue shuts down, every errand that has not ended is given up.
-/

import CallPump.Bench.Clock
import CallPump.Queue

namespace CallPump.Bench

inductive Hold where
  | nap (n : Nap)
  /-- Waits a while. -/
  | sleep (t : Span)
  | panic
  deriving DecidableEq, Repr

structure Errand (V : Type) where
  holds : List Hold := []
  ok : Bool := true
  payload : V
  deriving Repr

inductive Job where
  | posted (ticket : Nat)
  | spawned (n : Nat)
  deriving DecidableEq, Repr

/-- What has become of a spawned errand. -/
inductive Joined (V : Type) where
  | pending
  | finished (v : V)
  | abandoned
  | panicked
  deriving Repr

structure Errands (V : Type) where
  queue : Queue Unit V := {}
  clock : Clock Job := {}
  /-- The errands under way. -/
  jobs : List (Job × Errand V) := []
  /-- Spawned errands by name, with their numbers. -/
  names : List (String × Nat) := []
  ended : List (Nat × Joined V) := []
  spawns : Nat := 0

namespace Errands

variable {V : Type}

/-- How far an errand got. -/
inductive Reach where
  | done
  | waits (n : Nap) (left : List Hold)
  | rests (left : List Hold)
  | panicked

/-- Passes what holds an errand, of which `n` may be taken before a rest. -/
def reach (c : Clock Job) : List Hold → Nat → Reach
  | [], _ => .done
  | .panic :: _, _ => .panicked
  | .nap n :: hs, k =>
    if k = 0 then .rests (.nap n :: hs)
    else if c.isOver n then reach c hs (k - 1)
    else .waits n (.nap n :: hs)
  | .sleep t :: hs, k =>
    if k = 0 then .rests (.sleep t :: hs)
    else if t = 0 then reach c hs (k - 1)
    else .waits (.until (c.now + t)) (.nap (.until (c.now + t)) :: hs)

def finish (e : Errands V) (j : Job) (r : Option (Errand V)) : Errands V :=
  let e := { e with jobs := e.jobs.filter (·.1 != j), clock := e.clock.forget j }
  match j, r with
  | .posted t, some x => { e with queue := e.queue.finish t x.ok x.payload }
  | .posted t, none => { e with queue := e.queue.abandon t }
  | .spawned n, some x => { e with ended := (n, .finished x.payload) :: e.ended }
  | .spawned n, none => { e with ended := (n, .panicked) :: e.ended }

def poll (e : Errands V) (j : Job) : Errands V :=
  match e.jobs.lookup j with
  | none => e
  | some x =>
    let hold (left : List Hold) (c : Clock Job) : Errands V :=
      { e with clock := c, jobs := e.jobs.map fun k => if k.1 = j then (j, { x with holds := left }) else k }
    match reach e.clock x.holds Clock.stride with
    | .done => e.finish j (some x)
    | .panicked => e.finish j none
    | .waits n left => hold left (e.clock.enroll j n)
    | .rests left => hold left (e.clock.rest j)

def settleN : Nat → Errands V → Errands V
  | 0, e => e
  | n + 1, e =>
    match e.clock.next? with
    | none => e
    | some (j, c) => settleN n ({ e with clock := c }.poll j)

/-- No errand wakes another. Between two rests an errand passes something that holds it. -/
def settle (e : Errands V) : Errands V :=
  settleN (e.jobs.foldl (fun n j => n + j.2.holds.length) e.clock.line.length) e

def send (e : Errands V) (j : Job) (x : Errand V) : Errands V :=
  { e with jobs := e.jobs ++ [(j, x)], clock := e.clock.wake j }

def post (e : Errands V) (tag : CallId) (x : Errand V) : Errands V × Bool :=
  match e.queue.post tag () with
  | none => (e, false)
  | some (t, q) => ({ e with queue := q }.send (.posted t) x, true)

def spawn (e : Errands V) (name : String) (x : Errand V) : Errands V × Bool :=
  if e.queue.closed then (e, false)
  else
    let n := e.spawns
    ({ e with spawns := n + 1, names := (name, n) :: e.names.filter (·.1 != name) }.send (.spawned n) x, true)

/-- `none`: no such errand. One that has ended is forgotten. -/
def join (e : Errands V) (name : String) : Errands V × Option (Joined V) :=
  match e.names.lookup name with
  | none => (e, none)
  | some n =>
    match e.ended.lookup n with
    | none => (e, some .pending)
    | some r => ({ e with names := e.names.filter (·.1 != name) }, some r)

def next (e : Errands V) : Errands V × QueueEvent V :=
  let (ev, q) := e.queue.next
  ({ e with queue := q }, ev)

/-- Lets time pass up to `t`, from timer to timer, until a completion is there. -/
def await (t : Instant) : Nat → Errands V → Errands V
  | 0, e => e
  | n + 1, e =>
    if !e.queue.ready.isEmpty || e.queue.closed then e
    else match e.clock.timers.find? (·.expiry ≤ t) with
      | some u => await t n { e with clock := e.clock.moveTo (max e.clock.now u.expiry) }.settle
      | none => { e with clock := e.clock.moveTo t }.settle

/-- Every wait of an errand is passed at most once. -/
def awaitFor (e : Errands V) (span : Span) : Errands V :=
  e.await (e.clock.now + span) (e.jobs.foldr (fun j n => j.2.holds.length + 1 + n) (e.clock.timers.length + 1))

def openGate (e : Errands V) (g : String) : Errands V := { e with clock := e.clock.openGate g }.settle

def advance (e : Errands V) (span : Span) : Errands V :=
  (Clock.slices e.clock.now span).foldl (fun e t => settle { e with clock := e.clock.moveTo t }) e

def shutdown (e : Errands V) : Errands V :=
  let gone := e.jobs.filterMap fun j => match j.1 with
    | .spawned n => some (n, Joined.abandoned)
    | .posted _ => none
  { e with queue := e.queue.shutdown, clock := e.clock.clear, jobs := [], ended := gone ++ e.ended }

/-- A wait on the queue that a shutdown ends. -/
def nextDuringShutdown (e : Errands V) : Errands V × QueueEvent V :=
  if e.queue.ready.isEmpty then (e.shutdown, .shutdown)
  else
    let (e, ev) := e.next
    (e.shutdown, ev)

end Errands

end CallPump.Bench
