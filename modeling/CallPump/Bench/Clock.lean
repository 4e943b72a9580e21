/-
  CallPump.Bench.Clock — a clock that moves only when told, and the tasks it wakes.

  Tasks that can go on stand in a line, each at most once. A task waits for an instant or
  for a gate; gates stay open once opened. Instants are met to the millisecond: timers
  that run out together wake their tasks in the order in which they were set.

  A task that has gone on for long enough rests: it stands in line again when the line is
  empty, the one that began its rest last in front.
-/

import CallPump.Context

namespace CallPump.Bench

/-- What a task may wait for. -/
inductive Nap where
  | until (t : Instant)
  | gate (name : String)
  | forever
  deriving DecidableEq, Repr

structure Timer (K : Type) where
  expiry : Instant
  task : K
  deriving Repr

structure Clock (K : Type) where
  now : Instant := 0
  line : List K := []
  /-- Latest first. -/
  resting : List K := []
  timers : List (Timer K) := []
  opened : List String := []
  waiting : List (String × K) := []

namespace Clock

variable {K : Type} [DecidableEq K]

/-- The millisecond in which an instant is met. -/
def tick (t : Instant) : Nat := (t + 999999) / 1000000

def wake (c : Clock K) (k : K) : Clock K :=
  if c.line.contains k then c else { c with line := c.line ++ [k] }

def wakeAll (c : Clock K) (ks : List K) : Clock K := ks.foldl wake c

/-- How many naps and requests a task may take before it has to rest. -/
def stride : Nat := 128

def rest (c : Clock K) (k : K) : Clock K :=
  if c.resting.contains k then c else { c with resting := k :: c.resting }

/-- The head of the line, and the clock without it. -/
def next? (c : Clock K) : Option (K × Clock K) :=
  match c.line with
  | k :: ks => some (k, { c with line := ks })
  | [] =>
    match c.resting with
    | k :: ks => some (k, { c with line := ks, resting := [] })
    | [] => none

def isOver (c : Clock K) : Nap → Bool
  | .until t => t ≤ c.now
  | .gate g => c.opened.contains g
  | .forever => false

def insertTimer (t : Timer K) : List (Timer K) → List (Timer K)
  | [] => [t]
  | u :: us => if tick t.expiry < tick u.expiry then t :: u :: us else u :: insertTimer t us

/-- Sets a timer unless the task has one for that instant. -/
def setTimer (c : Clock K) (expiry : Instant) (k : K) : Clock K :=
  if c.timers.any fun t => t.expiry == expiry && t.task == k then c
  else { c with timers := insertTimer ⟨expiry, k⟩ c.timers }

/-- Wakes the task when the nap is over. -/
def enroll (c : Clock K) (k : K) : Nap → Clock K
  | .until t => c.setTimer t k
  | .gate g => if c.waiting.contains (g, k) then c else { c with waiting := c.waiting ++ [(g, k)] }
  | .forever => c

/-- Moves the clock and wakes the tasks whose timers ran out. -/
def moveTo (c : Clock K) (t : Instant) : Clock K :=
  let (due, left) := c.timers.partition (·.expiry ≤ t)
  wakeAll { c with now := t, timers := left } (due.map (·.task))

def openGate (c : Clock K) (g : String) : Clock K :=
  let (due, left) := c.waiting.partition (·.1 == g)
  wakeAll { c with opened := g :: c.opened, waiting := left } (due.map (·.2))

/-- Forgets a task that is gone. -/
def forget (c : Clock K) (k : K) : Clock K :=
  { c with line := c.line.filter (· != k), resting := c.resting.filter (· != k),
           timers := c.timers.filter (·.task != k), waiting := c.waiting.filter (·.2 != k) }

/-- Forgets every task. -/
def clear (c : Clock K) : Clock K := { c with line := [], resting := [], timers := [], waiting := [] }

/-- The length of a slice of time. -/
def slice : Span := .ofMillis 100

/-- Where the slices end in which time moves on by `span`, the last as long as is left. -/
def slices (now : Instant) (span : Span) : List Instant :=
  (List.range ((span + slice - 1) / slice)).map fun i => now + min (slice * (i + 1)) span

end Clock

end CallPump.Bench
