/-
  CallPump.Queue — the completion queue: operations go in, completions come out.

  A posted operation is in flight until it finishes; finishing and queueing its completion
  are one step, so completions come out in the order in which operations finished. After
  shutdown nothing is taken in, what was in flight is given up, and what was queued still
  comes out before the queue reports that it is shut down.
-/

namespace CallPump

/-- The handle of a call within its pump, counted from one and never used again. -/
abbrev CallId := Nat

def CallId.name (id : CallId) : String := "call-" ++ toString id

/-- An accepted operation, on its way. -/
structure Posted (O : Type) where
  ticket : Nat
  tag : CallId
  op : O
  deriving Repr

structure Completion (P : Type) where
  tag : CallId
  ok : Bool
  payload : P
  deriving Repr

def Completion.display {P : Type} (c : Completion P) : String :=
  "Completion \x7b tag: CallId(" ++ toString c.tag ++ "), ok: " ++ toString c.ok ++ ", .. \x7d"

inductive QueueEvent (P : Type) where
  | ready (c : Completion P)
  | timeout
  | shutdown
  deriving Repr

structure Queue (O P : Type) where
  closed : Bool := false
  /-- Tickets handed out so far. -/
  issued : Nat := 0
  inFlight : List (Posted O) := []
  ready : List (Completion P) := []

namespace Queue

variable {O P : Type}

/-- The ticket of the accepted operation; `none` once the queue is shut down. -/
def post (q : Queue O P) (tag : CallId) (op : O) : Option (Nat × Queue O P) :=
  if q.closed then none
  else some (q.issued, { q with issued := q.issued + 1, inFlight := q.inFlight ++ [⟨q.issued, tag, op⟩] })

def find? (q : Queue O P) (ticket : Nat) : Option (Posted O) := q.inFlight.find? (·.ticket == ticket)

/-- The operation goes away without a completion. -/
def abandon (q : Queue O P) (ticket : Nat) : Queue O P :=
  { q with inFlight := q.inFlight.filter (·.ticket != ticket) }

/-- The operation finishes, and its completion is queued. -/
def finish (q : Queue O P) (ticket : Nat) (ok : Bool) (payload : P) : Queue O P :=
  match q.find? ticket with
  | none => q
  | some o => { q.abandon ticket with ready := q.ready ++ [⟨o.tag, ok, payload⟩] }

/-- What a look at the queue finds when the wait for more is over. -/
def next (q : Queue O P) : QueueEvent P × Queue O P :=
  match q.ready with
  | c :: rest => (.ready c, { q with ready := rest })
  | [] => (if q.closed then .shutdown else .timeout, q)

def shutdown (q : Queue O P) : Queue O P := { q with closed := true, inFlight := [] }

end Queue

end CallPump
