/-
  CallPump.Pump — one completion queue and every call that was issued on it.

  A call is created and tracked under the next handle, started by its owner, advanced by
  its completions one at a time, and released when it asks for it. A completion that ends
  a call has two parts: the dispatch, which moves the call to completed and hands out its
  callback, and the finish, which resolves the promise with the callback's result and
  releases the call. Whatever the callback does to the pump happens between the two.

  What a call asks of the transport leaves the pump as orders: the pump keeps no clock and
  runs no operation.
-/

import CallPump.Call.Machine
import CallPump.Handoff
import CallPump.Tracker

namespace CallPump

/-- How a callback ended. -/
inductive Ended (T : Type) where
  | returned (r : Outcome T)
  /-- By a panic, whose text is absent when it was not a text. -/
  | panicked (text : Option String)

/-- A panic does not get past the call it happened in. -/
def Ended.outcome {T : Type} : Ended T → Outcome T
  | .returned r => r
  | .panicked t => .error (.callbackPanicked t)

/-- What running a callback does, in order, and how it ends. -/
structure Reply (E T : Type) where
  effects : List E := []
  ended : Ended T

/-- Runs once, on what the transport made of the call. -/
abbrev Callback (Resp E T : Type) := Except GrpcStatus (Answer Resp) → Reply E T

structure Call (Req Resp E T : Type) where
  machine : Machine Req Resp (Callback Resp E T)
  handoff : Handoff T := {}

inductive Order (Req Resp : Type) where
  /-- Start the call's body over a new channel of requests. -/
  | spawn (call : CallId) (context : Context)
  /-- Drop the call's writing end of that channel. -/
  | hangUp (call : CallId)
  /-- Run the operation posted under the ticket. -/
  | run (ticket : Nat) (call : CallId) (op : Op Req Resp)
  /-- Drop the call's response stream. -/
  | dropStream (call : CallId)

structure Pump (Req Resp E T : Type) where
  /-- Every call ever created, by handle. -/
  calls : List (Call Req Resp E T) := []
  tracker : Tracker CallId := {}
  shutdownRequested : Bool := false
  queue : Queue (Op Req Resp) (Payload Resp) := {}

/-- What a call made of one completion. -/
structure Dispatched (Req Resp E T : Type) where
  pump : Pump Req Resp E T
  orders : List (Order Req Resp) := []
  /-- The callback that is now to run for the call. -/
  reply : Option (Reply E T) := none
  release : Bool := false

namespace Pump

variable {Req Resp E T : Type}

def get? (p : Pump Req Resp E T) (id : CallId) : Option (Call Req Resp E T) :=
  if id = 0 then none else p.calls[id - 1]?

def modify (p : Pump Req Resp E T) (id : CallId) (f : Call Req Resp E T → Call Req Resp E T) :
    Pump Req Resp E T :=
  if id = 0 then p else { p with calls := p.calls.modify (id - 1) f }

def active (p : Pump Req Resp E T) : Nat := p.tracker.size

/-- Carries out one wish of a call; a closed queue takes no operation and no body. -/
def order (p : Pump Req Resp E T) (id : CallId) : Cmd Req Resp → Pump Req Resp E T × List (Order Req Resp)
  | .spawn ctx => (p, if p.queue.closed then [] else [.spawn id ctx])
  | .hangUp => (p, [.hangUp id])
  | .post op =>
    match p.queue.post id op with
    | none => (p, [])
    | some (ticket, q) => ({ p with queue := q }, [.run ticket id op])

def orderAll (id : CallId) : List (Cmd Req Resp) → Pump Req Resp E T → Pump Req Resp E T × List (Order Req Resp)
  | [], p => (p, [])
  | c :: cs, p =>
    let (p, os) := p.order id c
    let (p, os') := orderAll id cs p
    (p, os ++ os')

/-- Makes the move of a call: its new state, its rejection, its wishes. -/
def make (p : Pump Req Resp E T) (id : CallId)
    (m : Move (Machine Req Resp (Callback Resp E T)) Req Resp (Callback Resp E T)) :
    Pump Req Resp E T × List (Order Req Resp) :=
  let p := p.modify id fun c =>
    { machine := m.next,
      handoff := match m.reject with
        | some s => (c.handoff.set (.error s)).1
        | none => c.handoff }
  orderAll id m.cmds p

/-! ## Calls -/

/-- `none` once shutdown was requested. -/
def create (p : Pump Req Resp E T) (k : CallKind) : Option (CallId × Pump Req Resp E T) :=
  if p.shutdownRequested then none
  else
    let id := p.calls.length + 1
    some (id, { p with calls := p.calls ++ [{ machine := .new k }], tracker := p.tracker.add id id })

def start (p : Pump Req Resp E T) (id : CallId) (ctx : Context) (l : Launch Req) (cb : Callback Resp E T) :
    Outcome Unit × Pump Req Resp E T × List (Order Req Resp) :=
  match p.get? id with
  | none => (.ok (), p, [])
  | some c =>
    match c.machine.start (!p.queue.closed) ctx l cb with
    | none => (.error (.alreadyStarted id.name), p, [])
    | some m =>
      let (p, os) := p.make id m
      (.ok (), p, os)

def cancel (p : Pump Req Resp E T) (id : CallId) : Pump Req Resp E T × List (Order Req Resp) :=
  match p.get? id with
  | none => (p, [])
  | some c => p.make id c.machine.cancel

/-! ## Completions -/

/-- Takes one completion to a call, tracked or not. A stream that comes with it and is not
    read on is dropped. -/
def deliver (p : Pump Req Resp E T) (id : CallId) (ok : Bool) (payload : Payload Resp) :
    Dispatched Req Resp E T :=
  match p.get? id with
  | none => { pump := p, release := true }
  | some c =>
    let m := c.machine.advance ok payload
    let (p, os) := p.make id m
    let readsOn := m.cmds.any fun c => match c with
      | .post (.read _) => true
      | _ => false
    { pump := p,
      orders := if payload.hasStream && !readsOn then os ++ [.dropStream id] else os,
      reply := m.answer.map fun a => a.1 a.2,
      release := m.release }

/-- Takes a completion to its call. One for a call that is not tracked is dropped with what
    it carries. A call that runs no callback is released as it asks. -/
def dispatch (p : Pump Req Resp E T) (c : Completion (Payload Resp)) : Dispatched Req Resp E T :=
  if p.tracker.contains c.tag then
    let d := p.deliver c.tag c.ok c.payload
    if d.release && d.reply.isNone then { d with pump := { d.pump with tracker := d.pump.tracker.erase c.tag } }
    else d
  else { pump := p, orders := if c.payload.hasStream then [.dropStream c.tag] else [], release := true }

/-- The callback of a call has ended: its result resolves the promise. -/
def resolve (p : Pump Req Resp E T) (id : CallId) (ended : Ended T) : Pump Req Resp E T :=
  p.modify id fun c => { c with handoff := (c.handoff.set ended.outcome).1 }

def release (p : Pump Req Resp E T) (id : CallId) : Pump Req Resp E T :=
  { p with tracker := p.tracker.erase id }

/-- What one look at the queue leads to. -/
inductive Turn (Req Resp E T : Type) where
  | shutdown
  | idle
  | dispatched (id : CallId) (d : Dispatched Req Resp E T)

def turn (p : Pump Req Resp E T) : Turn Req Resp E T :=
  if p.shutdownRequested then .shutdown
  else match p.queue.next with
    | (.ready c, q) => .dispatched c.tag ({ p with queue := q }.dispatch c)
    | (.timeout, _) => .idle
    | (.shutdown, _) => .shutdown

/-! ## Shutdown -/

/-- Cancels every call that is tracked. -/
def cancelAll (p : Pump Req Resp E T) : Pump Req Resp E T :=
  p.tracker.refs.foldl (fun p id => (p.cancel id).1) p

/-- Takes what is still queued to its calls, whose callbacks are gone by then. -/
def drain (p : Pump Req Resp E T) : Pump Req Resp E T :=
  p.queue.ready.foldl
    (fun p c =>
      let d := p.dispatch c
      match d.reply with
      | none => d.pump
      | some r => (d.pump.resolve c.tag r.ended).release c.tag)
    { p with queue := { p.queue with ready := [] } }

/-- Refuses new calls, cancels the tracked ones, stops the queue, takes the rest of it to
    its calls and lets go of all. Nothing is left for a second shutdown. -/
def shutdown (p : Pump Req Resp E T) : Pump Req Resp E T :=
  let p := { p with shutdownRequested := true }.cancelAll
  let p := { p with queue := p.queue.shutdown }.drain
  { p with tracker := {} }

end Pump

end CallPump
