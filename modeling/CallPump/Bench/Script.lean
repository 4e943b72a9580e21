/-
  CallPump.Bench.Script — a scripted server and the channel its requests come through.

  The channel holds one request. A write that finds it full waits; when the server takes
  the request, the place goes to the write that has waited longest. The requests end when
  nobody can write any more: the call's writing end is gone, and so is every write that
  was posted with it. When the server drops the requests, writes fail.

  A script plays until it has made an answer that is wanted, has to wait or to rest, is
  over or panics, and plays on from there.
-/

import CallPump.Bench.Clock
import CallPump.Bench.Note

namespace CallPump.Bench

/-- What runs between the steps of a bench. -/
inductive Task where
  /-- The operation that was posted under a ticket. -/
  | op (ticket : Nat)
  /-- The body of a call. -/
  | body (call : CallId)
  deriving DecidableEq, Repr

/-! ## The channel of requests -/

structure Inbox where
  /-- The server still takes requests. -/
  listening : Bool := true
  /-- The call holds its writing end. -/
  held : Bool := true
  /-- Writes that are posted and not done. -/
  writing : Nat := 0
  slot : Option Item := none
  /-- The write that the free place is kept for. -/
  granted : Option Nat := none
  /-- Writes that wait for a place, by ticket. -/
  queued : List Nat := []
  /-- The task that waits for a request. -/
  reader : Option Task := none
  deriving Repr

/-- How a write went. -/
inductive WriteResult where
  | accepted
  | refused
  | full
  deriving DecidableEq, Repr

namespace Inbox

/-- Nobody can write any more. -/
def isOver (b : Inbox) : Bool := !b.held && b.writing == 0

/-- Nothing will come any more. -/
def atEnd (b : Inbox) : Bool := b.isOver && b.slot.isNone

/-- Wakes the reader. -/
def call (b : Inbox) : Inbox × List Task := ({ b with reader := none }, b.reader.toList)

/-- Takes the request that is there, and keeps the place for the first write that waits. -/
def take? (b : Inbox) : Option (Item × Inbox × List Task) :=
  b.slot.map fun i =>
    match b.queued with
    | [] => (i, { b with slot := none }, [])
    | w :: ws => (i, { b with slot := none, granted := some w, queued := ws }, [.op w])

/-- Drops the requests. -/
def close (b : Inbox) : Inbox × List Task :=
  ({ b with listening := false, slot := none, granted := none, queued := [], reader := none },
    (b.granted.toList ++ b.queued).map .op)

def put (b : Inbox) (ticket : Nat) (i : Item) : Inbox × WriteResult :=
  if !b.listening then (b, .refused)
  else if b.granted = some ticket then ({ b with slot := some i, granted := none }, .accepted)
  else if b.slot.isNone && b.granted.isNone then ({ b with slot := some i }, .accepted)
  else (if b.queued.contains ticket then b else { b with queued := b.queued ++ [ticket] }, .full)

/-- A posted write is done, and its request was accepted or not. -/
def doneWriting (b : Inbox) (ticket : Nat) (ok : Bool) : Inbox × List Task :=
  let b := { b with writing := b.writing - 1, queued := b.queued.filter (· != ticket) }
  if ok || b.isOver then b.call else (b, [])

def hangUp (b : Inbox) : Inbox × List Task :=
  let b := { b with held := false }
  if b.isOver then b.call else (b, [])

end Inbox

/-! ## Scripts -/

inductive Action where
  | nap (n : Nap)
  /-- Waits a while. -/
  | sleep (t : Span)
  | panic (text : String)
  /-- Takes so many requests; all of them when there is no number. -/
  | recv (n : Option Nat)
  | dropRequests
  | answer (a : ServerAnswer)
  /-- Answers with the requests got so far, joined into one or one by one. -/
  | echo (each : Bool) (chunkSize : Nat)
  | split (m : EchoResponse) (chunkSize : Nat)
  deriving Repr

structure Script where
  label : String
  dialect : Dialect
  /-- The RPC itself: it ends with its answer, or opens the stream. -/
  opening : List Action := []
  /-- The stream's items. -/
  items : List Action := []
  deriving Repr

/-- How many actions there are. -/
def Script.size (s : Script) : Nat := s.opening.length + s.items.length

/-- A server at work for one call. -/
structure Peer where
  script : Script
  /-- Whether responses come as a stream. -/
  streams : Bool
  context : Context := {}
  /-- Whether the server has begun. -/
  entered : Bool := false
  /-- What is left of the part being played. -/
  todo : List Action := []
  got : List Item := []
  /-- Answers made and not taken. -/
  answers : List ServerAnswer := []
  inbox : Option Inbox := none
  /-- How the call's body ended. -/
  result : Option (Payload Item) := none
  /-- The operation that waits for the body to end. -/
  joiner : Option Task := none

/-- How far a script got. -/
inductive Pace where
  | answered
  | waits (n : Nap)
  | waitsForRequest
  | rests
  | over
  | panicked (text : String)
  deriving DecidableEq, Repr

structure Play where
  peer : Peer
  notes : List Heard := []
  wakes : List Task := []
  pace : Pace

namespace Peer

def closeInbox (p : Peer) : Peer × List Task :=
  match p.inbox with
  | none => (p, [])
  | some b =>
    let (b, ws) := b.close
    ({ p with inbox := some b }, ws)

/-- Tries for requests until as many as wanted have come or the end has: how many tries are
    then left, or why to stop. The channel holds one, so no more than one can be there. -/
def receive (p : Peer) (rest : List Action) (left : Nat) :
    Option Nat → Peer × List Heard × List Task × Except Pace Nat
  | some 0 => (p, [], [], .ok left)
  | want =>
    match p.inbox with
    | none => (p, [.endOfRequests], [], .ok left)
    | some b =>
      if !b.listening then (p, [.endOfRequests], [], .ok left)
      else if left = 0 then ({ p with todo := .recv want :: rest }, [], [], .error .rests)
      else match b.take? with
        | none =>
          if b.atEnd then (p, [.endOfRequests], [], .ok (left - 1))
          else ({ p with todo := .recv want :: rest }, [], [], .error .waitsForRequest)
        | some (i, b, ws) =>
          let more := want.map (· - 1)
          let p := { p with inbox := some b, got := p.got ++ [i] }
          let stop (pace : Pace) := ({ p with todo := .recv more :: rest }, [.request i], ws, .error pace)
          if more = some 0 then (p, [.request i], ws, .ok (left - 1))
          else if left = 1 then stop .rests
          else if b.atEnd then (p, [.request i, .endOfRequests], ws, .ok (left - 2))
          else stop .waitsForRequest

/-- Plays the actions until there is a wanted answer; answers that are not wanted are lost.
    Of naps and requests, `left` may be taken before a rest. -/
def play (wanted : ServerAnswer → Bool) (clock : Clock Task) : List Action → Nat → Peer → Play
  | [], _, p => { peer := { p with todo := [] }, pace := if p.answers.isEmpty then .over else .answered }
  | a :: rest, left, p =>
    if !p.answers.isEmpty then { peer := { p with todo := a :: rest }, pace := .answered }
    else
      let on (p : Peer) (notes : List Heard) (wakes : List Task) (left : Nat) : Play :=
        let r := play wanted clock rest left p
        { r with notes := notes ++ r.notes, wakes := wakes ++ r.wakes }
      let wait (n : Nap) : Play :=
        if left = 0 then { peer := { p with todo := .nap n :: rest }, pace := .rests }
        else if clock.isOver n then on p [] [] (left - 1)
        else { peer := { p with todo := .nap n :: rest }, pace := .waits n }
      let make (as : List ServerAnswer) : Play := on { p with answers := as.filter wanted } [] [] left
      match a with
      | .nap n => wait n
      | .sleep t => wait (.until (clock.now + t))
      | .panic text => { peer := { p with todo := rest }, pace := .panicked text }
      | .recv want =>
        match p.receive rest left want with
        | (p, notes, wakes, .ok left) => on p notes wakes left
        | (p, notes, wakes, .error pace) => { peer := p, notes, wakes, pace }
      | .dropRequests =>
        let (p, wakes) := p.closeInbox
        on p [] wakes left
      | .answer s => make [s]
      | .echo false size => make (p.script.dialect.joined size p.got)
      | .echo true size => make (p.script.dialect.each size p.got)
      | .split m size => make ((Chunk.ofMessage m size).map fun c => .ok (.chunk c))

/-- Plays on, beginning with the opening. -/
def playOn (p : Peer) (wanted : ServerAnswer → Bool) (clock : Clock Task) : Play :=
  if p.entered then play wanted clock p.todo Clock.stride p
  else
    let r := play wanted clock p.script.opening Clock.stride { p with entered := true }
    { r with notes := .opened p.context p.got.head? :: r.notes }

/-- The next answer. -/
def takeAnswer (p : Peer) : Peer × Option ServerAnswer :=
  match p.answers with
  | [] => (p, none)
  | a :: as => ({ p with answers := as }, some a)

end Peer

end CallPump.Bench
