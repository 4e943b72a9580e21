/-
  CallPump.Bench.World — a pump, the servers behind its calls and the tasks between them.

  Whatever the pump orders becomes a task; `settle` runs tasks, oldest first, until none
  can go on. A task that has to wait looks at its deadline last: an operation that is ready
  wins over a deadline that has passed. A completion ends its operation in the same step
  that queues it, so completions are in the order in which operations ended.

  A panic on the server ends an operation without a completion; in a body that the call
  joins it is reported as the body's result.

  A callback that shuts the pump down on the pump's own thread has not come back when the
  shutdown is over, and nobody joins it: it comes back when somebody waits.
-/

import CallPump.Bench.Script

namespace CallPump.Bench

structure World where
  pump : Pump Item Item Effect Value := {}
  clock : Clock Task := {}
  peers : List (CallId × Peer) := []
  /-- The raw calls, by name. -/
  calls : List (String × CallId) := []
  log : List Note := []
  /-- The callback that waits for a shutdown to begin, with what it does then. -/
  held : Option (CallId × Reply Effect Value) := none
  /-- The callback that shut the pump down and has not come back, with what it comes back with. -/
  leaving : Option (CallId × Reply Effect Value) := none

namespace World

def wakeAll (w : World) (ts : List Task) : World := { w with clock := w.clock.wakeAll ts }

def peer? (w : World) (id : CallId) : Option Peer := w.peers.lookup id

def setPeer (w : World) (id : CallId) (p : Peer) : World :=
  { w with peers := w.peers.map fun e => if e.1 == id then (id, p) else e }

/-- Puts a server behind a call that has none. -/
def enlist (w : World) (id : CallId) (s : Script) (streams : Bool) : World :=
  if (w.peer? id).isSome then w else { w with peers := w.peers ++ [(id, { script := s, streams := streams })] }

def modifyPeer (w : World) (id : CallId) (f : Peer → Peer × List Task) : World :=
  match w.peer? id with
  | none => w
  | some p =>
    let (p, ts) := f p
    (w.setPeer id p).wakeAll ts

def modifyInbox (w : World) (id : CallId) (f : Inbox → Inbox × List Task) : World :=
  w.modifyPeer id fun p =>
    match p.inbox with
    | none => (p, [])
    | some b =>
      let (b, ts) := f b
      ({ p with inbox := some b }, ts)

/-! ## Orders -/

def obey (w : World) : Order Item Item → World
  | .spawn id ctx => (w.modifyPeer id fun p => ({ p with context := ctx, inbox := some {} }, [.body id]))
  | .hangUp id => w.modifyInbox id Inbox.hangUp
  | .dropStream id => w.modifyPeer id Peer.closeInbox
  | .run ticket id op =>
    let w := match op with
      | .exchange ctx q | .openStream ctx q => w.modifyPeer id fun p => ({ p with context := ctx, got := [q] }, [])
      | .write _ _ => w.modifyInbox id fun b => ({ b with writing := b.writing + 1 }, [])
      | _ => w
    w.wakeAll [.op ticket]

def obeyAll (w : World) (os : List (Order Item Item)) : World := os.foldl obey w

/-! ## Tasks -/

def scriptEnded : GrpcStatus := ⟨.unknown, "script ended"⟩

def isError : ServerAnswer → Bool
  | .ok _ => false
  | .error _ => true

/-- What a task gets from a server. -/
inductive Got where
  | answer (a : ServerAnswer)
  | over
  | panicked (text : String)
  | late
  | waiting

/-- Lets a server play for a task, up to its next wanted answer. -/
def attend (w : World) (k : Task) (id : CallId) (wanted : ServerAnswer → Bool) (deadline : Option Instant) :
    World × Got :=
  match w.peer? id with
  | none => (w, .waiting)
  | some p =>
    let r := p.playOn wanted w.clock
    let (p, answer) := r.peer.takeAnswer
    let w := { w.setPeer id p with log := w.log ++ r.notes.map (Note.server p.script.label) }.wakeAll r.wakes
    let wait (w : World) : World × Got :=
      match deadline with
      | none => (w, .waiting)
      | some d => if d ≤ w.clock.now then (w, .late) else ({ w with clock := w.clock.setTimer d k }, .waiting)
    match answer, r.pace with
    | some a, _ => (w, .answer a)
    | none, .panicked t => (w, .panicked t)
    | none, .waits n => wait { w with clock := w.clock.enroll k n }
    | none, .waitsForRequest => wait (w.modifyInbox id fun b => ({ b with reader := some k }, []))
    | none, .rests => wait { w with clock := w.clock.rest k }
    | none, _ => (w, .over)

/-- The operation ends, and its completion is queued. -/
def finish (w : World) (ticket : Nat) (ok : Bool) (p : Payload Item) : World :=
  { w with pump := { w.pump with queue := w.pump.queue.finish ticket ok p }, clock := w.clock.forget (.op ticket) }

/-- The operation goes away with the stream it was on. -/
def abandon (w : World) (ticket : Nat) (id : CallId) : World :=
  { w with pump := { w.pump with queue := w.pump.queue.abandon ticket },
           clock := w.clock.forget (.op ticket) }.modifyPeer id Peer.closeInbox

/-- The body of a call ends, and whoever joins it goes on. -/
def endBody (w : World) (id : CallId) (r : Payload Item) (keepsStream : Bool) : World :=
  let w := { w with clock := w.clock.forget (.body id) }
  let w := if keepsStream then w else w.modifyPeer id Peer.closeInbox
  w.modifyPeer id fun p => ({ p with result := some r, joiner := none }, p.joiner.toList)

/-- The stream is open: what plays from now on are its items. -/
def opened (w : World) (id : CallId) : World :=
  w.modifyPeer id fun p => ({ p with todo := p.script.items }, [])

def pollBody (w : World) (id : CallId) : World :=
  match w.peer? id with
  | none => w
  | some p =>
    if p.result.isSome then w
    else
      let fail (w : World) (e : GrpcStatus) : World :=
        w.endBody id (if p.streams then .opened (.error e) else .outcome (.error e)) false
      match w.attend (.body id) id (if p.streams then isError else fun _ => true) p.context.deadline with
      | (w, .answer (.ok i)) => w.endBody id (.outcome (.ok i)) false
      | (w, .answer (.error e)) => fail w e
      | (w, .over) => if p.streams then (w.opened id).endBody id (.opened (.ok ())) true else fail w scriptEnded
      | (w, .panicked t) => fail w (.bodyPanicked t)
      | (w, .late) => fail w .deadlineExceeded
      | (w, .waiting) => w

def Payload.isOk : Payload Item → Bool
  | .outcome r => r.toBool
  | .opened r => r.toBool
  | .item (some r) => r.toBool
  | _ => false

/-- The operation comes back with a payload that says itself whether it went well. -/
def give (w : World) (ticket : Nat) (p : Payload Item) : World := w.finish ticket (Payload.isOk p) p

def pollOp (w : World) (ticket : Nat) (id : CallId) : Op Item Item → World
  | .settled ok p => w.finish ticket ok p
  | .exchange ctx _ =>
    match w.attend (.op ticket) id (fun _ => true) ctx.deadline with
    | (w, .answer a) => w.give ticket (.outcome a)
    | (w, .over) => w.give ticket (.outcome (.error scriptEnded))
    | (w, .panicked _) => w.abandon ticket id
    | (w, .late) => w.give ticket (.outcome (.error .deadlineExceeded))
    | (w, .waiting) => w
  | .openStream ctx _ =>
    match w.attend (.op ticket) id isError ctx.deadline with
    | (w, .answer (.error e)) => w.give ticket (.opened (.error e))
    | (w, .answer (.ok _)) | (w, .over) => (w.opened id).give ticket (.opened (.ok ()))
    | (w, .panicked _) => w.abandon ticket id
    | (w, .late) => w.give ticket (.opened (.error .deadlineExceeded))
    | (w, .waiting) => w
  | .write deadline q =>
    match w.peer? id with
    | none => w
    | some p =>
      match p.inbox with
      | none => w.finish ticket false .unit
      | some b =>
        let (b, r) := b.put ticket q
        let w := w.setPeer id { p with inbox := some b }
        let done (ok : Bool) : World := (w.modifyInbox id (·.doneWriting ticket ok)).finish ticket ok .unit
        match r with
        | .accepted => done true
        | .refused => done false
        | .full =>
          match deadline with
          | none => w
          | some d =>
            if d ≤ w.clock.now then done false
            else { w with clock := w.clock.setTimer d (.op ticket) }
  | .join | .joinStream =>
    match w.peer? id with
    | none => w
    | some p =>
      match p.result with
      | some r => w.give ticket r
      | none => w.setPeer id { p with joiner := some (.op ticket) }
  | .read deadline =>
    match w.attend (.op ticket) id (fun _ => true) deadline with
    | (w, .answer a) => w.give ticket (.item (some a))
    | (w, .over) => (w.modifyPeer id Peer.closeInbox).give ticket (.item none)
    | (w, .panicked _) => w.abandon ticket id
    | (w, .late) => w.give ticket (.item (some (.error .deadlineExceeded)))
    | (w, .waiting) => w
  | .drain deadline =>
    match w.peer? id with
    | none => w
    | some p =>
      let done (w : World) (r : Except GrpcStatus Unit) : World :=
        (w.finish ticket true (.closed r)).modifyPeer id Peer.closeInbox
      match p.result with
      | none => w.setPeer id { p with joiner := some (.op ticket) }
      | some (.opened (.ok ())) =>
        match w.attend (.op ticket) id isError deadline with
        | (w, .answer (.error e)) => done w (.error e)
        | (w, .answer (.ok _)) | (w, .over) => done w (.ok ())
        | (w, .panicked _) => w.abandon ticket id
        | (w, .late) => done w (.error .deadlineExceeded)
        | (w, .waiting) => w
      | some (.opened (.error e)) => done w (.error e)
      | some _ => w

def poll (w : World) : Task → World
  | .body id => w.pollBody id
  | .op ticket =>
    match w.pump.queue.find? ticket with
    | none => w
    | some o => w.pollOp ticket o.tag o.op

def settleN : Nat → World → World
  | 0, w => w
  | n + 1, w =>
    match w.clock.next? with
    | none => w
    | some (k, c) => settleN n ({ w with clock := c }.poll k)

/-- Besides the tasks in line, an operation is woken at most three times before it ends (a
    place, a request, the end of a body) and a body twice. Between two rests of a task its
    script goes on by an action at least. -/
def settle (w : World) : World :=
  settleN (w.clock.line.length + 3 * w.pump.queue.inFlight.length +
    w.peers.foldl (fun n p => n + 3 + p.2.script.size) 0) w

/-! ## Steps of the pump -/

/-- Gives up every task, and the servers with them. -/
def dropTasks (w : World) : World := { w with clock := w.clock.clear, peers := [] }

def shutdown (w : World) : World :=
  let w := { w with pump := w.pump.shutdown }.dropTasks
  match w.held with
  | none => w
  | some (id, r) => { w with pump := w.pump.resolve id r.ended, held := none }

/-- The callback that shut the pump down comes back. -/
def comeBack (w : World) : World :=
  match w.leaving with
  | none => w
  | some (id, r) => { w with pump := w.pump.resolve id r.ended, leaving := none }

def cancel (w : World) (name : String) : World :=
  match w.calls.lookup name with
  | none => w
  | some id =>
    let (p, os) := w.pump.cancel id
    { w with pump := p }.obeyAll os

def act (w : World) : Effect → World
  | .note n => { w with log := w.log ++ [n] }
  | .cancel name => w.cancel name
  | .shutdown => w.shutdown
  | .joinShutdown => w

/-- Carries out what a call made of a completion. A callback that joins a shutdown stops
    there until one begins. One that shuts the pump down is left on its way back if the pump
    turns on a thread of its own. -/
def conclude (w : World) (id : CallId) (d : Dispatched Item Item Effect Value) (releases ownThread : Bool) :
    World :=
  let w := { w with pump := d.pump }.obeyAll d.orders
  match d.reply with
  | none => w
  | some r =>
    let w := r.effects.foldl act w
    if r.effects.contains .joinShutdown then { w with held := some (id, r) }
    else if ownThread && r.effects.contains .shutdown then { w with leaving := some (id, r) }
    else
      let p := w.pump.resolve id r.ended
      { w with pump := if releases then p.release id else p }

/-- Takes at most one completion; `false` when the pump is shut down. -/
def turn (w : World) (ownThread : Bool) : World × Bool :=
  match w.pump.turn with
  | .shutdown => (w, false)
  | .idle => (w, true)
  | .dispatched id d => (w.conclude id d true ownThread, true)

/-- Takes a completion of its own making to a call; whether the call is done. -/
def inject (w : World) (id : CallId) (ok : Bool) : World × Bool :=
  let d := w.pump.deliver id ok .unit
  (w.conclude id d false false, d.release)

/-- Time moves on, slice by slice. -/
def advance (w : World) (span : Span) : World :=
  (Clock.slices w.clock.now span).foldl (fun w t => settle { w with clock := w.clock.moveTo t }) w

end World

end CallPump.Bench
