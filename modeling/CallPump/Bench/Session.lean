/-
  CallPump.Bench.Session — a bench session: steps on one pump, each with its report.

  Calls, clients, gates and token slots go by name. Between two steps every task runs as
  far as it can. A stepped session turns the pump and moves the clock only when it is told
  to; a live one, once it updates itself, turns the pump until nothing is left to do, and
  a wait lets time pass until the result is there.
-/

import CallPump.Bench.World
import CallPump.Config

namespace CallPump.Bench

abbrev BenchClient := Client Effect EchoRequest EchoResponse

/-! ## Tokens -/

/-- Token slots by name, empty until set. -/
structure Tokens where
  slots : List (String × String) := []
  deriving Repr, Inhabited

namespace Tokens

def get? (t : Tokens) (slot : String) : Option String := t.slots.lookup slot

def clear (t : Tokens) (slot : String) : Tokens := ⟨t.slots.filter (·.1 != slot)⟩

def set (t : Tokens) (slot text : String) : Tokens := ⟨(slot, text) :: (t.clear slot).slots⟩

end Tokens

/-- What is done to a slot before it is read. -/
inductive TokenChange where
  | keep
  | clear
  | set (text : String)
  deriving Repr

def Tokens.change (t : Tokens) (slot : String) : TokenChange → Tokens
  | .keep => t
  | .clear => t.clear slot
  | .set text => t.set slot text

/-! ## Futures -/

/-- The future of a call, in the hands of the session. -/
inductive Future where
  | ofCall (id : CallId)
  | settled (h : Handoff Value)
  /-- Its result was returned. -/
  | taken

inductive Read where
  | pending
  | alreadyTaken
  | noFuture
  | outcome (o : Outcome Value)

/-! ## Steps -/

structure ClientSpec where
  defaults : Params := {}
  /-- Starts from the session's configuration instead. -/
  fromConfig : Bool := false
  chunkSize : Option Nat := none
  wallet : Bool := false
  requestHooks : List Placed := []
  responseHooks : List Placed := []

inductive Step where
  | create (call : String) (kind : CallKind)
  | start (call : String) (requests : List String) (timeout : Option Span) (script : Script) (callback : Behaviour)
  | cancel (call : String)
  | inject (call : String) (ok : Bool)
  /-- Turns the pump so many times. -/
  | turn (n : Nat)
  | take (call : String)
  /-- Turns the pump until the call has its result, at most so many times. -/
  | drive (call : String) (max : Nat)
  | secondFuture (call : String)
  | wait (call : String)
  | dropFuture (call : String)
  | openGate (gate : String)
  | advance (span : Span)
  | isShutdown
  | active
  | token (slot : String) (change : TokenChange)
  | shutdown
  | dropPump
  | autoUpdate
  | awaitCallback (call : String)
  | client (name : String) (spec : ClientSpec)
  | cloneClient (name as : String)
  | setDefaults (name : String) (defaults : Params)
  | setChunkSize (name : String) (n : Nat)
  | addRequestHook (name : String) (hook : Placed)
  | addResponseHook (name : String) (hook : Placed)
  | issue (client call : String) (issue : Issue EchoRequest) (params : Params) (script : Script) (handler : Behaviour)

inductive Report where
  | nothing
  | flag (b : Bool)
  | number (n : Nat)
  | slot (token : Option String)
  | created (id : CallId) (kind : CallKind)
  | refused
  | started (o : Outcome Unit)
  /-- Whether the pump goes on. -/
  | turned (goesOn : Bool)
  | read (r : Read)
  | driven (turns : Nat) (r : Read)
  | down (isDown : Bool) (active : Nat)
  | client (defaults : Params) (requestHooks responseHooks : Nat)

/-- What is seen after a step. -/
structure Entry where
  report : Report
  /-- Nothing is active on a pump that is gone. -/
  active : Option Nat
  calls : List (String × CallState)
  log : List Note

structure Session where
  world : World := {}
  live : Bool := false
  config : Config := {}
  /-- What the wall clock shows. -/
  time : Timestamp := {}
  clients : List (String × BenchClient) := []
  tokens : Tokens := {}
  futures : List (String × Future) := []
  /-- The pump turns by itself. -/
  auto : Bool := false
  gone : Bool := false

/-- Puts a value under a name, in place of the one there. -/
def put {V : Type} (m : List (String × V)) (k : String) (v : V) : List (String × V) :=
  if m.any (·.1 == k) then m.map fun e => if e.1 == k then (k, v) else e else m ++ [(k, v)]

namespace Session

def map (s : Session) (f : World → World) : Session := { s with world := f s.world }

/-! ## Turning the pump -/

/-- Turns so often, each time until the tasks rest; the last turn's result. -/
def turnN (w : World) : Nat → World × Option Bool
  | 0 => (w, none)
  | 1 =>
    let (w, goesOn) := w.turn false
    (w.settle, some goesOn)
  | n + 1 => turnN (w.turn false).1.settle n

/-- Turns while completions are there; a callback that waits for a shutdown holds the pump. -/
def runDry : Nat → World → World
  | 0, w => w
  | n + 1, w =>
    if w.held.isSome || w.pump.shutdownRequested || w.pump.queue.ready.isEmpty then w
    else runDry n (w.turn true).1.settle

/-- More turns than any session takes. -/
def patience : Nat := 1000000

def rest (s : Session) : Session :=
  s.map fun w => if s.auto then runDry patience w.settle else w.settle

/-! ## Results -/

def look (s : Session) (call : String) : Session × Read :=
  match s.futures.lookup call with
  | none => (s, .noFuture)
  | some .taken => (s, .alreadyTaken)
  | some (.settled h) =>
    match h.look.2 with
    | .pending => (s, .pending)
    | .outcome o => ({ s with futures := put s.futures call .taken }, .outcome o)
  | some (.ofCall id) =>
    match s.world.pump.get? id with
    | none => (s, .noFuture)
    | some c =>
      match c.handoff.look with
      | (_, .pending) => (s, .pending)
      | (h, .outcome o) =>
        ({ s with
           world := { s.world with pump := s.world.pump.modify id fun c => { c with handoff := h } }
           futures := put s.futures call .taken }, .outcome o)

def drive (s : Session) (call : String) (turns : Nat) : Nat → Session × Report
  | 0 =>
    let (s, r) := s.look call
    (s, .driven turns r)
  | n + 1 =>
    match s.look call with
    | (s, .pending) => drive (s.map fun w => (w.turn false).1.settle) call (turns + 1) n
    | (s, r) => (s, .driven turns r)

/-- A callback that is on its way back comes back; then time passes, from timer to timer. -/
def waitN (s : Session) (call : String) : Nat → Session × Read
  | 0 => s.look call
  | n + 1 =>
    match s.look call with
    | (s, .pending) =>
      if s.world.leaving.isSome then waitN (s.map World.comeBack) call n
      else match s.world.clock.timers with
      | [] => (s, .pending)
      | t :: _ => waitN (s.map fun w => { w with clock := w.clock.moveTo (max w.clock.now t.expiry) }).rest call n
    | (s, r) => (s, r)

/-- There is nothing to wait on once the result was returned. -/
def wait (s : Session) (call : String) : Session × Read :=
  match s.waitN call patience with
  | (s, .alreadyTaken) => (s, .noFuture)
  | r => r

def dropFuture (s : Session) (call : String) : Session × Bool :=
  match s.futures.lookup call with
  | none => (s, false)
  | some f =>
    let s := { s with futures := s.futures.filter (·.1 != call) }
    match f with
    | .ofCall id =>
      (s.map fun w => { w with pump := w.pump.modify id fun c => { c with handoff := c.handoff.dropFuture } }, true)
    | _ => (s, true)

/-! ## Clients -/

/-- The name of a client whose configuration gives it none. -/
def madeUpName : String := "bench-00000000"

def build (s : Session) (spec : ClientSpec) : BenchClient :=
  let base : BenchClient :=
    if spec.fromConfig then .ofConfig s.config madeUpName else { defaults := spec.defaults }
  let c : BenchClient := { base with
    requestChain := spec.requestHooks.foldl (fun c p => p.addTo Hook.onRequest c) base.requestChain
    responseChain := spec.responseHooks.foldl (fun c p => p.addTo Hook.onResponse c) base.responseChain
    wallet := if spec.wallet then some fun r => .note (.wallet r) else none }
  match spec.chunkSize with
  | none => c
  | some n => c.withChunkSize n

def modifyClient (s : Session) (name : String) (f : BenchClient → BenchClient) : Session :=
  { s with clients := s.clients.map fun e => if e.1 == name then (name, f e.2) else e }

/-- A client reads the clock a moment after the step began. -/
def moment (s : Session) : Moment where
  now := s.world.clock.now + 1
  time := s.time
  token := s.tokens.get?

def issue (s : Session) (client call : String) (i : Issue EchoRequest) (params : Params) (script : Script)
    (handler : Behaviour) : Except Fault Session :=
  match s.clients.lookup client with
  | none => .ok s
  | some c =>
    match c.plan s.moment params i (handler.handler call) with
    | .error f => .error f
    | .ok (notes, plan) =>
      let s := s.map fun w => notes.foldl World.act w
      match s.world.pump.issue (I := Item) plan with
      | (.failed e, p, _) =>
        .ok { s with world := { s.world with pump := p },
                     futures := put s.futures call (.settled (.ready (.error e))) }
      | (.call id, p, os) =>
        let streams := (p.get? id).elim false (·.machine.kind.streams)
        let w := ({ s.world with pump := p }.enlist id script streams).obeyAll os
        .ok { s with world := w, futures := put s.futures call (.ofCall id) }

/-! ## Raw calls -/

def create (s : Session) (call : String) (k : CallKind) : Session × Report :=
  match s.world.pump.create k with
  | none => (s, .refused)
  | some (id, p) =>
    ({ s with world := { s.world with pump := p, calls := put s.world.calls call id },
              futures := put s.futures call (.ofCall id) }, .created id k)

def launch (k : CallKind) (requests : List String) : Launch Item :=
  let one := Item.text (requests.headD "")
  let many := requests.map Item.text
  match k with
  | .unary => .unary one
  | .requestStream => .requestStream many
  | .responseStream => .responseStream one
  | .bidi => .bidi many

def start (s : Session) (call : String) (requests : List String) (timeout : Option Span) (script : Script)
    (b : Behaviour) : Session × Report :=
  match s.world.calls.lookup call with
  | none => (s, .nothing)
  | some id =>
    match s.world.pump.get? id with
    | none => (s, .nothing)
    | some c =>
      let k := c.machine.kind
      let ctx : Context := { deadline := timeout.map (s.world.clock.now + ·) }
      let (r, p, os) := s.world.pump.start id ctx (launch k requests) (b.callback call)
      (s.map fun w =>
        ({ w with pump := p }.enlist id script k.streams).obeyAll os, .started r)

/-! ## Steps -/

def act (s : Session) : Step → Except Fault (Session × Report)
  | .create call k => .ok (s.create call k)
  | .start call rs t script b => .ok (s.start call rs t script b)
  | .cancel call => .ok (s.map (·.cancel call), .nothing)
  | .inject call ok =>
    match s.world.calls.lookup call with
    | none => .ok (s, .nothing)
    | some id =>
      let (w, released) := s.world.inject id ok
      .ok ({ s with world := w }, .flag released)
  | .turn n =>
    let (w, last) := turnN s.world n
    .ok ({ s with world := w }, last.elim .nothing .turned)
  | .take call =>
    let (s, r) := s.look call
    .ok (s, .read r)
  | .drive call max => .ok (s.drive call 0 max)
  | .secondFuture _ => .ok (s, .flag false)
  | .wait call =>
    let (s, r) := s.wait call
    .ok (s, .read r)
  | .dropFuture call =>
    let (s, had) := s.dropFuture call
    .ok (s, .flag had)
  | .openGate g => .ok (s.map fun w => { w with clock := w.clock.openGate g }, .nothing)
  | .advance t => .ok (s.map fun w => w.settle.advance t, .nothing)
  | .isShutdown => .ok (s, .flag s.world.pump.shutdownRequested)
  | .active => .ok (s, .number s.world.pump.active)
  | .token slot change =>
    let s := { s with tokens := s.tokens.change slot change }
    .ok (s, .slot (s.tokens.get? slot))
  | .shutdown =>
    let s := s.map World.shutdown
    .ok (s, .down s.world.pump.shutdownRequested s.world.pump.active)
  | .dropPump => .ok ({ s.map fun w => w.shutdown.comeBack with clients := [], gone := true }, .flag true)
  | .autoUpdate => .ok ({ s with auto := true }, .nothing)
  | .awaitCallback _ => .ok (s, .flag true)
  | .client name spec =>
    let c := s.build spec
    .ok ({ s with clients := put s.clients name c },
      .client c.defaults c.requestChain.size c.responseChain.size)
  | .cloneClient name as =>
    match s.clients.lookup name with
    | none => .ok (s, .nothing)
    | some c => .ok ({ s with clients := put s.clients as c }, .nothing)
  | .setDefaults name d => .ok (s.modifyClient name fun c => { c with defaults := d }, .number d.timeout.millis)
  | .setChunkSize name n => .ok (s.modifyClient name (·.withChunkSize n), .nothing)
  | .addRequestHook name h =>
    let s := s.modifyClient name fun c => { c with requestChain := h.addTo Hook.onRequest c.requestChain }
    .ok (s, .number ((s.clients.lookup name).elim 0 (·.requestChain.size)))
  | .addResponseHook name h =>
    let s := s.modifyClient name fun c => { c with responseChain := h.addTo Hook.onResponse c.responseChain }
    .ok (s, .number ((s.clients.lookup name).elim 0 (·.responseChain.size)))
  | .issue client call i params script b =>
    match s.issue client call i params script b with
    | .ok s => .ok (s, .nothing)
    | .error f => .error f

def states (s : Session) : List (String × CallState) :=
  s.world.calls.filterMap fun e => (s.world.pump.get? e.2).map fun c => (e.1, c.machine.state)

/-- One step, then what is seen once the tasks rest. -/
def step (s : Session) (st : Step) : Except Fault (Session × Entry) :=
  match s.act st with
  | .error f => .error f
  | .ok (s, r) =>
    let s := s.rest
    .ok (s.map fun w => { w with log := [] },
      { report := r, active := if s.gone then none else some s.world.pump.active,
        calls := s.states, log := s.world.log })

/-- The steps in order, with their reports; a fault ends everything. -/
def run : Session → List Step → Except Fault (List Entry)
  | _, [] => .ok []
  | s, st :: sts =>
    match s.step st with
    | .error f => .error f
    | .ok (s, e) => (run s sts).map (e :: ·)

end Session

end CallPump.Bench
