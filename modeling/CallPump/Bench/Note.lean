/-
  CallPump.Bench.Note — what a bench writes down, and the hooks that write it.

  A recorder is a processor of either chain that notes what it was shown and can be told
  to fail or to rename the sender. A callback notes that it ran and then behaves as it was
  told.
-/

import CallPump.Bench.Item

namespace CallPump.Bench

/-- What a processor was shown. -/
inductive Seen where
  | unit
  | request (text : String) (hasHeader : Bool)
  | response (text : String)
  deriving DecidableEq, Repr

def Seen.text? : Seen → Option String
  | .unit => none
  | .request t _ => some t
  | .response t => some t

/-- What a server notes. -/
inductive Heard where
  | opened (context : Context) (request : Option Item)
  | request (i : Item)
  | endOfRequests
  deriving DecidableEq, Repr

inductive Note where
  | sending (label : String) (seen : Seen) (header : RequestHeader) (context : Context)
  | arriving (label : String) (seen : Seen) (status : GrpcCode) (header : ResponseHeader)
  | wallet (r : LeaseUseResult)
  | callback (call : String) (ok : Bool)
  | server (call : String) (heard : Heard)
  deriving DecidableEq, Repr

/-- What a callback does besides giving a result. -/
inductive Effect where
  | note (n : Note)
  | cancel (call : String)
  | shutdown
  /-- Waits for another shutdown to begin, then asks for one too. -/
  | joinShutdown
  deriving DecidableEq, Repr

/-- What a call on the bench comes to. -/
inductive Value where
  | answer (a : Answer Item)
  | count (n : Nat)
  deriving Repr

/-! ## Processors -/

structure Recorder where
  label : String
  fail : Option Status := none
  /-- Fails only on this text. -/
  failOn : Option String := none
  rename : Option String := none
  deriving Repr

def Recorder.verdict (r : Recorder) (s : Seen) : Outcome Unit :=
  match r.fail with
  | none => .ok ()
  | some e => if r.failOn.isNone || r.failOn == s.text? then .error e else .ok ()

inductive Hook where
  | clientName (name : String)
  | timestamp
  | authToken (slot : String)
  | commonError
  | record (r : Recorder)
  deriving Repr

namespace Hook

/-- The hook on requests; a hook for responses lets them pass. -/
def onRequest : Hook → RequestProcessor Effect EchoRequest
  | .clientName n => RequestProcessor.clientName n
  | .timestamp => RequestProcessor.timestamp
  | .authToken t => RequestProcessor.authToken t
  | .commonError => fun _ d => (d, .ok ())
  | .record r => fun i d =>
    let seen := match i.request with
      | some q => .request q.text q.header.isSome
      | none => .unit
    let notes := d.notes ++ [.note (.sending r.label seen d.header d.context)]
    let header := match r.rename with
      | some n => { d.header with clientName := n }
      | none => d.header
    ({ d with header := header, notes := notes }, r.verdict seen)

/-- The hook on responses; a hook for requests lets them pass. -/
def onResponse : Hook → ResponseProcessor Effect EchoResponse
  | .commonError => ResponseProcessor.commonError
  | .record r => fun i notes =>
    let seen := match i.response with
      | some m => .response m.text
      | none => .unit
    (notes ++ [.note (.arriving r.label seen i.status.code i.header)], r.verdict seen)
  | _ => fun _ notes => (notes, .ok ())

end Hook

/-- A hook with its place in a chain. -/
structure Placed where
  hook : Hook
  front : Bool := false
  deriving Repr

def Placed.addTo {I S : Type} (p : Placed) (f : Hook → Processor I S) (c : Chain I S) : Chain I S :=
  if p.front then c.prepend (f p.hook) else c.append (f p.hook)

/-! ## Callbacks -/

/-- How a callback ends once it has done what it does. -/
inductive Ending where
  | pass
  /-- A list becomes its length. -/
  | count
  | fail (s : Status)
  | panic (text : Option String)
  deriving Repr

structure Behaviour where
  effects : List Effect := []
  ending : Ending := .pass
  deriving Repr

def Ending.apply (e : Ending) (o : Outcome (Answer Item)) : Ended Value :=
  match e with
  | .pass => .returned (o.map .answer)
  | .count => .returned (o.map fun
    | .many is => .count is.length
    | a => .answer a)
  | .fail s => .returned (.error s)
  | .panic t => .panicked t

def Behaviour.reply (b : Behaviour) (call : String) (o : Outcome (Answer Item)) : Reply Effect Value where
  effects := .note (.callback call o.toBool) :: b.effects
  ended := b.ending.apply o

/-- The callback of a raw call. -/
def Behaviour.callback (b : Behaviour) (call : String) : Callback Item Effect Value :=
  fun o => b.reply call (.ofGrpc o)

/-- The handler of a client's call: it runs on responses that passed every check. -/
def Behaviour.handler (b : Behaviour) (call : String) : Answer EchoResponse → Reply Effect Value
  | .one r => b.reply call (.ok (.one (.response r)))
  | .many rs => b.reply call (.ok (.many (rs.map .response)))

end CallPump.Bench
