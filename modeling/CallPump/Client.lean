/-
  CallPump.Client — calls of a service, from typed requests to typed results.

  Before a call is made its requests are prepared: the effective parameters set the
  deadline and the logging choice, and the request chain runs on each request in turn,
  over one context. A failure there is the call's result and nothing is sent. When the
  call has ended, its result is the first of these that fails, else the handler's: the
  transport, the reassembly of chunks, the response chain on each response in order, and
  for a leased call the lease.

  The calls of a client travel as items of the pump it is on (`Carries`).
-/

import CallPump.Chunk
import CallPump.Config
import CallPump.Lease
import CallPump.Processor
import CallPump.Pump

namespace CallPump

/-- Items that messages of type `M` travel as. -/
class Carries (I M : Type) where
  wrap : M → I
  unwrap? : I → Option M
  unwrap?_wrap : ∀ m, unwrap? (wrap m) = some m

namespace Carries

variable {I M : Type} [Carries I M]

/-- A message of the type; any other item is a completion that is not the call's. -/
def take (i : I) : Except GrpcStatus M :=
  match unwrap? i with
  | some m => .ok m
  | none => .error .wrongPayload

def takeAll : List I → Except GrpcStatus (List M)
  | [] => .ok []
  | i :: is => do
    let m ← take i
    let ms ← takeAll is
    pure (m :: ms)

end Carries

/-- The operations that send one request. -/
inductive OneRequest where
  | unary
  /-- As `unary`, with a lease in the response. -/
  | leased
  | responseStream
  /-- One response to a request that goes in chunks. -/
  | chunkedRequest
  /-- One response that comes in chunks. -/
  | chunkedResponse
  | chunkedBidi
  deriving DecidableEq, Repr, Inhabited

/-- The operations that send any number of requests. -/
inductive ManyRequests where
  | requestStream
  | bidi
  deriving DecidableEq, Repr, Inhabited

inductive Issue (Req : Type) where
  | one (m : OneRequest) (request : Req)
  | many (m : ManyRequests) (requests : List Req)
  deriving Repr

/-- What a client is told from outside when it prepares a call. -/
structure Moment where
  now : Instant
  time : Timestamp
  token : String → Option String

/-- A prepared call. -/
structure Plan (I E T : Type) where
  context : Context
  launch : Launch I
  callback : Callback I E T

structure Client (E Req Resp : Type) where
  defaults : Params := {}
  requestChain : RequestChain E Req := {}
  responseChain : ResponseChain E Resp := {}
  /-- How the wallet is told of a lease result, where there is a wallet. -/
  wallet : Option (LeaseUseResult → E) := none
  chunkSize : Nat := Chunk.defaultSize

namespace Client

variable {E Req Resp I T : Type}

/-- The client of a configuration, with the default chains; `madeUp` is its name when the
    configuration gives none. -/
def ofConfig (config : Config) (madeUp : String) : Client E Req Resp where
  defaults := config.params
  requestChain := .defaults (config.givenName.getD madeUp)
  responseChain := .defaults
  chunkSize := config.chunkSize.toNat

def withChunkSize (c : Client E Req Resp) (n : Nat) : Client E Req Resp := { c with chunkSize := max n 1 }

/-! ## Preparing -/

/-- One request through the chain, from the context and the notes so far. -/
def prepareOne [RequestMessage Req] (c : Client E Req Resp) (m : Moment) (l : Logging) (q : Req)
    (ctx : Context) (notes : List E) : Context × List E × Outcome Req :=
  let header := l.apply ((RequestMessage.header q).getD {})
  let (d, r) := c.requestChain.process
    { request := some (RequestMessage.setHeader q none), time := m.time, token := m.token }
    { context := ctx, header := header, notes := notes }
  (d.context, d.notes, r.map fun () => RequestMessage.setHeader q (some d.header))

def prepareEach [RequestMessage Req] (c : Client E Req Resp) (m : Moment) (l : Logging) :
    List Req → Context → List E → Context × List E × Outcome (List Req)
  | [], ctx, notes => (ctx, notes, .ok [])
  | q :: qs, ctx, notes =>
    match c.prepareOne m l q ctx notes with
    | (ctx, notes, .error s) => (ctx, notes, .error s)
    | (ctx, notes, .ok q) =>
      match c.prepareEach m l qs ctx notes with
      | (ctx, notes, r) => (ctx, notes, r.map (q :: ·))

/-- Without a request the chain runs once, over a header that nobody gets. -/
def prepareMany [RequestMessage Req] (c : Client E Req Resp) (m : Moment) (l : Logging) (qs : List Req)
    (ctx : Context) : Context × List E × Outcome (List Req) :=
  if qs.isEmpty then
    let (d, r) := c.requestChain.process { request := none, time := m.time, token := m.token }
      { context := ctx, header := l.apply {} }
    (d.context, d.notes, r.map fun () => [])
  else c.prepareEach m l qs ctx []

/-- What an operation with one request puts on the wire for it. -/
def launchOne [RequestMessage Req] [Carries I Req] [Carries I DataChunk] (c : Client E Req Resp) (q : Req) :
    OneRequest → Launch I
  | .unary | .leased => .unary (Carries.wrap q)
  | .responseStream | .chunkedResponse => .responseStream (Carries.wrap q)
  | .chunkedRequest => .requestStream ((Chunk.ofMessage q c.chunkSize).map Carries.wrap)
  | .chunkedBidi => .bidi ((Chunk.ofMessage q c.chunkSize).map Carries.wrap)

def launchMany [Carries I Req] (qs : List Req) : ManyRequests → Launch I
  | .requestStream => .requestStream (qs.map Carries.wrap)
  | .bidi => .bidi (qs.map Carries.wrap)

/-! ## Receiving -/

/-- The response chain on one response; a missing header counts as an empty one. -/
def check [ResponseMessage Resp] (c : Client E Req Resp) (r : Resp) (notes : List E) : List E × Outcome Unit :=
  c.responseChain.process { header := (ResponseMessage.header r).getD {}, response := some r } notes

/-- The responses in order, up to the first that fails. -/
def checkEach [ResponseMessage Resp] (c : Client E Req Resp) : List Resp → List E → List E × Outcome Unit
  | [], notes => (notes, .ok ())
  | r :: rs, notes =>
    match c.check r notes with
    | (notes, .ok ()) => c.checkEach rs notes
    | (notes, .error s) => (notes, .error s)

def checkAnswer [ResponseMessage Resp] (c : Client E Req Resp) : Answer Resp → List E × Outcome Unit
  | .one r => c.check r []
  | .many rs => c.checkEach rs []

/-- The typed answer in what the transport brought. -/
def unpack [ResponseMessage Resp] [Carries I Resp] [Carries I DataChunk] (chunked : Bool) :
    Except GrpcStatus (Answer I) → Outcome (Answer Resp)
  | .error e => .error (.ofGrpc e)
  | .ok (.one i) => (Outcome.ofGrpc (Carries.take i)).map .one
  | .ok (.many is) =>
    if chunked then
      match Carries.takeAll (M := DataChunk) is with
      | .error e => .error (.ofGrpc e)
      | .ok cs =>
        match Chunk.toMessage cs with
        | .ok r => .ok (.one r)
        | .error e => .error e.status
    else (Outcome.ofGrpc (Carries.takeAll is)).map .many

/-- The lease in the answer of a leased call. -/
def checkLease [LeaseResponse Resp] (c : Client E Req Resp) (leased : Bool) : Answer Resp → List E × Outcome Unit
  | .one r => if leased then LeaseUseResult.processResponse c.wallet r else ([], .ok ())
  | .many _ => ([], .ok ())

def receive [LeaseResponse Resp] [Carries I Resp] [Carries I DataChunk] (c : Client E Req Resp)
    (chunked leased : Bool) (handler : Answer Resp → Reply E T) : Callback I E T := fun outcome =>
  match unpack chunked outcome with
  | .error s => { ended := .returned (.error s) }
  | .ok a =>
    match c.checkAnswer a with
    | (notes, .error s) => { effects := notes, ended := .returned (.error s) }
    | (notes, .ok ()) =>
      match c.checkLease leased a with
      | (heard, .error s) => { effects := notes ++ heard, ended := .returned (.error s) }
      | (heard, .ok ()) =>
        let r := handler a
        { effects := notes ++ heard ++ r.effects, ended := r.ended }

def OneRequest.chunked : OneRequest → Bool
  | .chunkedResponse | .chunkedBidi => true
  | _ => false

/-! ## Planning a call -/

/-- The notes of the request chain, and the call to make unless the chain failed. -/
def plan [RequestMessage Req] [LeaseResponse Resp] [Carries I Req] [Carries I Resp] [Carries I DataChunk]
    (c : Client E Req Resp) (m : Moment) (params : Params) (issue : Issue Req)
    (handler : Answer Resp → Reply E T) : Except Fault (List E × Outcome (Plan I E T)) := do
  let effective := c.defaults.combine params
  let ctx ← Context.setTimeout {} m.now effective.timeout
  match issue with
  | .one k q =>
    let (ctx, notes, r) := c.prepareOne m effective.logging q ctx []
    pure (notes, r.map fun q => ⟨ctx, c.launchOne q k, c.receive (OneRequest.chunked k) (k = .leased) handler⟩)
  | .many k qs =>
    let (ctx, notes, r) := c.prepareMany m effective.logging qs ctx
    pure (notes, r.map fun qs => ⟨ctx, launchMany qs k, c.receive false false handler⟩)

end Client

/-- Where the result of an issued call will be. -/
inductive Issued where
  | call (id : CallId)
  | failed (s : Status)
  deriving Repr

/-- Makes and starts the planned call; a plan that failed, or a pump that takes no call,
    leaves the pump as it is. -/
def Pump.issue {I E T : Type} (p : Pump I I E T) (plan : Outcome (Plan I E T)) :
    Issued × Pump I I E T × List (Order I I) :=
  match plan with
  | .error s => (.failed s, p, [])
  | .ok plan =>
    match p.create plan.launch.kind with
    | none => (.failed .shutdown, p, [])
    | some (id, p) =>
      match p.start id plan.context plan.launch plan.callback with
      | (.ok (), p, os) => (.call id, p, os)
      | (.error s, p, os) => (.failed s, p, os)

end CallPump
