/-
  CallPump.Processor — hooks on every request that leaves and every response that comes.

  A processor looks at an input, may change the state it is given, and passes or fails. A
  chain runs its processors in order on one state and stops at the first failure, with
  the state as the failing processor left it. What a processor has to say besides goes
  into the notes of the state.
-/

import CallPump.Context
import CallPump.Status

namespace CallPump

abbrev Processor (I S : Type) := I → S → S × Outcome Unit

structure Chain (I S : Type) where
  processors : List (Processor I S) := []

namespace Chain

variable {I S : Type}

def append (c : Chain I S) (p : Processor I S) : Chain I S := ⟨c.processors ++ [p]⟩

def prepend (c : Chain I S) (p : Processor I S) : Chain I S := ⟨p :: c.processors⟩

def size (c : Chain I S) : Nat := c.processors.length

def isEmpty (c : Chain I S) : Bool := c.processors.isEmpty

def run (i : I) : List (Processor I S) → S → S × Outcome Unit
  | [], s => (s, .ok ())
  | p :: ps, s =>
    match p i s with
    | (s, .ok ()) => run i ps s
    | (s, .error e) => (s, .error e)

def process (c : Chain I S) (i : I) (s : S) : S × Outcome Unit := run i c.processors s

end Chain

/-! ## Requests -/

/-- What a request processor looks at. -/
structure Sending (Req : Type) where
  /-- The request, its header taken out; none when there is no request to look at. -/
  request : Option Req
  time : Timestamp
  /-- The slots that hold refreshable tokens. -/
  token : String → Option String

/-- What a request processor may change. -/
structure Draft (N : Type) where
  context : Context := {}
  header : RequestHeader := {}
  notes : List N := []

abbrev RequestProcessor (N Req : Type) := Processor (Sending Req) (Draft N)

abbrev RequestChain (N Req : Type) := Chain (Sending Req) (Draft N)

namespace RequestProcessor

variable {N Req : Type}

/-- Fills in the client's name where the request has none. -/
def clientName (name : String) : RequestProcessor N Req := fun _ d =>
  if d.header.clientName ≠ "" then (d, .ok ())
  else if name = "" then
    (d, .error (.request Status.missingClientName "Request has no client name and none is configured"))
  else ({ d with header := { d.header with clientName := name } }, .ok ())

def timestamp : RequestProcessor N Req := fun i d =>
  ({ d with header := { d.header with requestTimestamp := some i.time } }, .ok ())

/-- Puts the token of a slot into the metadata. -/
def authToken (slot : String) : RequestProcessor N Req := fun i d =>
  match i.token slot with
  | none => (d, .error (.request Status.missingAuthToken "No auth token available, authenticate first"))
  | some t =>
    let v := "Bearer " ++ t
    if Metadata.isValue v then
      ({ d with context := { d.context with metadata := d.context.metadata.put "authorization" v } }, .ok ())
    else (d, .error (.request Status.invalidAuthToken "Auth token is not valid request metadata"))

end RequestProcessor

/-- The client's name, then the time. -/
def RequestChain.defaults {N Req : Type} (name : String) : RequestChain N Req :=
  ⟨[RequestProcessor.clientName name, RequestProcessor.timestamp]⟩

/-! ## Responses -/

/-- What a response processor looks at. -/
structure Arrival (Resp : Type) where
  status : GrpcStatus := ⟨.ok, ""⟩
  header : ResponseHeader := {}
  response : Option Resp := none

abbrev ResponseProcessor (N Resp : Type) := Processor (Arrival Resp) (List N)

abbrev ResponseChain (N Resp : Type) := Chain (Arrival Resp) (List N)

/-- The verdict in a header. Only the code `ok` passes: a header that was never filled in
    is a failure too. -/
def ResponseHeader.check (h : ResponseHeader) : Outcome Unit :=
  let e := h.error.getD {}
  if e.kind = .ok then .ok ()
  else .error ⟨.responseHeader, e.kind.toNat,
    if e.message = "" then e.kind.name else e.kind.name ++ ": " ++ e.message⟩

def ResponseProcessor.commonError {N Resp : Type} : ResponseProcessor N Resp := fun i notes => (notes, i.header.check)

def ResponseChain.defaults {N Resp : Type} : ResponseChain N Resp := ⟨[ResponseProcessor.commonError]⟩

end CallPump
