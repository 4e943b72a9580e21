/-
  CallPump.Status — how a call that failed says so.

  A failure is a domain, a code within that domain and a text. The transport has codes
  of its own (`GrpcCode`); they enter a `Status` as the domain `transport` with the
  code's number. The other domains number their causes here, one abbreviation per cause.
-/

import CallPump.Text.Quoted

namespace CallPump

/-- Who found the failure. -/
inductive Domain where
  | transport
  | request
  | responseHeader
  | lease
  | chunking
  | client
  deriving DecidableEq, Repr, Inhabited

def Domain.name : Domain → String
  | .transport => "transport"
  | .request => "request"
  | .responseHeader => "response_header"
  | .lease => "lease"
  | .chunking => "chunking"
  | .client => "client"

def Domain.all : List Domain :=
  [.transport, .request, .responseHeader, .lease, .chunking, .client]

def Domain.ofName? (s : String) : Option Domain := Domain.all.find? (·.name == s)

/-! ## The transport's own codes -/

inductive GrpcCode where
  | ok
  | cancelled
  | unknown
  | invalidArgument
  | deadlineExceeded
  | notFound
  | alreadyExists
  | permissionDenied
  | resourceExhausted
  | failedPrecondition
  | aborted
  | outOfRange
  | unimplemented
  | internal
  | unavailable
  | dataLoss
  | unauthenticated
  deriving DecidableEq, Repr, Inhabited

namespace GrpcCode

/-- Every code, at the position that is its number. -/
def all : List GrpcCode :=
  [.ok, .cancelled, .unknown, .invalidArgument, .deadlineExceeded, .notFound, .alreadyExists,
   .permissionDenied, .resourceExhausted, .failedPrecondition, .aborted, .outOfRange,
   .unimplemented, .internal, .unavailable, .dataLoss, .unauthenticated]

def toNat : GrpcCode → Nat
  | .ok => 0
  | .cancelled => 1
  | .unknown => 2
  | .invalidArgument => 3
  | .deadlineExceeded => 4
  | .notFound => 5
  | .alreadyExists => 6
  | .permissionDenied => 7
  | .resourceExhausted => 8
  | .failedPrecondition => 9
  | .aborted => 10
  | .outOfRange => 11
  | .unimplemented => 12
  | .internal => 13
  | .unavailable => 14
  | .dataLoss => 15
  | .unauthenticated => 16

def name : GrpcCode → String
  | .ok => "Ok"
  | .cancelled => "Cancelled"
  | .unknown => "Unknown"
  | .invalidArgument => "InvalidArgument"
  | .deadlineExceeded => "DeadlineExceeded"
  | .notFound => "NotFound"
  | .alreadyExists => "AlreadyExists"
  | .permissionDenied => "PermissionDenied"
  | .resourceExhausted => "ResourceExhausted"
  | .failedPrecondition => "FailedPrecondition"
  | .aborted => "Aborted"
  | .outOfRange => "OutOfRange"
  | .unimplemented => "Unimplemented"
  | .internal => "Internal"
  | .unavailable => "Unavailable"
  | .dataLoss => "DataLoss"
  | .unauthenticated => "Unauthenticated"

/-- A number that names no code counts as `unknown`. -/
def ofInt (n : Int) : GrpcCode :=
  if n < 0 then .unknown else all[n.toNat]?.getD .unknown

theorem ofInt_toNat (c : GrpcCode) : ofInt c.toNat = c := by cases c <;> rfl

end GrpcCode

/-- The transport's verdict on an operation; an error even when its code is `ok`. -/
structure GrpcStatus where
  code : GrpcCode
  message : String
  deriving DecidableEq, Repr, Inhabited

namespace GrpcStatus

def deadlineExceeded : GrpcStatus := ⟨.deadlineExceeded, "Deadline exceeded"⟩

/-- A completion carried something else than the step it reached expects. -/
def wrongPayload : GrpcStatus := ⟨.internal, "Unexpected completion payload"⟩

/-- A step waits for a body that the call does not hold. -/
def neverOpened : GrpcStatus := ⟨.internal, "Stream was never opened"⟩

/-- The body was given up when its queue shut down. -/
def abandoned : GrpcStatus := ⟨.cancelled, "Abandoned at shutdown"⟩

/-- The body panicked; the text names no particular task. -/
def bodyPanicked (text : String) : GrpcStatus :=
  ⟨.internal, "Transport task failed: task <id> panicked with message " ++ Text.Quoted.quote text⟩

end GrpcStatus

/-! ## Failures of calls -/

structure Status where
  domain : Domain
  code : Int
  message : String
  deriving DecidableEq, Repr, Inhabited

namespace Status

/-! Codes by domain. -/

abbrev missingClientName : Int := 1
abbrev missingAuthToken : Int := 2
abbrev invalidAuthToken : Int := 3
abbrev sizeMismatch : Int := 1
abbrev inconsistentTotal : Int := 2
abbrev parseFailed : Int := 3
abbrev cancelledCode : Int := 1
abbrev shutdownCode : Int := 2
abbrev alreadyStartedCode : Int := 3
abbrev promiseDroppedCode : Int := 4
abbrev callbackPanickedCode : Int := 5

def transport (c : GrpcCode) (message : String) : Status := ⟨.transport, c.toNat, message⟩
def request (code : Int) (message : String) : Status := ⟨.request, code, message⟩
def chunking (code : Int) (message : String) : Status := ⟨.chunking, code, message⟩
def client (code : Int) (message : String) : Status := ⟨.client, code, message⟩

/-- The call was cancelled before it produced a result. -/
def cancelled : Status := client cancelledCode "Call was cancelled by the client"

/-- The pump was shut down before the call could be issued. -/
def shutdown : Status := client shutdownCode "Message pump is shut down, call was not issued"

/-- The promise went away unset. -/
def promiseDropped : Status := client promiseDroppedCode "Call was released without producing a result"

/-- A callback ended by a panic; `none` when the panic carried no text. -/
def callbackPanicked (text : Option String) : Status :=
  client callbackPanickedCode ("Callback panicked: " ++ text.getD "non-string panic payload")

def alreadyStarted (call : String) : Status := client alreadyStartedCode (call ++ " was already started")

def ofGrpc (s : GrpcStatus) : Status := transport s.code s.message

def has (s : Status) (d : Domain) (code : Int) : Bool := s.domain == d && s.code == code

/-- A cancellation made on this side, by `cancel` or by shutdown. -/
def isCancelled (s : Status) : Bool := s.has .client cancelledCode || s.has .client shutdownCode

/-- The transport's code, of a failure that the transport reported. -/
def transportCode? (s : Status) : Option GrpcCode :=
  if s.domain = .transport then some (.ofInt s.code) else none

def display (s : Status) : String :=
  s.domain.name ++ " error " ++ toString s.code ++ ": " ++ s.message

theorem transportCode?_ofGrpc (s : GrpcStatus) : (ofGrpc s).transportCode? = some s.code := by
  simp [ofGrpc, transport, transportCode?, GrpcCode.ofInt_toNat]

end Status

/-- What an operation on a call comes to. -/
abbrev Outcome (α : Type) := Except Status α

/-- A transport error, seen as a failure of the call. -/
def Outcome.ofGrpc {α : Type} : Except GrpcStatus α → Outcome α
  | .ok a => .ok a
  | .error e => .error (.ofGrpc e)

end CallPump
