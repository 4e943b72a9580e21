/-
  CallPump.Message — the messages that calls exchange, with their fields on the wire.

  Headers travel inside requests and responses; a response to a call that used a lease
  says what became of it; a large message travels as a sequence of chunks. Enumerations
  are numbers on the wire and may hold one that has no name.
-/

import CallPump.Wire.Schema

namespace CallPump

open Wire

/-! ## Shared parts -/

structure Timestamp where
  seconds : Int64 := 0
  nanos : Int32 := 0
  deriving DecidableEq, Repr, Inhabited

instance : Message Timestamp where
  schema := {
    name := "Timestamp"
    empty := {}
    fields := [
      .one 1 "seconds" .int64 (·.seconds) fun m v => { m with seconds := v },
      .one 2 "nanos" .int32 (·.nanos) fun m v => { m with nanos := v }] }

/-- A value of a type that is named beside it. -/
structure Any where
  typeUrl : String := ""
  value : Bytes := []
  deriving DecidableEq, Repr, Inhabited

instance : Message Any where
  schema := {
    name := "Any"
    empty := {}
    fields := [
      .one 1 "type_url" .text (·.typeUrl) fun m v => { m with typeUrl := v },
      .one 2 "value" .bytes (·.value) fun m v => { m with value := v }] }

/-! ## Headers -/

structure RequestHeader where
  requestTimestamp : Option Timestamp := none
  clientName : String := ""
  disableRpcLogging : Bool := false
  deriving DecidableEq, Repr, Inhabited

instance : Message RequestHeader where
  schema := {
    name := "RequestHeader"
    empty := {}
    fields := [
      .sub 1 "request_timestamp" Message.schema (·.requestTimestamp) fun m v => { m with requestTimestamp := v },
      .one 2 "client_name" .text (·.clientName) fun m v => { m with clientName := v },
      .one 3 "disable_rpc_logging" .bool (·.disableRpcLogging) fun m v => { m with disableRpcLogging := v }] }

/-- The server's own verdict on a request. -/
structure CommonError where
  code : Int32 := 0
  message : String := ""
  data : Option Any := none
  deriving DecidableEq, Repr, Inhabited

instance : Message CommonError where
  schema := {
    name := "CommonError"
    empty := {}
    fields := [
      .one 1 "code" .int32 (·.code) fun m v => { m with code := v },
      .one 2 "message" .text (·.message) fun m v => { m with message := v },
      .sub 3 "data" Message.schema (·.data) fun m v => { m with data := v }] }

structure ResponseHeader where
  requestHeader : Option RequestHeader := none
  requestReceivedTimestamp : Option Timestamp := none
  responseTimestamp : Option Timestamp := none
  error : Option CommonError := none
  request : Option Any := none
  deriving DecidableEq, Repr, Inhabited

instance : Message ResponseHeader where
  schema := {
    name := "ResponseHeader"
    empty := {}
    fields := [
      .sub 1 "request_header" Message.schema (·.requestHeader) fun m v => { m with requestHeader := v },
      .sub 2 "request_received_timestamp" Message.schema (·.requestReceivedTimestamp) fun m v =>
        { m with requestReceivedTimestamp := v },
      .sub 3 "response_timestamp" Message.schema (·.responseTimestamp) fun m v => { m with responseTimestamp := v },
      .sub 4 "error" Message.schema (·.error) fun m v => { m with error := v },
      .sub 5 "request" Message.schema (·.request) fun m v => { m with request := v }] }

inductive ErrorCode where
  | unspecified
  | ok
  | internalServerError
  | invalidRequest
  deriving DecidableEq, Repr, Inhabited

namespace ErrorCode

def all : List ErrorCode := [.unspecified, .ok, .internalServerError, .invalidRequest]

def toNat : ErrorCode → Nat
  | .unspecified => 0
  | .ok => 1
  | .internalServerError => 2
  | .invalidRequest => 3

def name : ErrorCode → String
  | .unspecified => "CODE_UNSPECIFIED"
  | .ok => "CODE_OK"
  | .internalServerError => "CODE_INTERNAL_SERVER_ERROR"
  | .invalidRequest => "CODE_INVALID_REQUEST"

def ofInt? (n : Int) : Option ErrorCode := all.find? fun c => (c.toNat : Int) == n

def ofName? (s : String) : Option ErrorCode := all.find? (·.name == s)

end ErrorCode

/-- The named code; a number without a name counts as unspecified. -/
def CommonError.kind (e : CommonError) : ErrorCode := (ErrorCode.ofInt? e.code.toInt).getD .unspecified

/-! ## Chunks -/

structure DataChunk where
  /-- The size of the whole, repeated in every chunk. -/
  totalSize : UInt64 := 0
  data : Bytes := []
  deriving DecidableEq, Repr, Inhabited

instance : Message DataChunk where
  schema := {
    name := "DataChunk"
    empty := {}
    fields := [
      .one 1 "total_size" .uint64 (·.totalSize) fun m v => { m with totalSize := v },
      .one 2 "data" .bytes (·.data) fun m v => { m with data := v }] }

/-! ## Leases -/

structure Lease where
  resource : String := ""
  epoch : String := ""
  sequence : List UInt32 := []
  clientNames : List String := []
  deriving DecidableEq, Repr, Inhabited

instance : Message Lease where
  schema := {
    name := "Lease"
    empty := {}
    fields := [
      .one 1 "resource" .text (·.resource) fun m v => { m with resource := v },
      .one 2 "epoch" .text (·.epoch) fun m v => { m with epoch := v },
      .packed 3 "sequence" .uint32 (·.sequence) fun m v => { m with sequence := v },
      .many 4 "client_names" .text (·.clientNames) fun m v => { m with clientNames := v }] }

structure LeaseOwner where
  clientName : String := ""
  userName : String := ""
  deriving DecidableEq, Repr, Inhabited

instance : Message LeaseOwner where
  schema := {
    name := "LeaseOwner"
    empty := {}
    fields := [
      .one 1 "client_name" .text (·.clientName) fun m v => { m with clientName := v },
      .one 2 "user_name" .text (·.userName) fun m v => { m with userName := v }] }

structure LeaseUseResult where
  status : Int32 := 0
  owner : Option LeaseOwner := none
  attemptedLease : Option Lease := none
  previousLease : Option Lease := none
  latestKnownLease : Option Lease := none
  latestResources : List Lease := []
  deriving DecidableEq, Repr, Inhabited

instance : Message LeaseUseResult where
  schema := {
    name := "LeaseUseResult"
    empty := {}
    fields := [
      .one 1 "status" .int32 (·.status) fun m v => { m with status := v },
      .sub 2 "owner" Message.schema (·.owner) fun m v => { m with owner := v },
      .sub 3 "attempted_lease" Message.schema (·.attemptedLease) fun m v => { m with attemptedLease := v },
      .sub 4 "previous_lease" Message.schema (·.previousLease) fun m v => { m with previousLease := v },
      .sub 5 "latest_known_lease" Message.schema (·.latestKnownLease) fun m v => { m with latestKnownLease := v },
      .subs 6 "latest_resources" Message.schema (·.latestResources) fun m v => { m with latestResources := v }] }

inductive LeaseStatus where
  | unknown
  | ok
  | invalidLease
  | older
  | revoked
  | unmanaged
  | wrongEpoch
  deriving DecidableEq, Repr, Inhabited

namespace LeaseStatus

def all : List LeaseStatus := [.unknown, .ok, .invalidLease, .older, .revoked, .unmanaged, .wrongEpoch]

def toNat : LeaseStatus → Nat
  | .unknown => 0
  | .ok => 1
  | .invalidLease => 2
  | .older => 3
  | .revoked => 4
  | .unmanaged => 5
  | .wrongEpoch => 6

def name : LeaseStatus → String
  | .unknown => "STATUS_UNKNOWN"
  | .ok => "STATUS_OK"
  | .invalidLease => "STATUS_INVALID_LEASE"
  | .older => "STATUS_OLDER"
  | .revoked => "STATUS_REVOKED"
  | .unmanaged => "STATUS_UNMANAGED"
  | .wrongEpoch => "STATUS_WRONG_EPOCH"

def ofInt? (n : Int) : Option LeaseStatus := all.find? fun c => (c.toNat : Int) == n

def ofName? (s : String) : Option LeaseStatus := all.find? (·.name == s)

end LeaseStatus

/-- The named status; a number without a name counts as unknown. -/
def LeaseUseResult.kind (r : LeaseUseResult) : LeaseStatus := (LeaseStatus.ofInt? r.status.toInt).getD .unknown

/-! ## Requests and responses -/

/-- A message that can be sent: it has a place for a header. -/
class RequestMessage (M : Type) extends Message M where
  header : M → Option RequestHeader
  setHeader : M → Option RequestHeader → M

/-- A message that can be received: it may carry a header. -/
class ResponseMessage (M : Type) extends Message M where
  header : M → Option ResponseHeader

/-- A response that may say what became of a lease. -/
class LeaseResponse (M : Type) extends ResponseMessage M where
  leaseUse : M → Option LeaseUseResult

structure EchoRequest where
  header : Option RequestHeader := none
  text : String := ""
  blob : Bytes := []
  deriving DecidableEq, Repr, Inhabited

instance : RequestMessage EchoRequest where
  schema := {
    name := "EchoRequest"
    empty := {}
    fields := [
      .sub 1 "header" Message.schema (·.header) fun m v => { m with header := v },
      .one 2 "text" .text (·.text) fun m v => { m with text := v },
      .one 3 "blob" .bytes (·.blob) fun m v => { m with blob := v }] }
  header := (·.header)
  setHeader m v := { m with header := v }

structure EchoResponse where
  header : Option ResponseHeader := none
  text : String := ""
  blob : Bytes := []
  leaseUseResult : Option LeaseUseResult := none
  deriving DecidableEq, Repr, Inhabited

instance : LeaseResponse EchoResponse where
  schema := {
    name := "EchoResponse"
    empty := {}
    fields := [
      .sub 1 "header" Message.schema (·.header) fun m v => { m with header := v },
      .one 2 "text" .text (·.text) fun m v => { m with text := v },
      .one 3 "blob" .bytes (·.blob) fun m v => { m with blob := v },
      .sub 4 "lease_use_result" Message.schema (·.leaseUseResult) fun m v => { m with leaseUseResult := v }] }
  header := (·.header)
  leaseUse := (·.leaseUseResult)

end CallPump
