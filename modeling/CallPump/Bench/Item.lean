/-
  CallPump.Bench.Item — what travels between a bench's calls and its scripted servers.

  A raw call exchanges texts; the call of a client exchanges echo messages, whole or in
  chunks, each way. A script answers from the requests it got, in the form that its call
  reads.
-/

import CallPump.Client

namespace CallPump.Bench

inductive Item where
  | text (s : String)
  | request (m : EchoRequest)
  | response (m : EchoResponse)
  | chunk (c : DataChunk)
  deriving DecidableEq, Repr, Inhabited

instance : Carries Item EchoRequest where
  wrap := .request
  unwrap? | .request m => some m | _ => none
  unwrap?_wrap _ := rfl

instance : Carries Item EchoResponse where
  wrap := .response
  unwrap? | .response m => some m | _ => none
  unwrap?_wrap _ := rfl

instance : Carries Item DataChunk where
  wrap := .chunk
  unwrap? | .chunk c => some c | _ => none
  unwrap?_wrap _ := rfl

/-- The form of what a call sends and of what it reads. -/
structure Dialect where
  raw : Bool := false
  chunksIn : Bool := false
  chunksOut : Bool := false
  deriving DecidableEq, Repr, Inhabited

abbrev ServerAnswer := Except GrpcStatus Item

namespace Dialect

def texts (got : List Item) : List String :=
  got.filterMap fun
    | .text s => some s
    | _ => none

def chunks (got : List Item) : List DataChunk := got.filterMap (Carries.unwrap? (M := DataChunk))

/-- The requests got so far; those that came in chunks have to make one whole. -/
def requests (d : Dialect) (got : List Item) : Except GrpcStatus (List EchoRequest) :=
  if d.chunksIn then
    match Chunk.toMessage (chunks got) with
    | .ok q => .ok [q]
    | .error e => .error ⟨.invalidArgument, e.status.display⟩
  else .ok (got.filterMap (Carries.unwrap? (M := EchoRequest)))

/-- A response that every check passes. -/
def echo (text : String) (blob : Bytes) : EchoResponse :=
  { header := some { error := some { code := 1 } }, text := text, blob := blob }

def echoAll (qs : List EchoRequest) : EchoResponse :=
  echo (",".intercalate (qs.map (·.text))) (qs.flatMap (·.blob))

/-- One answer for all requests; as many as there are chunks where the call reads chunks. -/
def joined (d : Dialect) (chunkSize : Nat) (got : List Item) : List ServerAnswer :=
  if d.raw then [.ok (.text (",".intercalate (texts got)))]
  else match d.requests got with
    | .error e => [.error e]
    | .ok qs =>
      if d.chunksOut then (Chunk.ofMessage (echoAll qs) chunkSize).map fun c => .ok (.chunk c)
      else [.ok (.response (echoAll qs))]

/-- One answer for each request. Chunks go back as they came. -/
def each (d : Dialect) (chunkSize : Nat) (got : List Item) : List ServerAnswer :=
  if d.raw then (texts got).map fun s => .ok (.text s)
  else if d.chunksOut then
    if d.chunksIn then (chunks got).map fun c => .ok (.chunk c) else d.joined chunkSize got
  else match d.requests got with
    | .error e => [.error e]
    | .ok qs => qs.map fun q => .ok (.response (echo q.text q.blob))

end Dialect

end CallPump.Bench
