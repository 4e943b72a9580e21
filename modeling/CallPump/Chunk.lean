/-
  CallPump.Chunk — a large message as a sequence of chunks.

  Every chunk repeats the size of the whole. A sequence is whole again when all chunks
  agree on that size and their data adds up to it; the first disagreement is reported
  before the sum is looked at. No payload comes out of any other sequence.
-/

import CallPump.Message
import CallPump.Status

namespace CallPump.Chunk

def defaultSize : Nat := 4 * 1024 * 1024

/-- `n` cuts of `size` bytes each, the last as long as there are bytes; `done` holds the
    earlier cuts, latest first. -/
def cuts (size : Nat) : Nat → Bytes → List Bytes → List Bytes
  | 0, _, done => done.reverse
  | n + 1, bs, done => cuts size n (bs.drop size) (bs.take size :: done)

/-- Cuts a payload into chunks of at most `size` bytes, where a size of zero counts as
    one. An empty payload is one chunk without data. -/
def split (payload : Bytes) (size : Nat) : List DataChunk :=
  let size := max size 1
  let total := payload.length
  if total = 0 then [{}]
  else (cuts size ((total + size - 1) / size) payload []).map fun d => ⟨UInt64.ofNat total, d⟩

def ofMessage {M : Type} [Wire.Message M] (m : M) (size : Nat) : List DataChunk := split (Wire.encode m) size

inductive JoinError where
  /-- The chunk at `index` says another size than the first. -/
  | inconsistent (index : Nat) (said first : UInt64)
  | mismatch (received declared : UInt64)
  | notAMessage (e : Wire.DecodeError)
  deriving DecidableEq, Repr

def JoinError.status : JoinError → Status
  | .inconsistent i said first => .chunking Status.inconsistentTotal
      ("Chunk " ++ toString i ++ " reports total size " ++ toString said.toNat ++
        ", first chunk reported " ++ toString first.toNat)
  | .mismatch n d => .chunking Status.sizeMismatch
      ("Chunks carry " ++ toString n.toNat ++ " bytes, declared total size is " ++ toString d.toNat)
  | .notAMessage e => .chunking Status.parseFailed
      ("Reassembled payload is not a valid message: " ++ e.message)

/-- The first chunk from position `i` on that says another size than `total`. -/
def firstOdd (total : UInt64) : Nat → List DataChunk → Option (Nat × UInt64)
  | _, [] => none
  | i, c :: cs => if c.totalSize = total then firstOdd total (i + 1) cs else some (i, c.totalSize)

/-- How many bytes the chunks carry, added up in 64 bits. -/
def received (cs : List DataChunk) : UInt64 := cs.foldr (fun c n => .ofNat c.data.length + n) 0

/-- The data of the chunks in their order. A chunk by itself holds the whole already. -/
def assemble : List DataChunk → Bytes
  | [only] => only.data
  | cs => cs.flatMap (·.data)

def join : List DataChunk → Except JoinError Bytes
  | [] => .ok []
  | c :: cs =>
    match firstOdd c.totalSize 0 (c :: cs) with
    | some (i, said) => .error (.inconsistent i said c.totalSize)
    | none =>
      if received (c :: cs) = c.totalSize then .ok (assemble (c :: cs))
      else .error (.mismatch (received (c :: cs)) c.totalSize)

def toMessage {M : Type} [Wire.Message M] (cs : List DataChunk) : Except JoinError M :=
  match join cs with
  | .error e => .error e
  | .ok bs => (Wire.decode bs).mapError .notAMessage

end CallPump.Chunk
