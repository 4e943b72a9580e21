/-
  CallPump.Proofs.Wire.Whole — every message that calls exchange survives its chunks.

  A message of any type is written, its bytes are cut wherever the chunk size falls (inside
  a number, a length or a sub-message), the cuts are joined and the result is read. What is
  written is read back (`Lossless`, one instance for each type) and cuts join to what was
  cut, so the message is the same for every size: zero counts as one, a size beyond the
  message gives one chunk, and a message without bytes travels as one chunk without data.

  - `comes_back_whole`: so it is for each of the types.
-/

import CallPump.Proofs.Chunk
import CallPump.Proofs.Wire.Messages

namespace CallPump

/-- The types of message that travel between a client and a server, or inside one that does. -/
inductive Exchanged : (M : Type) → [Wire.Message M] → Prop
  | timestamp : Exchanged Timestamp
  | any : Exchanged Any
  | requestHeader : Exchanged RequestHeader
  | commonError : Exchanged CommonError
  | responseHeader : Exchanged ResponseHeader
  | dataChunk : Exchanged DataChunk
  | lease : Exchanged Lease
  | leaseOwner : Exchanged LeaseOwner
  | leaseUseResult : Exchanged LeaseUseResult
  | echoRequest : Exchanged EchoRequest
  | echoResponse : Exchanged EchoResponse

namespace Exchanged

theorem lossless {M : Type} [Wire.Message M] (h : Exchanged M) : Wire.Lossless M := by
  cases h <;> infer_instance

/-- For every message of every type, whatever its fields hold, and for every chunk size: out
    of its chunks comes the message itself. The bound is no bound on messages: the size that
    every chunk repeats has 64 bits, and memory holds no more bytes than those can count. -/
theorem comes_back_whole {M : Type} [Wire.Message M] (h : Exchanged M) (m : M) (hm : Wire.Fits m) (size : Nat) :
    Chunk.toMessage (Chunk.ofMessage m size) = .ok m := by
  have := h.lossless
  exact Chunk.toMessage_ofMessage hm size

/-- Numbers below zero, a code without a name, sub-messages that are present and empty, and
    lists of any length, cut byte by byte. -/
theorem comes_back_whole_byteByByte :
    let m : EchoResponse := {
      header := some {
        requestHeader := some {}
        responseTimestamp := some { seconds := -1, nanos := -5 }
        error := some { code := -7, message := "no", data := some {} } }
      leaseUseResult := some {
        status := -1
        owner := some {}
        latestKnownLease := some { resource := "body", sequence := [0, 300, 4294967295], clientNames := ["", "arm"] }
        latestResources := [{}, { epoch := "e" }] } }
    Wire.Fits m ∧ Chunk.toMessage (Chunk.ofMessage m 0) = .ok m := by
  intro m
  have hm : Wire.Fits m := by decide +kernel
  exact ⟨hm, comes_back_whole .echoResponse m hm 0⟩

end Exchanged

end CallPump
