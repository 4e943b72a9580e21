/-
  CallPump.Proofs.Chunk — a payload that went in chunks comes out whole.

  The cuts of a payload add up to it and all say its size, whatever the size of a chunk, so
  joining them finds nothing to object to. A message that went in chunks is the message.
-/

import CallPump.Proofs.Chunk.Join
import CallPump.Proofs.Wire.RoundTrip

namespace CallPump.Chunk

/-- Enough cuts are all of the payload. -/
theorem flatten_cuts {size n : Nat} {bs : Bytes} (h : bs.length ≤ n * size) (done : List Bytes) :
    (cuts size n bs done).flatten = done.reverse.flatten ++ bs := by
  induction n generalizing bs done with
  | zero =>
    have hb : bs = [] := List.length_eq_zero_iff.mp (by omega)
    rw [cuts, hb, List.append_nil]
  | succ n ih =>
    have hd : (bs.drop size).length ≤ n * size := by
      rw [List.length_drop, Nat.sub_le_iff_le_add, ← Nat.succ_mul]
      exact h
    rw [cuts, ih hd, List.reverse_cons, List.flatten_append, List.flatten_singleton, List.append_assoc,
      List.take_append_drop]

/-- Chunks that all say the size of what they add up to. -/
theorem join_labelled {ds : List Bytes} {total : UInt64} (h : total.toNat = ds.flatten.length) :
    join (ds.map fun d => ⟨total, d⟩) = .ok ds.flatten := by
  have hd : (ds.map fun d => (⟨total, d⟩ : DataChunk)).flatMap (·.data) = ds.flatten := by
    rw [List.flatMap_map, List.flatMap_id']
  have ha : Agreed (ds.map fun d => ⟨total, d⟩) total := by
    intro c hc
    obtain ⟨d, -, rfl⟩ := List.mem_map.mp hc
    rfl
  rw [join_whole (.inr ⟨total, ha, by rw [carried_eq_length, hd, h]⟩), hd]

theorem join_split {payload : Bytes} (h : payload.length < UInt64.size) (size : Nat) :
    join (split payload size) = .ok payload := by
  rw [split]
  by_cases hz : payload.length = 0
  · rw [if_pos hz, List.length_eq_zero_iff.mp hz]
    rfl
  · have hs : 0 < max size 1 := by omega
    have hc : payload.length ≤ (payload.length + max size 1 - 1) / max size 1 * max size 1 := by
      have := Nat.lt_div_mul_add (a := payload.length + max size 1 - 1) hs
      omega
    have hf := flatten_cuts hc []
    rw [List.reverse_nil, List.flatten_nil, List.nil_append] at hf
    rw [if_neg hz, join_labelled (by rw [hf]; exact UInt64.toNat_ofNat_of_lt' h), hf]

/-- A message comes out of its chunks as it went in, whatever their size. -/
theorem toMessage_ofMessage {M : Type} [Wire.Message M] [Wire.Lossless M] {m : M} (h : Wire.Fits m) (size : Nat) :
    toMessage (ofMessage m size) = .ok m := by
  rw [toMessage, ofMessage, join_split h]
  simp only [Wire.Lossless.decode_encode m h]
  rfl

end CallPump.Chunk
