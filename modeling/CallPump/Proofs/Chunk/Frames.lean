/-
  CallPump.Proofs.Chunk.Frames — where a payload is cut.

  The frame at position `i` holds the bytes from `i * size` on, `size` of them or as many as
  there are. Every frame before the last is therefore full, the last one has what is left,
  and one frame fewer would leave bytes over.

  The cut does its arithmetic with numbers of any size. A machine that has 64 bits for a
  position adds the size of a frame to the position it starts at, and that sum may be past
  the payload by almost a frame: `splitInWords?` is the cut in such words, which comes to
  nothing where a sum does not fit or a frame would read outside the payload.

  - `split_eq`: every frame of a payload; `cut_split`: how many there are, how long each is
    and that they are the payload.
  - `sum_fits`: a frame's start and the size of a frame, added in 64 bits.
  - `split_within_words`: a payload below `2 ^ 63` bytes is cut in words of 64 bits, for
    every size of a frame.
-/

import CallPump.Proofs.Chunk
import Mathlib.Algebra.Order.Floor.Div

namespace CallPump.Chunk

variable {payload : Bytes} {size i : Nat} {c : DataChunk}

/-- The frames are the payload, in pieces of `size` bytes and a rest. -/
structure Cut (payload : Bytes) (size : Nat) (frames : List DataChunk) : Prop where
  count : frames.length = max 1 (payload.length ⌈/⌉ size)
  total : ∀ c ∈ frames, c.totalSize.toNat = payload.length
  place : ∀ i c, frames[i]? = some c → c.data = (payload.drop (i * size)).take size
  full : ∀ i c, frames[i]? = some c → i + 1 < frames.length → c.data.length = size
  rest : ∀ c, frames.getLast? = some c → c.data.length ≤ size ∧ (c.data = [] ↔ payload = [])
  whole : frames.flatMap (·.data) = payload

/-! ## One frame after the other -/

theorem cuts_eq (size n : Nat) (bs : Bytes) (done : List Bytes) :
    cuts size n bs done = done.reverse ++ (List.range n).map fun i => (bs.drop (i * size)).take size := by
  induction n generalizing bs done with
  | zero => rw [cuts, List.range_zero, List.map_nil, List.append_nil]
  | succ n ih =>
    have later (i : Nat) : ((bs.drop size).drop (i * size)).take size = (bs.drop ((i + 1) * size)).take size := by
      rw [List.drop_drop, Nat.succ_mul, Nat.add_comm size]
    rw [cuts, ih, List.range_succ_eq_map, List.map_cons, List.map_map, List.reverse_cons, List.append_assoc]
    simp only [later, Nat.zero_mul, List.drop_zero, List.singleton_append, Function.comp_def]

/-- A size of zero counts as one. -/
theorem split_max (payload : Bytes) (size : Nat) : split payload (max size 1) = split payload size := by
  rw [split, split, Nat.max_assoc, Nat.max_self]

theorem split_nil (size : Nat) : split [] size = [{}] := rfl

theorem split_eq (h : payload ≠ []) (hs : 0 < size) :
    split payload size = (List.range (payload.length ⌈/⌉ size)).map fun i =>
      ⟨.ofNat payload.length, (payload.drop (i * size)).take size⟩ := by
  have hz : ¬ payload.length = 0 := fun hz => h (List.length_eq_zero_iff.mp hz)
  rw [split, Nat.max_eq_left hs, if_neg hz, cuts_eq, List.reverse_nil, List.nil_append, List.map_map]
  rfl

/-- There is a frame at position `i` as long as there are bytes from `i * size` on. -/
theorem lt_count (hs : 0 < size) : i < payload.length ⌈/⌉ size ↔ i * size < payload.length := by
  rw [← not_le, ceilDiv_le_iff_le_mul hs, not_le, Nat.mul_comm]

theorem getElem?_split (h : payload ≠ []) (hs : 0 < size) (hc : (split payload size)[i]? = some c) :
    i * size < payload.length ∧ c = ⟨.ofNat payload.length, (payload.drop (i * size)).take size⟩ := by
  rw [split_eq h hs, List.getElem?_map] at hc
  obtain ⟨j, hj, rfl⟩ := Option.map_eq_some_iff.mp hc
  obtain ⟨hlt, rfl⟩ := List.getElem?_eq_some_iff.mp hj
  rw [List.length_range] at hlt
  rw [List.getElem_range]
  exact ⟨(lt_count hs).mp hlt, rfl⟩

/-- Each frame says how long the payload is. -/
theorem totalSize_split (hc : c ∈ split payload size) : c.totalSize = .ofNat payload.length := by
  rw [split] at hc
  split at hc
  · rename_i hz
    rw [List.mem_singleton.mp hc, hz]
    rfl
  · obtain ⟨d, -, rfl⟩ := List.mem_map.mp hc
    rfl

/-- No frame is empty, unless the payload is. -/
theorem data_split (h : payload ≠ []) (hc : c ∈ split payload size) : c.data ≠ [] := by
  have hs : 0 < max size 1 := by omega
  rw [← split_max] at hc
  obtain ⟨i, hi⟩ := List.mem_iff_getElem?.mp hc
  obtain ⟨hlt, rfl⟩ := getElem?_split h hs hi
  intro hd
  have hl := congrArg List.length hd
  rw [List.length_take, List.length_drop, List.length_nil] at hl
  omega

theorem cut_nil (size : Nat) : Cut [] size (split [] size) where
  count := by rw [split_nil, List.length_nil, zero_ceilDiv]; rfl
  total := by
    intro c hc
    rw [List.mem_singleton.mp hc]
    rfl
  place := by
    rintro (_ | i) c hc
    · cases hc
      rw [List.drop_nil, List.take_nil]
    · cases hc
  full := fun i c _ hi => absurd hi (Nat.not_lt.mpr (Nat.le_add_left 1 i))
  rest := by
    intro c hc
    cases hc
    exact ⟨Nat.zero_le size, iff_of_true rfl rfl⟩
  whole := rfl

theorem cut_split (h : payload.length < UInt64.size) (hs : 0 < size) : Cut payload size (split payload size) := by
  by_cases hp : payload = []
  · rw [hp]
    exact cut_nil size
  have hn : (split payload size).length = payload.length ⌈/⌉ size := by
    rw [split_eq hp hs, List.length_map, List.length_range]
  have some_bytes : 0 < payload.length := List.length_pos_iff.mpr hp
  constructor
  case count =>
    have : 0 < payload.length ⌈/⌉ size := (lt_count hs).mpr (by rwa [Nat.zero_mul])
    omega
  case total =>
    intro c hc
    rw [totalSize_split hc, UInt64.toNat_ofNat_of_lt' h]
  case place =>
    intro i c hc
    rw [(getElem?_split hp hs hc).2]
  case full =>
    intro i c hc hi
    have next : (i + 1) * size < payload.length := (lt_count hs).mp (hn ▸ hi)
    rw [Nat.succ_mul] at next
    rw [(getElem?_split hp hs hc).2, List.length_take, List.length_drop]
    omega
  case rest =>
    intro c hc
    have hm : c ∈ split payload size := List.mem_of_getLast? hc
    obtain ⟨i, hi⟩ := List.mem_iff_getElem?.mp hm
    refine ⟨?_, iff_of_false (data_split hp hm) hp⟩
    rw [(getElem?_split hp hs hi).2]
    exact List.length_take_le size _
  case whole => exact (flatMap_of_join (join_split h size)).symm

/-! ## The same in 64 bits -/

/-- A sum, if it fits. -/
def sum? (a b : UInt64) : Option UInt64 := if a.toNat + b.toNat < UInt64.size then some (a + b) else none

/-- The bytes from `start` up to `stop`, if those are positions in the payload. -/
def slice? (payload : Bytes) (start stop : UInt64) : Option Bytes :=
  if start ≤ stop ∧ stop.toNat ≤ payload.length then some ((payload.take stop.toNat).drop start.toNat) else none

/-- The frame that starts at `start` and stops `size` bytes later, or at the payload's end. -/
def frameAt? (payload : Bytes) (size start : UInt64) : Option DataChunk :=
  let total := UInt64.ofNat payload.length
  (sum? start size).bind fun stop => (slice? payload start (min stop total)).map fun data => ⟨total, data⟩

/-- The multiples of `size` that are positions in the payload. -/
def starts (payload : Bytes) (size : UInt64) : List UInt64 :=
  (List.range (payload.length ⌈/⌉ size.toNat)).map fun i => .ofNat (i * size.toNat)

def splitInWords? (payload : Bytes) (size : UInt64) : Option (List DataChunk) :=
  let size := max size 1
  if payload = [] then some [{}] else (starts payload size).mapM (frameAt? payload size)

/-- Either the frame is the first, which starts at zero, or it starts at least its own size
    after the payload does, and the sum is less than twice the payload. -/
theorem sum_fits (h : payload.length < 2 ^ 63) (hs : size < UInt64.size) (hi : i * size < payload.length) :
    i * size + size < UInt64.size := by
  cases i with
  | zero => rwa [Nat.zero_mul, Nat.zero_add]
  | succ i =>
    have hle : size ≤ (i + 1) * size := Nat.le_mul_of_pos_left size (Nat.succ_pos i)
    have hw : UInt64.size = 2 * 2 ^ 63 := rfl
    omega

theorem frameAt?_eq {size : UInt64} (h : payload.length < 2 ^ 63) (hi : i * size.toNat < payload.length) :
    frameAt? payload size (.ofNat (i * size.toNat)) =
      some ⟨.ofNat payload.length, (payload.drop (i * size.toNat)).take size.toNat⟩ := by
  have fits := sum_fits h size.toNat_lt_size hi
  have hstart : (UInt64.ofNat (i * size.toNat)).toNat = i * size.toNat := UInt64.toNat_ofNat_of_lt' (by omega)
  have htotal : (UInt64.ofNat payload.length).toNat = payload.length :=
    UInt64.toNat_ofNat_of_lt' (Nat.lt_trans h (by decide))
  have hstop : (UInt64.ofNat (i * size.toNat) + size).toNat = i * size.toNat + size.toNat := by
    rw [UInt64.toNat_add, hstart, Nat.mod_eq_of_lt fits]
  have hend : (min (UInt64.ofNat (i * size.toNat) + size) (UInt64.ofNat payload.length)).toNat =
      min (i * size.toNat + size.toNat) payload.length := by
    rw [UInt64.toNat_min, hstop, htotal]
  have inside : UInt64.ofNat (i * size.toNat) ≤ min (UInt64.ofNat (i * size.toNat) + size) (UInt64.ofNat payload.length) := by
    rw [UInt64.le_iff_toNat_le, hend, hstart]
    omega
  have piece : (payload.take (min (i * size.toNat + size.toNat) payload.length)).drop (i * size.toNat) =
      (payload.drop (i * size.toNat)).take size.toNat := by
    rw [List.drop_take, List.take_eq_take_iff, List.length_drop]
    omega
  rw [frameAt?, sum?, if_pos (by rwa [hstart]), Option.bind_some, slice?, if_pos ⟨inside, by omega⟩, Option.map_some,
    hend, hstart, piece]

theorem mapM_eq_some {α β : Type} {f : α → Option β} {g : α → β} {xs : List α} (h : ∀ x ∈ xs, f x = some (g x)) :
    xs.mapM f = some (xs.map g) := by
  induction xs with
  | nil => rfl
  | cons x xs ih =>
    rw [List.forall_mem_cons] at h
    rw [List.mapM_cons, h.1, ih h.2]
    rfl

theorem mapM_frameAt? {size : UInt64} (h : payload.length < 2 ^ 63) (hp : payload ≠ []) (hs : 0 < size.toNat) :
    (starts payload size).mapM (frameAt? payload size) = some (split payload size.toNat) := by
  have each : ∀ i ∈ List.range (payload.length ⌈/⌉ size.toNat),
      (frameAt? payload size ∘ fun i => UInt64.ofNat (i * size.toNat)) i =
        some ⟨.ofNat payload.length, (payload.drop (i * size.toNat)).take size.toNat⟩ :=
    fun i hi => frameAt?_eq h ((lt_count hs).mp (List.mem_range.mp hi))
  rw [starts, List.mapM_map, mapM_eq_some each, split_eq hp hs]

/-- A payload that is shorter than `2 ^ 63` bytes is cut in words of 64 bits as it is in
    numbers of any size, for every size of a frame: no sum is too large, and no frame reads
    outside the payload. -/
theorem split_within_words (h : payload.length < 2 ^ 63) (size : UInt64) :
    splitInWords? payload size = some (split payload size.toNat) ∧
      Cut payload (max size.toNat 1) (split payload size.toNat) := by
  have hm : (max size 1).toNat = max size.toNat 1 := UInt64.toNat_max size 1
  have hs : 0 < max size.toNat 1 := by omega
  rw [← split_max]
  refine ⟨?_, cut_split (Nat.lt_trans h (by decide)) hs⟩
  by_cases hp : payload = []
  · rw [hp]
    rfl
  · rw [splitInWords?, if_neg hp, mapM_frameAt? h hp (hm ▸ hs), hm]

/-- Frames of the largest size that a word can say: the payload is one frame. -/
theorem split_within_words_topSize :
    [7, 8].length < 2 ^ 63 ∧ splitInWords? [7, 8] 0xffffffffffffffff = some [⟨2, [7, 8]⟩] := by
  have h : ([7, 8] : Bytes).length < 2 ^ 63 := by decide
  exact ⟨by decide, (split_within_words h 0xffffffffffffffff).1⟩

/-- Past the bound a second frame can start where its end is no word. -/
example : sum? 0x8000000000000001 0x8000000000000001 = none := rfl

end CallPump.Chunk
