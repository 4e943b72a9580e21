/-
  CallPump.Proofs.Chunk.Damaged — frames that got lost, repeated or mixed up.

  Every frame of a payload that is not empty has data. Leaving some out therefore makes the
  data shorter and repeating some makes it longer, while all frames still say the payload's
  length: the sum is refused. The frames of two payloads of different lengths do not say the
  same length, so where they meet the sizes are refused, whatever they add up to.

  - `carried_lt`: fewer frames with data carry less.
  - `miscounted`, `mixed_up`: frames of one payload that do not add up to it, and frames of
    two payloads.
  - `damage_is_refused`: loss, repetition and mixing.
-/

import CallPump.Proofs.Chunk.Frames

namespace CallPump.Chunk

variable {payload other : Bytes} {size size' : Nat} {cs cs' : List DataChunk}

/-- Some of the frames in their order, but not all of them. -/
structure Lossy (frames cs : List DataChunk) : Prop where
  some_left : cs ≠ []
  sublist : cs.Sublist frames
  some_lost : cs ≠ frames

/-- All of the frames in their order, with copies of some among them. -/
structure Repeating (frames cs : List DataChunk) : Prop where
  all : frames.Sublist cs
  copies : ∀ c ∈ cs, c ∈ frames
  some_more : cs ≠ frames

/-- Frames of one or the other sequence, in any order and number, and some of each. -/
structure Mixed (frames frames' cs : List DataChunk) : Prop where
  either : ∀ c ∈ cs, c ∈ frames ∨ c ∈ frames'
  left : ∃ c ∈ cs, c ∈ frames
  right : ∃ c ∈ cs, c ∈ frames'

/-- Nothing comes out of the chunks but this error, and its status has this code. -/
structure RefusedAs (cs : List DataChunk) (e : JoinError) (code : Int) : Prop where
  refused : join cs = .error e
  coded : e.status.has .chunking code = true

theorem carried_le (h : cs.Sublist cs') : carried cs ≤ carried cs' := by
  induction h with
  | slnil => exact Nat.le_refl _
  | cons c _ ih => exact Nat.le_trans ih (Nat.le_add_left _ _)
  | cons_cons c _ ih => exact Nat.add_le_add_left ih _

theorem carried_lt (h : cs.Sublist cs') (hne : cs ≠ cs') (hd : ∀ c ∈ cs', c.data ≠ []) : carried cs < carried cs' := by
  induction h with
  | slnil => exact absurd rfl hne
  | @cons cs cs' c h _ =>
    have hc : 0 < c.data.length := List.length_pos_iff.mpr (hd c List.mem_cons_self)
    rw [carried_cons]
    exact Nat.lt_of_le_of_lt (carried_le h) (Nat.lt_add_of_pos_left hc)
  | @cons_cons cs cs' c h ih =>
    have hlt : carried cs < carried cs' :=
      ih (fun e => hne (congrArg (c :: ·) e)) fun d hm => hd d (List.mem_cons_of_mem c hm)
    exact Nat.add_lt_add_left hlt _

theorem carried_split (h : payload.length < UInt64.size) (size : Nat) : carried (split payload size) = payload.length := by
  rw [carried_eq_length, ← flatMap_of_join (join_split h size)]

/-- Frames of one payload, in whatever order, that are not as many bytes as it is. -/
theorem miscounted (h : payload.length < UInt64.size) (hn : cs ≠ []) (hc : ∀ c ∈ cs, c ∈ split payload size)
    (fits : carried cs < UInt64.size) (off : carried cs ≠ payload.length) :
    RefusedAs cs (.mismatch (.ofNat (carried cs)) (.ofNat payload.length)) Status.sizeMismatch := by
  have agreed : Agreed cs (.ofNat payload.length) := fun c hm => totalSize_split (hc c hm)
  refine ⟨join_refused fits (.short hn agreed ?_), rfl⟩
  rwa [UInt64.toNat_ofNat_of_lt' h]

/-- Frames of two payloads of different lengths: the first one that says another length than
    the frame in front is named. -/
theorem mixed_up (h : payload.length < UInt64.size) (h' : other.length < UInt64.size)
    (differ : other.length ≠ payload.length) (hm : Mixed (split payload size) (split other size') cs) :
    ∃ i said first, OddAt first cs i said ∧ RefusedAs cs (.inconsistent i said first) Status.inconsistentTotal := by
  obtain ⟨l, hl, ml⟩ := hm.left
  obtain ⟨r, hr, mr⟩ := hm.right
  cases cs with
  | nil => cases hl
  | cons c cs =>
    rcases agreed_or_odd c.totalSize (c :: cs) with agreed | ⟨i, said, odd⟩
    · have same : r.totalSize = l.totalSize := (agreed r hr).trans (agreed l hl).symm
      rw [totalSize_split mr, totalSize_split ml] at same
      have lengths := congrArg UInt64.toNat same
      rw [UInt64.toNat_ofNat_of_lt' h', UInt64.toNat_ofNat_of_lt' h] at lengths
      exact absurd lengths differ
    · exact ⟨i, said, c.totalSize, odd, join_odd odd, rfl⟩

/-- Loss and repetition of a payload's frames are refused for the number of bytes, and frames
    of payloads of different lengths for the lengths they say; in no case are bytes handed
    out. -/
theorem damage_is_refused (h : payload.length < UInt64.size) (size : Nat) :
    (payload ≠ [] → ∀ cs, Lossy (split payload size) cs →
        RefusedAs cs (.mismatch (.ofNat (carried cs)) (.ofNat payload.length)) Status.sizeMismatch) ∧
      (payload ≠ [] → ∀ cs, Repeating (split payload size) cs → carried cs < UInt64.size →
        RefusedAs cs (.mismatch (.ofNat (carried cs)) (.ofNat payload.length)) Status.sizeMismatch) ∧
      ∀ other size' cs, other.length < UInt64.size → other.length ≠ payload.length →
        Mixed (split payload size) (split other size') cs →
        ∃ i said first, OddAt first cs i said ∧ RefusedAs cs (.inconsistent i said first) Status.inconsistentTotal := by
  refine ⟨fun hp cs hl => ?_, fun hp cs hr fits => ?_, fun other size' cs h' differ hm => mixed_up h h' differ hm⟩
  · have less : carried cs < payload.length := by
      rw [← carried_split h size]
      exact carried_lt hl.sublist hl.some_lost fun c hc => data_split hp hc
    exact miscounted h hl.some_left (fun c hc => hl.sublist.subset hc) (Nat.lt_trans less h) (Nat.ne_of_lt less)
  · have more : payload.length < carried cs := by
      rw [← carried_split h size]
      exact carried_lt hr.all hr.some_more.symm fun c hc => data_split hp (hr.copies c hc)
    have some : cs ≠ [] := by
      rintro rfl
      exact Nat.not_lt_zero _ more
    exact miscounted h some hr.copies fits (Nat.ne_of_gt more)

/-- Three bytes in two frames: the second frame is lost, or the first one comes again behind
    it, or the frame of another payload takes its place. -/
theorem damage_is_refused_threeBytes :
    [1, 2, 3].length < UInt64.size ∧
      RefusedAs [⟨3, [1, 2]⟩] (.mismatch 2 3) Status.sizeMismatch ∧
      RefusedAs [⟨3, [1, 2]⟩, ⟨3, [3]⟩, ⟨3, [1, 2]⟩] (.mismatch 5 3) Status.sizeMismatch ∧
      ∃ i said first, OddAt first [⟨3, [1, 2]⟩, ⟨1, [9]⟩] i said ∧
        RefusedAs [⟨3, [1, 2]⟩, ⟨1, [9]⟩] (.inconsistent i said first) Status.inconsistentTotal := by
  have h : ([1, 2, 3] : Bytes).length < UInt64.size := by decide
  obtain ⟨loss, repetition, mixing⟩ := damage_is_refused h 2
  have lossy : Lossy (split [1, 2, 3] 2) [⟨3, [1, 2]⟩] := ⟨by decide, by decide, by decide⟩
  have repeating : Repeating (split [1, 2, 3] 2) [⟨3, [1, 2]⟩, ⟨3, [3]⟩, ⟨3, [1, 2]⟩] :=
    ⟨by decide, by decide, by decide⟩
  have mixed : Mixed (split [1, 2, 3] 2) (split [9] 1) [⟨3, [1, 2]⟩, ⟨1, [9]⟩] := ⟨by decide, by decide, by decide⟩
  exact ⟨h, loss (by decide) _ lossy, repetition (by decide) _ repeating (by decide),
    mixing [9] 1 _ (by decide) (by decide) mixed⟩

end CallPump.Chunk
