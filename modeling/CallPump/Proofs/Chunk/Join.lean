/-
  CallPump.Proofs.Chunk.Join — which sequences of chunks are whole.

  The first chunk's size counts. The first one after it that says another ends the matter
  before any data is looked at; if there is none, the data is added up, and the sequence is
  joined exactly when it carries the bytes that its chunks say. One chunk by itself is
  joined by a shorter way, to the same bytes.

  - `join_odd`, `join_agreed`: a sequence with a chunk that says another size, and one
    without; `agreed_or_odd`: every sequence is one of the two.
  - `whole_or_refused`: the sequences that are joined, what becomes of them, and the errors
    of all others.
-/

import CallPump.Chunk

namespace CallPump.Chunk

variable {cs : List DataChunk} {c : DataChunk} {total said first : UInt64} {i : Nat}

/-! ## What a sequence says, and what it carries -/

/-- How many bytes the chunks carry together. -/
def carried (cs : List DataChunk) : Nat := cs.foldr (fun c n => c.data.length + n) 0

/-- All chunks say this size. -/
def Agreed (cs : List DataChunk) (total : UInt64) : Prop := ∀ c ∈ cs, c.totalSize = total

/-- There are no chunks, or they all say the size that their data adds up to. -/
def Whole (cs : List DataChunk) : Prop := cs = [] ∨ ∃ total, Agreed cs total ∧ carried cs = total.toNat

/-- The chunk at position `i` is the first that says another size than `total`. -/
structure OddAt (total : UInt64) (cs : List DataChunk) (i : Nat) (said : UInt64) : Prop where
  here : (cs.map (·.totalSize))[i]? = some said
  differs : said ≠ total
  before : ∀ j < i, (cs.map (·.totalSize))[j]? = some total

/-- What a sequence that is not whole is refused with. -/
inductive Refused (cs : List DataChunk) : JoinError → Prop
  | odd {i : Nat} {said first : UInt64} : cs.head?.map (·.totalSize) = some first → OddAt first cs i said →
      Refused cs (.inconsistent i said first)
  | short {total : UInt64} : cs ≠ [] → Agreed cs total → carried cs ≠ total.toNat →
      Refused cs (.mismatch (.ofNat (carried cs)) total)

theorem Agreed.of_cons (h : Agreed (c :: cs) total) : c.totalSize = total := h c List.mem_cons_self

theorem Agreed.head (h : Agreed cs total) (hf : cs.head?.map (·.totalSize) = some first) : first = total := by
  obtain ⟨d, hd, rfl⟩ := Option.map_eq_some_iff.mp hf
  exact h d (List.mem_of_head? hd)

theorem OddAt.not_agreed (h : OddAt total cs i said) : ¬ Agreed cs total := by
  intro ha
  obtain ⟨d, hd, rfl⟩ := List.mem_map.mp (List.mem_of_getElem? h.here)
  exact h.differs (ha d hd)

@[simp] theorem carried_cons : carried (c :: cs) = c.data.length + carried cs := rfl

theorem carried_eq_length : carried cs = (cs.flatMap (·.data)).length := by
  induction cs with
  | nil => rfl
  | cons c cs ih => rw [carried_cons, ih, List.flatMap_cons, List.length_append]

/-! ## The two checks -/

theorem firstOdd_eq_none : firstOdd total i cs = none ↔ Agreed cs total := by
  induction cs generalizing i with
  | nil => exact ⟨fun _ => nofun, fun _ => rfl⟩
  | cons c cs ih =>
    rw [firstOdd, Agreed, List.forall_mem_cons]
    by_cases hc : c.totalSize = total
    · rw [if_pos hc, ih]
      exact ⟨fun h => ⟨hc, h⟩, fun h => h.2⟩
    · rw [if_neg hc]
      exact ⟨nofun, fun h => absurd h.1 hc⟩

/-- The check stops at the first chunk that is odd; positions are counted from `i`. -/
theorem firstOdd_eq_some {n : Nat} :
    firstOdd total i cs = some (n, said) ↔ ∃ k, n = i + k ∧ OddAt total cs k said := by
  induction cs generalizing i with
  | nil => exact ⟨nofun, fun ⟨_, _, h⟩ => nomatch h.here⟩
  | cons c cs ih =>
    rw [firstOdd]
    by_cases hc : c.totalSize = total
    · rw [if_pos hc, ih]
      constructor
      · rintro ⟨k, rfl, h⟩
        refine ⟨k + 1, by omega, h.here, h.differs, ?_⟩
        rintro (_ | j) hj
        · exact congrArg some hc
        · exact h.before j (Nat.lt_of_succ_lt_succ hj)
      · rintro ⟨_ | k, rfl, h⟩
        · exact absurd ((Option.some.inj h.here).symm.trans hc) h.differs
        · exact ⟨k, by omega, h.here, h.differs, fun j hj => h.before (j + 1) (Nat.succ_lt_succ hj)⟩
    · rw [if_neg hc]
      constructor
      · intro h
        cases h
        exact ⟨0, rfl, rfl, hc, nofun⟩
      · rintro ⟨_ | k, rfl, h⟩
        · have hs : c.totalSize = said := Option.some.inj h.here
          rw [hs]
        · exact absurd (Option.some.inj (h.before 0 (Nat.succ_pos k))) hc

/-- Either all chunks say what the first one says, or one of them is the first that does not. -/
theorem agreed_or_odd (total : UInt64) (cs : List DataChunk) : Agreed cs total ∨ ∃ i said, OddAt total cs i said := by
  cases h : firstOdd total 0 cs with
  | none => exact .inl (firstOdd_eq_none.mp h)
  | some x =>
    obtain ⟨k, -, hk⟩ := firstOdd_eq_some.mp h
    exact .inr ⟨k, x.2, hk⟩

/-- The sum in 64 bits is what the chunks carry, as far as 64 bits go. -/
theorem received_eq : received cs = .ofNat (carried cs) := by
  induction cs with
  | nil => rfl
  | cons c cs ih =>
    rw [carried_cons, UInt64.ofNat_add, ← ih]
    rfl

/-- The shorter way for a single chunk leads to the same bytes. -/
theorem assemble_eq : assemble cs = cs.flatMap (·.data) := by
  match cs with
  | [] => rfl
  | [only] => exact (List.flatMap_singleton _ _).symm
  | _ :: _ :: _ => rfl

theorem join_odd (h : OddAt c.totalSize (c :: cs) i said) :
    join (c :: cs) = .error (.inconsistent i said c.totalSize) := by
  have hf : firstOdd c.totalSize 0 (c :: cs) = some (i, said) := firstOdd_eq_some.mpr ⟨i, (Nat.zero_add i).symm, h⟩
  simp only [join, hf]

theorem join_agreed (h : Agreed (c :: cs) total) :
    join (c :: cs) =
      if UInt64.ofNat (carried (c :: cs)) = total then .ok ((c :: cs).flatMap (·.data))
      else .error (.mismatch (.ofNat (carried (c :: cs))) total) := by
  obtain rfl := h.of_cons
  simp only [join, firstOdd_eq_none.mpr h, received_eq, assemble_eq]

/-! ## Whole or refused -/

theorem join_whole (h : Whole cs) : join cs = .ok (cs.flatMap (·.data)) := by
  cases cs with
  | nil => rfl
  | cons c cs =>
    rcases h with h | ⟨total, ha, hc⟩
    · cases h
    · rw [join_agreed ha, if_pos (by rw [hc, UInt64.ofNat_toNat])]

theorem join_refused {e : JoinError} (h : carried cs < UInt64.size) (he : Refused cs e) : join cs = .error e := by
  cases cs with
  | nil =>
    cases he with
    | odd hf _ => cases hf
    | short hn _ _ => exact absurd rfl hn
  | cons c cs =>
    cases he with
    | odd hf ho =>
      cases hf
      exact join_odd ho
    | @short total _ ha hc =>
      rw [join_agreed ha, if_neg]
      intro e
      rw [← e, UInt64.toNat_ofNat_of_lt' h] at hc
      exact hc rfl

theorem whole_or_objection (cs : List DataChunk) : Whole cs ∨ ∃ e, Refused cs e := by
  cases cs with
  | nil => exact .inl (.inl rfl)
  | cons c cs =>
    rcases agreed_or_odd c.totalSize (c :: cs) with ha | ⟨i, said, ho⟩
    · by_cases hc : carried (c :: cs) = c.totalSize.toNat
      · exact .inl (.inr ⟨_, ha, hc⟩)
      · exact .inr ⟨_, .short (List.cons_ne_nil c cs) ha hc⟩
    · exact .inr ⟨_, .odd rfl ho⟩

/-- What comes out is the data of the chunks, however far it was added up. -/
theorem flatMap_of_join {bs : Bytes} (h : join cs = .ok bs) : bs = cs.flatMap (·.data) := by
  cases cs with
  | nil => cases h; rfl
  | cons c cs =>
    rcases agreed_or_odd c.totalSize (c :: cs) with ha | ⟨i, said, ho⟩
    · rw [join_agreed ha] at h
      split at h
      · exact (Except.ok.inj h).symm
      · cases h
    · rw [join_odd ho] at h
      cases h

/-- A refusal is about the sizes that the chunks say, if they do not agree, and about the sum
    if they do. -/
theorem Refused.code {e : JoinError} (h : Refused cs e) :
    (e.status.has .chunking Status.inconsistentTotal = true ↔ ¬ ∃ total, Agreed cs total) ∧
      (e.status.has .chunking Status.sizeMismatch = true ↔ ∃ total, Agreed cs total) := by
  cases h with
  | odd hf ho =>
    have hn : ¬ ∃ total, Agreed cs total := by
      rintro ⟨total, ha⟩
      exact ho.not_agreed (ha.head hf ▸ ha)
    exact ⟨iff_of_true rfl hn, iff_of_false Bool.false_ne_true hn⟩
  | @short total _ ha _ =>
    exact ⟨iff_of_false Bool.false_ne_true (not_not_intro ⟨total, ha⟩), iff_of_true rfl ⟨total, ha⟩⟩

/-- A sequence whose data fits 64 bits is joined, to its data in order, exactly if it is
    whole. Any other is refused: for the first chunk that says another size than the first
    one, if there is such a chunk, and only otherwise for its sum. Where a payload is cut
    makes no difference to the message that is read from it, nor to the error. -/
theorem whole_or_refused (h : carried cs < UInt64.size) :
    (∀ bs, join cs = .ok bs ↔ Whole cs ∧ bs = cs.flatMap (·.data)) ∧
      (∀ e, join cs = .error e ↔ Refused cs e) ∧
      (∀ e, join cs = .error e →
        (e.status.has .chunking Status.inconsistentTotal = true ↔ ¬ ∃ total, Agreed cs total) ∧
          (e.status.has .chunking Status.sizeMismatch = true ↔ ∃ total, Agreed cs total)) ∧
      ∀ (M : Type) [Wire.Message M] (cs' : List DataChunk) (bs bs' : Bytes), join cs = .ok bs →
        join cs' = .ok bs' → cs.flatMap (·.data) = cs'.flatMap (·.data) →
        (toMessage cs : Except JoinError M) = toMessage cs' := by
  have refused (e : JoinError) (he : join cs = .error e) : Refused cs e := by
    rcases whole_or_objection cs with hw | ⟨e', hr⟩
    · cases he.symm.trans (join_whole hw)
    · cases he.symm.trans (join_refused h hr)
      exact hr
  refine ⟨fun bs => ⟨fun hj => ⟨?_, flatMap_of_join hj⟩, fun ⟨hw, hb⟩ => hb ▸ join_whole hw⟩,
    fun e => ⟨refused e, join_refused h⟩, fun e he => (refused e he).code, ?_⟩
  · rcases whole_or_objection cs with hw | ⟨e, hr⟩
    · exact hw
    · cases hj.symm.trans (join_refused h hr)
  · intro M _ cs' bs bs' hj hj' hd
    have hb : bs = bs' := by rw [flatMap_of_join hj, flatMap_of_join hj', hd]
    simp only [toMessage, hj, hj', hb]

/-- The second and the third chunk say other sizes than the first: the second is named. -/
theorem whole_or_refused_twoOdd :
    let cs : List DataChunk := [⟨3, [1, 2]⟩, ⟨4, []⟩, ⟨9, [3]⟩]
    carried cs < UInt64.size ∧ join cs = .error (.inconsistent 1 4 3) := by
  have h : carried [⟨3, [1, 2]⟩, ⟨4, []⟩, ⟨9, [3]⟩] < UInt64.size := by decide
  refine ⟨h, ((whole_or_refused h).2.1 _).mpr (.odd rfl ⟨rfl, by decide, fun j hj => ?_⟩)⟩
  cases Nat.lt_one_iff.mp hj
  rfl

end CallPump.Chunk
