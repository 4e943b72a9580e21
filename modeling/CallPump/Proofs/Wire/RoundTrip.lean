/-
  CallPump.Proofs.Wire.RoundTrip — what was written is what is read.

  A message is read key by key into a message that begins empty. Reading what one field
  wrote brings that field, and nothing else, to the value it was written from, whatever
  follows on the wire (`Schema.Reads`); so reading field after field brings the whole
  message (`Schema.Faithful`). All this holds of messages whose writing is not longer than
  64 bits can tell, and as deep as their nesting goes.

  - `readKey_write`, `readSized_write`, `Scalar.Faithful`: single values.
  - `copies_one`, `copies_many`, `copies_packed`, `copies_sub`, `copies_subs`: one field.
  - `Faithful.decode`: a whole message.
-/

import CallPump.Message

namespace CallPump.Wire

/-! ## Keys, numbers and bytes -/

theorem readVarint_write {n : Nat} (h : n < UInt64.size) (rest : Bytes) :
    readVarint (Varint.write n ++ rest) = .ok (n, rest) := by
  rw [readVarint, Varint.read_write h]

theorem readKey_write {k : Key} (h₀ : k.tag ≠ 0) (h : 8 * k.tag + 7 < UInt32.size) (rest : Bytes) :
    readKey (k.write ++ rest) = .ok (k, rest) := by
  obtain ⟨tag, w⟩ := k
  have hw := w.toNat_lt
  have hn : 8 * tag + w.toNat < UInt32.size := by simp only at h; omega
  have hm : (8 * tag + w.toNat) % 8 = w.toNat := by omega
  have hd : (8 * tag + w.toNat) / 8 = tag := by omega
  have h64 : 8 * tag + w.toNat < UInt64.size := Nat.lt_trans hn (by decide)
  simp only [readKey, Key.write, readVarint_write h64, Bind.bind, Except.bind, Nat.not_le_of_lt hn, if_false, hm, hd,
    WireType.ofNat?_toNat]
  rw [if_neg h₀]
  rfl

theorem readSized_write {bs : Bytes} (h : bs.length < UInt64.size) (rest : Bytes) :
    readSized (writeSized bs ++ rest) = .ok (bs, rest) := by
  simp only [readSized, writeSized, List.append_assoc, readVarint_write h, Bind.bind, Except.bind, readExact]
  rw [if_neg (by rw [List.length_append]; omega), List.take_left, List.drop_left]

theorem readEnd_write {bs : Bytes} (h : bs.length < UInt64.size) (rest : Bytes) :
    readEnd (writeSized bs ++ rest) = .ok (rest.length, bs ++ rest) := by
  simp only [readEnd, writeSized, List.append_assoc, readVarint_write h, Bind.bind, Except.bind]
  rw [if_neg (by rw [List.length_append]; omega), List.length_append, Nat.add_sub_cancel_left]
  rfl

theorem length_writeSized_le (bs : Bytes) : bs.length ≤ (writeSized bs).length := by
  rw [writeSized, List.length_append]
  omega

/-! ## Single values -/

namespace Scalar

variable {α : Type}

/-- Reading gives back what was written. -/
def Faithful (k : Scalar α) : Prop :=
  ∀ a rest, (k.write a).length < UInt64.size → k.read (k.write a ++ rest) = .ok (a, rest)

theorem read_number {zero : α} {toNat : α → Nat} {ofNat : Nat → α} (h : ∀ a, toNat a < UInt64.size)
    (hn : ∀ a, ofNat (toNat a) = a) : (number zero toNat ofNat).Faithful := by
  intro a rest _
  simp only [number, readVarint_write (h a), Bind.bind, Except.bind, hn]
  rfl

theorem uint64_faithful : uint64.Faithful := read_number UInt64.toNat_lt fun _ => UInt64.ofNat_toNat

theorem int64_faithful : int64.Faithful :=
  read_number (fun a => a.toUInt64.toNat_lt) fun a => by rw [UInt64.ofNat_toNat]; rfl

theorem uint32_faithful : uint32.Faithful :=
  read_number (fun a => Nat.lt_trans a.toNat_lt (by decide)) fun _ => UInt32.ofNat_toNat

/-- The low half of the sign-extended number is the number. -/
theorem int32_faithful : int32.Faithful := by
  refine read_number (fun a => a.toInt64.toUInt64.toNat_lt) fun a => Int32.toBitVec.inj ?_
  show BitVec.ofNat 32 (a.toBitVec.signExtend 64).toNat = a.toBitVec
  rw [BitVec.ofNat_toNat]
  apply BitVec.eq_of_getElem_eq
  intro i hi
  simp [BitVec.getElem_setWidth, BitVec.getLsbD_signExtend, hi]
  omega

theorem bool_faithful : bool.Faithful :=
  read_number (fun a => by cases a <;> decide) fun a => by cases a <;> rfl

theorem bytes_faithful : bytes.Faithful := fun a rest h =>
  readSized_write (Nat.lt_of_le_of_lt (length_writeSized_le a) h) rest

theorem text_faithful : text.Faithful := by
  intro s rest h
  have hs := readSized_write (Nat.lt_of_le_of_lt (length_writeSized_le (Bytes.ofText s)) h) rest
  simp only [text, hs, Bind.bind, Except.bind, Bytes.text?_ofText]
  rfl

end Scalar

/-! ## Reading on -/

namespace Schema

variable {M : Type} {s : Schema M} {depth : Nat}

/-- Reading the bytes, with whatever follows them, brings the message from `acc` to `acc'`. -/
def Reads (s : Schema M) (depth : Nat) (acc : M) (bs : Bytes) (acc' : M) : Prop :=
  ∀ fuel stop rest, stop ≤ rest.length → (bs ++ rest).length ≤ fuel →
    ∃ fuel', rest.length ≤ fuel' ∧
      s.mergeUntil fuel depth stop acc (bs ++ rest) = s.mergeUntil fuel' depth stop acc' rest

theorem Reads.nil (acc : M) : s.Reads depth acc [] acc := fun fuel _ _ _ hf => ⟨fuel, hf, rfl⟩

theorem Reads.append {a b c : M} {bs bs' : Bytes} (h : s.Reads depth a bs b) (h' : s.Reads depth b bs' c) :
    s.Reads depth a (bs ++ bs') c := by
  intro fuel stop rest hs hf
  rw [List.append_assoc] at hf ⊢
  obtain ⟨fuel₁, hf₁, h₁⟩ := h fuel stop (bs' ++ rest) (by rw [List.length_append]; omega) hf
  obtain ⟨fuel₂, hf₂, h₂⟩ := h' fuel₁ stop rest hs hf₁
  exact ⟨fuel₂, hf₂, h₁.trans h₂⟩

theorem mergeUntil_end {fuel : Nat} {acc : M} (bs : Bytes) :
    s.mergeUntil fuel depth bs.length acc bs = .ok (acc, bs) := by
  cases fuel with
  | zero => rw [mergeUntil, if_neg (Nat.lt_irrefl _)]
  | succ n => rw [mergeUntil, if_neg (Nat.lt_irrefl _), if_pos rfl]

/-- A part that is read whole, up to where it ends. -/
theorem Reads.whole {a b : M} {bs : Bytes} (h : s.Reads depth a bs b) (rest : Bytes) :
    s.mergeUntil (bs ++ rest).length depth rest.length a (bs ++ rest) = .ok (b, rest) := by
  obtain ⟨fuel, -, hm⟩ := h _ rest.length rest (Nat.le_refl _) (Nat.le_refl _)
  rw [hm, mergeUntil_end]

end Schema

/-! ## Fields -/

/-- A tag that a key can carry. -/
def TagFits (tag : Nat) : Prop := tag ≠ 0 ∧ 8 * tag + 7 < UInt32.size

instance (tag : Nat) : Decidable (TagFits tag) := inferInstanceAs (Decidable (_ ∧ _))

/-- Reading what the field writes of `m` brings the message from `acc` to `acc'`. -/
def Field.Copies {M : Type} (s : Schema M) (depth : Nat) (m : M) (f : Field M) (acc acc' : M) : Prop :=
  (f.write m).length < UInt64.size → s.Reads depth acc (f.write m) acc'

namespace Field

variable {M α S : Type} {s : Schema M} {depth : Nat}

/-- One value under its key. -/
theorem reads_key {f : Field M} {w : WireType} {val : Bytes} {acc acc' : M}
    (hf : s.fields.find? (·.tag == f.tag) = some f) (ht : TagFits f.tag)
    (hm : ∀ rest, f.merge depth w acc (val ++ rest) = .ok (acc', rest)) :
    s.Reads depth acc (Key.write ⟨f.tag, w⟩ ++ val) acc' := by
  intro fuel stop rest hs hl
  have hk : (Key.write ⟨f.tag, w⟩).length ≠ 0 := fun h =>
    Varint.write_ne_nil _ (List.length_eq_zero_iff.mp h)
  rw [List.append_assoc] at hl ⊢
  simp only [List.length_append] at hl
  obtain ⟨n, rfl⟩ : ∃ n, fuel = n + 1 := Nat.exists_eq_succ_of_ne_zero (by omega)
  have hn : (Key.write ⟨f.tag, w⟩ ++ (val ++ rest)).length ≠ stop := by simp only [List.length_append]; omega
  have hlt : ¬ (Key.write ⟨f.tag, w⟩ ++ (val ++ rest)).length < stop := by simp only [List.length_append]; omega
  refine ⟨n, by omega, ?_⟩
  rw [Schema.mergeUntil, if_neg hlt, if_neg hn, readKey_write ht.1 ht.2]
  simp only [bare, Bind.bind, Except.bind, Schema.mergeField, hf, hm]
  rfl

variable {tag : Nat} {name : String} {m acc : M}

theorem copies_one [DecidableEq α] {k : Scalar α} {get : M → α} {set : M → α → M}
    (hf : s.fields.find? (·.tag == tag) = some (one tag name k get set)) (ht : TagFits tag) (hk : k.Faithful)
    (hz : set acc k.zero = acc) :
    (one tag name k get set).Copies s depth m acc (set acc (get m)) := by
  intro hl
  simp only [one] at hl ⊢
  by_cases h : get m = k.zero
  · rw [if_pos h, h, hz]
    exact .nil acc
  · rw [if_neg h, List.length_append] at hl
    rw [if_neg h]
    refine reads_key (f := one tag name k get set) hf ht fun rest => ?_
    simp only [one, expect, if_true, hk (get m) rest (by omega), Bind.bind, Except.bind]
    rfl

/-- A list grows value by value. -/
theorem reads_each {piece : α → Bytes} {set : M → List α → M} {as : List α}
    (h : ∀ done, ∀ a ∈ as, s.Reads depth (set acc done) (piece a) (set acc (done ++ [a]))) (done : List α) :
    s.Reads depth (set acc done) (as.flatMap piece) (set acc (done ++ as)) := by
  induction as generalizing done with
  | nil => rw [List.append_nil]; exact .nil _
  | cons a as ih =>
    rw [List.flatMap_cons, List.append_cons]
    have ha := h done a List.mem_cons_self
    exact ha.append (ih (fun done b hb => h done b (List.mem_cons_of_mem _ hb)) _)

theorem length_piece_le {piece : α → Bytes} {as : List α} {a : α} (ha : a ∈ as) :
    (piece a).length ≤ (as.flatMap piece).length :=
  (List.sublist_flatten_of_mem (List.mem_map_of_mem ha)).length_le

/-- A field that holds a list: what is put in is there, and replaces what was there. -/
structure Slot (get : M → List α) (set : M → List α → M) (acc : M) : Prop where
  get_set : ∀ as, get (set acc as) = as
  set_set : ∀ as bs, set (set acc as) bs = set acc bs
  set_nil : set acc [] = acc

theorem copies_many {k : Scalar α} {get : M → List α} {set : M → List α → M}
    (hf : s.fields.find? (·.tag == tag) = some (many tag name k get set)) (ht : TagFits tag) (hk : k.Faithful)
    (hs : Slot get set acc) :
    (many tag name k get set).Copies s depth m acc (set acc (get m)) := by
  intro hl
  simp only [many] at hl ⊢
  have each (done : List α) (a : α) (ha : a ∈ get m) :
      s.Reads depth (set acc done) (Key.write ⟨tag, k.wire⟩ ++ k.write a) (set acc (done ++ [a])) := by
    have hle := Nat.lt_of_le_of_lt (length_piece_le ha) hl
    rw [List.length_append] at hle
    refine reads_key (f := many tag name k get set) hf ht fun rest => ?_
    simp only [many, expect, if_true, hk a rest (by omega), Bind.bind, Except.bind, hs.get_set, hs.set_set]
    rfl
  have h := reads_each each []
  rwa [hs.set_nil] at h

theorem mergeNumbers_write {k : Scalar α} (hk : k.Faithful) (hn : ∀ a, k.write a ≠ []) {as : List α} (rest : Bytes)
    (hl : (as.flatMap k.write).length < UInt64.size) {fuel : Nat} (hf : (as.flatMap k.write ++ rest).length ≤ fuel)
    (done : List α) :
    mergeNumbers k fuel rest.length done (as.flatMap k.write ++ rest) = .ok (done ++ as, rest) := by
  induction as generalizing fuel done with
  | nil =>
    rw [List.append_nil]
    cases fuel with
    | zero => exact if_neg (Nat.lt_irrefl _)
    | succ n => exact (if_neg (Nat.lt_irrefl _)).trans (if_pos rfl)
  | cons a as ih =>
    rw [List.flatMap_cons, List.append_assoc] at hf ⊢
    rw [List.flatMap_cons, List.length_append] at hl
    have ha : (k.write a).length ≠ 0 := fun h => hn a (List.length_eq_zero_iff.mp h)
    simp only [List.length_append] at hf
    obtain ⟨n, rfl⟩ : ∃ n, fuel = n + 1 := Nat.exists_eq_succ_of_ne_zero (by omega)
    rw [mergeNumbers, if_neg (by simp only [List.length_append]; omega),
      if_neg (by simp only [List.length_append]; omega), hk a _ (by omega)]
    simp only [Bind.bind, Except.bind]
    rw [ih (by omega) (by rw [List.length_append]; omega), ← List.append_cons]

theorem copies_packed {k : Scalar α} {get : M → List α} {set : M → List α → M}
    (hf : s.fields.find? (·.tag == tag) = some (packed tag name k get set)) (ht : TagFits tag) (hk : k.Faithful)
    (hn : ∀ a, k.write a ≠ []) (hs : Slot get set acc) (he : get acc = []) :
    (packed tag name k get set).Copies s depth m acc (set acc (get m)) := by
  intro hl
  simp only [packed] at hl ⊢
  cases has : get m with
  | nil => rw [hs.set_nil]; exact .nil acc
  | cons a as =>
    rw [has] at hl
    simp only [List.isEmpty_cons, Bool.false_eq_true, if_false, List.length_append] at hl ⊢
    have hb := length_writeSized_le ((a :: as).flatMap k.write)
    refine reads_key (f := packed tag name k get set) hf ht fun rest => ?_
    have hb' : ((a :: as).flatMap k.write).length < UInt64.size := by omega
    have hm := mergeNumbers_write hk hn rest hb' (Nat.le_refl _) []
    simp only [packed, if_true, readEnd_write hb', Bind.bind, Except.bind, he, hm, List.nil_append]
    rfl

end Field

/-! ## Messages -/

namespace Schema

variable {M : Type}

/-- Reading what the fields write of `m`, one after the other. -/
inductive Copies (s : Schema M) (depth : Nat) (m : M) : List (Field M) → M → M → Prop
  | nil (acc : M) : Copies s depth m [] acc acc
  | cons {f : Field M} {fs : List (Field M)} {a b c : M} :
      f.Copies s depth m a b → Copies s depth m fs b c → Copies s depth m (f :: fs) a c

theorem Copies.reads {s : Schema M} {depth : Nat} {m : M} {fs : List (Field M)} {a b : M}
    (h : s.Copies depth m fs a b) (hl : (fs.flatMap (·.write m)).length < UInt64.size) :
    s.Reads depth a (fs.flatMap (·.write m)) b := by
  induction h with
  | nil acc => exact .nil acc
  | cons hf _ ih =>
    rw [List.flatMap_cons, List.length_append] at hl
    exact (hf (by omega)).append (ih (by omega))

/-- Reading gives back every message that was written, where `levels` levels are left. -/
def Faithful (s : Schema M) (levels : Nat) : Prop := ∀ m depth, levels ≤ depth → s.Copies depth m s.fields s.empty m

theorem Faithful.reads {s : Schema M} {levels : Nat} (h : s.Faithful levels) {m : M} {depth : Nat} (hd : levels ≤ depth)
    (hl : (s.write m).length < UInt64.size) : s.Reads depth s.empty (s.write m) m :=
  (h m depth hd).reads hl

theorem Faithful.mergeSized {s : Schema M} {levels : Nat} (h : s.Faithful levels) {m : M} {depth : Nat}
    (hd : levels < depth) (hl : (s.write m).length < UInt64.size) (rest : Bytes) :
    s.mergeSized depth s.empty (writeSized (s.write m) ++ rest) = .ok (m, rest) := by
  obtain ⟨d, rfl⟩ : ∃ d, depth = d + 1 := Nat.exists_eq_succ_of_ne_zero (by omega)
  simp only [Schema.mergeSized, readEnd_write hl, bare, Bind.bind, Except.bind]
  exact (h.reads (by omega) hl).whole rest

theorem Faithful.decode {s : Schema M} {levels : Nat} (h : s.Faithful levels) (hd : levels ≤ maxDepth) {m : M}
    (hl : (s.write m).length < UInt64.size) : s.decode (s.write m) = .ok m := by
  have hw := (h.reads hd hl).whole []
  rw [List.append_nil] at hw
  simp only [Schema.decode, List.length_nil] at hw ⊢
  rw [hw]
  rfl

end Schema

namespace Field

variable {M S : Type} {s : Schema M} {t : Schema S} {depth levels tag : Nat} {name : String} {m acc : M}

theorem copies_sub {get : M → Option S} {set : M → Option S → M}
    (hf : s.fields.find? (·.tag == tag) = some (sub tag name t get set)) (ht : TagFits tag) (hk : t.Faithful levels)
    (hd : levels < depth) (he : get acc = none) (hz : set acc none = acc) :
    (sub tag name t get set).Copies s depth m acc (set acc (get m)) := by
  intro hl
  simp only [sub] at hl ⊢
  cases hv : get m with
  | none => rw [hz]; exact .nil acc
  | some v =>
    rw [hv] at hl
    simp only [List.length_append] at hl ⊢
    have hb := length_writeSized_le (t.write v)
    refine reads_key (f := sub tag name t get set) hf ht fun rest => ?_
    simp only [sub, expect, if_true, bare, Bind.bind, Except.bind, he, Option.getD_none,
      hk.mergeSized hd (m := v) (by omega) rest]
    rfl

theorem copies_subs {get : M → List S} {set : M → List S → M}
    (hf : s.fields.find? (·.tag == tag) = some (subs tag name t get set)) (ht : TagFits tag) (hk : t.Faithful levels)
    (hd : levels < depth) (hs : Slot get set acc) :
    (subs tag name t get set).Copies s depth m acc (set acc (get m)) := by
  intro hl
  simp only [subs] at hl ⊢
  have each (done : List S) (v : S) (hv : v ∈ get m) :
      s.Reads depth (set acc done) (Key.write ⟨tag, .lengthDelimited⟩ ++ writeSized (t.write v))
        (set acc (done ++ [v])) := by
    have hle := Nat.lt_of_le_of_lt (length_piece_le hv) hl
    have hb := length_writeSized_le (t.write v)
    rw [List.length_append] at hle
    refine reads_key (f := subs tag name t get set) hf ht fun rest => ?_
    simp only [subs, expect, if_true, bare, Bind.bind, Except.bind, hk.mergeSized hd (m := v) (by omega) rest,
      hs.get_set, hs.set_set]
    rfl
  have h := reads_each each []
  rwa [hs.set_nil] at h

end Field

/-- 64 bits can tell how many bytes the message takes. -/
def Fits {M : Type} [Message M] (m : M) : Prop := (encode m).length < UInt64.size

instance {M : Type} [Message M] (m : M) : Decidable (Fits m) := inferInstanceAs (Decidable (_ < _))

/-- A type whose messages are read back as they were written. -/
class Lossless (M : Type) [Message M] : Prop where
  decode_encode : ∀ m : M, Fits m → decode (encode m) = .ok m

theorem Schema.Faithful.lossless {M : Type} [Message M] {levels : Nat} (h : (Message.schema (M := M)).Faithful levels)
    (hd : levels ≤ maxDepth) : Lossless M := ⟨fun _ hl => h.decode hd hl⟩

end CallPump.Wire
