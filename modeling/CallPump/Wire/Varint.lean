/-
  CallPump.Wire.Varint — numbers below 2^64 in groups of seven bits, lowest first;
  every byte but the last has its high bit set.

  Reading takes at most ten bytes, and of the tenth only the lowest bit.
-/

import CallPump.Bytes

namespace CallPump.Wire.Varint

/-- The groups of `n`, of which there are at most `k + 1`. -/
def groups : Nat → Nat → Bytes
  | 0, n => [n.toUInt8]
  | k + 1, n => if n < 128 then [n.toUInt8] else (n % 128 + 128).toUInt8 :: groups k (n / 128)

def write (n : Nat) : Bytes := groups 9 n

/-- Reads from a text of which `k` bytes may still belong to the number. -/
def readWithin : Nat → Bytes → Option (Nat × Bytes)
  | 0, _ => none
  | _ + 1, [] => none
  | k + 1, b :: r =>
    if b.toNat < 128 then
      if k = 0 ∧ 2 ≤ b.toNat then none else some (b.toNat, r)
    else
      match readWithin k r with
      | some (n, r') => some (b.toNat - 128 + 128 * n, r')
      | none => none

/-- The number at the start of the bytes and what follows it; `none` when they end
    inside it or it does not fit 64 bits. -/
def read (bs : Bytes) : Option (Nat × Bytes) := readWithin 10 bs

/-! ## Reading gives back what was written -/

theorem toUInt8_toNat {n : Nat} (h : n < 256) : n.toUInt8.toNat = n := by
  simp [Nat.mod_eq_of_lt h]

/-- What `k + 1` bytes can hold when the last one has room for a single bit. -/
def room : Nat → Nat
  | 0 => 2
  | k + 1 => 128 * room k

theorem readWithin_groups : ∀ (k n : Nat) (rest : Bytes), k ≤ 9 → n < room k →
    readWithin (k + 1) (groups k n ++ rest) = some (n, rest)
  | 0, n, rest, _, h => by
    have hn : n < 2 := h
    simp [groups, readWithin, Nat.mod_eq_of_lt (show n < 256 by omega), show n < 128 by omega,
      show ¬ 2 ≤ n by omega]
  | k + 1, n, rest, hk, h => by
    unfold groups
    split
    · rename_i hlt
      simp [readWithin, Nat.mod_eq_of_lt (show n < 256 by omega), hlt]
    · rename_i hge
      have ih := readWithin_groups k (n / 128) rest (by omega) (Nat.div_lt_of_lt_mul h)
      have hb := toUInt8_toNat (show n % 128 + 128 < 256 by omega)
      rw [List.cons_append, readWithin]
      simp only [hb, show ¬ n % 128 + 128 < 128 by omega, if_false, ih]
      congr 2
      omega

theorem read_write {n : Nat} (h : n < UInt64.size) (rest : Bytes) : read (write n ++ rest) = some (n, rest) :=
  readWithin_groups 9 n rest (by omega) h

theorem groups_ne_nil (k n : Nat) : groups k n ≠ [] := by
  cases k with
  | zero => simp [groups]
  | succ k => unfold groups; split <;> simp

theorem write_ne_nil (n : Nat) : write n ≠ [] := groups_ne_nil 9 n

end CallPump.Wire.Varint
