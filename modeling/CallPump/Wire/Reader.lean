/-
  CallPump.Wire.Reader — the parts that every message is read from: a key, a length, a
  run of bytes, and a field of no interest.

  Each takes the bytes that are left and gives back those it did not use. A length is
  held against all the bytes that are left, not against the message around it; running
  past the end of that message is noticed when its last field has been read.
-/

import CallPump.Wire.Error
import CallPump.Wire.Varint

namespace CallPump.Wire

def readVarint (bs : Bytes) : Except Cause (Nat × Bytes) :=
  match Varint.read bs with
  | some r => .ok r
  | none => .error .invalidVarint

/-- A field's number and the layout of its value. -/
structure Key where
  tag : Nat
  wire : WireType
  deriving DecidableEq, Repr

def Key.write (k : Key) : Bytes := Varint.write (8 * k.tag + k.wire.toNat)

def readKey (bs : Bytes) : Except Cause (Key × Bytes) := do
  let (n, rest) ← readVarint bs
  if UInt32.size ≤ n then throw (.invalidKey n)
  match WireType.ofNat? (n % 8) with
  | none => throw (.invalidWireType (n % 8))
  | some w => if n / 8 = 0 then throw .zeroTag else pure (⟨n / 8, w⟩, rest)

/-- The next `n` bytes. -/
def readExact (n : Nat) (bs : Bytes) : Except Cause (Bytes × Bytes) :=
  if bs.length < n then .error .underflow else .ok (bs.take n, bs.drop n)

/-- A length and that many bytes. -/
def readSized (bs : Bytes) : Except Cause (Bytes × Bytes) := do
  let (n, rest) ← readVarint bs
  readExact n rest

/-- A length, as the number of bytes left once the part it opens has ended. -/
def readEnd (bs : Bytes) : Except Cause (Nat × Bytes) := do
  let (n, rest) ← readVarint bs
  if rest.length < n then throw .underflow else pure (rest.length - n, rest)

/-! ## Fields of no interest -/

/-- Passes over a value that opens no group. -/
def skipValue : WireType → Bytes → Except Cause Bytes
  | .varint, bs => do let (_, rest) ← readVarint bs; pure rest
  | .thirtyTwoBit, bs => do let (_, rest) ← readExact 4 bs; pure rest
  | .sixtyFourBit, bs => do let (_, rest) ← readExact 8 bs; pure rest
  | .lengthDelimited, bs => do let (_, rest) ← readSized bs; pure rest
  | .startGroup, bs => pure bs
  | .endGroup, _ => throw .strayGroupEnd

/-- Passes over the rest of the open groups, whose tags are given innermost first;
    `depth` levels are left below them. Every round reads a key, so as many rounds as
    there are bytes are enough. -/
def skipGroups : Nat → Nat → List Nat → Bytes → Except Cause Bytes
  | _, _, [], bs => .ok bs
  | 0, _, _ :: _, _ => .error .invalidVarint
  | fuel + 1, depth, t :: outer, bs => do
    let (k, rest) ← readKey bs
    if k.wire = .endGroup then
      if k.tag = t then skipGroups fuel (depth + 1) outer rest else throw .strayGroupEnd
    else match depth with
      | 0 => throw .tooDeep
      | depth' + 1 =>
        if k.wire = .startGroup then skipGroups fuel depth' (k.tag :: t :: outer) rest
        else do
          let rest ← skipValue k.wire rest
          skipGroups fuel (depth' + 1) (t :: outer) rest

/-- Passes over the value of a field of no interest, with `depth` levels left. -/
def skipField (depth : Nat) (k : Key) (bs : Bytes) : Except Cause Bytes :=
  match depth with
  | 0 => .error .tooDeep
  | depth' + 1 =>
    if k.wire = .startGroup then skipGroups (bs.length + 1) depth' [k.tag] bs
    else skipValue k.wire bs

end CallPump.Wire
