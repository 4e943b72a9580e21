/-
  CallPump.Wire.Schema — messages as lists of fields.

  A field knows how to write its part of a message and how to merge one value from the
  wire into it. A message is written field by field in the schema's order, and values
  that go without saying are left out; it is read key by key in any order, the last
  scalar wins, repeated values gather, sub-messages merge, and fields that the schema
  does not have are passed over. Nesting is limited to `maxDepth` levels.
-/

import CallPump.Wire.Reader

namespace CallPump.Wire

def maxDepth : Nat := 100

/-- A kind of single value. -/
structure Scalar (α : Type) where
  wire : WireType
  /-- The value that goes without saying. -/
  zero : α
  write : α → Bytes
  read : Bytes → Except Cause (α × Bytes)

/-- A length and the bytes. -/
def writeSized (bs : Bytes) : Bytes := Varint.write bs.length ++ bs

namespace Scalar

/-- A value that travels as one number. -/
def number {α : Type} (zero : α) (toNat : α → Nat) (ofNat : Nat → α) : Scalar α where
  wire := .varint
  zero := zero
  write a := Varint.write (toNat a)
  read bs := do
    let (n, rest) ← readVarint bs
    pure (ofNat n, rest)

def uint64 : Scalar UInt64 := number 0 UInt64.toNat UInt64.ofNat

def int64 : Scalar Int64 := number 0 (·.toUInt64.toNat) fun n => (UInt64.ofNat n).toInt64

/-- Keeps the low 32 bits of the number. -/
def uint32 : Scalar UInt32 := number 0 UInt32.toNat UInt32.ofNat

/-- Travels sign-extended to 64 bits; reading keeps the low 32. -/
def int32 : Scalar Int32 := number 0 (·.toInt64.toUInt64.toNat) fun n => (UInt32.ofNat n).toInt32

def bool : Scalar Bool := number false Bool.toNat (· != 0)

def bytes : Scalar Bytes where
  wire := .lengthDelimited
  zero := []
  write := writeSized
  read := readSized

def text : Scalar String where
  wire := .lengthDelimited
  zero := ""
  write s := writeSized (.ofText s)
  read bs := do
    let (body, rest) ← readSized bs
    match Bytes.text? body with
    | some s => pure (s, rest)
    | none => throw .notUtf8

end Scalar

/-! ## Fields -/

structure Field (M : Type) where
  tag : Nat
  name : String
  write : M → Bytes
  /-- Merges one value of the given layout, with `depth` levels left. -/
  merge : (depth : Nat) → WireType → M → Bytes → Except DecodeError (M × Bytes)

structure Schema (M : Type) where
  name : String
  empty : M
  fields : List (Field M)

/-- A failure that has no field yet. -/
def bare {α : Type} : Except Cause α → Except DecodeError α
  | .ok a => .ok a
  | .error c => .error { cause := c }

def expect (got want : WireType) : Except Cause Unit :=
  if got = want then .ok () else .error (.wrongWireType got want)

namespace Schema

variable {M : Type} (s : Schema M)

def write (m : M) : Bytes := s.fields.flatMap (·.write m)

def mergeField (depth : Nat) (k : Key) (m : M) (bs : Bytes) : Except DecodeError (M × Bytes) :=
  match s.fields.find? (·.tag == k.tag) with
  | some f => (f.merge depth k.wire m bs).mapError (·.within s.name f.name)
  | none => do
    let rest ← bare (skipField depth k bs)
    pure (m, rest)

/-- Merges fields until no more than `stop` bytes are left. Every round reads a key, so
    as many rounds as there are bytes are enough. -/
def mergeUntil : Nat → Nat → Nat → M → Bytes → Except DecodeError (M × Bytes)
  | 0, _, stop, m, bs => if bs.length < stop then .error { cause := .overrun } else .ok (m, bs)
  | fuel + 1, depth, stop, m, bs =>
    if bs.length < stop then .error { cause := .overrun }
    else if bs.length = stop then .ok (m, bs)
    else do
      let (k, rest) ← bare (readKey bs)
      let (m, rest) ← s.mergeField depth k m rest
      mergeUntil fuel depth stop m rest

/-- Merges a delimited message, with `depth` levels left. -/
def mergeSized (depth : Nat) (m : M) (bs : Bytes) : Except DecodeError (M × Bytes) :=
  match depth with
  | 0 => .error { cause := .tooDeep }
  | depth + 1 => do
    let (stop, rest) ← bare (readEnd bs)
    s.mergeUntil rest.length depth stop m rest

def decode (bs : Bytes) : Except DecodeError M := do
  let (m, _) ← s.mergeUntil bs.length maxDepth 0 s.empty bs
  pure m

end Schema

/-- Numbers until no more than `stop` bytes are left; each takes at least one byte. -/
def mergeNumbers {α : Type} (k : Scalar α) : Nat → Nat → List α → Bytes → Except Cause (List α × Bytes)
  | 0, stop, as, bs => if bs.length < stop then .error .overrun else .ok (as, bs)
  | fuel + 1, stop, as, bs =>
    if bs.length < stop then .error .overrun
    else if bs.length = stop then .ok (as, bs)
    else do
      let (a, rest) ← k.read bs
      mergeNumbers k fuel stop (as ++ [a]) rest

namespace Field

variable {M α S : Type}

/-- A scalar, left out when it goes without saying. -/
def one [DecidableEq α] (tag : Nat) (name : String) (k : Scalar α) (get : M → α) (set : M → α → M) :
    Field M where
  tag := tag
  name := name
  write m := if get m = k.zero then [] else Key.write ⟨tag, k.wire⟩ ++ k.write (get m)
  merge _ w m bs := bare do
    expect w k.wire
    let (a, rest) ← k.read bs
    pure (set m a, rest)

/-- A sub-message that may be absent. -/
def sub (tag : Nat) (name : String) (s : Schema S) (get : M → Option S) (set : M → Option S → M) :
    Field M where
  tag := tag
  name := name
  write m := match get m with
    | none => []
    | some v => Key.write ⟨tag, .lengthDelimited⟩ ++ writeSized (s.write v)
  merge depth w m bs := do
    bare (expect w .lengthDelimited)
    let (v, rest) ← s.mergeSized depth ((get m).getD s.empty) bs
    pure (set m (some v), rest)

/-- Any number of sub-messages. -/
def subs (tag : Nat) (name : String) (s : Schema S) (get : M → List S) (set : M → List S → M) :
    Field M where
  tag := tag
  name := name
  write m := (get m).flatMap fun v => Key.write ⟨tag, .lengthDelimited⟩ ++ writeSized (s.write v)
  merge depth w m bs := do
    bare (expect w .lengthDelimited)
    let (v, rest) ← s.mergeSized depth s.empty bs
    pure (set m (get m ++ [v]), rest)

/-- Any number of scalars, each under a key of its own. -/
def many (tag : Nat) (name : String) (k : Scalar α) (get : M → List α) (set : M → List α → M) :
    Field M where
  tag := tag
  name := name
  write m := (get m).flatMap fun a => Key.write ⟨tag, k.wire⟩ ++ k.write a
  merge _ w m bs := bare do
    expect w k.wire
    let (a, rest) ← k.read bs
    pure (set m (get m ++ [a]), rest)

/-- Any number of numbers, written under one key and read in either form. -/
def packed (tag : Nat) (name : String) (k : Scalar α) (get : M → List α) (set : M → List α → M) :
    Field M where
  tag := tag
  name := name
  write m := if (get m).isEmpty then [] else
    Key.write ⟨tag, .lengthDelimited⟩ ++ writeSized ((get m).flatMap k.write)
  merge _ w m bs := bare do
    if w = .lengthDelimited then
      let (stop, rest) ← readEnd bs
      let (as, rest) ← mergeNumbers k rest.length stop (get m) rest
      pure (set m as, rest)
    else
      expect w k.wire
      let (a, rest) ← k.read bs
      pure (set m (get m ++ [a]), rest)

end Field

/-- A type whose values travel as messages. -/
class Message (M : Type) where
  schema : Schema M

def encode {M : Type} [Message M] (m : M) : Bytes := (Message.schema (M := M)).write m

def decode {M : Type} [Message M] (bs : Bytes) : Except DecodeError M := (Message.schema (M := M)).decode bs

end CallPump.Wire
