/-
  CallPump.Wire.Error — why bytes are not a message.

  A failure is one cause and the fields it happened in, innermost first. A field counts
  from its wire type on: what goes wrong in a key, or in a field that the message does
  not know, is charged to the known fields around it only.
-/

namespace CallPump.Wire

/-- How a value is laid out after its key. -/
inductive WireType where
  | varint
  | sixtyFourBit
  | lengthDelimited
  | startGroup
  | endGroup
  | thirtyTwoBit
  deriving DecidableEq, Repr, Inhabited

namespace WireType

def toNat : WireType → Nat
  | .varint => 0
  | .sixtyFourBit => 1
  | .lengthDelimited => 2
  | .startGroup => 3
  | .endGroup => 4
  | .thirtyTwoBit => 5

def ofNat? : Nat → Option WireType
  | 0 => some .varint
  | 1 => some .sixtyFourBit
  | 2 => some .lengthDelimited
  | 3 => some .startGroup
  | 4 => some .endGroup
  | 5 => some .thirtyTwoBit
  | _ => none

def name : WireType → String
  | .varint => "Varint"
  | .sixtyFourBit => "SixtyFourBit"
  | .lengthDelimited => "LengthDelimited"
  | .startGroup => "StartGroup"
  | .endGroup => "EndGroup"
  | .thirtyTwoBit => "ThirtyTwoBit"

theorem ofNat?_toNat (w : WireType) : ofNat? w.toNat = some w := by cases w <;> rfl

theorem toNat_lt (w : WireType) : w.toNat < 8 := by cases w <;> decide

end WireType

inductive Cause where
  | invalidVarint
  | invalidKey (key : Nat)
  | invalidWireType (n : Nat)
  | zeroTag
  | wrongWireType (got want : WireType)
  /-- A length or a fixed-size value runs past the end of all the bytes. -/
  | underflow
  /-- A delimited part was read past its own end. -/
  | overrun
  | strayGroupEnd
  | tooDeep
  | notUtf8
  deriving DecidableEq, Repr

def Cause.message : Cause → String
  | .invalidVarint => "invalid varint"
  | .invalidKey k => "invalid key value: " ++ toString k
  | .invalidWireType n => "invalid wire type value: " ++ toString n
  | .zeroTag => "invalid tag value: 0"
  | .wrongWireType got want => "invalid wire type: " ++ got.name ++ " (expected " ++ want.name ++ ")"
  | .underflow => "buffer underflow"
  | .overrun => "delimited length exceeded"
  | .strayGroupEnd => "unexpected end group tag"
  | .tooDeep => "recursion limit reached"
  | .notUtf8 => "invalid string value: data is not UTF-8 encoded"

structure DecodeError where
  cause : Cause
  /-- The fields around the failure, innermost first, each as message and field. -/
  path : List (String × String) := []
  deriving DecidableEq, Repr

namespace DecodeError

def within (message field : String) (e : DecodeError) : DecodeError :=
  { e with path := e.path ++ [(message, field)] }

def message (e : DecodeError) : String :=
  "failed to decode Protobuf message: " ++
    String.join (e.path.map fun p => p.1 ++ "." ++ p.2 ++ ": ") ++ e.cause.message

end DecodeError

end CallPump.Wire
