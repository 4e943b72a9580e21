/-
  CallPump.Context — what travels beside a call's requests: a deadline and metadata.

  Instants are nanoseconds on the clock that the caller reads. That clock ends: an
  instant whose seconds do not fit 63 bits cannot be formed (`Fault.clockOverflow`), nor
  a span whose seconds do not fit 64 bits (`Fault.spanOverflow`), and a remaining time
  whose hours have more than eight digits cannot be told to the server
  (`Fault.timeoutTooLong`).
-/

import CallPump.Params

namespace CallPump

/-- What ends the program instead of failing the call. -/
inductive Fault where
  | clockOverflow
  | spanOverflow
  | timeoutTooLong
  deriving DecidableEq, Repr

def Fault.message : Fault → String
  | .clockOverflow => "overflow when adding duration to instant"
  | .spanOverflow => "overflow in Duration::new"
  | .timeoutTooLong => "duration is unrealistically large"

/-- Nanoseconds may make more seconds. -/
def Span.ofParts (seconds nanos : Nat) : Except Fault Span :=
  let t := Span.ofSeconds seconds + nanos
  if t.seconds < UInt64.size then .ok t else .error .spanOverflow

/-- An instant, in nanoseconds from the clock's start. -/
abbrev Instant := Nat

def Instant.limit : Instant := Span.ofSeconds 0x8000000000000000

def Instant.add? (now : Instant) (t : Span) : Option Instant :=
  if now + t < Instant.limit then some (now + t) else none

/-! ## Metadata -/

/-- Keys with one value each, in order of first insertion. -/
structure Metadata where
  entries : List (String × String) := []
  deriving DecidableEq, Repr, Inhabited

inductive MetadataError where
  | badKey
  | badValue
  deriving DecidableEq, Repr

namespace Metadata

def isTokenChar (c : Char) : Bool := c.isAlphanum || "!\"#$%&'*+-.^_`|~".toList.contains c

def maxKeyLength : Nat := 65535

/-- A key in lower case. Keys of binary values, which end in `-bin`, are not for text. -/
def key? (s : String) : Option String :=
  let k := s.toLower
  if s = "" ∨ maxKeyLength < s.length ∨ !s.all isTokenChar ∨ k.endsWith "-bin" then none else some k

/-- A value is bytes without controls, the tab excepted. -/
def isValue (s : String) : Bool :=
  (Bytes.ofText s).all fun b => b = 9 || (32 ≤ b && b != 127)

/-- A value that shows as text: tabs and printable ASCII. -/
def isText (s : String) : Bool := s.toList.all fun c => c = '\t' || (' ' ≤ c && c ≤ '~')

def get? (m : Metadata) (k : String) : Option String := m.entries.lookup k

def erase (m : Metadata) (k : String) : Metadata := ⟨m.entries.filter (·.1 != k)⟩

/-- Puts a value in place of the key's old one. -/
def put (m : Metadata) (k v : String) : Metadata :=
  if m.entries.any (·.1 == k) then ⟨m.entries.map fun e => if e.1 == k then (k, v) else e⟩
  else ⟨m.entries ++ [(k, v)]⟩

/-- As `put`, with the value replaced; the key is checked before the value. -/
def insert (m : Metadata) (k v : String) : Except MetadataError (Metadata × Option String) :=
  match key? k with
  | none => .error .badKey
  | some k => if isValue v then .ok (m.put k v, m.get? k) else .error .badValue

end Metadata

/-! ## Remaining time on the wire -/

/-- A count of the finest unit that takes at most eight digits. -/
structure WireTimeout where
  count : Nat
  unit : Char
  deriving DecidableEq, Repr

namespace WireTimeout

/-- The units, finest first, with their nanoseconds. -/
def units : List (Char × Nat) :=
  [('n', 1), ('u', 1000), ('m', 1000000), ('S', 1000000000), ('M', 60 * 1000000000),
   ('H', 3600 * 1000000000)]

def ofSpan? (t : Span) : Option WireTimeout :=
  (units.find? fun u => t / u.2 < 100000000).map fun u => ⟨t / u.2, u.1⟩

def text (w : WireTimeout) : String := toString w.count ++ w.unit.toString

end WireTimeout

/-! ## The context -/

structure Context where
  deadline : Option Instant := none
  metadata : Metadata := {}
  deriving DecidableEq, Repr, Inhabited

namespace Context

def timeoutKey : String := "grpc-timeout"

/-- A deadline `t` from now; none when `t` is zero. -/
def setTimeout (c : Context) (now : Instant) (t : Span) : Except Fault Context :=
  if t = 0 then .ok { c with deadline := none }
  else match now.add? t with
    | some d => .ok { c with deadline := some d }
    | none => .error .clockOverflow

/-- Time left, never below zero. -/
def remaining (c : Context) (now : Instant) : Option Span := c.deadline.map (· - now)

def isExpired (c : Context) (now : Instant) : Bool := c.remaining now = some 0

/-- The metadata of a request sent now: the caller's, with the remaining time in it when
    there is a deadline. -/
def requestMetadata (c : Context) (now : Instant) : Except Fault Metadata :=
  match c.remaining now with
  | none => .ok c.metadata
  | some t =>
    match WireTimeout.ofSpan? t with
    | none => .error .timeoutTooLong
    | some w => .ok (c.metadata.put timeoutKey w.text)

end Context

end CallPump
