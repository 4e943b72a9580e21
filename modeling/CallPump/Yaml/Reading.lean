/-
  CallPump.Yaml.Reading — what the nodes of a document can be taken for, and the
  configuration that a text holds.

  Any scalar is a text, as it is written. A natural number is a plain scalar (or a literal
  one that is tagged as a number) in decimal without leading zeros, or in base 16, 8 or 2
  behind a mark. A name is a text without a tag of the document's own; such a tag is itself
  a name when it stands on nothing.
-/

import CallPump.Config
import CallPump.Yaml.Node

namespace CallPump.Yaml

def digitsValue? (base : Nat) (cs : List Char) : Option Nat :=
  let ds := cs.filterMap hexValue?
  if cs.isEmpty || ds.length ≠ cs.length || ds.any (base ≤ ·) then none
  else some (ds.foldl (fun v d => v * base + d) 0)

/-- A natural number, with a plus sign or without. -/
def natural? (text : String) : Option Nat :=
  let cs := text.toList
  let body := match cs with
    | '+' :: r => r
    | r => r
  match body with
  | '0' :: 'x' :: r => digitsValue? 16 r
  | '0' :: 'o' :: r => digitsValue? 8 r
  | '0' :: 'b' :: r => digitsValue? 2 r
  | ['0'] => some 0
  | '0' :: _ => none
  | r => digitsValue? 10 r

def numberTag : Bytes := .ofText "tag:yaml.org,2002:int"

def isNull (text : String) : Bool := ["", "~", "null", "Null", "NULL"].contains text

/-- What follows the `!` with which a tag of the document's own begins, if it is a text. -/
def ownTag? : Bytes → Option String
  | b :: bs => if b = '!'.toNat.toUInt8 then Bytes.text? bs else none
  | [] => none

def Document.reading (d : Document) (x : Node) : Reading :=
  match d.resolve x with
  | .scalar style tag text =>
    { text := some text
      natural := if style = .plain || (style = .literal && tag = some numberTag) then natural? text else none
      name := match tag.bind ownTag? with
        | some t => if style = .plain && isNull text then some t else none
        | none => some text }
  | _ => {}

/-- The entries of a mapping by the texts of their keys. -/
def Document.entries? (d : Document) : List (Node × Node) → Option (List (String × Reading))
  | [] => some []
  | (k, v) :: rest =>
    match (d.reading k).text, d.entries? rest with
    | some key, some es => some ((key, d.reading v) :: es)
    | _, _ => none

/-- A mapping, or nothing at all. -/
def Document.config? (d : Document) : Option Config :=
  match d.root with
  | .mapping es => (d.entries? es).bind Config.ofEntries?
  | .scalar .plain _ "" => some {}
  | _ => none

end CallPump.Yaml

/-- The configuration in a text. -/
def CallPump.Config.ofText (text : String) : Except Config.Refusal Config :=
  Config.checked (match Yaml.Document.ofText? text with
    | none => none
    | some none => some {}
    | some (some d) => d.config?)
