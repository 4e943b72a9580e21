/-
  CallPump.Yaml.Token — a text as tokens.

  In a block, columns make the structure: a key or an entry right of the current column
  starts a collection there, and one left of it ends what is open. A key needs no mark of
  its own. So a place where one may begin leaves a slot among the tokens, which becomes
  the key's tokens when its colon comes, on the same line and not too far on, and nothing
  otherwise. A slot at the column of an open block must be filled.
-/

import CallPump.Bytes
import CallPump.Yaml.Scalar

namespace CallPump.Yaml

inductive Token where
  | version (major minor : Nat)
  | tagPrefix (handle : String) (text : Bytes)
  | documentStart
  | documentEnd
  | blockSequence
  | blockMapping
  | blockEnd
  | flowSequence
  | flowSequenceEnd
  | flowMapping
  | flowMappingEnd
  | entry
  | comma
  | key
  | value
  | alias (name : String)
  | anchor (name : String)
  | tag (handle : String) (text : Bytes)
  | scalar (style : Style) (text : String)
  deriving DecidableEq, Repr

/-- A token, or a place that may become a key's tokens. -/
inductive Piece where
  | token (t : Token)
  | slot (n : Nat)
  deriving Repr

/-- A slot that is still open. -/
structure KeyPlace where
  slot : Nat
  required : Bool
  spot : Spot
  deriving Repr

structure Scan where
  spot : Spot
  /-- Latest first. -/
  pieces : List Piece := []
  slots : Nat := 0
  filled : List (Nat × List Token) := []
  /-- The open slot of each flow level, the innermost first; the last is the block's. -/
  places : List (Option KeyPlace) := [none]
  indent : Int := -1
  outer : List Int := []
  /-- A key may begin here. -/
  keyAllowed : Bool := true

namespace Scan

def inFlow (s : Scan) : Bool := s.places.length > 1

def emit (s : Scan) (t : Token) : Scan := { s with pieces := .token t :: s.pieces }

def moveTo (s : Scan) (p : Spot) : Scan := { s with spot := p }

def allowKey (s : Scan) (b : Bool) : Scan := { s with keyAllowed := b }

/-! ## Columns -/

/-- Ends the blocks right of the column. -/
def closeTo (column : Int) : List Int → Scan → Scan
  | [], s => s
  | i :: is, s =>
    if column < s.indent then closeTo column is ({ s with indent := i, outer := is }.emit .blockEnd) else s

def closeBlocks (s : Scan) (column : Int) : Scan := if s.inFlow then s else closeTo column s.outer s

/-- Whether a block collection starts at the column; it is then the current one. -/
def openBlock (s : Scan) (column : Nat) : Scan × Bool :=
  if !s.inFlow && s.indent < column then ({ s with indent := column, outer := s.indent :: s.outer }, true)
  else (s, false)

/-! ## Slots -/

def place? (s : Scan) : Option KeyPlace := s.places.head?.join

def setPlace (s : Scan) (k : Option KeyPlace) : Scan := { s with places := k :: s.places.drop 1 }

/-- Gives up the open slot of this level. -/
def dropPlace (s : Scan) : Option Scan :=
  match s.place? with
  | some k => if k.required then none else some (s.setPlace none)
  | none => some s

/-- Leaves a slot here if a key may begin. -/
def markPlace (s : Scan) : Option Scan :=
  if !s.keyAllowed then some s
  else
    s.dropPlace.map fun s =>
      let required := !s.inFlow && s.indent = s.spot.column
      { s.setPlace (some ⟨s.slots, required, s.spot⟩) with
        slots := s.slots + 1, pieces := .slot s.slots :: s.pieces }

/-- A key and what stands before its colon take no more bytes. -/
def keyLimit : Nat := 1024

def isStale (s : Scan) (k : KeyPlace) : Bool :=
  k.spot.line < s.spot.line || k.spot.index + keyLimit < s.spot.index

/-- Gives up the slots whose colon can no longer come. -/
def dropStale (s : Scan) : Option Scan :=
  let gone (k : Option KeyPlace) : Bool := k.elim false s.isStale
  if s.places.any fun k => gone k && k.elim false (·.required) then none
  else some { s with places := s.places.map fun k => if gone k then none else k }

/-! ## Between tokens -/

/-- Behind blanks, comments and line ends, and a byte-order mark that begins a line. -/
def toNext : Nat → Scan → Scan
  | 0, s => s
  | n + 1, s =>
    let p := if s.spot.column = 0 && s.spot.isAt '\ufeff' then s.spot.skip 1 else s.spot
    let p := p.skipWhile fun c => c = ' ' || (c = '\t' && (s.inFlow || !s.keyAllowed))
    let p := if p.isAt '#' then p.skipWhile (!isBreak ·) else p
    if p.head?.elim false isBreak then toNext n ((s.moveTo p.lineEnd.2).allowKey (s.keyAllowed || !s.inFlow))
    else s.moveTo p

/-! ## Directives -/

def number? (p : Spot) : Option (Nat × Spot) :=
  let (ds, p) := p.span Char.isDigit
  if ds.isEmpty || 9 < ds.length then none
  else some (ds.foldl (fun n d => n * 10 + (d.toNat - '0'.toNat)) 0, p)

/-- `!`, `!!` or `!name!`; or a `!` that is no handle, with the word behind it. -/
def handle? (p : Spot) : Option (List Char × Bool × Spot) :=
  if !p.isAt '!' then none
  else
    let (w, q) := (p.skip 1).span isWordChar
    if q.isAt '!' then some ('!' :: w ++ ['!'], true, q.skip 1) else some ('!' :: w, false, q)

def isUriChar (inBrackets : Bool) (c : Char) : Bool :=
  isWordChar c || ";/?:@&=+$.!~*'()".toList.contains c || (inBrackets && (c = ',' || c = '[' || c = ']'))

/-- How many bytes a character has that begins with this one. -/
def leadWidth (b : UInt8) : Nat :=
  if b < 0x80 then 1 else if b / 32 = 6 then 2 else if b / 16 = 14 then 3 else if b / 8 = 30 then 4 else 0

/-- A byte of an escape in a tag. -/
def octet? (p : Spot) : Option (UInt8 × Spot) :=
  match p.rest with
  | '%' :: a :: b :: _ =>
    match hexValue? a, hexValue? b with
    | some x, some y => some ((x * 16 + y).toUInt8, p.skip 3)
    | _, _ => none
  | _ => none

/-- As many bytes as follow the first of a character; `w` holds what was read, in reverse. -/
def trail? : Nat → Bytes → Spot → Option (Bytes × Spot)
  | 0, w, p => some (w, p)
  | n + 1, w, p =>
    match octet? p with
    | some (b, q) => if b / 64 = 2 then trail? n (b :: w) q else none
    | none => none

/-- The bytes of a tag. An escape gives the bytes that it names; they only have to be as
    many as the first of them asks for. -/
def uri (inBrackets : Bool) : Nat → Bytes → Spot → Option (Bytes × Spot)
  | 0, _, _ => none
  | n + 1, w, p =>
    match p.rest with
    | [] => some (w.reverse, p)
    | c :: _ =>
      if isUriChar inBrackets c then uri inBrackets n (c.toNat.toUInt8 :: w) (p.skip 1)
      else if c = '%' then
        match octet? p with
        | none => none
        | some (b, q) =>
          if leadWidth b = 0 then none
          else match trail? (leadWidth b - 1) (b :: w) q with
            | none => none
            | some (w, q) => uri inBrackets n w q
      else some (w.reverse, p)

/-- The bytes from here on, behind those of `start`; there have to be some. -/
def uri? (inBrackets : Bool) (start : List Char) (p : Spot) : Option (Bytes × Spot) :=
  match uri inBrackets (p.rest.length + 1) (start.reverse.map (·.toNat.toUInt8)) p with
  | some (w, p) => if w.isEmpty then none else some (w, p)
  | none => none

/-- A tag ends before its first zero byte. -/
def untilZero (bs : Bytes) : Bytes := bs.takeWhile (· != 0)

def directive? (p : Spot) : Option (Token × Spot) := do
  let (name, p) := (p.skip 1).span isWordChar
  if !startsBlank p.rest then none
  if name = "YAML".toList then
    let (major, p) ← number? (p.skipWhile isBlank)
    if !p.isAt '.' then none
    let (minor, p) ← number? (p.skip 1)
    let p ← p.restOfLine?
    pure (.version major minor, p)
  else if name = "TAG".toList then
    let (h, isHandle, p) ← handle? (p.skipWhile isBlank)
    if !isHandle && h ≠ ['!'] then none
    if !(p.head?.elim false isBlank) then none
    let (text, p) ← uri? true [] (p.skipWhile isBlank)
    if !startsBlank p.rest then none
    let p ← p.restOfLine?
    pure (.tagPrefix (String.ofList h) (untilZero text), p)
  else none

/-! ## Marks on nodes -/

/-- A name behind `&` or `*`. -/
def name? (p : Spot) : Option (String × Spot) :=
  let (w, p) := p.span isWordChar
  if w.isEmpty || !(startsBlank p.rest || p.head?.elim false fun c => "?:,]\x7d%@\x60".toList.contains c) then none
  else some (String.ofList w, p)

/-- A tag: its handle, which is empty for a whole tag, and its text. A `!` that nothing
    follows is a whole tag. -/
def tag? (flow : Bool) (p : Spot) : Option (Token × Spot) := do
  let (h, text, p) ← match p.rest with
    | '!' :: '<' :: _ => do
      let (text, p) ← uri? true [] (p.skip 2)
      if !p.isAt '>' then none
      pure ("", untilZero text, p.skip 1)
    | _ => do
      let (h, isHandle, q) ← handle? p
      if isHandle then
        let (text, q) ← uri? false [] q
        pure (String.ofList h, untilZero text, q)
      else
        let (text, q) ← uri? false h q
        let text := untilZero (text.drop 1)
        pure (if text.isEmpty then ("", Bytes.ofText "!", q) else ("!", text, q))
  if startsBlank p.rest || (flow && p.isAt ',') then pure (.tag h text, p) else none

/-! ## Tokens -/

/-- A token that is one character. -/
def single (s : Scan) (t : Token) : Scan := (s.emit t).moveTo (s.spot.skip 1)

/-- A scalar, at whose beginning a key may have begun. -/
def scalar (s : Scan) (style : Style) (text : List Char) (p : Spot) : Scan :=
  (s.emit (.scalar style (String.ofList text))).moveTo p

/-- The mark of an entry or of a key in a block, which may start a collection here. -/
def blockMark (s : Scan) (opens t : Token) : Option Scan :=
  if s.inFlow then s.dropPlace.map (·.single t)
  else if !s.keyAllowed then none
  else
    let (s, isNew) := s.openBlock s.spot.column
    (if isNew then s.emit opens else s).dropPlace.map (·.single t)

/-- The colon: it fills the open slot, or follows a key that has its own mark. -/
def colon (s : Scan) : Option Scan :=
  match s.place? with
  | some k =>
    let (s, isNew) := s.openBlock k.spot.column
    let tokens := if isNew then [.blockMapping, .key] else [.key]
    some ((({ s with filled := (k.slot, tokens) :: s.filled }.setPlace none).single .value).allowKey false)
  | none =>
    if s.inFlow then some ((s.single .value).allowKey false)
    else if !s.keyAllowed then none
    else
      let (s, isNew) := s.openBlock s.spot.column
      some (((if isNew then s.emit .blockMapping else s).single .value).allowKey true)

def openFlow (s : Scan) (t : Token) : Option Scan :=
  s.markPlace.map fun s => ({ s with places := none :: s.places }.single t).allowKey true

def closeFlow (s : Scan) (t : Token) : Option Scan :=
  s.dropPlace.map fun s =>
    ({ s with places := if s.inFlow then s.places.drop 1 else s.places }.single t).allowKey false

/-- Closes every block before a token that stands outside of documents. -/
def outside (s : Scan) (t : Token) (p : Spot) : Option Scan :=
  (s.closeBlocks (-1)).dropPlace.map fun s => ((s.emit t).moveTo p).allowKey false

/-- Whether a plain scalar can begin here. -/
def canBePlain (s : Scan) : Bool :=
  match s.spot.rest with
  | [] => false
  | c :: r =>
    !(isBlankOrBreak c || "-?:,[]\x7b\x7d#&*!|>'\"%@\x60".toList.contains c) ||
      (c = '-' && !(r.head?.elim false isBlank)) || (!s.inFlow && (c = '?' || c = ':') && !startsBlank r)

/-- The next token, at a character that is not between tokens. -/
def fetch (s : Scan) : Option Scan := do
  let p := s.spot
  let fuel := p.rest.length + 1
  let c ← p.head?
  let r := p.rest.drop 1
  if p.column = 0 && c = '%' then
    let (t, p) ← directive? p
    s.outside t p
  else if p.atDocumentStart then s.outside .documentStart (p.skip 3)
  else if p.atDocumentEnd then s.outside .documentEnd (p.skip 3)
  else if c = '[' then s.openFlow .flowSequence
  else if c = '\x7b' then s.openFlow .flowMapping
  else if c = ']' then s.closeFlow .flowSequenceEnd
  else if c = '\x7d' then s.closeFlow .flowMappingEnd
  else if c = ',' then s.dropPlace.map fun s => (s.single .comma).allowKey true
  else if c = '-' && startsBlank r then (s.blockMark .blockSequence .entry).map (·.allowKey true)
  else if c = '?' && (s.inFlow || startsBlank r) then
    (s.blockMark .blockMapping .key).map fun s => s.allowKey (!s.inFlow)
  else if c = ':' && (s.inFlow || startsBlank r) then s.colon
  else if c = '*' || c = '&' then
    let s ← s.markPlace
    let (name, p) ← name? (p.skip 1)
    pure (((s.emit (if c = '*' then .alias name else .anchor name)).moveTo p).allowKey false)
  else if c = '!' then
    let s ← s.markPlace
    let (t, p) ← tag? s.inFlow p
    pure (((s.emit t).moveTo p).allowKey false)
  else if (c = '|' || c = '>') && !s.inFlow then
    let s ← s.dropPlace
    let (text, p) ← readBlock (c = '>') s.indent (p.skip 1)
    pure ((s.scalar (if c = '|' then .literal else .folded) text p).allowKey true)
  else if c = '\'' || c = '"' then
    let s ← s.markPlace
    let (text, p) ← readQuoted c fuel [] (p.skip 1)
    pure ((s.scalar (if c = '"' then .double else .single) text p).allowKey false)
  else if s.canBePlain then
    let s ← s.markPlace
    let (text, folded, p) ← readPlain s.inFlow s.indent fuel [] {} p
    pure ((s.scalar .plain text p).allowKey folded)
  else none

/-- Fetches tokens until the text ends. -/
def fetchAll : Nat → Scan → Option Scan
  | 0, _ => none
  | n + 1, s =>
    match (toNext (s.spot.rest.length + 1) s).dropStale with
    | none => none
    | some s =>
      let s := s.closeBlocks s.spot.column
      if s.spot.rest.isEmpty then (s.closeBlocks (-1)).dropPlace
      else match s.fetch with
        | none => none
        | some s => fetchAll n s

def tokens (s : Scan) : List Token :=
  s.pieces.reverse.flatMap fun
    | .token t => [t]
    | .slot n => (s.filled.lookup n).getD []

end Scan

/-- The tokens of a text; `none` if it has none. Every token takes at least a character. -/
def Token.ofText? (text : String) : Option (List Token) :=
  let cs := text.toList
  if cs.all isAllowed then (Scan.fetchAll (cs.length + 1) { spot := { rest := cs } }).map Scan.tokens else none

end CallPump.Yaml
