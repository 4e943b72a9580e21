/-
  CallPump.Yaml.Scalar — scalars in their five styles.

  A line end within a plain or quoted scalar reads as a space, and further line ends as
  themselves; blanks around line ends are lost. A block scalar is made of the lines that
  are indented as its first; a folded one joins them as a plain scalar does, unless they
  are indented further. Its last line ends are kept as its head says.

  Each reader is given more fuel than there are characters left.
-/

import CallPump.Yaml.Spot

namespace CallPump.Yaml

inductive Style where
  | plain
  | single
  | double
  | literal
  | folded
  deriving DecidableEq, Repr, Inhabited

/-! ## Gaps: blanks and line ends within a scalar -/

structure Gap where
  /-- A line end was met. -/
  folded : Bool := false
  /-- Blanks before any line end. -/
  spaces : List Char := []
  first : List Char := []
  more : List Char := []
  deriving Repr

/-- The text that a gap reads as. -/
def Gap.text (g : Gap) : List Char :=
  if !g.folded then g.spaces
  else if g.first = ['\n'] then if g.more.isEmpty then [' '] else g.more
  else g.first ++ g.more

/-- Reads blanks and line ends. A tab must not stand on a new line left of `margin`. -/
def readGap (margin : Int) : Nat → Gap → Spot → Option (Gap × Spot)
  | 0, _, _ => none
  | n + 1, g, s =>
    match s.rest with
    | [] => some (g, s)
    | c :: _ =>
      if isBlank c then
        if !g.folded then readGap margin n { g with spaces := g.spaces ++ [c] } (s.skip 1)
        else if c = '\t' && s.column < margin then none
        else readGap margin n g (s.skip 1)
      else if isBreak c then
        let (b, s) := s.lineEnd
        readGap margin n (if g.folded then { g with more := g.more ++ b } else { folded := true, first := b }) s
      else some (g, s)

/-! ## Plain scalars -/

/-- The characters up to a blank or to an indicator that ends the scalar. In a flow
    collection a colon must not stand before an indicator of the flow. -/
def plainWord (flow : Bool) : List Char → Option (List Char)
  | [] => some []
  | c :: r =>
    if isBlankOrBreak c then some []
    else if flow && c = ':' && (r.head?.elim false fun d => ",?[]\x7b\x7d".toList.contains d) then none
    else if (c = ':' && startsBlank r) || (flow && ",[]\x7b\x7d".toList.contains c) then some []
    else (plainWord flow r).map (c :: ·)

/-- A plain scalar: its text, whether a line end follows it, and where. `indent` is the
    column of the block that it is in. -/
def readPlain (flow : Bool) (indent : Int) : Nat → List Char → Gap → Spot → Option (List Char × Bool × Spot)
  | 0, _, _, _ => none
  | n + 1, text, g, s =>
    if s.atDocumentMark || s.isAt '#' then some (text, g.folded, s)
    else match plainWord flow s.rest with
    | none => none
    | some w =>
      let text := if w.isEmpty then text else text ++ g.text ++ w
      let g := if w.isEmpty then g else {}
      let s := s.skip w.length
      if s.head?.elim false isBlankOrBreak then
        match readGap (indent + 1) (s.rest.length + 1) g s with
        | none => none
        | some (g, s) =>
          if !flow && s.column < indent + 1 then some (text, g.folded, s) else readPlain flow indent n text g s
      else some (text, g.folded, s)

/-! ## Quoted scalars -/

def escape? : Char → Option Char
  | '0' => some '\x00'
  | 'a' => some '\x07'
  | 'b' => some '\x08'
  | 't' | '\t' => some '\t'
  | 'n' => some '\n'
  | 'v' => some '\x0b'
  | 'f' => some '\x0c'
  | 'r' => some '\r'
  | 'e' => some '\x1b'
  | ' ' => some ' '
  | '"' => some '"'
  | '/' => some '/'
  | '\\' => some '\\'
  | 'N' => some '\u0085'
  | '_' => some '\u00a0'
  | 'L' => some '\u2028'
  | 'P' => some '\u2029'
  | _ => none

/-- The digits that follow the letter of a numeric escape. -/
def escapeDigits? : Char → Option Nat
  | 'x' => some 2
  | 'u' => some 4
  | 'U' => some 8
  | _ => none

/-- A character by its number in exactly `n` hexadecimal digits. -/
def numericEscape? (n : Nat) (cs : List Char) : Option Char :=
  let digits := (cs.take n).filterMap hexValue?
  if digits.length = n then
    let v := digits.foldl (fun v d => v * 16 + d) 0
    if v.isValidChar then some (Char.ofNat v) else none
  else none

/-- The characters up to a blank or the closing quote, in reverse; the flag tells of an
    escaped line end, which reads as nothing. -/
def quotedWord (quote : Char) : Nat → List Char → Spot → Option (List Char × Bool × Spot)
  | 0, _, _ => none
  | n + 1, w, s =>
    match s.rest with
    | [] => some (w, false, s)
    | c :: r =>
      if isBlankOrBreak c then some (w, false, s)
      else if c = quote then
        if quote = '\'' && r.head? = some '\'' then quotedWord quote n (c :: w) (s.skip 2) else some (w, false, s)
      else if quote = '"' && c = '\\' then
        match r with
        | [] => none
        | e :: r =>
          if isBreak e then some (w, true, (s.skip 1).lineEnd.2)
          else match escape? e, escapeDigits? e with
          | some d, _ => quotedWord quote n (d :: w) (s.skip 2)
          | none, some k =>
            match numericEscape? k r with
            | some d => quotedWord quote n (d :: w) (s.skip (2 + k))
            | none => none
          | none, none => none
      else quotedWord quote n (c :: w) (s.skip 1)

/-- The text up to the closing quote and the place behind it. -/
def readQuoted (quote : Char) : Nat → List Char → Spot → Option (List Char × Spot)
  | 0, _, _ => none
  | n + 1, text, s =>
    if s.atDocumentMark || s.rest.isEmpty then none
    else match quotedWord quote (s.rest.length + 1) [] s with
    | none => none
    | some (w, escaped, s) =>
      let text := text ++ w.reverse
      if s.isAt quote then some (text, s.skip 1)
      else match readGap (-1) (s.rest.length + 1) { folded := escaped } s with
      | none => none
      | some (g, s) => readQuoted quote n (text ++ g.text) s

/-! ## Block scalars -/

/-- What becomes of the line ends behind the last line. -/
inductive Chomp where
  | strip
  | clip
  | keep
  deriving DecidableEq, Repr

def chomp? : Char → Option Chomp
  | '-' => some .strip
  | '+' => some .keep
  | _ => none

/-- The head of a block scalar: how it is chomped, and its indentation when it is given. -/
def blockHead (s : Spot) : Option (Chomp × Option Nat × Spot) :=
  let digit (s : Spot) : Option (Option Nat × Spot) :=
    match s.head? with
    | some d =>
      if d = '0' then none
      else if d.isDigit then some (some (d.toNat - '0'.toNat), s.skip 1)
      else some (none, s)
    | none => some (none, s)
  match s.head?.bind chomp? with
  | some c => (digit (s.skip 1)).map fun (d, s) => (c, d, s)
  | none =>
    match digit s with
    | none => none
    | some (none, s) => some (.clip, none, s)
    | some (some d, s) =>
      match s.head?.bind chomp? with
      | some c => some (c, some d, s.skip 1)
      | none => some (.clip, some d, s)

/-- Empty lines, and the indentation of the line behind them, of which no more than `indent`
    is read if that is known. Also the deepest indentation met. A tab must not take the
    place of an indentation that is missing. -/
def blockGap (indent : Option Nat) : Nat → Nat → List Char → Spot → Option (Nat × List Char × Spot)
  | 0, _, _, _ => none
  | n + 1, deepest, breaks, s =>
    let run := (s.rest.takeWhile (· = ' ')).length
    let s := s.skip (match indent with
      | none => run
      | some i => min run (i - s.column))
    let deepest := max deepest s.column
    if s.isAt '\t' && (indent.elim true fun i => s.column < i) then none
    else if s.head?.elim false isBreak then
      let (b, s) := s.lineEnd
      blockGap indent n deepest (breaks ++ b) s
    else some (deepest, breaks, s)

structure BlockText where
  text : List Char := []
  /-- The line end behind the last line, not yet placed. -/
  lineEnd : List Char := []
  /-- The empty lines behind that. -/
  gap : List Char := []
  /-- The last line began with a blank. -/
  deep : Bool := false

/-- Adds the line here, which begins with a blank if it is `deep`. -/
def BlockText.add (b : BlockText) (isFolded deep : Bool) (line lineEnd : List Char) : BlockText where
  text :=
    b.text ++ (if isFolded && b.lineEnd = ['\n'] && !b.deep && !deep then if b.gap.isEmpty then [' '] else []
      else b.lineEnd) ++ b.gap ++ line
  lineEnd := lineEnd
  deep := deep

def readLines (isFolded : Bool) (indent : Nat) : Nat → BlockText → Spot → Option (BlockText × Spot)
  | 0, _, _ => none
  | n + 1, b, s =>
    if s.column = indent && !s.rest.isEmpty then
      let deep := s.head?.elim false isBlank
      let (line, s) := s.span (!isBreak ·)
      let (e, s) := s.lineEnd
      match blockGap (some indent) (s.rest.length + 1) 0 [] s with
      | none => none
      | some (_, gap, s) => readLines isFolded indent n { b.add isFolded deep line e with gap := gap } s
    else some (b, s)

/-- The text of a block scalar, from behind its indicator. `parent` is the column of the
    block that it is in. -/
def readBlock (isFolded : Bool) (parent : Int) (s : Spot) : Option (List Char × Spot) := do
  let (chomp, given, s) ← blockHead s
  let s ← s.restOfLine?
  let fuel := s.rest.length + 1
  let known := given.map fun d => (max parent 0).toNat + d
  let (deepest, gap, s) ← blockGap known fuel 0 [] s
  let indent := known.getD (max (max deepest (parent + 1).toNat) 1)
  let (b, s) ← readLines isFolded indent fuel { gap := gap } s
  let tail := match chomp with
    | .strip => []
    | .clip => b.lineEnd
    | .keep => b.lineEnd ++ b.gap
  pure (b.text ++ tail, s)

end CallPump.Yaml
