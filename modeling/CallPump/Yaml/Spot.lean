/-
  CallPump.Yaml.Spot — a place in a text, with its line and column.

  Lines end at a line feed, a carriage return or both together, at a next-line character,
  or at a line or paragraph separator. The first four kinds read as a line feed, the last
  two as themselves.
-/

namespace CallPump.Yaml

/-! ## Characters -/

def isBlank (c : Char) : Bool := c = ' ' || c = '\t'

def isSeparator (c : Char) : Bool := c = '\u2028' || c = '\u2029'

def isBreak (c : Char) : Bool := c = '\n' || c = '\r' || c = '\u0085' || isSeparator c

def isBlankOrBreak (c : Char) : Bool := isBlank c || isBreak c

/-- Letters, digits, hyphens and underscores. -/
def isWordChar (c : Char) : Bool := c.isAlphanum || c = '-' || c = '_'

/-- A character that may stand in a document; no control but tab and line ends. -/
def isAllowed (c : Char) : Bool :=
  let n := c.toNat
  n = 0x09 || n = 0x0a || n = 0x0d || (0x20 ≤ n && n ≤ 0x7e) || n = 0x85 || (0xa0 ≤ n && n ≤ 0xd7ff) ||
    (0xe000 ≤ n && n ≤ 0xfffd) || 0x10000 ≤ n

def hexValue? (c : Char) : Option Nat :=
  if c.isDigit then some (c.toNat - '0'.toNat)
  else if 'a' ≤ c ∧ c ≤ 'f' then some (c.toNat - 'a'.toNat + 10)
  else if 'A' ≤ c ∧ c ≤ 'F' then some (c.toNat - 'A'.toNat + 10)
  else none

/-- The end of the text counts as a blank. -/
def startsBlank : List Char → Bool
  | [] => true
  | c :: _ => isBlankOrBreak c

/-! ## Places -/

structure Spot where
  rest : List Char
  /-- How many bytes lie behind. -/
  index : Nat := 0
  line : Nat := 0
  column : Nat := 0
  deriving Repr, Inhabited

namespace Spot

def head? (s : Spot) : Option Char := s.rest.head?

/-- The bytes that the next `n` characters take. -/
def width (s : Spot) (n : Nat) : Nat := (s.rest.take n).foldl (fun k c => k + c.utf8Size) 0

def isAt (s : Spot) (c : Char) : Bool := s.rest.head? == some c

/-- Behind the next `n` characters, which are on the same line. -/
def skip (s : Spot) (n : Nat) : Spot :=
  { s with rest := s.rest.drop n, index := s.index + s.width n, column := s.column + n }

/-- The characters from here on that satisfy `p`, and the place behind them. -/
def span (s : Spot) (p : Char → Bool) : List Char × Spot :=
  let cs := s.rest.takeWhile p
  (cs, s.skip cs.length)

def skipWhile (s : Spot) (p : Char → Bool) : Spot := (s.span p).2

def newLine (s : Spot) (n : Nat) : Spot :=
  { rest := s.rest.drop n, index := s.index + s.width n, line := s.line + 1, column := 0 }

/-- What a line end here reads as, and the place behind it; nothing where there is none. -/
def lineEnd (s : Spot) : List Char × Spot :=
  match s.rest with
  | '\r' :: '\n' :: _ => (['\n'], s.newLine 2)
  | c :: _ =>
    if isSeparator c then ([c], s.newLine 1)
    else if isBreak c then (['\n'], s.newLine 1)
    else ([], s)
  | [] => ([], s)

def atLineEnd (s : Spot) : Bool :=
  match s.rest with
  | [] => true
  | c :: _ => isBreak c

/-- Whether the text goes on with this mark, set off by a blank. -/
def atMark (s : Spot) (m : List Char) : Bool := m.isPrefixOf s.rest && startsBlank (s.rest.drop m.length)

def atDocumentStart (s : Spot) : Bool := s.column == 0 && s.atMark ['-', '-', '-']

def atDocumentEnd (s : Spot) : Bool := s.column == 0 && s.atMark ['.', '.', '.']

/-- Whether a mark stands here that starts or ends a document. -/
def atDocumentMark (s : Spot) : Bool := s.atDocumentStart || s.atDocumentEnd

/-- Behind blanks and a comment, which have to reach to the end of the line, and behind that. -/
def restOfLine? (s : Spot) : Option Spot :=
  let s := s.skipWhile isBlank
  let s := if s.isAt '#' then s.skipWhile (!isBreak ·) else s
  if s.atLineEnd then some s.lineEnd.2 else none

end Spot

end CallPump.Yaml
