/-
  CallPump.Text.Quoted — a text in double quotes, on one line.

  A quote, a backslash and the common controls are written as a letter behind a backslash.
  Any other hidden character is written by its number, in hexadecimal and in braces.
-/

import CallPump.Text.Hidden

namespace CallPump.Text.Quoted

def letter? : Char → Option Char
  | '\x00' => some '0'
  | '\t' => some 't'
  | '\n' => some 'n'
  | '\r' => some 'r'
  | '"' => some '"'
  | '\\' => some '\\'
  | _ => none

def number (c : Char) : List Char := ['\\', 'u', '\x7b'] ++ Nat.toDigits 16 c.toNat ++ ['\x7d']

def encodeChar (c : Char) : List Char :=
  match letter? c with
  | some l => ['\\', l]
  | none => if isHidden c then number c else [c]

/-- The text between the quotes. -/
def encode (cs : List Char) : List Char := cs.flatMap encodeChar

def quote (s : String) : String := String.ofList ('"' :: encode s.toList ++ ['"'])

end CallPump.Text.Quoted
