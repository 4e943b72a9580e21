/-
  CallPump.Yaml.Node — tokens as a tree.

  A stream holds at most one document. A node that is not written where one could stand is
  an empty plain scalar. An anchored node gets a number: how many names were anchored so
  far. A reference stands for the node that got the number of its name last.
-/

import CallPump.Yaml.Token

namespace CallPump.Yaml

inductive Node where
  | scalar (style : Style) (tag : Option Bytes) (text : String)
  | sequence (items : List Node)
  | mapping (entries : List (Node × Node))
  /-- The node with an anchor's number. -/
  | reference (n : Nat)
  deriving Repr, Inhabited

def Node.empty : Node := .scalar .plain none ""

structure Document where
  root : Node
  /-- Anchored nodes by number; the first entry of a number counts. A collection is listed
      without what is in it. -/
  anchors : List (Nat × Node) := []
  deriving Repr

/-- The node itself, or the one that it refers to. -/
def Document.resolve (d : Document) : Node → Node
  | .reference n => (d.anchors.lookup n).getD .empty
  | x => x

/-- A document on its way. -/
structure Build where
  tokens : List Token
  names : List (String × Nat) := []
  anchors : List (Nat × Node) := []
  prefixes : List (String × Bytes) := []

namespace Build

def peek (b : Build) : Option Token := b.tokens.head?

def skip (b : Build) : Build := { b with tokens := b.tokens.drop 1 }

/-- Behind the token if it is the next one. -/
def take? (b : Build) (t : Token) : Option Build := if b.peek = some t then some b.skip else none

def nextIs (b : Build) (ts : List Token) : Bool := b.peek.elim false ts.contains

def anchor (b : Build) (name : Option String) (x : Node) : Build :=
  match name with
  | none => b
  | some name =>
    let n := b.names.length
    { b with names := (name, n) :: b.names.filter (·.1 != name), anchors := (n, x) :: b.anchors }

/-- A tag in full: the text of its handle before its own. -/
def fullTag? (b : Build) (handle : String) (text : Bytes) : Option Bytes :=
  if handle = "" then some text
  else match (b.prefixes ++ [("!", Bytes.ofText "!"), ("!!", Bytes.ofText "tag:yaml.org,2002:")]).lookup handle with
  | some p => some (p ++ text)
  | none => none

structure Marks where
  anchor : Option String := none
  tag : Option Bytes := none

/-- The anchor and the tag before a node, in either order. -/
def marks (b : Build) : Option (Marks × Build) :=
  let tagged (m : Marks) (h : String) (t : Bytes) (b : Build) : Option (Marks × Build) :=
    (b.fullTag? h t).map fun tag => ({ m with tag := some tag }, b)
  match b.tokens with
  | .anchor a :: .tag h t :: _ => tagged { anchor := some a } h t b.skip.skip
  | .anchor a :: _ => some ({ anchor := some a }, b.skip)
  | .tag h t :: .anchor a :: _ => tagged { anchor := some a } h t b.skip.skip
  | .tag h t :: _ => tagged {} h t b.skip
  | _ => some ({}, b)

/-- What is being read. -/
inductive Goal where
  /-- A node, in a block or in a flow; in a block mapping a sequence needs no indentation. -/
  | node (inBlock inMapping : Bool)
  /-- The rest of a collection, with what was read of it so far, latest first. -/
  | blockItems (done : List Node)
  | bareItems (done : List Node)
  | blockEntries (done : List (Node × Node))
  | flowItems (done : List Node)
  | flowEntries (done : List (Node × Node))

/-- Reads a goal from the tokens. The fuel has to be twice the number of tokens. -/
def read : Nat → Goal → Build → Option (Node × Build)
  | 0, _, _ => none
  | n + 1, .node inBlock inMapping, b =>
    match b.peek with
    | some (.alias name) => (b.names.lookup name).map fun k => (.reference k, b.skip)
    | _ =>
      match b.marks with
      | none => none
      | some (m, b) =>
        let list (g : Goal) (b : Build) := read n g (b.anchor m.anchor (.sequence []))
        let table (g : Goal) (b : Build) := read n g (b.anchor m.anchor (.mapping []))
        match b.peek with
        | some (.scalar style text) =>
          let x := Node.scalar style m.tag text
          some (x, b.skip.anchor m.anchor x)
        | some .entry => if inBlock && inMapping then list (.bareItems []) b else plain m b
        | some .flowSequence => list (.flowItems []) b.skip
        | some .flowMapping => table (.flowEntries []) b.skip
        | some .blockSequence => if inBlock then list (.blockItems []) b.skip else plain m b
        | some .blockMapping => if inBlock then table (.blockEntries []) b.skip else plain m b
        | _ => plain m b
  | n + 1, .blockItems done, b =>
    match b.take? .entry, b.take? .blockEnd with
    | some b, _ => (optional n b [.entry, .blockEnd] true false).bind fun (x, b) => read n (.blockItems (x :: done)) b
    | none, some b => some (.sequence done.reverse, b)
    | none, none => none
  | n + 1, .bareItems done, b =>
    match b.take? .entry with
    | some b =>
      (optional n b [.entry, .key, .value, .blockEnd] true false).bind fun (x, b) =>
        read n (.bareItems (x :: done)) b
    | none => some (.sequence done.reverse, b)
  | n + 1, .blockEntries done, b =>
    match b.take? .key, b.take? .blockEnd with
    | some b, _ => do
      let (k, b) ← optional n b [.key, .value, .blockEnd] true true
      let (v, b) ← match b.take? .value with
        | some b => optional n b [.key, .value, .blockEnd] true true
        | none => some (.empty, b)
      read n (.blockEntries ((k, v) :: done)) b
    | none, some b => some (.mapping done.reverse, b)
    | none, none => none
  | n + 1, .flowItems done, b =>
    match b.take? .flowSequenceEnd with
    | some b => some (.sequence done.reverse, b)
    | none => do
      let b ← if done.isEmpty then some b else b.take? .comma
      match b.take? .flowSequenceEnd, b.take? .key with
      | some b, _ => some (.sequence done.reverse, b)
      | none, some b => do
        let (k, b) ←
          if b.nextIs [.value, .comma, .flowSequenceEnd] then some (.empty, b.skip) else read n (.node false false) b
        let (v, b) ← match b.take? .value with
          | some b => optional n b [.comma, .flowSequenceEnd] false false
          | none => some (.empty, b)
        read n (.flowItems (.mapping [(k, v)] :: done)) b
      | none, none => do
        let (x, b) ← read n (.node false false) b
        read n (.flowItems (x :: done)) b
  | n + 1, .flowEntries done, b =>
    match b.take? .flowMappingEnd with
    | some b => some (.mapping done.reverse, b)
    | none => do
      let b ← if done.isEmpty then some b else b.take? .comma
      match b.take? .flowMappingEnd, b.take? .key with
      | some b, _ => some (.mapping done.reverse, b)
      | none, some b => do
        let (k, b) ← optional n b [.value, .comma, .flowMappingEnd] false false
        let (v, b) ← match b.take? .value with
          | some b => optional n b [.comma, .flowMappingEnd] false false
          | none => some (.empty, b)
        read n (.flowEntries ((k, v) :: done)) b
      | none, none => do
        let (k, b) ← read n (.node false false) b
        read n (.flowEntries ((k, .empty) :: done)) b
where
  /-- A node that is only marked, and otherwise not written. -/
  plain (m : Marks) (b : Build) : Option (Node × Build) :=
    if m.anchor.isNone && m.tag.isNone then none
    else
      let x := Node.scalar .plain m.tag ""
      some (x, b.anchor m.anchor x)
  /-- A node, unless one of the tokens comes that may follow its absence. -/
  optional (n : Nat) (b : Build) (ends : List Token) (inBlock inMapping : Bool) : Option (Node × Build) :=
    if b.nextIs ends then some (.empty, b) else read n (.node inBlock inMapping) b

/-- The directives before a document: one version at most, and each handle once. -/
def directives (versioned : Bool) : List Token → List (String × Bytes) → Option (List (String × Bytes) × List Token)
  | .version major minor :: ts, ps =>
    if versioned || major ≠ 1 || (minor ≠ 1 && minor ≠ 2) then none else directives true ts ps
  | .tagPrefix h t :: ts, ps => if ps.any (·.1 == h) then none else directives versioned ts ((h, t) :: ps)
  | ts, ps => some (ps, ts)

def isOutside : Token → Bool
  | .version _ _ | .tagPrefix _ _ | .documentStart | .documentEnd => true
  | _ => false

def root (b : Build) : Option (Node × Build) := read (2 * b.tokens.length + 2) (.node true false) b

/-- The one document of a stream, `none` inside if there is no document at all. -/
def stream (ts : List Token) : Option (Option Document) :=
  let close (x : Node) (b : Build) : Option (Option Document) :=
    if (b.tokens.dropWhile (· = .documentEnd)).isEmpty then some (some ⟨x, b.anchors⟩) else none
  match ts with
  | [] => some none
  | .version _ _ :: _ | .tagPrefix _ _ :: _ | .documentStart :: _ => do
    let (ps, ts) ← directives false ts []
    let b ← { tokens := ts, prefixes := ps : Build }.take? .documentStart
    if b.peek.elim true isOutside then close .empty b
    else
      let (x, b) ← b.root
      close x b
  | _ => do
    let (x, b) ← { tokens := ts : Build }.root
    close x b

end Build

/-- The document of a text, `none` inside if the text holds none. -/
def Document.ofText? (text : String) : Option (Option Document) := (Token.ofText? text).bind Build.stream

end CallPump.Yaml
