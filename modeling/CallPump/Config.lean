/-
  CallPump.Config — the configuration of a pump and of the clients built on it.

  A configuration is read field by field from a document; a field that is missing keeps
  its default, and so does all of an empty document. Which reading of a datum a field takes
  is fixed here (`Reading`); how a document gives its data those readings is up to the
  format it is in. Limits are checked after reading, in a fixed order.
-/

import CallPump.Chunk
import CallPump.Params

namespace CallPump

inductive LogFormat where
  | pretty
  | json
  deriving DecidableEq, Repr, Inhabited

def LogFormat.name : LogFormat → String
  | .pretty => "pretty"
  | .json => "json"

def LogFormat.ofName? (s : String) : Option LogFormat := [LogFormat.pretty, .json].find? (·.name == s)

structure Config where
  /-- Empty: a name is made up. -/
  clientName : String := ""
  defaultTimeoutMs : UInt64 := 30000
  logging : Logging := .default
  pollIntervalMs : UInt64 := 100
  chunkSize : UInt64 := .ofNat Chunk.defaultSize
  workerThreads : UInt64 := 2
  logLevel : String := "info"
  logFormat : LogFormat := .pretty
  deriving DecidableEq, Repr, Inhabited

/-- What a datum of a document can be taken for. -/
structure Reading where
  text : Option String := none
  natural : Option Nat := none
  /-- One of a fixed set of names. -/
  name : Option String := none
  deriving DecidableEq, Repr, Inhabited

namespace Config

def params (c : Config) : Params := ⟨.ofMillis c.defaultTimeoutMs.toNat, c.logging⟩

/-- The name that clients carry; `none` when it is to be made up. -/
def givenName (c : Config) : Option String := if c.clientName = "" then none else some c.clientName

/-! ## Limits -/

def maxChunkSize : Nat := 64 * 1024 * 1024

inductive Flaw where
  | chunkSize (n : UInt64)
  | pollInterval
  | workerThreads
  | clientName
  deriving DecidableEq, Repr

def Flaw.message : Flaw → String
  | .chunkSize n => "chunk_size " ++ toString n.toNat ++ " is outside 1..=" ++ toString maxChunkSize ++ " bytes"
  | .pollInterval => "poll_interval_ms must be greater than zero"
  | .workerThreads => "runtime_worker_threads must be greater than zero"
  | .clientName => "client_name must not contain control characters"

def isControl (c : Char) : Bool := c.toNat < 0x20 || (0x7f ≤ c.toNat && c.toNat < 0xa0)

/-- The first limit that is not kept. -/
def flaw? (c : Config) : Option Flaw :=
  if c.chunkSize = 0 ∨ maxChunkSize < c.chunkSize.toNat then some (.chunkSize c.chunkSize)
  else if c.pollIntervalMs = 0 then some .pollInterval
  else if c.workerThreads = 0 then some .workerThreads
  else if c.clientName.toList.any isControl then some .clientName
  else none

def isValid (c : Config) : Bool := c.flaw?.isNone

/-! ## Reading -/

def word? (r : Reading) : Option UInt64 :=
  r.natural.bind fun n => if n < UInt64.size then some (.ofNat n) else none

/-- The fields in order: a name, and what a reading puts there. -/
def fields : List (String × (Reading → Config → Option Config)) :=
  [("client_name", fun r c => r.text.map fun s => { c with clientName := s }),
   ("default_timeout_ms", fun r c => (word? r).map fun n => { c with defaultTimeoutMs := n }),
   ("logging_control", fun r c => (r.name.bind Logging.ofName?).map fun l => { c with logging := l }),
   ("poll_interval_ms", fun r c => (word? r).map fun n => { c with pollIntervalMs := n }),
   ("chunk_size", fun r c => (word? r).map fun n => { c with chunkSize := n }),
   ("runtime_worker_threads", fun r c => (word? r).map fun n => { c with workerThreads := n }),
   ("log_level", fun r c => r.text.map fun s => { c with logLevel := s }),
   ("log_format", fun r c => (r.name.bind LogFormat.ofName?).map fun f => { c with logFormat := f })]

/-- Entries by key, each known key once; unknown keys say nothing. `seen` holds the known
    keys so far. -/
def readEntries : List (String × Reading) → List String → Config → Option Config
  | [], _, c => some c
  | (k, r) :: rest, seen, c =>
    match fields.lookup k with
    | none => readEntries rest seen c
    | some f => if seen.contains k then none else (f r c).bind (readEntries rest (k :: seen))

def ofEntries? (entries : List (String × Reading)) : Option Config := readEntries entries [] {}

/-- Values for the first fields, in order. -/
def ofValues? (values : List Reading) : Option Config :=
  if values.length ≤ fields.length then ofEntries? ((fields.map (·.1)).zip values) else none

/-! ## Failures -/

/-- What keeps a document from being a configuration. -/
inductive Refusal where
  | unreadable
  | flawed (f : Flaw)
  deriving DecidableEq, Repr

def Refusal.message : Refusal → String
  | .unreadable => "Failed to parse config"
  | .flawed f => f.message

def checked (c : Option Config) : Except Refusal Config :=
  match c with
  | none => .error .unreadable
  | some c =>
    match c.flaw? with
    | none => .ok c
    | some f => .error (.flawed f)

/-- What is found under a path. -/
inductive Found where
  | absent
  | directory
  | bytes (bs : Bytes)

inductive LoadError where
  | missing
  | notText
  | invalid (r : Refusal)
  deriving DecidableEq, Repr

def LoadError.message (path : String) : LoadError → String
  | .missing => "Config file not found: " ++ path
  | .notText => "Failed to read config file: " ++ path
  | .invalid _ => "Invalid config file: " ++ path

/-- The flaw that is the cause of the failure, if one is. -/
def LoadError.flaw? : LoadError → Option Flaw
  | .invalid (.flawed f) => some f
  | _ => none

/-- Reads what is found as text, and the text by `read`. -/
def load (read : String → Except Refusal Config) : Found → Except LoadError Config
  | .absent => .error .missing
  | .directory => .error .notText
  | .bytes bs =>
    match Bytes.text? bs with
    | none => .error .notText
    | some s => (read s).mapError .invalid

/-- A log subscriber can be installed once. -/
def loggingTaken : String :=
  "tracing subscriber already installed: a global default trace dispatcher has already been set"

end Config

end CallPump
