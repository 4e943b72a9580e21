/-
  CallPump.Params — how long a call may take and whether the server logs it.

  Parameters come in layers, the client's below the call's. A zero timeout and the
  default logging control say nothing, so the layer below shows through.
-/

import CallPump.Message

namespace CallPump

/-- A span of time, in nanoseconds. -/
abbrev Span := Nat

namespace Span

def ofMillis (n : Nat) : Span := n * 1000000

def ofSeconds (n : Nat) : Span := n * 1000000000

/-- Whole seconds. -/
def seconds (t : Span) : Nat := t / 1000000000

/-- Nanoseconds beyond the whole seconds. -/
def nanos (t : Span) : Nat := t % 1000000000

def millis (t : Span) : Nat := t / 1000000

end Span

inductive Logging where
  /-- Leave the request header as it is. -/
  | default
  | enabled
  | disabled
  deriving DecidableEq, Repr, Inhabited

namespace Logging

def name : Logging → String
  | .default => "default"
  | .enabled => "enabled"
  | .disabled => "disabled"

def ofName? (s : String) : Option Logging := [Logging.default, .enabled, .disabled].find? (·.name == s)

/-- The layer `upper` on top of `lower`. -/
def combine (lower upper : Logging) : Logging := if upper = .default then lower else upper

/-- Writes an explicit choice into the header. -/
def apply (l : Logging) (h : RequestHeader) : RequestHeader :=
  match l with
  | .default => h
  | .enabled => { h with disableRpcLogging := false }
  | .disabled => { h with disableRpcLogging := true }

end Logging

structure Params where
  timeout : Span := 0
  logging : Logging := .default
  deriving DecidableEq, Repr, Inhabited

namespace Params

/-- What applies when nothing is said anywhere. -/
def builtinTimeout : Span := .ofSeconds 30

/-- The layer `upper` on top of `lower`. -/
def combine (lower upper : Params) : Params where
  timeout := if upper.timeout = 0 then lower.timeout else upper.timeout
  logging := lower.logging.combine upper.logging

def ofLayers (layers : List Params) : Params := layers.foldl combine {}

end Params

end CallPump
