/-
  CallPump.Bench.Roster — one tracker for the calls of two pumps.

  Both pumps number their calls alike, so the tracker may be given different calls under
  one handle. The pumps own the calls: a call that the tracker lets go of, or whose name is
  forgotten, lives on, and so does its future.
-/

import CallPump.Pump

namespace CallPump.Bench

/-- A call, by its pump and handle. -/
structure CallRef where
  second : Bool
  id : CallId
  deriving DecidableEq, Repr

abbrev RosterPump := Pump Unit Unit Empty Unit

structure Roster where
  first : RosterPump := {}
  second : RosterPump := {}
  tracker : Tracker CallRef := {}
  names : List (String × CallRef) := []
  /-- The names that are kept. -/
  kept : List String := []

namespace Roster

def pump (r : Roster) (second : Bool) : RosterPump := if second then r.second else r.first

def withPump (r : Roster) (second : Bool) (p : RosterPump) : Roster :=
  if second then { r with second := p } else { r with first := p }

def call? (r : Roster) (c : CallRef) : Option (Call Unit Unit Empty Unit) := (r.pump c.second).get? c.id

def new (r : Roster) (name : String) (k : CallKind) (second : Bool) : Roster :=
  match (r.pump second).create k with
  | none => r
  | some (id, p) =>
    { r.withPump second p with
      names := (name, ⟨second, id⟩) :: r.names.filter (·.1 != name)
      kept := name :: r.kept.filter (· != name) }

/-- The call under a name that is kept. -/
def named? (r : Roster) (name : String) : Option CallRef :=
  if r.kept.contains name then r.names.lookup name else none

def cancelRef (r : Roster) (c : CallRef) : Roster := r.withPump c.second ((r.pump c.second).cancel c.id).1

def cancelAll (r : Roster) : Roster := r.tracker.refs.foldl cancelRef r

def forget (r : Roster) (name : String) : Roster := { r with kept := r.kept.filter (· != name) }

def track (r : Roster) (name : String) : Roster :=
  match r.named? name with
  | none => r
  | some c => { r with tracker := r.tracker.add c.id c }

def untrack (r : Roster) (id : CallId) : Roster × Bool :=
  ({ r with tracker := r.tracker.erase id }, r.tracker.contains id)

def untrackAll (r : Roster) : Roster × Nat := ({ r with tracker := {} }, r.tracker.size)

/-- What the future of the call under a name shows. -/
def take (r : Roster) (name : String) : Roster × Option (Look Unit) :=
  match r.names.lookup name with
  | none => (r, none)
  | some c =>
    match r.call? c with
    | none => (r, none)
    | some k =>
      let (h, l) := k.handoff.look
      (r.withPump c.second ((r.pump c.second).modify c.id fun k => { k with handoff := h }), some l)

end Roster

end CallPump.Bench
