/-
  CallPump.Tracker — the calls that a pump still owns, by handle.

  Adding a call under a handle that is in use replaces the entry. What is tracked is a
  reference: removing it frees the entry, not the call.
-/

import CallPump.Queue

namespace CallPump

structure Tracker (R : Type) where
  entries : List (CallId × R) := []
  deriving Repr

namespace Tracker

variable {R : Type}

def get? (t : Tracker R) (id : CallId) : Option R := t.entries.lookup id

def contains (t : Tracker R) (id : CallId) : Bool := t.entries.any (·.1 == id)

def erase (t : Tracker R) (id : CallId) : Tracker R := ⟨t.entries.filter (·.1 != id)⟩

def add (t : Tracker R) (id : CallId) (r : R) : Tracker R := ⟨(t.erase id).entries ++ [(id, r)]⟩

def size (t : Tracker R) : Nat := t.entries.length

def isEmpty (t : Tracker R) : Bool := t.entries.isEmpty

def refs (t : Tracker R) : List R := t.entries.map (·.2)

theorem contains_erase (t : Tracker R) (id j : CallId) : (t.erase id).contains j = (j != id && t.contains j) := by
  simp only [contains, erase, List.any_filter]
  induction t.entries with
  | nil => simp
  | cons e es ih =>
    simp only [List.any_cons, ih]
    grind

theorem contains_add (t : Tracker R) (id : CallId) (r : R) (j : CallId) :
    (t.add id r).contains j = (j == id || t.contains j) := by
  have h := contains_erase t id j
  simp only [contains, add, List.any_append, List.any_cons, List.any_nil] at h ⊢
  rw [h]
  grind

/-- Every handle has at most one entry, and the entry is the handle's own call. -/
structure Sound (t : Tracker CallId) : Prop where
  distinct : (t.entries.map (·.1)).Nodup
  own : ∀ e ∈ t.entries, e.2 = e.1

theorem sound_empty : Sound {} := ⟨List.nodup_nil, fun _ h => nomatch h⟩

theorem Sound.erase {t : Tracker CallId} (h : Sound t) (id : CallId) : Sound (t.erase id) :=
  ⟨h.distinct.sublist (List.filter_sublist.map _), fun e he => h.own e (List.mem_filter.mp he).1⟩

theorem Sound.add {t : Tracker CallId} (h : Sound t) (id : CallId) : Sound (t.add id id) := by
  obtain ⟨hd, ho⟩ := h.erase id
  refine ⟨?_, fun e he => ?_⟩
  · simp only [Tracker.add, List.map_append, List.map_cons, List.map_nil, List.nodup_append]
    refine ⟨hd, by simp, fun a ha b hb => ?_⟩
    obtain ⟨e, he, rfl⟩ := List.mem_map.mp ha
    have := (List.mem_filter.mp he).2
    simp_all
  · rcases List.mem_append.mp he with he | he
    · exact ho e he
    · cases List.mem_singleton.mp he; rfl

theorem Sound.mem_refs {t : Tracker CallId} (h : Sound t) (id : CallId) : id ∈ t.refs ↔ t.contains id = true := by
  simp only [refs, contains, List.mem_map, List.any_eq_true, beq_iff_eq]
  constructor
  · rintro ⟨e, he, rfl⟩; exact ⟨e, he, (h.own e he).symm⟩
  · rintro ⟨e, he, rfl⟩; exact ⟨e, he, h.own e he⟩

end Tracker

end CallPump
