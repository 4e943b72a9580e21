/-
  CallPump.Proofs.Chain — how a chain is put together, and how far it runs.

  A chain is built by putting processors in front and at the back, in any order. They then
  stand in one line (`lineup`): those put in front, the latest first, and after them those
  put at the back, the earliest first. A run goes along the line and ends at the first
  processor that fails (`Visits`). Which processors it comes by can be read off the run
  itself, since each can be made to leave a mark (`marking`) and nothing else is different.

  - `build_processors`: the line is what the insertions build.
  - `visits_up_to_first_failure`: a run visits the line up to the first failure, and two
    chains in one run like the first and then, if it passed, the second.
-/

import CallPump.Proofs.Walk

namespace CallPump

variable {A B I S M : Type}

/-- A processor put into a chain, at one of its ends. -/
inductive Insertion (A : Type) where
  | front (a : A)
  | back (a : A)

namespace Insertion

def front? : Insertion A → Option A
  | .front a => some a
  | .back _ => none

def back? : Insertion A → Option A
  | .front _ => none
  | .back a => some a

def map (f : A → B) : Insertion A → Insertion B
  | .front a => .front (f a)
  | .back a => .back (f a)

/-- The order in which they stand in the end. -/
def lineup (is : List (Insertion A)) : List A := (is.filterMap front?).reverse ++ is.filterMap back?

theorem lineup_map (f : A → B) (is : List (Insertion A)) : lineup (is.map (map f)) = (lineup is).map f := by
  have front : front? ∘ map f = fun i => (front? i).map f := by
    funext i
    cases i <;> rfl
  have back : back? ∘ map f = fun i => (back? i).map f := by
    funext i
    cases i <;> rfl
  simp only [lineup, List.filterMap_map, front, back, List.map_append, List.map_reverse, List.map_filterMap]

end Insertion

open Insertion

/-! ## Building a chain -/

namespace Chain

def insert (c : Chain I S) : Insertion (Processor I S) → Chain I S
  | .front p => c.prepend p
  | .back p => c.append p

/-- The chain that some insertions make of the empty one. -/
def build (is : List (Insertion (Processor I S))) : Chain I S := is.foldl insert {}

theorem foldl_insert (is : List (Insertion (Processor I S))) (c : Chain I S) :
    (is.foldl insert c).processors = (is.filterMap front?).reverse ++ (c.processors ++ is.filterMap back?) := by
  induction is generalizing c with
  | nil => simp
  | cons i is ih =>
    rw [List.foldl_cons, ih]
    cases i with
    | front p => simp [insert, prepend, List.filterMap_cons, front?, back?]
    | back p => simp [insert, append, List.filterMap_cons, front?, back?]

theorem build_processors (is : List (Insertion (Processor I S))) : (build is).processors = lineup is :=
  foldl_insert is {}

/-- The processors of the second chain, put at the back of the first. -/
def concat (c d : Chain I S) : Chain I S := d.processors.foldl append c

theorem concat_processors (c d : Chain I S) : (c.concat d).processors = c.processors ++ d.processors := by
  have fold (ps : List (Processor I S)) (c : Chain I S) : (ps.foldl append c).processors = c.processors ++ ps := by
    induction ps generalizing c with
    | nil => simp
    | cons p ps ih => rw [List.foldl_cons, ih, append, List.append_assoc, List.singleton_append]
  exact fold d.processors c

end Chain

/-! ## Visits -/

/-- How far a walk comes along a line: over all of it, or up to the first element that
    fails, which it visits and goes no further. -/
inductive Visits (f : A → S → S × Outcome Unit) (line : List A) (s : S) : List A → S → Outcome Unit → Prop
  | all {s' : S} : Passes f line s s' → Visits f line s line s' (.ok ())
  | upTo {before after : List A} {a : A} {mid s' : S} {e : Status} : line = before ++ a :: after →
      Passes f before s mid → f a mid = (s', .error e) → Visits f line s (before ++ [a]) s' (.error e)

theorem visits_walk (f : A → S → S × Outcome Unit) (line : List A) (s : S) :
    ∃ visited, Visits f line s visited (walk f line s).1 (walk f line s).2 := by
  rcases walk_cases f line s with ⟨s', hp, hw⟩ | ⟨s', e, ⟨before, a, after, mid, hl, hp, hf⟩, hw⟩
  · rw [hw]
    exact ⟨line, .all hp⟩
  · rw [hw]
    exact ⟨before ++ [a], .upTo hl hp hf⟩

theorem Visits.walked {f : A → S → S × Outcome Unit} {line visited : List A} {s s' : S} {r : Outcome Unit}
    (h : Visits f line s visited s' r) : walk f line s = (s', r) := by
  cases h with
  | all hp => exact walk_passes hp
  | upTo hl hp hf => exact walk_stops ⟨_, _, _, _, hl, hp, hf⟩

/-- Leaves a mark on each visit, and does the same otherwise. -/
def marking (f : A → S → S × Outcome Unit) (mark : A → M) (a : A) : S × List M → (S × List M) × Outcome Unit :=
  fun (s, ms) => (((f a s).1, ms ++ [mark a]), (f a s).2)

theorem passes_marking {f : A → S → S × Outcome Unit} (mark : A → M) {as : List A} {s s' : S} (h : Passes f as s s')
    (ms : List M) : Passes (marking f mark) as (s, ms) (s', ms ++ as.map mark) := by
  induction h generalizing ms with
  | nil s =>
    rw [List.map_nil, List.append_nil]
    exact .nil _
  | @cons a as s s' s'' hf _ ih =>
    have h₁ : marking f mark a (s, ms) = ((s', ms ++ [mark a]), .ok ()) := by rw [marking, hf]
    have h₂ := ih (ms ++ [mark a])
    rw [List.append_assoc, List.singleton_append] at h₂
    exact .cons h₁ h₂

/-- The marks are those of the elements visited, in the order of the visits. -/
theorem Visits.marked {f : A → S → S × Outcome Unit} (mark : A → M) {line visited : List A} {s s' : S}
    {r : Outcome Unit} (h : Visits f line s visited s' r) (ms : List M) :
    Visits (marking f mark) line (s, ms) visited (s', ms ++ visited.map mark) r := by
  cases h with
  | all hp => exact .all (passes_marking mark hp ms)
  | @upTo before after a mid _ _ hl hp hf =>
    refine .upTo hl (passes_marking mark hp ms) ?_
    rw [marking, hf, List.map_append, List.map_singleton, List.append_assoc]

theorem walk_map (f : B → S → S × Outcome Unit) (g : A → B) (as : List A) (s : S) :
    walk f (as.map g) s = walk (fun a => f (g a)) as s := by
  induction as generalizing s with
  | nil => rfl
  | cons a as ih =>
    rw [List.map_cons, walk, walk]
    rcases f (g a) s with ⟨s', _ | _⟩
    · rfl
    · exact ih s'

theorem walk_concat (f : A → S → S × Outcome Unit) (as bs : List A) (s : S) :
    walk f (as ++ bs) s =
      match walk f as s with
      | (s, .ok ()) => walk f bs s
      | (s, .error e) => (s, .error e) := by
  rcases walk_cases f as s with ⟨s', hp, hw⟩ | ⟨s', e, ⟨before, a, after, mid, rfl, hp, hf⟩, hw⟩
  · rw [hw]
    exact walk_append hp bs
  · rw [hw]
    refine walk_stops ⟨before, a, after ++ bs, mid, ?_, hp, hf⟩
    rw [List.append_assoc, List.cons_append]

namespace Chain

/-- The processor, leaving a mark on each visit. -/
def marked (a : M × Processor I S) : Processor I (S × List M) := fun i => marking (fun a => a.2 i) (·.1) a

/-- Whatever the processors do, and in whatever order they were put in front of a chain and
    at its back: a run comes by the first of the line up to the first that fails, by each of
    them once and in their order; it gives that failure, or passes when there is none; and
    the state (for requests the context, the header and the notes) is what they made of it
    one after the other. The run of two chains in one is that of the first and then, if it
    passed, that of the second on what the first left. -/
theorem visits_up_to_first_failure :
    (∀ (is : List (Insertion (M × Processor I S))) (i : I) (s : S),
      ∃ visited s' r, Visits (fun a => a.2 i) (lineup is) s visited s' r ∧
        (build (is.map (·.map (·.2)))).process i s = (s', r) ∧
        (build (is.map (·.map marked))).process i (s, []) = ((s', visited.map (·.1)), r)) ∧
      ∀ (c d : Chain I S) (i : I) (s : S),
        (c.concat d).process i s =
          match c.process i s with
          | (s, .ok ()) => d.process i s
          | (s, .error e) => (s, .error e) := by
  refine ⟨fun is i s => ?_, fun c d i s => ?_⟩
  · obtain ⟨visited, hv⟩ := visits_walk (fun a : M × Processor I S => a.2 i) (lineup is) s
    refine ⟨visited, _, _, hv, ?_, ?_⟩
    · rw [process_eq_walk, build_processors, lineup_map, walk_map]
    · rw [process_eq_walk, build_processors, lineup_map, walk_map]
      exact (hv.marked (·.1) []).walked
  · rw [process_eq_walk, process_eq_walk, concat_processors, walk_concat]
    simp only [process_eq_walk]

end Chain

end CallPump
