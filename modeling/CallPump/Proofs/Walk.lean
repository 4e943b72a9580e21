/-
  CallPump.Proofs.Walk — steps in order, up to the first that fails.

  A chain runs its processors this way, a client its requests and its responses. A walk
  over all elements passes (`Passes`), or it stops at one of them, after all before it
  passed and with none after it tried (`Stops`).

  - `walk_passes`, `walk_stops`: what the walk gives in either case.
  - `passes_or_stops`: it is always one of the two, and `stops_not_passes`: never both.
-/

import CallPump.Processor

namespace CallPump

variable {A S : Type} {f : A → S → S × Outcome Unit}

/-- The elements in order, on one state, up to the first failure. -/
def walk (f : A → S → S × Outcome Unit) : List A → S → S × Outcome Unit
  | [], s => (s, .ok ())
  | a :: as, s =>
    match f a s with
    | (s, .ok ()) => walk f as s
    | (s, .error e) => (s, .error e)

theorem walk_one (a : A) (s : S) : walk f [a] s = f a s := by
  rw [walk]
  rcases f a s with ⟨s', _ | _⟩ <;> rfl

/-- Every element passes, and the state goes from the one to the other. -/
inductive Passes (f : A → S → S × Outcome Unit) : List A → S → S → Prop
  | nil (s : S) : Passes f [] s s
  | cons {a : A} {as : List A} {s s' s'' : S} : f a s = (s', .ok ()) → Passes f as s' s'' → Passes f (a :: as) s s''

/-- The elements before one pass, and that one fails; the ones after it are out of it. -/
def Stops (f : A → S → S × Outcome Unit) (as : List A) (s s' : S) (e : Status) : Prop :=
  ∃ before a after mid, as = before ++ a :: after ∧ Passes f before s mid ∧ f a mid = (s', .error e)

theorem walk_passes {as : List A} {s s' : S} (h : Passes f as s s') : walk f as s = (s', .ok ()) := by
  induction h with
  | nil => rfl
  | cons hf _ ih => rw [walk, hf]; exact ih

theorem walk_append {before : List A} {s mid : S} (h : Passes f before s mid) (as : List A) :
    walk f (before ++ as) s = walk f as mid := by
  induction h with
  | nil => rfl
  | cons hf _ ih => rw [List.cons_append, walk, hf]; exact ih

theorem walk_stops {as : List A} {s s' : S} {e : Status} (h : Stops f as s s' e) : walk f as s = (s', .error e) := by
  obtain ⟨before, a, after, mid, rfl, hp, hf⟩ := h
  rw [walk_append hp, walk, hf]

theorem passes_or_stops (f : A → S → S × Outcome Unit) (as : List A) (s : S) :
    (∃ s', Passes f as s s') ∨ ∃ s' e, Stops f as s s' e := by
  induction as generalizing s with
  | nil => exact .inl ⟨s, .nil s⟩
  | cons a as ih =>
    rcases hf : f a s with ⟨s₁, r⟩
    cases r with
    | error e => exact .inr ⟨s₁, e, [], a, as, s, rfl, .nil s, hf⟩
    | ok u =>
      rcases ih s₁ with ⟨s', h⟩ | ⟨s', e, before, b, after, mid, rfl, hp, hb⟩
      · exact .inl ⟨s', .cons hf h⟩
      · exact .inr ⟨s', e, a :: before, b, after, mid, rfl, .cons hf hp, hb⟩

theorem stops_not_passes {as : List A} {s s' s'' : S} {e : Status} (h : Stops f as s s' e) : ¬ Passes f as s s'' := by
  intro hp
  cases (walk_stops h).symm.trans (walk_passes hp)

/-- What a walk gives is what it came through. -/
theorem walk_cases (f : A → S → S × Outcome Unit) (as : List A) (s : S) :
    (∃ s', Passes f as s s' ∧ walk f as s = (s', .ok ())) ∨
      ∃ s' e, Stops f as s s' e ∧ walk f as s = (s', .error e) := by
  rcases passes_or_stops f as s with ⟨s', h⟩ | ⟨s', e, h⟩
  · exact .inl ⟨s', h, walk_passes h⟩
  · exact .inr ⟨s', e, h, walk_stops h⟩

/-- A chain walks its processors. -/
theorem Chain.process_eq_walk {I : Type} (c : Chain I S) (i : I) (s : S) :
    c.process i s = walk (fun p => p i) c.processors s := by
  have run (ps : List (Processor I S)) (s : S) : Chain.run i ps s = walk (fun p => p i) ps s := by
    induction ps generalizing s with
    | nil => rfl
    | cons p ps ih =>
      rw [Chain.run, walk]
      rcases p i s with ⟨s', _ | _⟩
      · rfl
      · exact ih s'
  exact run c.processors s

end CallPump
