/-
  CallPump.Proofs.Call.Moves — what a start, a cancel and a completion can do to a call
  of any kind.

  A call is seen here through its resolver and the operations it posts. While it lives its
  resolver has one of four values: `fresh`, `waiting cb`, `given up` (cancelled) and `spent`
  (completed). Proved, for all four kinds:
  - a start of a fresh call posts one operation, or rejects with the shutdown status when
    the queue is closed (`start_fresh`, `start_refused`); a cancelled call posts a nudge
    and stays as it is (`start_cancelled`); any other start is refused (`start_again`);
  - a cancel posts nothing; it rejects an open call and nothing else (`cancel_open`,
    `cancel_settled`);
  - a completion of a waiting call either posts exactly one operation and changes nothing
    of the resolver, or ends the call with its callback and posts nothing
    (`advance_waiting`); any other call only asks to be released (`advance_idle`).
-/

import CallPump.Call.Machine

namespace CallPump

/-! ## The resolver's values -/

/-- The one-step moves of a call's state. -/
inductive CallState.Moves : CallState → CallState → Prop
  | start : Moves .notStarted .called
  | complete : Moves .called .completed
  | cancelUnstarted : Moves .notStarted .cancelled
  | cancel : Moves .called .cancelled

/-- Neither cancelled nor completed. -/
def CallState.isOpen : CallState → Bool
  | .notStarted | .called => true
  | .cancelled | .completed => false

/-- What a cancel makes of it. -/
def CallState.afterCancel (s : CallState) : CallState := if s = .completed then .completed else .cancelled

theorem CallState.afterCancel_twice (s : CallState) : s.afterCancel.afterCancel = s.afterCancel := by cases s <;> rfl

theorem CallState.afterCancel_isOpen (s : CallState) : s.afterCancel.isOpen = false := by cases s <;> rfl

theorem CallState.afterCancel_settled {s : CallState} (h : s.isOpen = false) : s.afterCancel = s := by
  cases s with
  | notStarted => cases h
  | called => cases h
  | cancelled => rfl
  | completed => rfl

namespace Resolver

variable {C : Type}

/-- Not started, with its promise. -/
def fresh : Resolver C := {}

/-- Called, with its callback and its promise. -/
def waiting (cb : C) : Resolver C := ⟨.called, some cb, true⟩

/-- Cancelled, with nothing left. -/
def givenUp : Resolver C := ⟨.cancelled, none, false⟩

/-- Completed, with nothing left. -/
def spent : Resolver C := ⟨.completed, none, false⟩

/-- Whether a start now issues the call's first operation. -/
def takesStart (r : Resolver C) (cb : C) : Bool := (r.begin? cb).any (·.2 = .started)

@[simp] theorem fresh_state : (fresh : Resolver C).state = .notStarted := rfl
@[simp] theorem waiting_state (cb : C) : (waiting cb).state = .called := rfl
@[simp] theorem givenUp_state : (givenUp : Resolver C).state = .cancelled := rfl
@[simp] theorem spent_state : (spent : Resolver C).state = .completed := rfl

end Resolver

/-! ## The operations of a move -/

def Cmd.op? {Req Resp : Type} : Cmd Req Resp → Option (Op Req Resp)
  | .post op => some op
  | _ => none

namespace Move

variable {S S' Req Resp C : Type}

/-- The operations that the move posts. -/
def posts (m : Move S Req Resp C) : List (Op Req Resp) := m.cmds.filterMap Cmd.op?

@[simp] theorem map_done (f : S → S') (s : S) : (done s : Move S Req Resp C).map f = done (f s) := rfl
@[simp] theorem map_reject (f : S → S') (m : Move S Req Resp C) : (m.map f).reject = m.reject := rfl

end Move

namespace Machine

variable {Req Resp C : Type} {m : Machine Req Resp C}

@[simp] theorem new_resolver (k : CallKind) : (new k : Machine Req Resp C).resolver = .fresh := by cases k <;> rfl
@[simp] theorem new_kind (k : CallKind) : (new k : Machine Req Resp C).kind = k := by cases k <;> rfl

/-! ## Start -/

theorem start_fresh (ctx : Context) {l : Launch Req} (cb : C) (hk : m.kind = l.kind) (hr : m.resolver = .fresh) :
    ∃ v, m.start true ctx l cb = some v ∧ v.next.resolver = .waiting cb ∧ v.reject = none ∧
      ∃ op, v.posts = [op] := by
  cases m <;> cases l <;> simp only [kind, Launch.kind, reduceCtorEq] at hk
  all_goals
    rename_i s _
    obtain ⟨⟨_, _, _⟩⟩ := s
    cases hr
    exact ⟨_, rfl, rfl, rfl, _, rfl⟩

theorem start_refused (ctx : Context) {l : Launch Req} (cb : C) (hk : m.kind = l.kind) (hr : m.resolver = .fresh) :
    ∃ v, m.start false ctx l cb = some v ∧ v.next.resolver = .spent ∧ v.reject = some .shutdown ∧
      v.posts = [] := by
  cases m <;> cases l <;> simp only [kind, Launch.kind, reduceCtorEq] at hk
  all_goals
    rename_i s _
    obtain ⟨⟨_, _, _⟩⟩ := s
    cases hr
    exact ⟨_, rfl, rfl, rfl, rfl⟩

theorem start_cancelled (live : Bool) (ctx : Context) {l : Launch Req} (cb : C) (hk : m.kind = l.kind)
    (hs : m.state = .cancelled) : m.start live ctx l cb = some { next := m, cmds := [.post (.nudge false)] } := by
  cases m <;> cases l <;> simp only [kind, Launch.kind, reduceCtorEq] at hk
  all_goals
    rename_i s _
    obtain ⟨⟨st, _, _⟩⟩ := s
    cases hs
    rfl

theorem start_again (live : Bool) (ctx : Context) {l : Launch Req} (cb : C) (hk : m.kind = l.kind)
    (hs : m.state = .called ∨ m.state = .completed) : m.start live ctx l cb = none := by
  cases m <;> cases l <;> simp only [kind, Launch.kind, reduceCtorEq] at hk
  all_goals
    simp only [start, UnaryCall.start, RequestStreamCall.start, ResponseStreamCall.start, BidiCall.start,
      Resolver.begin?, state, resolver] at hs ⊢
    rcases hs with hs | hs <;> simp [hs]

/-- No callback runs at a start. -/
theorem start_answer {live : Bool} {ctx : Context} {l : Launch Req} {cb : C}
    {v : Move (Machine Req Resp C) Req Resp C} (h : m.start live ctx l cb = some v) : v.answer = none := by
  cases m <;> cases l <;> simp only [start, Option.map_eq_some_iff, Option.some.injEq] at h
  all_goals first
    | (subst h; rfl)
    | skip
  all_goals
    rename_i s _
    obtain ⟨a, ha, rfl⟩ := h
    obtain ⟨⟨st, _, _⟩⟩ := s
    cases st
    · cases live <;> cases ha <;> rfl
    · cases ha
    · cases ha; rfl
    · cases ha

/-! ## Cancel -/

theorem cancel_answer (m : Machine Req Resp C) : m.cancel.answer = none := by cases m <;> rfl

theorem cancel_posts (m : Machine Req Resp C) : m.cancel.posts = [] := by cases m <;> rfl

theorem cancel_open (hr : m.resolver = .fresh ∨ ∃ cb, m.resolver = .waiting cb) :
    m.cancel.next.resolver = .givenUp ∧ m.cancel.reject = some .cancelled := by
  cases m
  all_goals
    rename_i s
    obtain ⟨⟨_, _, _⟩⟩ := s
    rcases hr with hr | ⟨cb, hr⟩ <;> cases hr <;> exact ⟨rfl, rfl⟩

theorem cancel_state (m : Machine Req Resp C) : m.cancel.next.state = m.state.afterCancel := by
  cases m
  all_goals
    rename_i s
    obtain ⟨⟨st, _, _⟩⟩ := s
    cases st <;> rfl

theorem cancel_settled (hs : m.state = .cancelled ∨ m.state = .completed) :
    m.cancel.next.resolver = m.resolver ∧ m.cancel.reject = none := by
  cases m
  all_goals
    rename_i s
    obtain ⟨⟨st, _, _⟩⟩ := s
    cases st
    · simp [state, resolver] at hs
    · simp [state, resolver] at hs
    · exact ⟨rfl, rfl⟩
    · exact ⟨rfl, rfl⟩

/-! ## Completions -/

theorem advance_idle (hs : m.state ≠ .called) (ok : Bool) (p : Payload Resp) : m.advance ok p = .done m := by
  cases m with
  | unary s => simp [advance, UnaryCall.advance, Resolver.complete, show s.resolver.state ≠ .called from hs]
  | requestStream s => simp [advance, RequestStreamCall.advance, show s.resolver.state ≠ .called from hs]
  | responseStream s => simp [advance, ResponseStreamCall.advance, show s.resolver.state ≠ .called from hs]
  | bidi s => simp [advance, BidiCall.advance, show s.resolver.state ≠ .called from hs]

theorem advance_reject (m : Machine Req Resp C) (ok : Bool) (p : Payload Resp) :
    (m.advance ok p).reject = none := by
  cases m with
  | unary s =>
    simp only [advance, UnaryCall.advance, Move.map_reject]
    split <;> rfl
  | requestStream s =>
    simp only [advance, RequestStreamCall.advance, RequestStreamCall.writeNext, Move.map_reject]
    repeat' split
    all_goals rfl
  | responseStream s =>
    simp only [advance, ResponseStreamCall.advance, Move.map_reject]
    repeat' split
    all_goals rfl
  | bidi s =>
    simp only [advance, BidiCall.advance, BidiCall.writeNext, Move.map_reject]
    repeat' split
    all_goals rfl

/-- A body is spawned at the start only. -/
theorem advance_spawn (m : Machine Req Resp C) (ok : Bool) (p : Payload Resp) (ctx : Context) :
    .spawn ctx ∉ (m.advance ok p).cmds := by
  cases m with
  | unary s =>
    simp only [advance, UnaryCall.advance]
    split <;> exact List.not_mem_nil
  | requestStream s =>
    simp only [advance, RequestStreamCall.advance, RequestStreamCall.writeNext]
    repeat' split
    all_goals simp [Move.map, Move.done, RequestStreamCall.closeWrites, RequestStreamCall.finish]
  | responseStream s =>
    simp only [advance, ResponseStreamCall.advance]
    repeat' split
    all_goals simp [Move.map, Move.done, ResponseStreamCall.read, ResponseStreamCall.finish]
  | bidi s =>
    simp only [advance, BidiCall.advance, BidiCall.writeNext]
    repeat' split
    all_goals simp [Move.map, Move.done, BidiCall.closeWrites, BidiCall.abandonWrites, BidiCall.openStream,
      BidiCall.read, BidiCall.finish]

/-- The call goes on: it posts its next operation and its resolver stays as it is. -/
def GoesOn (m : Machine Req Resp C) (v : Move (Machine Req Resp C) Req Resp C) : Prop :=
  v.next.resolver = m.resolver ∧ v.answer = none ∧ v.release = false ∧ ∃ op, v.posts = [op]

/-- The call ends: its callback runs on something and nothing is posted. -/
def Ends (cb : C) (v : Move (Machine Req Resp C) Req Resp C) : Prop :=
  v.next.resolver = .spent ∧ (∃ x, v.answer = some (cb, x)) ∧ v.release = true ∧ v.posts = []

theorem advance_waiting {cb : C} (hr : m.resolver = .waiting cb) (ok : Bool) (p : Payload Resp) :
    GoesOn m (m.advance ok p) ∨ Ends cb (m.advance ok p) := by
  cases m with
  | unary s =>
    obtain ⟨_⟩ := s
    cases hr
    exact Or.inr ⟨rfl, ⟨_, rfl⟩, rfl, rfl⟩
  | requestStream s =>
    obtain ⟨_, st, pending, _, _, _⟩ := s
    cases hr
    cases st
    · cases ok
      · exact Or.inl ⟨rfl, rfl, rfl, _, rfl⟩
      · cases pending <;> exact Or.inl ⟨rfl, rfl, rfl, _, rfl⟩
    · cases ok <;> exact Or.inl ⟨rfl, rfl, rfl, _, rfl⟩
    · exact Or.inl ⟨rfl, rfl, rfl, _, rfl⟩
    · exact Or.inr ⟨rfl, ⟨_, rfl⟩, rfl, rfl⟩
  | responseStream s =>
    obtain ⟨_, st, _, _⟩ := s
    cases hr
    cases st
    · simp only [advance, ResponseStreamCall.advance]
      cases p.takeOpened <;> exact Or.inl ⟨rfl, rfl, rfl, _, rfl⟩
    · simp only [advance, ResponseStreamCall.advance]
      rcases p.takeItem with _ | _ | _ <;> exact Or.inl ⟨rfl, rfl, rfl, _, rfl⟩
    · exact Or.inr ⟨rfl, ⟨_, rfl⟩, rfl, rfl⟩
  | bidi s =>
    obtain ⟨_, st, pending, _, _, _, _⟩ := s
    cases hr
    cases st
    · cases ok
      · exact Or.inl ⟨rfl, rfl, rfl, _, rfl⟩
      · cases pending <;> exact Or.inl ⟨rfl, rfl, rfl, _, rfl⟩
    · cases ok <;> exact Or.inl ⟨rfl, rfl, rfl, _, rfl⟩
    · exact Or.inl ⟨rfl, rfl, rfl, _, rfl⟩
    · simp only [advance, BidiCall.advance]
      cases p.takeOpened <;> exact Or.inl ⟨rfl, rfl, rfl, _, rfl⟩
    · simp only [advance, BidiCall.advance]
      rcases p.takeItem with _ | _ | _ <;> exact Or.inl ⟨rfl, rfl, rfl, _, rfl⟩
    · exact Or.inr ⟨rfl, ⟨_, rfl⟩, rfl, rfl⟩

/-! ## The kind of a call -/

theorem start_kind {live : Bool} {ctx : Context} {l : Launch Req} {cb : C}
    {v : Move (Machine Req Resp C) Req Resp C} (h : m.start live ctx l cb = some v) : v.next.kind = m.kind := by
  cases m <;> cases l <;> simp only [start, Option.map_eq_some_iff, Option.some.injEq] at h
  all_goals first
    | (subst h; rfl)
    | (obtain ⟨a, -, rfl⟩ := h; rfl)

theorem cancel_kind (m : Machine Req Resp C) : m.cancel.next.kind = m.kind := by cases m <;> rfl

theorem advance_kind (m : Machine Req Resp C) (ok : Bool) (p : Payload Resp) :
    (m.advance ok p).next.kind = m.kind := by cases m <;> rfl

/-! ## Open calls -/

/-- The move opens no call, and a call that it leaves not started it leaves as it was. -/
structure Closes (m : Machine Req Resp C) (v : Move (Machine Req Resp C) Req Resp C) : Prop where
  opened : v.next.state.isOpen = true → m.state.isOpen = true
  unstarted : v.next.state = .notStarted → m.state = .notStarted ∧ v.posts = []

theorem closes_done (m : Machine Req Resp C) : Closes m (.done m) := ⟨fun h => h, fun h => ⟨h, rfl⟩⟩

theorem closes_start {live : Bool} {ctx : Context} {l : Launch Req} {cb : C}
    {v : Move (Machine Req Resp C) Req Resp C} (h : m.start live ctx l cb = some v) : Closes m v := by
  cases m <;> cases l <;> simp only [start, Option.map_eq_some_iff, Option.some.injEq] at h
  all_goals first
    | (subst h; exact ⟨fun h => h, fun h => ⟨h, rfl⟩⟩)
    | skip
  all_goals
    rename_i s _
    obtain ⟨a, ha, rfl⟩ := h
    obtain ⟨⟨st, _, _⟩⟩ := s
    cases st
    · cases live <;> cases ha <;> exact ⟨fun _ => rfl, nofun⟩
    · cases ha
    · cases ha; exact ⟨nofun, nofun⟩
    · cases ha

theorem closes_cancel (m : Machine Req Resp C) : Closes m m.cancel := by
  have h : m.cancel.next.state.isOpen = false := by rw [cancel_state, CallState.afterCancel_isOpen]
  refine ⟨fun ho => ?_, fun hn => ?_⟩
  · rw [h] at ho; cases ho
  · rw [hn] at h; cases h

theorem closes_advance (hw : m.state = .called → ∃ cb, m.resolver = .waiting cb) (ok : Bool) (p : Payload Resp) :
    Closes m (m.advance ok p) := by
  by_cases hs : m.state = .called
  · obtain ⟨cb, hr⟩ := hw hs
    refine ⟨fun _ => by rw [hs]; rfl, fun hn => ?_⟩
    rcases advance_waiting hr ok p with ⟨h, -⟩ | ⟨h, -⟩
    · rw [state, h] at hn; exact nomatch hs.symm.trans hn
    · rw [state, h] at hn; cases hn
  · rw [advance_idle hs]
    exact closes_done m

/-- A call that asks to be released is not open, unless it was never started. -/
theorem advance_release (hw : m.state = .called → ∃ cb, m.resolver = .waiting cb) (hn : m.state ≠ .notStarted)
    {ok : Bool} {p : Payload Resp} (h : (m.advance ok p).release = true) :
    (m.advance ok p).next.state.isOpen = false := by
  by_cases hs : m.state = .called
  · obtain ⟨cb, hr⟩ := hw hs
    rcases advance_waiting hr ok p with ⟨-, -, hf, -⟩ | ⟨hk, -⟩
    · rw [hf] at h; cases h
    · rw [state, hk]; rfl
  · rw [advance_idle hs]
    show m.state.isOpen = false
    cases h : m.state with
    | notStarted => exact absurd h hn
    | called => exact absurd h hs
    | cancelled => rfl
    | completed => rfl

end Machine

/-! ## A call that was just started -/

namespace Launch

variable {I C : Type}

/-- The call that a start on a live pump makes of the launch. -/
def begun (ctx : Context) (cb : C) : Launch I → Machine I I C
  | .unary _ => .unary { resolver := .waiting cb }
  | .requestStream qs => .requestStream
      { resolver := .waiting cb, pending := qs, writer := true, body := true, deadline := ctx.deadline }
  | .responseStream _ => .responseStream { resolver := .waiting cb, deadline := ctx.deadline }
  | .bidi qs => .bidi
      { resolver := .waiting cb, pending := qs, writer := true, body := true, deadline := ctx.deadline }

/-- Whether the call writes its requests one by one, to a body that runs from the start. -/
def writes : Launch I → Bool
  | .unary _ | .responseStream _ => false
  | .requestStream _ | .bidi _ => true

/-- The first operation: with the request, where there is one, or a nudge to begin writing. -/
def first (ctx : Context) : Launch I → Op I I
  | .unary q => .exchange ctx q
  | .responseStream q => .openStream ctx q
  | .requestStream _ | .bidi _ => .nudge true

theorem start_new (ctx : Context) (l : Launch I) (cb : C) :
    (Machine.new l.kind : Machine I I C).start true ctx l cb =
      some { next := l.begun ctx cb, cmds := (if l.writes then [.spawn ctx] else []) ++ [.post (l.first ctx)] } := by
  cases l <;> rfl

end Launch

end CallPump
