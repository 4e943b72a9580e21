/-
  CallPump.Proofs.Call.Armed — what a call has in hand at each of its steps, and what it
  waits for.

  Payloads carry no type: a step takes what it expects out of whatever arrives, and there
  are branches for the case that it is not there (`Slip`): a payload of another shape, a
  stream whose body is gone, a write without the writing end, a call without its callback
  or its promise. Each step of each kind has its own shape of payload (`Machine.expects`),
  and each operation completes with one (`Op.shape`).

  A called call is equipped for its step (`Equipped`): it has its callback and its promise,
  the writing end while requests are written, the body until it is joined, and pending requests
  only before the last is on its way. With a payload of the shape that it expects it meets
  none of those branches, and then it is over or has posted one operation, which completes with
  the shape that it expects next (`Equipped.advance`). A cancelled call has nothing
  (`Emptied`).

  - `advanceNoted_fst`: the branches are noted along a completion that is none other.
  - `Armed`: a call and the shapes of all that is outstanding for it. A start, a
    cancel and a completion keep it (`Armed.start`, `Armed.cancel`, `Armed.advance`), and
    so does the loss of an operation, where it can be lost (`Armed.lost`).
  - `Armed.no_slip`: none of the branches is met.
-/

import CallPump.Proofs.Call.Line
import Mathlib.Data.List.Basic

namespace CallPump

variable {Req Resp C : Type}

/-! ## Shapes of payloads -/

inductive Shape where
  | unit
  | outcome
  | opened
  | item
  | closed
  deriving DecidableEq, Repr

def Payload.shape : Payload Resp → Shape
  | .unit => .unit
  | .outcome _ => .outcome
  | .opened _ => .opened
  | .item _ => .item
  | .closed _ => .closed

/-- What the operation completes with. -/
def Op.shape : Op Req Resp → Shape
  | .settled _ p => p.shape
  | .exchange _ _ | .join => .outcome
  | .openStream _ _ | .joinStream => .opened
  | .write _ _ => .unit
  | .read _ => .item
  | .drain _ => .closed

/-- A transport brings every operation a payload of its shape. -/
theorem Line.Brings.shape {I : Type} {ℓ : Line I} {p : Place} {op : Op I I} {o : Option (Bool × Payload I)}
    (h : ℓ.Brings p op o) : ∀ x ∈ o, x.2.shape = op.shape := by
  intro x hx
  cases h with
  | settled ok y | written d q =>
    cases hx
    rfl
  | exchanged ctx q _ | opened ctx q _ | joined _ | joinedStream _ | item d _ | drained d _ =>
    rw [Option.mem_def, Option.map_eq_some_iff] at hx
    obtain ⟨r, -, rfl⟩ := hx
    rfl

/-- A payload of another shape is taken for an error of the transport. -/
theorem Payload.take_foreign (p : Payload Resp) :
    (p.shape ≠ .outcome → p.takeOutcome = .error .wrongPayload) ∧
      (p.shape ≠ .opened → p.takeOpened = .error .wrongPayload) ∧
      (p.shape ≠ .item → p.takeItem = .error .wrongPayload) ∧
      (p.shape ≠ .closed → p.takeClosed = .error .wrongPayload) := by
  cases p <;> simp [shape, takeOutcome, takeOpened, takeItem, takeClosed]

def RequestStep.expects : RequestStep → Shape
  | .writeRequest | .writesDone | .finish => .unit
  | .callback => .outcome

def ResponseStep.expects : ResponseStep → Shape
  | .startRead => .opened
  | .readOn => .item
  | .callback => .closed

def BidiStep.expects : BidiStep → Shape
  | .writeRequest | .writesDone | .openStream => .unit
  | .startRead => .opened
  | .readOn => .item
  | .callback => .closed

/-- What the current step takes. -/
def Machine.expects : Machine Req Resp C → Shape
  | .unary _ => .outcome
  | .requestStream s => s.step.expects
  | .responseStream s => s.step.expects
  | .bidi s => s.step.expects

/-! ## What a call has -/

/-- How far a call is with its requests. -/
inductive Phase where
  | writing
  /-- The last request is on its way. -/
  | lastWrite
  /-- Nothing more is written, and the body is not joined yet. -/
  | written
  /-- The body is joined, or there is none. -/
  | joined
  deriving DecidableEq, Repr

/-- Whether a call needs the writing end. -/
def Phase.writes : Phase → Bool
  | .writing | .lastWrite => true
  | .written | .joined => false

/-- Whether a call has the body yet to join. -/
def Phase.joins : Phase → Bool
  | .writing | .lastWrite | .written => true
  | .joined => false

def RequestStep.phase : RequestStep → Phase
  | .writeRequest => .writing
  | .writesDone => .lastWrite
  | .finish => .written
  | .callback => .joined

def BidiStep.phase : BidiStep → Phase
  | .writeRequest => .writing
  | .writesDone => .lastWrite
  | .openStream => .written
  | .startRead | .readOn | .callback => .joined

namespace Machine

def phase : Machine Req Resp C → Phase
  | .unary _ | .responseStream _ => .joined
  | .requestStream s => s.step.phase
  | .bidi s => s.step.phase

def pending : Machine Req Resp C → List Req
  | .unary _ | .responseStream _ => []
  | .requestStream s => s.pending
  | .bidi s => s.pending

def writer : Machine Req Resp C → Bool
  | .unary _ | .responseStream _ => false
  | .requestStream s => s.writer
  | .bidi s => s.writer

def body : Machine Req Resp C → Bool
  | .unary _ | .responseStream _ => false
  | .requestStream s => s.body
  | .bidi s => s.body

def responses : Machine Req Resp C → List Resp
  | .unary _ | .requestStream _ => []
  | .responseStream s => s.responses
  | .bidi s => s.responses

/-- A called call with all that its step needs. -/
structure Equipped (m : Machine Req Resp C) : Prop where
  resolver : ∃ cb, m.resolver = .waiting cb
  writer : m.writer = m.phase.writes
  pending : m.phase ≠ .writing → m.pending = []
  body : m.body = m.phase.joins

/-- A cancelled call that holds nothing. -/
structure Emptied (m : Machine Req Resp C) : Prop where
  resolver : m.resolver = .givenUp
  writer : m.writer = false
  pending : m.pending = []
  responses : m.responses = []

end Machine

/-! ## Branches that are for errors of the runtime itself -/

inductive Slip where
  /-- The payload is not what the step expects. -/
  | wrongPayload
  /-- The body is to be joined and is not there. -/
  | neverOpened
  /-- A request is to be written and the writing end is not there. -/
  | noWriter
  /-- The call completes and its callback or its promise is not there. -/
  | unresolved
  deriving DecidableEq, Repr

def Slip.unless (s : Slip) (held : Bool) : List Slip := if held then [] else [s]

/-! Completions with the slips on their way. -/

def UnaryCall.advanceNoted (s : UnaryCall C) (_ok : Bool) (p : Payload Resp) :
    Move (UnaryCall C) Req Resp C × List Slip :=
  match s.resolver.complete with
  | (r, some cb) =>
    ({ next := { s with resolver := r }, answer := some (cb, p.takeOutcome.map .one), release := true },
      Slip.wrongPayload.unless (p.shape = .outcome))
  | (r, none) => (.done { s with resolver := r }, Slip.unresolved.unless (s.resolver.state ≠ .called))

def RequestStreamCall.advanceNoted (s : RequestStreamCall Req C) (ok : Bool) (p : Payload Resp) :
    Move (RequestStreamCall Req C) Req Resp C × List Slip :=
  if s.resolver.state ≠ .called then (.done s, [])
  else match s.step with
    | .writeRequest =>
      if ok then (s.writeNext, Slip.noWriter.unless (s.pending.isEmpty || s.writer))
      else (s.finish, Slip.neverOpened.unless s.body)
    | .writesDone => if ok then (s.closeWrites, []) else (s.finish, Slip.neverOpened.unless s.body)
    | .finish => (s.finish, Slip.neverOpened.unless s.body)
    | .callback =>
      match s.resolver.complete with
      | (r, some cb) =>
        ({ next := { s with resolver := r }, answer := some (cb, p.takeOutcome.map .one), release := true },
          Slip.wrongPayload.unless (p.shape = .outcome))
      | (r, none) => (.done { s with resolver := r }, [.unresolved])

def ResponseStreamCall.advanceNoted (s : ResponseStreamCall Resp C) (_ok : Bool) (p : Payload Resp) :
    Move (ResponseStreamCall Resp C) Req Resp C × List Slip :=
  if s.resolver.state ≠ .called then (.done s, [])
  else match s.step with
    | .startRead =>
      (match p.takeOpened with
        | .ok () => s.read
        | .error e => s.finish (.error e), Slip.wrongPayload.unless (p.shape = .opened))
    | .readOn =>
      (match p.takeItem with
        | .ok (some r) => read { s with responses := s.responses ++ [r] }
        | .ok none => s.finish (.ok ())
        | .error e => s.finish (.error e), Slip.wrongPayload.unless (p.shape = .item))
    | .callback =>
      match s.resolver.complete with
      | (r, some cb) =>
        ({ next := { s with resolver := r, responses := [] },
           answer := some (cb, p.takeClosed.map fun () => .many s.responses), release := true },
          Slip.wrongPayload.unless (p.shape = .closed))
      | (r, none) => (.done { s with resolver := r, responses := [] }, [.unresolved])

def BidiCall.advanceNoted (s : BidiCall Req Resp C) (ok : Bool) (p : Payload Resp) :
    Move (BidiCall Req Resp C) Req Resp C × List Slip :=
  if s.resolver.state ≠ .called then (.done s, [])
  else match s.step with
    | .writeRequest =>
      if ok then (s.writeNext, Slip.noWriter.unless (s.pending.isEmpty || s.writer))
      else (s.abandonWrites, Slip.neverOpened.unless s.body)
    | .writesDone => if ok then (s.closeWrites, []) else (s.abandonWrites, Slip.neverOpened.unless s.body)
    | .openStream => (s.openStream, Slip.neverOpened.unless s.body)
    | .startRead =>
      (match p.takeOpened with
        | .ok () => s.read
        | .error e => s.finish (.error e), Slip.wrongPayload.unless (p.shape = .opened))
    | .readOn =>
      (match p.takeItem with
        | .ok (some r) => read { s with responses := s.responses ++ [r] }
        | .ok none => s.finish (.ok ())
        | .error e => s.finish (.error e), Slip.wrongPayload.unless (p.shape = .item))
    | .callback =>
      match s.resolver.complete with
      | (r, some cb) =>
        ({ next := { s with resolver := r, responses := [] },
           answer := some (cb, p.takeClosed.map fun () => .many s.responses), release := true },
          Slip.wrongPayload.unless (p.shape = .closed))
      | (r, none) => (.done { s with resolver := r, responses := [] }, [.unresolved])

namespace Machine

def advanceNoted (m : Machine Req Resp C) (ok : Bool) (p : Payload Resp) :
    Move (Machine Req Resp C) Req Resp C × List Slip :=
  match m with
  | .unary s => (s.advanceNoted ok p).map (·.map .unary) id
  | .requestStream s => (s.advanceNoted ok p).map (·.map .requestStream) id
  | .responseStream s => (s.advanceNoted ok p).map (·.map .responseStream) id
  | .bidi s => (s.advanceNoted ok p).map (·.map .bidi) id

/-- What of these branches a completion meets. -/
def slips (m : Machine Req Resp C) (ok : Bool) (p : Payload Resp) : List Slip :=
  (m.advanceNoted ok p).2

theorem advanceNoted_fst (m : Machine Req Resp C) (ok : Bool) (p : Payload Resp) :
    (m.advanceNoted ok p).1 = m.advance ok p := by
  cases m with
  | unary s =>
    simp only [advanceNoted, advance, UnaryCall.advanceNoted, UnaryCall.advance]
    rcases s.resolver.complete with ⟨r, _ | cb⟩ <;> rfl
  | requestStream s =>
    simp only [advanceNoted, advance, RequestStreamCall.advanceNoted, RequestStreamCall.advance]
    by_cases hs : s.resolver.state ≠ .called
    · rw [if_pos hs, if_pos hs]; rfl
    · rw [if_neg hs, if_neg hs]
      cases s.step with
      | writeRequest | writesDone => cases ok <;> rfl
      | finish => rfl
      | callback => rcases s.resolver.complete with ⟨r, _ | cb⟩ <;> rfl
  | responseStream s =>
    simp only [advanceNoted, advance, ResponseStreamCall.advanceNoted, ResponseStreamCall.advance]
    by_cases hs : s.resolver.state ≠ .called
    · rw [if_pos hs, if_pos hs]; rfl
    · rw [if_neg hs, if_neg hs]
      cases s.step with
      | startRead | readOn => rfl
      | callback => rcases s.resolver.complete with ⟨r, _ | cb⟩ <;> rfl
  | bidi s =>
    simp only [advanceNoted, advance, BidiCall.advanceNoted, BidiCall.advance]
    by_cases hs : s.resolver.state ≠ .called
    · rw [if_pos hs, if_pos hs]; rfl
    · rw [if_neg hs, if_neg hs]
      cases s.step with
      | writeRequest | writesDone => cases ok <;> rfl
      | openStream | startRead | readOn => rfl
      | callback => rcases s.resolver.complete with ⟨r, _ | cb⟩ <;> rfl

/-- A call that is not called meets nothing. -/
theorem slips_idle {m : Machine Req Resp C} (hs : m.state ≠ .called) (ok : Bool) (p : Payload Resp) :
    m.slips ok p = [] := by
  change m.resolver.state ≠ .called at hs
  cases m with
  | unary s => simp_all [slips, advanceNoted, UnaryCall.advanceNoted, Resolver.complete, resolver, Slip.unless]
  | requestStream s => simp_all [slips, advanceNoted, RequestStreamCall.advanceNoted, resolver]
  | responseStream s => simp_all [slips, advanceNoted, ResponseStreamCall.advanceNoted, resolver]
  | bidi s => simp_all [slips, advanceNoted, BidiCall.advanceNoted, resolver]

/-! ## From step to step -/

/-- The call has posted one operation, which completes with what its new step takes, or it is
    over. And it met no slip. -/
def GoesRight (m : Machine Req Resp C) (ok : Bool) (p : Payload Resp) : Prop :=
  let v := m.advance ok p
  ((v.next.Equipped ∧ v.posts.map Op.shape = [v.next.expects]) ∨ (v.next.resolver = .spent ∧ v.posts = [])) ∧
    m.slips ok p = []

namespace Equipped

variable {p : Payload Resp}

theorem advance_unary {s : UnaryCall C} (h : (unary s : Machine Req Resp C).Equipped)
    (hp : p.shape = (unary s : Machine Req Resp C).expects) (ok : Bool) :
    (unary s : Machine Req Resp C).GoesRight ok p := by
  obtain ⟨⟨cb, hr⟩, -, -, -⟩ := h
  obtain ⟨_⟩ := s
  cases hr
  cases p <;> cases hp
  exact ⟨.inr ⟨rfl, rfl⟩, rfl⟩

theorem advance_requestStream {s : RequestStreamCall Req C} (h : (requestStream s : Machine Req Resp C).Equipped)
    (hp : p.shape = (requestStream s : Machine Req Resp C).expects) (ok : Bool) :
    (requestStream s : Machine Req Resp C).GoesRight ok p := by
  obtain ⟨⟨cb, hr⟩, hw, hq, hb⟩ := h
  obtain ⟨_, st, pending, w, b, d⟩ := s
  cases hr
  cases st with
  | writeRequest =>
    cases hw; cases hb
    cases ok with
    | false => exact ⟨.inl ⟨⟨⟨cb, rfl⟩, rfl, fun _ => rfl, rfl⟩, rfl⟩, rfl⟩
    | true =>
      rcases pending with _ | ⟨q, _ | ⟨q', rest⟩⟩
      · exact ⟨.inl ⟨⟨⟨cb, rfl⟩, rfl, fun _ => rfl, rfl⟩, rfl⟩, rfl⟩
      · exact ⟨.inl ⟨⟨⟨cb, rfl⟩, rfl, fun _ => rfl, rfl⟩, rfl⟩, rfl⟩
      · exact ⟨.inl ⟨⟨⟨cb, rfl⟩, rfl, fun hn => absurd rfl hn, rfl⟩, rfl⟩, rfl⟩
  | writesDone =>
    cases hw; cases hb; cases hq nofun
    cases ok <;> exact ⟨.inl ⟨⟨⟨cb, rfl⟩, rfl, fun _ => rfl, rfl⟩, rfl⟩, rfl⟩
  | finish =>
    cases hw; cases hb
    exact ⟨.inl ⟨⟨⟨cb, rfl⟩, rfl, fun _ => rfl, rfl⟩, rfl⟩, rfl⟩
  | callback =>
    cases p <;> cases hp
    exact ⟨.inr ⟨rfl, rfl⟩, rfl⟩

theorem advance_responseStream {s : ResponseStreamCall Resp C}
    (h : (responseStream s : Machine Req Resp C).Equipped)
    (hp : p.shape = (responseStream s : Machine Req Resp C).expects) (ok : Bool) :
    (responseStream s : Machine Req Resp C).GoesRight ok p := by
  obtain ⟨⟨cb, hr⟩, -, -, -⟩ := h
  obtain ⟨_, st, rs, d⟩ := s
  cases hr
  have equipped (st : ResponseStep) (rs : List Resp) :
      (responseStream ⟨.waiting cb, st, rs, d⟩ : Machine Req Resp C).Equipped := ⟨⟨cb, rfl⟩, rfl, fun _ => rfl, rfl⟩
  cases st with
  | startRead => rcases p with _ | _ | (_ | _) | _ | _ <;> cases hp <;> exact ⟨.inl ⟨equipped _ _, rfl⟩, rfl⟩
  | readOn => rcases p with _ | _ | _ | (_ | _ | _) | _ <;> cases hp <;> exact ⟨.inl ⟨equipped _ _, rfl⟩, rfl⟩
  | callback =>
    cases p <;> cases hp
    exact ⟨.inr ⟨rfl, rfl⟩, rfl⟩

theorem advance_bidi {s : BidiCall Req Resp C} (h : (bidi s : Machine Req Resp C).Equipped)
    (hp : p.shape = (bidi s : Machine Req Resp C).expects) (ok : Bool) :
    (bidi s : Machine Req Resp C).GoesRight ok p := by
  obtain ⟨⟨cb, hr⟩, hw, hq, hb⟩ := h
  obtain ⟨_, st, pending, w, b, rs, d⟩ := s
  cases hr
  -- what is left when the body is joined
  have joined (st : BidiStep) (rs : List Resp) (hj : st.phase = .joined) :
      (bidi ⟨.waiting cb, st, [], false, false, rs, d⟩ : Machine Req Resp C).Equipped :=
    ⟨⟨cb, rfl⟩, by rw [phase, hj]; rfl, fun _ => rfl, by rw [phase, hj]; rfl⟩
  cases st with
  | writeRequest =>
    cases hw; cases hb
    cases ok with
    | false => exact ⟨.inl ⟨joined _ _ rfl, rfl⟩, rfl⟩
    | true =>
      rcases pending with _ | ⟨q, _ | ⟨q', rest⟩⟩
      · exact ⟨.inl ⟨⟨⟨cb, rfl⟩, rfl, fun _ => rfl, rfl⟩, rfl⟩, rfl⟩
      · exact ⟨.inl ⟨⟨⟨cb, rfl⟩, rfl, fun _ => rfl, rfl⟩, rfl⟩, rfl⟩
      · exact ⟨.inl ⟨⟨⟨cb, rfl⟩, rfl, fun hn => absurd rfl hn, rfl⟩, rfl⟩, rfl⟩
  | writesDone =>
    cases hw; cases hb; cases hq nofun
    cases ok
    · exact ⟨.inl ⟨joined _ _ rfl, rfl⟩, rfl⟩
    · exact ⟨.inl ⟨⟨⟨cb, rfl⟩, rfl, fun _ => rfl, rfl⟩, rfl⟩, rfl⟩
  | openStream =>
    cases hw; cases hb; cases hq nofun
    exact ⟨.inl ⟨joined _ _ rfl, rfl⟩, rfl⟩
  | startRead =>
    cases hw; cases hb; cases hq nofun
    rcases p with _ | _ | (_ | _) | _ | _ <;> cases hp <;> exact ⟨.inl ⟨joined _ _ rfl, rfl⟩, rfl⟩
  | readOn =>
    cases hw; cases hb; cases hq nofun
    rcases p with _ | _ | _ | (_ | _ | _) | _ <;> cases hp <;> exact ⟨.inl ⟨joined _ _ rfl, rfl⟩, rfl⟩
  | callback =>
    cases p <;> cases hp
    exact ⟨.inr ⟨rfl, rfl⟩, rfl⟩

theorem advance {m : Machine Req Resp C} (h : m.Equipped) (hp : p.shape = m.expects) (ok : Bool) :
    m.GoesRight ok p := by
  cases m with
  | unary s => exact h.advance_unary hp ok
  | requestStream s => exact h.advance_requestStream hp ok
  | responseStream s => exact h.advance_responseStream hp ok
  | bidi s => exact h.advance_bidi hp ok

end Equipped

/-- One call without the writing end, one without its body, one that gets a payload of another
    shape and one without its callback. -/
example :
    (requestStream { resolver := .waiting (), pending := [5] } : Machine Nat Nat Unit).slips true .unit = [.noWriter] ∧
    (bidi { resolver := .waiting (), step := .openStream } : Machine Nat Nat Unit).slips true .unit = [.neverOpened] ∧
    (unary { resolver := .waiting () } : Machine Nat Nat Unit).slips true .unit = [.wrongPayload] ∧
    (unary { resolver := { state := .called } } : Machine Nat Nat Unit).slips true (.outcome (.ok 7)) = [.unresolved] :=
  ⟨rfl, rfl, rfl, rfl⟩

/-- A call whose start is accepted is equipped for the operation that it posts. -/
theorem start_equipped {m : Machine Req Resp C} (ctx : Context) {l : Launch Req} (cb : C) (hk : m.kind = l.kind)
    (hr : m.resolver = .fresh) :
    ∃ v, m.start true ctx l cb = some v ∧ v.next.Equipped ∧ v.posts.map Op.shape = [v.next.expects] := by
  cases m <;> cases l <;> simp only [kind, Launch.kind, reduceCtorEq] at hk
  all_goals
    rename_i s _
    obtain ⟨⟨_, _, _⟩⟩ := s
    cases hr
  case unary.unary | responseStream.responseStream => exact ⟨_, rfl, ⟨⟨cb, rfl⟩, rfl, fun _ => rfl, rfl⟩, rfl⟩
  case requestStream.requestStream | bidi.bidi =>
    exact ⟨_, rfl, ⟨⟨cb, rfl⟩, rfl, fun hn => absurd rfl hn, rfl⟩, rfl⟩

/-- A cancel takes everything from an open call, and leaves a cancelled one without anything. -/
theorem cancel_emptied {m : Machine Req Resp C}
    (hr : m.resolver = .fresh ∨ (∃ cb, m.resolver = .waiting cb) ∨ m.resolver = .givenUp) : m.cancel.next.Emptied := by
  cases m
  all_goals
    rename_i s
    obtain ⟨⟨_, _, _⟩⟩ := s
    rcases hr with hr | ⟨cb, hr⟩ | hr <;> cases hr <;> exact ⟨rfl, rfl, rfl, rfl⟩

end Machine

/-! ## A call and what is outstanding for it -/

/-- A call with the shapes of all that is outstanding for it. A called call waits for what
    its step takes; it has nothing to wait for only where operations can be lost (`¬kept`).
    What is outstanding for a cancelled or completed call is of no use to it. -/
inductive Armed (kept : Prop) (m : Machine Req Resp C) : List Shape → Prop
  | unstarted : m.resolver = .fresh → Armed kept m []
  | called : m.Equipped → Armed kept m [m.expects]
  | stranded : ¬kept → m.Equipped → Armed kept m []
  | cancelled (out : List Shape) : m.Emptied → Armed kept m out
  | completed (out : List Shape) : m.resolver = .spent → Armed kept m out

/-- The shapes that a move adds to what is outstanding. -/
def Move.adds {S : Type} (live : Bool) (v : Move S Req Resp C) : List Shape :=
  if live then v.posts.map Op.shape else []

namespace Armed

variable {kept : Prop} {m : Machine Req Resp C} {out out' : List Shape}

theorem new (k : CallKind) : Armed kept (.new k : Machine Req Resp C) [] := .unstarted (Machine.new_resolver k)

theorem emptied (h : Armed kept m out) (hs : m.state = .cancelled) : m.Emptied := by
  cases h with
  | unstarted hr => rw [Machine.state, hr] at hs; cases hs
  | called he | stranded _ he =>
    obtain ⟨cb, hr⟩ := he.resolver
    rw [Machine.state, hr] at hs
    cases hs
  | cancelled out he => exact he
  | completed out hr => rw [Machine.state, hr] at hs; cases hs

theorem equipped (h : Armed kept m out) (hs : m.state = .called) :
    m.Equipped ∧ (out = [m.expects] ∨ ¬kept ∧ out = []) := by
  cases h with
  | unstarted hr => rw [Machine.state, hr] at hs; cases hs
  | called he => exact ⟨he, .inl rfl⟩
  | stranded hk he => exact ⟨he, .inr ⟨hk, rfl⟩⟩
  | cancelled out he => rw [Machine.state, he.resolver] at hs; cases hs
  | completed out hr => rw [Machine.state, hr] at hs; cases hs

/-- Nothing that is outstanding makes its call slip. -/
theorem no_slip (h : Armed kept m out) {p : Payload Resp} (hp : p.shape ∈ out) (ok : Bool) : m.slips ok p = [] := by
  by_cases hs : m.state = .called
  · obtain ⟨he, rfl | ⟨-, rfl⟩⟩ := h.equipped hs
    · exact (he.advance (List.mem_singleton.mp hp) ok).2
    · cases hp
  · exact Machine.slips_idle hs ok p

/-- The order makes no difference: at most one thing is outstanding that matters. -/
theorem perm (h : Armed kept m out) (hp : out.Perm out') : Armed kept m out' := by
  cases h with
  | unstarted hr => rw [hp.nil_eq.symm]; exact .unstarted hr
  | called he => rw [List.singleton_perm.mp hp |>.symm]; exact .called he
  | stranded hk he => rw [hp.nil_eq.symm]; exact .stranded hk he
  | cancelled out he => exact .cancelled out' he
  | completed out hr => exact .completed out' hr

theorem lost (h : Armed kept m out) (hk : ¬kept) (hs : out'.Sublist out) : Armed kept m out' := by
  cases h with
  | unstarted hr => rw [List.sublist_nil.mp hs]; exact .unstarted hr
  | called he =>
    rcases List.sublist_singleton.mp hs with rfl | rfl
    · exact .stranded hk he
    · exact .called he
  | stranded hk he => rw [List.sublist_nil.mp hs]; exact .stranded hk he
  | cancelled out he => exact .cancelled out' he
  | completed out hr => exact .completed out' hr

/-- A completion that its call does not get to see. -/
theorem unseen {s : Shape} (h : Armed kept m (s :: out)) (hs : m.state ≠ .called) : Armed kept m out := by
  cases h with
  | called he =>
    obtain ⟨cb, hr⟩ := he.resolver
    exact absurd (by rw [Machine.state, hr]; rfl) hs
  | cancelled _ he => exact .cancelled out he
  | completed _ hr => exact .completed out hr

theorem start (h : Armed kept m out) {live : Bool} {ctx : Context} {l : Launch Req} {cb : C}
    (hk : m.kind = l.kind) {v : Move (Machine Req Resp C) Req Resp C} (hv : m.start live ctx l cb = some v) :
    Armed kept v.next (out ++ v.adds live) := by
  have again (hs : m.state = .called ∨ m.state = .completed) : Armed kept v.next (out ++ v.adds live) :=
    nomatch (Machine.start_again live ctx cb hk hs).symm.trans hv
  cases h with
  | unstarted hr =>
    cases live with
    | true =>
      obtain ⟨v', hv', he, ho⟩ := Machine.start_equipped ctx cb hk hr
      cases hv'.symm.trans hv
      rw [Move.adds, if_pos rfl, ho]
      exact .called he
    | false =>
      obtain ⟨v', hv', hs, -⟩ := Machine.start_refused ctx cb hk hr
      cases hv'.symm.trans hv
      exact .completed _ hs
  | called he | stranded _ he =>
    obtain ⟨cb', hr⟩ := he.resolver
    exact again (.inl (by rw [Machine.state, hr]; rfl))
  | cancelled out he =>
    cases (Machine.start_cancelled live ctx cb hk (by rw [Machine.state, he.resolver]; rfl)).symm.trans hv
    exact .cancelled _ he
  | completed out hr => exact again (.inr (by rw [Machine.state, hr]; rfl))

theorem cancel (h : Armed kept m out) : Armed kept m.cancel.next out := by
  cases h with
  | unstarted hr => exact .cancelled _ (Machine.cancel_emptied (.inl hr))
  | called he | stranded _ he => exact .cancelled _ (Machine.cancel_emptied (.inr (.inl he.resolver)))
  | cancelled out he => exact .cancelled _ (Machine.cancel_emptied (.inr (.inr he.resolver)))
  | completed out hr =>
    refine .completed _ ?_
    rw [(Machine.cancel_settled (.inr (by rw [Machine.state, hr]; rfl))).1, hr]

theorem advance {p : Payload Resp} (h : Armed kept m (p.shape :: out)) (ok : Bool) {live : Bool}
    (hl : kept → live = true) : Armed kept (m.advance ok p).next (out ++ (m.advance ok p).adds live) := by
  by_cases hs : m.state = .called
  case neg =>
    rw [Machine.advance_idle hs]
    have hn : (Move.done m : Move (Machine Req Resp C) Req Resp C).adds live = [] := by cases live <;> rfl
    rw [hn, List.append_nil]
    exact h.unseen hs
  obtain ⟨he, ho | ⟨-, ho⟩⟩ := h.equipped hs
  case inr => cases ho
  obtain ⟨hp, rfl⟩ := List.cons.inj ho
  obtain ⟨⟨hn, hq⟩ | ⟨hr, -⟩, -⟩ := he.advance hp ok
  · cases live with
    | true =>
      rw [Move.adds, if_pos rfl, hq]
      exact .called hn
    | false => exact .stranded (fun hk => nomatch hl hk) hn
  · exact .completed _ hr

end Armed

end CallPump
