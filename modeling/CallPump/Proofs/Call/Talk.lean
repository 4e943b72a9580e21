/-
  CallPump.Proofs.Call.Talk — a bidirectional call and the server it talks to.

  The call posts its operations; each comes back as the transport and the server have it:
  a write is accepted or fails, a stream opens or not, a read yields a message or the
  stream's end, and a drain throws away what the stream still yields and tells how it
  ended. The talk remembers the messages that the stream yielded, how it ended, whether a
  write failed, and what the callback was given.

  While the call is called, one operation is on its way, and it tells together with the
  call's step what was heard so far (`Course`, kept by `Course.advance`). Hence:
  - `success_carries`: a success comes only of a stream that ended normally, and its
    responses are all the messages heard, except that they are none at all when a write
    failed;
  - `success_loses_messages`: so a success may lack messages that were heard.
-/

import CallPump.Call.Bidi
import CallPump.Proofs.Call.Moves

namespace CallPump

variable {Req Resp C : Type}

def Op.isWrite : Op Req Resp → Bool
  | .write _ _ => true
  | _ => false

/-- How an operation of the call can come back, with the messages that its stream yielded
    for it and, if the stream ended, how. -/
inductive Comes : Op Req Resp → Bool → Payload Resp → List Resp → Option (Except GrpcStatus Unit) → Prop
  | settled (ok : Bool) (p : Payload Resp) : Comes (.settled ok p) ok p [] none
  | written (d : Option Instant) (q : Req) (ok : Bool) (p : Payload Resp) : Comes (.write d q) ok p [] none
  | opened (ok : Bool) (r : Except GrpcStatus Unit) : Comes .joinStream ok (.opened r) [] none
  | message (d : Option Instant) (r : Resp) : Comes (.read d) true (.item (some (.ok r))) [r] none
  | ended (d : Option Instant) : Comes (.read d) false (.item none) [] (some (.ok ()))
  | broken (d : Option Instant) (e : GrpcStatus) :
      Comes (.read d) false (.item (some (.error e))) [] (some (.error e))
  | drained (d : Option Instant) (thrown : List Resp) (r : Except GrpcStatus Unit) :
      Comes (.drain d) true (.closed r) thrown (some r)

structure Talk (Req Resp C : Type) where
  call : BidiCall Req Resp C := {}
  /-- The operations on their way. -/
  asked : List (Op Req Resp) := []
  /-- The messages that the response stream yielded. -/
  heard : List Resp := []
  ended : Option (Except GrpcStatus Unit) := none
  /-- Whether a write failed. -/
  failed : Bool := false
  /-- The callback, and what it was given. -/
  answer : Option (C × Except GrpcStatus (Answer Resp)) := none

namespace Talk

def make (t : Talk Req Resp C) (m : Move (BidiCall Req Resp C) Req Resp C) : Talk Req Resp C :=
  { t with call := m.next, asked := t.asked ++ m.posts, answer := m.answer.or t.answer }

/-- An operation comes back; these are still on their way. -/
def hear (t : Talk Req Resp C) (op : Op Req Resp) (rest : List (Op Req Resp)) (ok : Bool) (yielded : List Resp)
    (ended : Option (Except GrpcStatus Unit)) : Talk Req Resp C :=
  { t with asked := rest, heard := t.heard ++ yielded, ended := ended.or t.ended,
           failed := t.failed || (op.isWrite && !ok) }

inductive Step : Talk Req Resp C → Talk Req Resp C → Prop
  | start {t : Talk Req Resp C} {live : Bool} {ctx : Context} {requests : List Req} {cb : C}
      {m : Move (BidiCall Req Resp C) Req Resp C} : t.call.start live ctx requests cb = some m → Step t (t.make m)
  | cancel (t : Talk Req Resp C) : Step t (t.make t.call.cancel)
  | comes {t : Talk Req Resp C} {as bs : List (Op Req Resp)} {op : Op Req Resp} {ok : Bool} {p : Payload Resp}
      {ys : List Resp} {e : Option (Except GrpcStatus Unit)} : t.asked = as ++ op :: bs → Comes op ok p ys e →
      Step t ((t.hear op (as ++ bs) ok ys e).make (t.call.advance ok p))

inductive Reach : Talk Req Resp C → Prop
  | init : Reach {}
  | step {t u : Talk Req Resp C} : Reach t → Step t u → Reach u

end Talk

/-! ## A called call -/

/-- The step of a called call, whether it can write, the responses it holds, the operation
    it waits for, the messages heard, how the stream ended, and whether a write failed. -/
inductive Course :
    BidiStep → Bool → List Resp → Op Req Resp → List Resp → Option (Except GrpcStatus Unit) → Bool → Prop
  | opening : Course .writeRequest true [] (.nudge true) [] none false
  | writing (d : Option Instant) (q : Req) : Course .writeRequest true [] (.write d q) [] none false
  | writingLast (d : Option Instant) (q : Req) : Course .writesDone true [] (.write d q) [] none false
  | written : Course .openStream false [] (.nudge true) [] none false
  | joining : Course .startRead false [] .joinStream [] none false
  | neverOpened : Course .startRead false [] (.settled false (.opened (.error .neverOpened))) [] none false
  | reading (d : Option Instant) (rs : List Resp) : Course .readOn false rs (.read d) rs none false
  | complete (rs : List Resp) :
      Course .callback false rs (.settled true (.closed (.ok ()))) rs (some (.ok ())) false
  | erring (e : GrpcStatus) (rs hs : List Resp) (en : Option (Except GrpcStatus Unit)) (f : Bool) :
      Course .callback false rs (.settled true (.closed (.error e))) hs en f
  | draining (d : Option Instant) : Course .callback false [] (.drain d) [] none true

namespace Course

variable {s : BidiCall Req Resp C} {cb : C} {op : Op Req Resp} {hs ys : List Resp}
  {en e : Option (Except GrpcStatus Unit)} {f ok : Bool} {p : Payload Resp}

/-- The call goes on to its next operation, or its callback is given what was heard. -/
theorem advance (hr : s.resolver = .waiting cb) (h : Course s.step s.writer s.responses op hs en f)
    (hc : Comes op ok p ys e) :
    let m := s.advance ok p
    let f' := f || (op.isWrite && !ok)
    (m.next.resolver = .waiting cb ∧ m.answer = none ∧ ∃ op', m.posts = [op'] ∧
      Course m.next.step m.next.writer m.next.responses op' (hs ++ ys) (e.or en) f') ∨
    (m.next.resolver = .spent ∧ m.posts = [] ∧ ∀ k a, m.answer = some (k, .ok a) →
      e.or en = some (.ok ()) ∧ a = .many (if f' then [] else hs ++ ys)) := by
  obtain ⟨_, step, pending, writer, body, responses, deadline⟩ := s
  cases hr
  change Course step writer responses op hs en f at h
  cases h with
  | opening =>
    cases hc
    cases pending with
    | nil => exact .inl ⟨rfl, rfl, _, rfl, written⟩
    | cons q rest =>
      cases rest with
      | nil => exact .inl ⟨rfl, rfl, _, rfl, writingLast _ _⟩
      | cons q' rest => exact .inl ⟨rfl, rfl, _, rfl, writing _ _⟩
  | writing d q =>
    cases hc
    cases ok with
    | false =>
      cases body with
      | false => exact .inl ⟨rfl, rfl, _, rfl, erring _ _ _ _ _⟩
      | true => exact .inl ⟨rfl, rfl, _, rfl, draining _⟩
    | true =>
      cases pending with
      | nil => exact .inl ⟨rfl, rfl, _, rfl, written⟩
      | cons q rest =>
        cases rest with
        | nil => exact .inl ⟨rfl, rfl, _, rfl, writingLast _ _⟩
        | cons q' rest => exact .inl ⟨rfl, rfl, _, rfl, writing _ _⟩
  | writingLast d q =>
    cases hc
    cases ok with
    | false =>
      cases body with
      | false => exact .inl ⟨rfl, rfl, _, rfl, erring _ _ _ _ _⟩
      | true => exact .inl ⟨rfl, rfl, _, rfl, draining _⟩
    | true => exact .inl ⟨rfl, rfl, _, rfl, written⟩
  | written =>
    cases hc
    cases body with
    | false => exact .inl ⟨rfl, rfl, _, rfl, neverOpened⟩
    | true => exact .inl ⟨rfl, rfl, _, rfl, joining⟩
  | joining =>
    cases hc with
    | opened ok r =>
      cases r with
      | error e => exact .inl ⟨rfl, rfl, _, rfl, erring _ _ _ _ _⟩
      | ok u => exact .inl ⟨rfl, rfl, _, rfl, reading _ _⟩
  | neverOpened => cases hc; exact .inl ⟨rfl, rfl, _, rfl, erring _ _ _ _ _⟩
  | reading d rs =>
    cases hc with
    | message d r => exact .inl ⟨rfl, rfl, _, rfl, reading _ _⟩
    | ended d =>
      refine .inl ⟨rfl, rfl, _, rfl, ?_⟩
      rw [List.append_nil]
      exact complete _
    | broken d e => exact .inl ⟨rfl, rfl, _, rfl, erring _ _ _ _ _⟩
  | complete rs =>
    cases hc
    refine .inr ⟨rfl, rfl, fun k a ha => ?_⟩
    cases ha
    exact ⟨rfl, congrArg Answer.many (List.append_nil _).symm⟩
  | erring e rs hs en f => cases hc; exact .inr ⟨rfl, rfl, fun k a ha => nomatch ha⟩
  | draining d =>
    cases hc with
    | drained d thrown r =>
      refine .inr ⟨rfl, rfl, fun k a ha => ?_⟩
      cases r with
      | error e => cases ha
      | ok u => cases ha; exact ⟨rfl, rfl⟩

end Course

/-! ## Whole talks -/

namespace Talk

/-- The responses that a success carries. -/
def carried (t : Talk Req Resp C) : List Resp := if t.failed then [] else t.heard

inductive Sound : Talk Req Resp C → Prop
  | fresh : Sound {}
  | called {t : Talk Req Resp C} {cb : C} {op : Op Req Resp} : t.call.resolver = .waiting cb → t.asked = [op] →
      t.answer = none → Course t.call.step t.call.writer t.call.responses op t.heard t.ended t.failed → Sound t
  | cancelled {t : Talk Req Resp C} : t.call.resolver = .givenUp → t.answer = none → Sound t
  | completed {t : Talk Req Resp C} : t.call.resolver = .spent → t.asked = [] →
      (∀ cb a, t.answer = some (cb, .ok a) → t.ended = some (.ok ()) ∧ a = .many t.carried) → Sound t

theorem sound_start {t : Talk Req Resp C} (h : Sound t) {live : Bool} {ctx : Context} {requests : List Req}
    {cb : C} {m : Move (BidiCall Req Resp C) Req Resp C} (hm : t.call.start live ctx requests cb = some m) :
    Sound (t.make m) := by
  cases h with
  | fresh =>
    cases live with
    | true => cases hm; exact .called rfl rfl rfl .opening
    | false => cases hm; exact .completed rfl rfl fun cb a ha => nomatch ha
  | called hr _ _ _ => simp [BidiCall.start, Resolver.begin?, hr] at hm
  | cancelled hr ha =>
    simp only [BidiCall.start, Resolver.begin?, hr, Resolver.givenUp_state] at hm
    cases hm
    exact .cancelled rfl ha
  | completed hr _ _ => simp [BidiCall.start, Resolver.begin?, hr] at hm

theorem sound_cancel {t : Talk Req Resp C} (h : Sound t) : Sound (t.make t.call.cancel) := by
  cases h with
  | fresh => exact .cancelled rfl rfl
  | called hr _ ha _ =>
    refine .cancelled ?_ ha
    simp only [make, BidiCall.cancel, hr]
    rfl
  | cancelled hr ha =>
    refine .cancelled ?_ ha
    simp only [make, BidiCall.cancel, hr]
    rfl
  | completed hr hq ha =>
    refine .completed ?_ ?_ ha
    · simp only [make, BidiCall.cancel, hr]
      rfl
    · rw [make, hq]
      rfl

theorem sound_comes {t : Talk Req Resp C} (h : Sound t) {as bs : List (Op Req Resp)} {op : Op Req Resp} {ok : Bool}
    {p : Payload Resp} {ys : List Resp} {e : Option (Except GrpcStatus Unit)} (hq : t.asked = as ++ op :: bs)
    (hc : Comes op ok p ys e) : Sound ((t.hear op (as ++ bs) ok ys e).make (t.call.advance ok p)) := by
  cases h with
  | fresh => simp at hq
  | @called _ cb op' hr hq' ha ht =>
    -- the operation that comes back is the only one on its way
    have hone : as = [] ∧ bs = [] ∧ op' = op := by
      rw [hq'] at hq
      cases as with
      | nil => cases hq; exact ⟨rfl, rfl, rfl⟩
      | cons a as => simp at hq
    obtain ⟨rfl, rfl, rfl⟩ := hone
    rcases ht.advance hr hc with ⟨hn, hm, op', hp, ht'⟩ | ⟨hn, hp, hm⟩
    · refine .called hn ?_ ?_ ht'
      · rw [make, hp]; rfl
      · rw [make, hm]; exact ha
    · refine .completed hn ?_ fun k a hk => ?_
      · rw [make, hp]; rfl
      · rw [make, show (t.hear op' ([] ++ []) ok ys e).answer = none from ha, Option.or_none] at hk
        exact hm k a hk
  | cancelled hr ha =>
    have hs : t.call.resolver.state ≠ .called := by simp [hr]
    have hm : t.call.advance ok p = .done t.call := by simp [BidiCall.advance, hs]
    rw [hm]
    exact .cancelled hr ha
  | completed _ hq' _ => rw [hq'] at hq; simp at hq

theorem sound_of_reach {t : Talk Req Resp C} (h : Reach t) : Sound t := by
  induction h with
  | init => exact .fresh
  | step _ hs ih =>
    cases hs with
    | start hm => exact sound_start ih hm
    | cancel => exact sound_cancel ih
    | comes hq hc => exact sound_comes ih hq hc

theorem Reach.hear {t : Talk Req Resp C} {op : Op Req Resp} {ok : Bool} {p : Payload Resp} {ys : List Resp}
    {e : Option (Except GrpcStatus Unit)} (h : Reach t) (hq : t.asked = [op]) (hc : Comes op ok p ys e) :
    Reach ((t.hear op [] ok ys e).make (t.call.advance ok p)) := by
  have hq' : t.asked = [] ++ op :: [] := hq
  exact .step h (.comes hq' hc)

/-- For any requests, any outcomes of the writes and any stream: a success comes of a
    stream that ended normally, and it carries the messages of the stream if no write
    failed and none otherwise. So it is complete exactly if no write failed or there was
    no message. -/
theorem success_carries {t : Talk Req Resp C} (h : Reach t) {cb : C} {a : Answer Resp}
    (ha : t.answer = some (cb, .ok a)) :
    t.ended = some (.ok ()) ∧ a = .many t.carried ∧ (a = .many t.heard ↔ t.failed = false ∨ t.heard = []) := by
  have hs : t.ended = some (.ok ()) ∧ a = .many t.carried := by
    cases sound_of_reach h with
    | fresh => cases ha
    | called _ _ hn _ => rw [hn] at ha; cases ha
    | cancelled _ hn => rw [hn] at ha; cases ha
    | completed _ _ hc => exact hc cb a ha
  refine ⟨hs.1, hs.2, ?_⟩
  rw [hs.2, carried]
  cases t.failed with
  | false => simp
  | true => simp [eq_comm]

theorem success_carries_one :
    ∃ t : Talk Unit String Unit, Reach t ∧ t.answer = some ((), .ok (.many ["d"])) ∧ t.ended = some (.ok ()) := by
  have h₀ : Step ({} : Talk Unit String Unit) _ := .start (show BidiCall.start {} true {} [] () = some _ from rfl)
  have h := ((((((Reach.init.step h₀).hear rfl (.settled true .unit)).hear rfl (.settled true .unit)).hear rfl
    (.opened true (.ok ()))).hear rfl (.message none "d")).hear rfl (.ended none)).hear rfl
    (.settled true (.closed (.ok ())))
  exact ⟨_, h, rfl, (success_carries h rfl).1⟩

/-- The one write fails, and the server sends a message and ends its stream normally. -/
theorem success_loses_messages :
    ¬ ∀ t : Talk Unit String Unit, Reach t → ∀ cb a, t.answer = some (cb, .ok a) → a = .many t.heard := by
  intro hall
  have h₀ : Step ({} : Talk Unit String Unit) _ := .start (show BidiCall.start {} true {} [()] () = some _ from rfl)
  have h := (((Reach.init.step h₀).hear rfl (.settled true .unit)).hear rfl (.written none () false .unit)).hear rfl
    (.drained none ["d"] (.ok ()))
  exact nomatch hall _ h () (.many []) rfl

end Talk

end CallPump
