/-
  CallPump.Proofs.Call.Served — a call whose requests reach a service.

  A service answers the requests of one call, once for all of them or with a stream. No
  write to it fails and no deadline passes: an operation comes back with what the service
  has for it (`Service.serve`), under any flag that says so (`Op.returns`). What the service
  does for one call is where its end of the call stands (`FarEnd`).

  - `leads_begun`: served so, a call of any kind comes to its callback, with what the service
    answers to the requests that it was started with (`Service.reply`).
  - `Round.Served.step`, `Round.Served.launched`: between its start and its callback the call
    is on that way, whatever else happens, as long as nobody cancels it.
  - `Round.Served.arrives`: from wherever it is on it, it can get to its callback.
-/

import CallPump.Proofs.Call.Solo

namespace CallPump

variable {I C : Type}

/-! ## The other end -/

/-- What answers the requests of a call. -/
structure Service (I : Type) where
  single : List I → Except GrpcStatus I
  stream : List I → Except GrpcStatus (List I)

/-- Where the service stands with one call. -/
structure FarEnd (I : Type) where
  /-- The requests that were written to it so far. -/
  got : List I := []
  /-- The responses that were not read yet. -/
  left : List I := []

/-- Whether the operation may come back with the flag when nothing fails: a written request
    was accepted, and what is settled comes back as it is. -/
def Op.returns : Op I I → Bool → Bool
  | .settled b _, ok => ok == b
  | .write _ _, ok => ok
  | .exchange _ _, _ | .openStream _ _, _ | .join, _ | .joinStream, _ | .read _, _ | .drain _, _ => true

namespace Service

variable (s : Service I)

/-- The response stream that answers the requests. -/
def open? (w : FarEnd I) (got : List I) : Payload I × FarEnd I :=
  match s.stream got with
  | .ok is => (.opened (.ok ()), { w with left := is })
  | .error e => (.opened (.error e), w)

/-- What the operation comes back with. -/
def serve (w : FarEnd I) : Op I I → Payload I × FarEnd I
  | .settled _ x => (x, w)
  | .exchange _ q => (.outcome (s.single [q]), w)
  | .openStream _ q => s.open? w [q]
  | .write _ q => (.unit, { w with got := w.got ++ [q] })
  | .join => (.outcome (s.single w.got), w)
  | .joinStream => s.open? w w.got
  | .read _ =>
    match w.left with
    | [] => (.item none, w)
    | i :: is => (.item (some (.ok i)), { w with left := is })
  | .drain _ => (.closed ((s.stream w.got).map fun _ => ()), w)

/-- What the service answers to the requests of a start. -/
def reply : Launch I → Except GrpcStatus (Answer I)
  | .unary q => (s.single [q]).map .one
  | .requestStream qs => (s.single qs).map .one
  | .responseStream q => (s.stream [q]).map .many
  | .bidi qs => (s.stream qs).map .many

end Service

/-! ## Where a call is led -/

/-- On the completion the call goes on to `m'`, with one operation more. -/
def Machine.Goes (m : Machine I I C) (ok : Bool) (x : Payload I) (m' : Machine I I C) (op : Op I I) : Prop :=
  (m.advance ok x).next = m' ∧ (m.advance ok x).posts = [op]

/-- With the operation under way, the call comes to its callback with `a`: either on what
    the operation comes back with, or after another operation. -/
inductive Leads (s : Service I) (cb : C) (a : Except GrpcStatus (Answer I)) :
    Machine I I C → Op I I → FarEnd I → Prop
  | ends {m : Machine I I C} {op : Op I I} {w : FarEnd I} :
      (∀ ok, op.returns ok = true → (m.advance ok (s.serve w op).1).answer = some (cb, a)) → Leads s cb a m op w
  | goesOn {m : Machine I I C} {op : Op I I} {w : FarEnd I} (m' : Machine I I C) (op' : Op I I) :
      (∀ ok, op.returns ok = true → m.Goes ok (s.serve w op).1 m' op') → Leads s cb a m' op' (s.serve w op).2 →
      Leads s cb a m op w

/-! ## Writing requests -/

/-- How a call writes its requests, one after the other: `writing last qs` has `qs` to write
    after the one under way, which may be the last, and `closed` has given up its writing end. -/
structure Writer (d : Option Instant) (writing : Bool → List I → Machine I I C) (closed : Machine I I C) : Prop where
  next : ∀ q qs x, (writing false (q :: qs)).Goes true x (writing qs.isEmpty qs) (.write d q)
  close : ∀ last x, (writing last []).Goes true x closed (.nudge true)

/-- All requests reach the service before the writing end is given up. -/
theorem Writer.leads {d : Option Instant} {writing : Bool → List I → Machine I I C} {closed : Machine I I C}
    (hw : Writer d writing closed) {s : Service I} {cb : C} {a : Except GrpcStatus (Answer I)} {qs : List I}
    {op : Op I I} {w : FarEnd I} (last : Bool) (hop : ∀ ok, op.returns ok = true → ok = true)
    (hl : last = true → qs = [])
    (h : Leads s cb a closed (.nudge true) { (s.serve w op).2 with got := (s.serve w op).2.got ++ qs }) :
    Leads s cb a (writing last qs) op w := by
  induction qs generalizing last op w with
  | nil =>
    rw [List.append_nil] at h
    refine .goesOn closed (.nudge true) (fun ok ho => ?_) h
    rw [hop ok ho]
    exact hw.close last _
  | cons q qs ih =>
    have hf : last = false := by
      cases last with
      | false => rfl
      | true => cases hl rfl
    rw [List.append_cons] at h
    have hl : Leads s cb a (writing qs.isEmpty qs) (.write d q) (s.serve w op).2 :=
      ih qs.isEmpty (fun ok ho => ho) List.isEmpty_iff.mp h
    refine .goesOn _ _ (fun ok ho => ?_) hl
    rw [hop ok ho, hf]
    exact hw.next q qs _

/-! ## Reading responses -/

/-- How a call reads responses, one after the other: `opening` waits for the stream,
    `reading is` has read `is` so far, and `ended is` has come to their end. -/
structure Reader (cb : C) (d : Option Instant) (opening : Machine I I C) (reading ended : List I → Machine I I C) :
    Prop where
  opened : ∀ ok, opening.Goes ok (.opened (.ok ())) (reading []) (.read d)
  refused : ∀ ok e, opening.Goes ok (.opened (.error e)) (ended []) (.settled true (.closed (.error e)))
  item : ∀ is i ok, (reading is).Goes ok (.item (some (.ok i))) (reading (is ++ [i])) (.read d)
  last : ∀ is ok, (reading is).Goes ok (.item none) (ended is) (.settled true (.closed (.ok ())))
  answer : ∀ is ok r, ((ended is).advance ok (.closed r)).answer = some (cb, r.map fun () => .many is)

namespace Reader

variable {cb : C} {d : Option Instant} {opening : Machine I I C} {reading ended : List I → Machine I I C}
  {s : Service I}

/-- All that is left of the stream is read. -/
theorem leads_reading (hr : Reader cb d opening reading ended) (is left got : List I) :
    Leads s cb (.ok (.many (is ++ left))) (reading is) (.read d) ⟨got, left⟩ := by
  induction left generalizing is with
  | nil =>
    rw [List.append_nil]
    exact .goesOn _ _ (fun ok _ => hr.last is ok) (.ends fun ok _ => hr.answer is ok (.ok ()))
  | cons i left ih =>
    rw [List.append_cons]
    exact .goesOn _ _ (fun ok _ => hr.item is i ok) (ih (is ++ [i]))

/-- The call comes to the whole stream, or to the error that it could not be opened with. -/
theorem leads (hr : Reader cb d opening reading ended) {op : Op I I} {w : FarEnd I} {got : List I}
    (ho : s.serve w op = s.open? w got) : Leads s cb ((s.stream got).map .many) opening op w := by
  rw [Service.open?] at ho
  rcases hs : s.stream got with e | is <;> rw [hs] at ho
  · refine .goesOn (ended []) (.settled true (.closed (.error e))) (fun ok _ => ?_)
      (.ends fun ok _ => hr.answer [] ok (.error e))
    rw [ho]
    exact hr.refused ok e
  · have hl := hr.leads_reading (s := s) [] is w.got
    refine .goesOn (reading []) (.read d) (fun ok _ => ?_) ?_
    · rw [ho]
      exact hr.opened ok
    · rw [ho]
      exact hl

end Reader

/-! ## The four kinds -/

section

variable (cb : C) (d : Option Instant)

def RequestStreamCall.writing (last : Bool) (qs : List I) : RequestStreamCall I C :=
  { resolver := .waiting cb, step := if last then .writesDone else .writeRequest, pending := qs, writer := true,
    body := true, deadline := d }

def RequestStreamCall.closed : RequestStreamCall I C :=
  { resolver := .waiting cb, step := .finish, body := true, deadline := d }

theorem RequestStreamCall.writes :
    Writer (I := I) d (fun last qs => .requestStream (writing cb d last qs)) (.requestStream (closed cb d)) where
  next _ _ _ := ⟨rfl, rfl⟩
  close last _ := by cases last <;> exact ⟨rfl, rfl⟩

def ResponseStreamCall.reading (step : ResponseStep) (is : List I) : ResponseStreamCall I C :=
  { resolver := .waiting cb, step := step, responses := is, deadline := d }

theorem ResponseStreamCall.reads :
    Reader (I := I) cb d (.responseStream (reading cb d .startRead []))
      (fun is => .responseStream (reading cb d .readOn is)) fun is => .responseStream (reading cb d .callback is) where
  opened _ := ⟨rfl, rfl⟩
  refused _ _ := ⟨rfl, rfl⟩
  item _ _ _ := ⟨rfl, rfl⟩
  last _ _ := ⟨rfl, rfl⟩
  answer _ _ _ := rfl

def BidiCall.writing (last : Bool) (qs : List I) : BidiCall I I C :=
  { resolver := .waiting cb, step := if last then .writesDone else .writeRequest, pending := qs, writer := true,
    body := true, deadline := d }

def BidiCall.closed : BidiCall I I C := { resolver := .waiting cb, step := .openStream, body := true, deadline := d }

def BidiCall.reading (step : BidiStep) (is : List I) : BidiCall I I C :=
  { resolver := .waiting cb, step := step, responses := is, deadline := d }

theorem BidiCall.writes : Writer (I := I) d (fun last qs => .bidi (writing cb d last qs)) (.bidi (closed cb d)) where
  next _ _ _ := ⟨rfl, rfl⟩
  close last _ := by cases last <;> exact ⟨rfl, rfl⟩

theorem BidiCall.reads :
    Reader (I := I) cb d (.bidi (reading cb d .startRead [])) (fun is => .bidi (reading cb d .readOn is))
      fun is => .bidi (reading cb d .callback is) where
  opened _ := ⟨rfl, rfl⟩
  refused _ _ := ⟨rfl, rfl⟩
  item _ _ _ := ⟨rfl, rfl⟩
  last _ _ := ⟨rfl, rfl⟩
  answer _ _ _ := rfl

end

/-- Served, a call that was just started comes to its callback with the service's reply. -/
theorem leads_begun (s : Service I) (ctx : Context) (l : Launch I) (cb : C) :
    Leads s cb (s.reply l) (l.begun ctx cb) (l.first ctx) {} := by
  cases l with
  | unary q => exact .ends fun _ _ => rfl
  | requestStream qs =>
    have hw := RequestStreamCall.writes (I := I) cb ctx.deadline
    refine hw.leads false (fun ok ho => eq_of_beq ho) nofun ?_
    -- the body's answer is awaited once all requests are there
    refine .goesOn (.requestStream { resolver := .waiting cb, step := .callback, deadline := ctx.deadline }) .join
      (fun ok _ => ⟨rfl, rfl⟩) (.ends fun ok _ => rfl)
  | responseStream q =>
    exact (ResponseStreamCall.reads cb ctx.deadline).leads rfl
  | bidi qs =>
    have hw := BidiCall.writes (I := I) cb ctx.deadline
    refine hw.leads false (fun ok ho => eq_of_beq ho) nofun ?_
    refine .goesOn (.bidi (.reading cb ctx.deadline .startRead [])) .joinStream (fun ok _ => ⟨rfl, rfl⟩) ?_
    exact (BidiCall.reads cb ctx.deadline).leads rfl

/-! ## A served call -/

namespace Service

variable (s : Service I)

/-- What happens to the call is the service's doing, or nobody's but its caller's and the
    pump's. -/
def Serves (w : FarEnd I) : Touch I I C → Prop
  | .back op ok x => op.returns ok = true ∧ x = (s.serve w op).1
  | .lost _ => False
  | .start _ _ _ | .cancel | .take _ _ => True

/-- Where the service stands then. -/
def after (w : FarEnd I) : Touch I I C → FarEnd I
  | .back op _ _ => (s.serve w op).2
  | .start _ _ _ | .cancel | .lost _ | .take _ _ => w

def ServesAll : FarEnd I → List (Touch I I C) → Prop
  | _, [] => True
  | w, t :: ts => s.Serves w t ∧ ServesAll (s.after w t) ts

def afterAll (w : FarEnd I) (ts : List (Touch I I C)) : FarEnd I := ts.foldl s.after w

variable {s}

theorem servesAll_append {w : FarEnd I} {ts ts' : List (Touch I I C)} :
    s.ServesAll w (ts ++ ts') ↔ s.ServesAll w ts ∧ s.ServesAll (s.afterAll w ts) ts' := by
  induction ts generalizing w with
  | nil => exact ⟨fun h => ⟨trivial, h⟩, fun h => h.2⟩
  | cons t ts ih =>
    rw [List.cons_append, ServesAll, ServesAll, ih, and_assoc]
    rfl

end Service

namespace Round

/-- The call waits for an operation. -/
structure Underway (r : Round I I C) (cb : C) (op : Op I I) : Prop where
  waiting : r.call.machine.resolver = .waiting cb
  given : r.call.given = []
  flying : r.flying = [op]
  queued : r.queued = []

/-- The call waits for a turn to take what its operation came back with. -/
structure Due (r : Round I I C) (cb : C) (ok : Bool) (x : Payload I) : Prop where
  waiting : r.call.machine.resolver = .waiting cb
  given : r.call.given = []
  flying : r.flying = []
  queued : r.queued = [(ok, x)]

/-- The callback was given `a`, and nothing is under way any more. -/
structure Answered (r : Round I I C) (cb : C) (a : Except GrpcStatus (Answer I)) : Prop where
  spent : r.call.machine.resolver = .spent
  given : r.call.given = [(cb, a)]
  flying : r.flying = []
  queued : r.queued = []

/-- In whatever order its operations are. -/
theorem Answered.alike {r q : Round I I C} {cb : C} {a : Except GrpcStatus (Answer I)} (h : r.Answered cb a)
    (hq : r.Alike q) : q.Answered cb a := by
  refine ⟨?_, ?_, ?_, hq.queued.trans h.queued⟩
  · rw [hq.call]; exact h.spent
  · rw [hq.call]; exact h.given
  · have hf := hq.flying
    rw [h.flying] at hf
    exact hf.eq_nil

/-- The call waits, and for nothing. -/
structure Stranded (r : Round I I C) (cb : C) : Prop where
  waiting : r.call.machine.resolver = .waiting cb
  given : r.call.given = []
  flying : r.flying = []
  queued : r.queued = []

/-- A served call is under way to its callback with `a`, or has come there. -/
inductive Served (s : Service I) (cb : C) (a : Except GrpcStatus (Answer I)) (r : Round I I C) : FarEnd I → Prop
  | underway {op : Op I I} {w : FarEnd I} : r.Underway cb op → Leads s cb a r.call.machine op w → Served s cb a r w
  | due {op : Op I I} {ok : Bool} {w : FarEnd I} : r.Due cb ok (s.serve w op).1 → op.returns ok = true →
      Leads s cb a r.call.machine op w → Served s cb a r (s.serve w op).2
  | answered (w : FarEnd I) : r.Answered cb a → Served s cb a r w

variable {s : Service I} {cb : C} {a : Except GrpcStatus (Answer I)} {r r' : Round I I C} {w : FarEnd I}
  {t : Touch I I C} {ts : List (Touch I I C)} {ok : Bool} {x : Payload I} {op : Op I I}

/-- The operation that comes back is the one that the call waits for. -/
theorem Underway.back {op' : Op I I} (h : r.Underway cb op) (hs : Step r (.back op' ok x) r') :
    op' = op ∧ r'.call = r.call ∧ r'.Due cb ok x := by
  cases hs with
  | back ok x hf =>
    rcases List.append_eq_singleton_iff.mp (hf.symm.trans h.flying) with ⟨rfl, e⟩ | ⟨-, e⟩
    · cases e
      exact ⟨rfl, rfl, h.waiting, h.given, rfl, by rw [h.queued]; rfl⟩
    · cases e

theorem Underway.backs (h : r.Underway cb op) (ok : Bool) (x : Payload I) :
    ∃ r', Step r (.back op ok x) r' ∧ r'.call = r.call ∧ r'.Due cb ok x := by
  have hs := Step.back ok x (show r.flying = [] ++ op :: [] from h.flying)
  exact ⟨_, hs, (h.back hs).2⟩

/-- The operation that dies is the one that the call waits for. -/
theorem Underway.lost {op op' : Op I I} (h : r.Underway cb op) (hs : Step r (.lost op') r') :
    op' = op ∧ r'.call = r.call ∧ r'.Stranded cb := by
  cases hs with
  | lost hf =>
    rcases List.append_eq_singleton_iff.mp (hf.symm.trans h.flying) with ⟨rfl, e⟩ | ⟨-, e⟩
    · cases e
      exact ⟨rfl, rfl, h.waiting, h.given, rfl, h.queued⟩
    · cases e

/-- With nothing on its way, nothing ends or dies. -/
theorem grounded {op : Op I I} (hf : r.flying = []) :
    (∀ ok x r', ¬ Step r (.back op ok x) r') ∧ ∀ r', ¬ Step r (.lost op) r' := by
  constructor
  · intro ok x r' hs
    cases hs with
    | back ok x h => rw [hf] at h; simp at h
  · intro r' hs
    cases hs with
    | lost h => rw [hf] at h; simp at h

/-- With nothing queued, nothing is taken. -/
theorem unfed {ok : Bool} {x : Payload I} (hq : r.queued = []) (hs : Step r (.take ok x) r') : False := by
  cases hs with
  | take h => cases hq.symm.trans h

/-- The completion that is taken is the one that is due. -/
theorem Due.take {ok' : Bool} {x' : Payload I} (h : r.Due cb ok x) (hs : Step r (.take ok' x') r') :
    ok' = ok ∧ x' = x ∧ r' = { r.moved (.take ok x) with queued := [] } := by
  cases hs with
  | take hq => cases h.queued.symm.trans hq; exact ⟨rfl, rfl, rfl⟩

/-- On what was due the call ends. -/
theorem Due.ends (h : r.Due cb ok x) (ha : (r.call.machine.advance ok x).answer = some (cb, a)) :
    ({ r.moved (.take ok x) with queued := [] } : Round I I C).Answered cb a := by
  obtain ⟨hs, hp⟩ := Solo.step_some (s := r.call) (t := .take ok x) rfl
  rcases Machine.advance_waiting h.waiting ok x with ⟨-, hn, -⟩ | ⟨hk, -, -, hz⟩
  · cases hn.symm.trans ha
  · refine ⟨?_, ?_, ?_, rfl⟩
    · rw [moved, hs]; exact hk
    · rw [moved, hs, h.given, ha]; rfl
    · rw [moved, hp, h.flying, hz]; rfl

/-- Or goes on. -/
theorem Due.goesOn {m : Machine I I C} (h : r.Due cb ok x) (hm : r.call.machine.Goes ok x m op) :
    (r.moved (.take ok x)).call.machine = m ∧
      ({ r.moved (.take ok x) with queued := [] } : Round I I C).Underway cb op := by
  obtain ⟨hs, hp⟩ := Solo.step_some (s := r.call) (t := .take ok x) rfl
  rcases Machine.advance_waiting h.waiting ok x with ⟨hk, hn, -⟩ | ⟨-, -, -, hz⟩
  · refine ⟨?_, ?_, ?_, ?_, rfl⟩
    · rw [moved, hs]; exact hm.1
    · rw [moved, hs]; exact hk.trans h.waiting
    · rw [moved, hs, h.given, hn]; rfl
    · rw [moved, hp, h.flying, hm.2]; rfl
  · cases hz.symm.trans hm.2

/-- Served, the call stays served. -/
theorem Served.step (h : Served s cb a r w) (hs : Step r t r') (hv : s.Serves w t) (hc : t ≠ .cancel)
    (hk : ∀ ctx l cb, t = .start ctx l cb → r.call.machine.kind = l.kind) : Served s cb a r' (s.after w t) := by
  cases t with
  | start ctx l cb' =>
    have hst : r.call.machine.state = .called ∨ r.call.machine.state = .completed := by
      cases h with
      | underway h => exact .inl (congrArg Resolver.state h.waiting)
      | due h => exact .inl (congrArg Resolver.state h.waiting)
      | answered w h => exact .inr (congrArg Resolver.state h.spent)
    cases hs
    rw [moved_again (hk ctx l cb' rfl) hst]
    exact h
  | cancel => exact absurd rfl hc
  | lost op => exact hv.elim
  | back op' ok x =>
    obtain ⟨ho, rfl⟩ := hv
    cases h with
    | underway h hl =>
      obtain ⟨rfl, hcall, hd⟩ := h.back hs
      rw [← hcall] at hl
      exact .due hd ho hl
    | due h => cases hs with | back ok x hf => rw [h.flying] at hf; simp at hf
    | answered w h => cases hs with | back ok x hf => rw [h.flying] at hf; simp at hf
  | take ok x =>
    cases h with
    | underway h => cases hs with | take hq => cases h.queued.symm.trans hq
    | answered w h => cases hs with | take hq => cases h.queued.symm.trans hq
    | due h ho hl =>
      obtain ⟨rfl, rfl, rfl⟩ := h.take hs
      cases hl with
      | ends ha => exact .answered _ (h.ends (ha _ ho))
      | goesOn m' op' hm hl =>
        obtain ⟨hm', hu⟩ := h.goesOn (hm _ ho)
        rw [← hm'] at hl
        exact .underway hu hl

theorem Served.run (h : Served s cb a r w) (hR : Runs r ts r') (hv : s.ServesAll w ts) (hc : .cancel ∉ ts)
    (hk : ∀ ctx l cb, .start ctx l cb ∈ ts → r.call.machine.kind = l.kind) : Served s cb a r' (s.afterAll w ts) := by
  induction hR generalizing w with
  | nil => exact h
  | @cons r r₁ r' t ts hs _ ih =>
    have h₁ := h.step hs hv.1 (fun e => hc (e ▸ List.mem_cons_self))
      fun ctx l cb e => hk ctx l cb (e ▸ List.mem_cons_self)
    exact ih h₁ hv.2 (fun hm => hc (List.mem_cons_of_mem _ hm))
      fun ctx l cb hm => hs.kind.trans (hk ctx l cb (List.mem_cons_of_mem _ hm))

/-- Nothing but its start happens to a new call that is started before anything else is done
    with it. -/
theorem Runs.launched {ctx : Context} {l : Launch I} {cs : List (Cue I C)}
    (hR : Runs ⟨.fresh l.kind, [], []⟩ ts r') (hs : ts.filterMap Touch.cue? = .start ctx l cb :: cs) :
    ∃ ts', ts = .start ctx l cb :: ts' ∧ ts'.filterMap Touch.cue? = cs ∧
      Runs (moved ⟨.fresh l.kind, [], []⟩ (.start ctx l cb)) ts' r' := by
  cases hR with
  | nil => cases hs
  | @cons _ r₁ _ t ts hst hR =>
    cases hst with
    | cancel => cases hs
    | back ok x hf => simp at hf
    | lost hf => simp at hf
    | take hq => cases hq
    | start ctx' l' cb' =>
      cases hs
      exact ⟨ts, rfl, rfl, hR⟩

/-- Started, the call has its first operation under way. -/
theorem underway_begun (ctx : Context) (l : Launch I) (cb : C) :
    (moved ⟨.fresh l.kind, [], []⟩ (.start ctx l cb)).Underway cb (l.first ctx) ∧
      (moved ⟨.fresh l.kind, [], []⟩ (.start ctx l cb)).call.machine = l.begun ctx cb := by
  obtain ⟨hcall, hp⟩ := Solo.step_some (s := (.fresh l.kind : Solo I I C)) (t := .start ctx l cb)
    (Launch.start_new ctx l cb)
  refine ⟨⟨?_, ?_, ?_, rfl⟩, ?_⟩
  · rw [moved, hcall]; cases l <;> rfl
  · rw [moved, hcall]; rfl
  · rw [moved, hp]; cases l <;> rfl
  · rw [moved, hcall]

/-- A call that is started before anything else is done with it, and not cancelled, is served
    from its start on. -/
theorem Served.launched {ctx : Context} {l : Launch I} {cs : List (Cue I C)}
    (hR : Runs ⟨.fresh l.kind, [], []⟩ ts r') (hs : ts.filterMap Touch.cue? = .start ctx l cb :: cs)
    (hc : .cancel ∉ cs) (hv : s.ServesAll {} ts) (hk : ∀ ctx l' cb, .start ctx l' cb ∈ ts → l'.kind = l.kind) :
    Served s cb (s.reply l) r' (s.afterAll {} ts) := by
  obtain ⟨ts, rfl, rfl, hR⟩ := hR.launched hs
  obtain ⟨hu, hm⟩ := underway_begun ctx l cb
  have h₁ : Served s cb (s.reply l) (moved ⟨.fresh l.kind, [], []⟩ (.start ctx l cb)) {} :=
    .underway hu (by rw [hm]; exact leads_begun s ctx l cb)
  have hn : .cancel ∉ ts := fun hm => hc (List.mem_filterMap.mpr ⟨_, hm, rfl⟩)
  have hrun : Served s cb (s.reply l) r' (s.afterAll {} ts) := by
    refine h₁.run hR hv.2 hn fun ctx' l' cb' ht => ?_
    rw [hk ctx' l' cb' (List.mem_cons_of_mem _ ht), hm]
    cases l <;> rfl
  exact hrun

/-! ## The way to its end -/

/-- The operation that the call waits for comes back with what the service has for it. -/
theorem Underway.serves (h : r.Underway cb op) (s : Service I) (w : FarEnd I) :
    ∃ ok r', op.returns ok = true ∧ Step r (.back op ok (s.serve w op).1) r' ∧ r'.call = r.call ∧
      r'.Due cb ok (s.serve w op).1 := by
  obtain ⟨ok, hok⟩ : ∃ ok, op.returns ok = true := by
    cases op with
    | settled ok x => exact ⟨ok, beq_self_eq_true ok⟩
    | _ => exact ⟨true, rfl⟩
  obtain ⟨r', hs, hd⟩ := h.backs ok (s.serve w op).1
  exact ⟨ok, r', hok, hs, hd⟩

/-- What is due to the call leads it to its callback, turn after turn. -/
theorem Due.served {m : Machine I I C} (hl : Leads s cb a m op w) (hm : r.call.machine = m)
    (hd : r.Due cb ok (s.serve w op).1) (ho : op.returns ok = true) :
    ∃ ts r', Runs r ts r' ∧ (∀ t ∈ ts, t.byCaller = false) ∧ s.ServesAll (s.serve w op).2 ts ∧ r'.Answered cb a := by
  induction hl generalizing r ok with
  | ends ha =>
    subst hm
    exact ⟨[.take ok _], _, .cons (.take hd.queued) (.nil _), by simp [Touch.byCaller], ⟨trivial, trivial⟩,
      hd.ends (ha ok ho)⟩
  | goesOn m' op' hg _ ih =>
    subst hm
    obtain ⟨hm₁, hu⟩ := hd.goesOn (hg ok ho)
    -- its next operation comes back, and then the same holds of what is due then
    obtain ⟨ok₂, r₂, ho₂, hs₂, hc₂, hd₂⟩ := hu.serves s (s.serve _ _).2
    obtain ⟨ts, r', hR, hn, hv, ha⟩ := ih ((congrArg Solo.machine hc₂).trans hm₁) hd₂ ho₂
    refine ⟨.take ok _ :: .back op' ok₂ _ :: ts, r', .cons (.take hd.queued) (.cons hs₂ hR), ?_,
      ⟨trivial, ⟨ho₂, rfl⟩, hv⟩, ha⟩
    simpa [Touch.byCaller] using hn

/-- From wherever a served call stands, it can get to its callback without its caller. -/
theorem Served.arrives (h : Served s cb a r w) :
    ∃ ts r', Runs r ts r' ∧ (∀ t ∈ ts, t.byCaller = false) ∧ s.ServesAll w ts ∧ r'.Answered cb a := by
  cases h with
  | @underway op _ hu hl =>
    obtain ⟨ok, r₁, ho, hs, hc, hd⟩ := hu.serves s w
    obtain ⟨ts, r', hR, hn, hv, ha⟩ := hd.served hl (congrArg Solo.machine hc) ho
    exact ⟨.back op ok _ :: ts, r', .cons hs hR, by simpa [Touch.byCaller] using hn, ⟨⟨ho, rfl⟩, hv⟩, ha⟩
  | due hd ho hl => exact hd.served hl rfl ho
  | answered _ ha => exact ⟨[], r, .nil r, fun _ ht => absurd ht List.not_mem_nil, trivial, ha⟩

end Round

end CallPump
