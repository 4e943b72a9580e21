/-
  CallPump.Proofs.Call.Halves — a bidirectional call is a request stream, and then a response
  stream.

  The two halves of a bidirectional call are written out again in its own steps. That they
  are the halves is shown on what can be seen of them:
  - the channel of requests (`channel`): given the same requests, and completions with the
    same flags, a bidirectional call and a request stream write the same and close at the
    same point, which is what the requests and the flags alone make of it (`course`);
  - the order: nothing is read or drained while requests are pending or the writing end is
    held (`Solo.proceeds`);
  - the callback: on one transport (`Line`) a bidirectional call is given the error that a
    response stream is given, and no other, whether it reads or drains; and the same list, if
    all its requests are accepted.

  - `bidi_in_halves`: all of this.
-/

import CallPump.Proofs.Call.Line

namespace CallPump

variable {I C : Type}

/-! ## The channel of requests -/

/-- What happens on the channel. -/
inductive Wrote (I : Type) where
  /-- A request is written; whether it was accepted, once that is known. -/
  | request (q : I) (accepted : Option Bool)
  | closed

def Op.wrote : Op I I → Option Bool → List (Wrote I)
  | .write _ q, ok => [.request q ok]
  | .settled _ _, _ | .exchange _ _, _ | .openStream _ _, _ | .join, _ | .joinStream, _ | .read _, _
  | .drain _, _ => []

/-- What a call did to its channel that asked for this, and whose operations came back with
    these flags, in order. A channel that is shut can be written to, but not closed again. -/
def channel : Bool → List (Ask I I) → List Bool → List (Wrote I)
  | _, [], _ => []
  | shut, .hangUp :: as, oks => (if shut then [] else [.closed]) ++ channel true as oks
  | shut, .run op :: as, oks => op.wrote oks.head? ++ channel shut as oks.tail
  | shut, .spawn _ :: as, oks | shut, .dropStream :: as, oks => channel shut as oks

/-- What the requests that are left make of the channel, from the completion on that is
    awaited: each is written when the one before was accepted. -/
def course : List I → List Bool → List (Wrote I)
  | _, [] => []
  | _, false :: _ => [.closed]
  | [], true :: _ => [.closed]
  | q :: qs, true :: oks => .request q oks.head? :: course qs oks

/-- A channel stays as it was closed. -/
theorem course_closed {qs : List I} {oks : List Bool} (h : .closed ∈ course qs oks) (oks' : List Bool) :
    course qs (oks ++ oks') = course qs oks := by
  fun_induction course qs oks with
  | case1 => cases h
  | case2 => simp [course]
  | case3 => simp [course]
  | case4 q qs oks ih =>
    simp only [List.mem_cons, reduceCtorEq, false_or] at h
    cases oks with
    | nil => cases qs <;> cases h
    | cons ok oks =>
      rw [List.cons_append, course, ih h]
      rfl

def Ask.isWrite : Ask I I → Bool
  | .run (.write _ _) => true
  | _ => false

/-- A stream that is dropped is none of the channel's business. -/
theorem channel_drops {S : Type} (t : Touch I I C) (v : Move S I I C) (shut : Bool) (as : List (Ask I I))
    (oks : List Bool) : channel shut (t.drops v ++ as) oks = channel shut as oks := by
  cases t with
  | take ok x =>
    rw [Touch.drops]
    split <;> rfl
  | start ctx l cb => rfl
  | cancel => rfl
  | back op ok x => rfl
  | lost op => rfl

/-- Nothing happens any more on a channel that is shut and not written to. -/
theorem channel_quiet {as : List (Ask I I)} (h : ∀ a ∈ as, a.isWrite = false) (oks : List Bool) :
    channel true as oks = [] := by
  induction as generalizing oks with
  | nil => rfl
  | cons a as ih =>
    have hs := ih fun b hb => h b (List.mem_cons_of_mem _ hb)
    cases a with
    | spawn ctx => rw [channel, hs]
    | dropStream => rw [channel, hs]
    | hangUp => simp only [channel, if_true, List.nil_append, hs]
    | run op =>
      have ha := h _ List.mem_cons_self
      rw [channel, hs]
      cases op with
      | write d q => cases ha
      | settled ok x => rfl
      | exchange ctx q => rfl
      | openStream ctx q => rfl
      | join => rfl
      | joinStream => rfl
      | read d => rfl
      | drain d => rfl

namespace Machine

/-- What the call asks for while it takes the completions. -/
def asks (m : Machine I I C) : List (Bool × Payload I) → List (Ask I I)
  | [] => []
  | (ok, x) :: xs =>
    let v := m.advance ok x
    (v.cmds.map Cmd.ask ++ (.take ok x : Touch I I C).drops v) ++ asks v.next xs

/-- The call writes requests, and is through with it. -/
def Written : Machine I I C → Prop
  | .unary _ | .responseStream _ => False
  | .requestStream s => s.step = .finish ∨ s.step = .callback
  | .bidi s => s.step ≠ .writeRequest ∧ s.step ≠ .writesDone

/-- It stays so, and asks for no write. -/
theorem Written.advance {m : Machine I I C} (h : m.Written) (ok : Bool) (x : Payload I) :
    (m.advance ok x).next.Written ∧ ∀ a ∈ (m.advance ok x).cmds.map Cmd.ask, a.isWrite = false := by
  by_cases hs : m.state = .called
  · cases m with
    | unary s => exact h.elim
    | responseStream s => exact h.elim
    | requestStream s =>
      obtain ⟨r, st, qs, w, b, d⟩ := s
      replace hs : r.state = .called := hs
      rcases h with rfl | rfl
      · simp only [Machine.advance, RequestStreamCall.advance, hs, ne_eq, not_true_eq_false, if_false]
        refine ⟨.inr rfl, ?_⟩
        cases b <;> simp [RequestStreamCall.finish, Move.map, Cmd.ask, Ask.isWrite]
      · simp only [Machine.advance, RequestStreamCall.advance, hs, ne_eq, not_true_eq_false, if_false]
        rcases r.complete with ⟨r', _ | cb⟩ <;> simp [Move.done, Move.map, Written]
    | bidi s =>
      obtain ⟨r, st, qs, w, b, is, d⟩ := s
      replace hs : r.state = .called := hs
      simp only [Machine.advance, BidiCall.advance, hs, ne_eq, not_true_eq_false, if_false]
      cases st with
      | writeRequest => exact absurd rfl h.1
      | writesDone => exact absurd rfl h.2
      | openStream => cases b <;> simp [BidiCall.openStream, Move.map, Written, Cmd.ask, Ask.isWrite]
      | startRead =>
        cases x.takeOpened <;> simp [BidiCall.read, BidiCall.finish, Move.map, Written, Cmd.ask, Ask.isWrite]
      | readOn =>
        rcases x.takeItem with _ | _ | _ <;>
          simp [BidiCall.read, BidiCall.finish, Move.map, Written, Cmd.ask, Ask.isWrite]
      | callback => rcases r.complete with ⟨r', _ | cb⟩ <;> simp [Move.done, Move.map, Written]
  · rw [advance_idle hs]
    exact ⟨h, fun a ha => absurd ha List.not_mem_nil⟩

theorem Written.asks {m : Machine I I C} (h : m.Written) (xs : List (Bool × Payload I)) :
    ∀ a ∈ m.asks xs, a.isWrite = false := by
  induction xs generalizing m with
  | nil => exact fun a ha => absurd ha List.not_mem_nil
  | cons x xs ih =>
    obtain ⟨hn, hc⟩ := h.advance x.1 x.2
    intro a ha
    simp only [Machine.asks, List.mem_append] at ha
    rcases ha with (ha | ha) | ha
    · exact hc a ha
    · simp only [Touch.drops] at ha
      split at ha
      · cases List.mem_singleton.mp ha; rfl
      · cases ha
    · exact ih hn a ha

end Machine

/-- How a call writes its requests, seen on the channel: with `writing last qs` an operation
    is under way, after which `qs` are to be written. -/
structure Scribe (d : Option Instant) (writing : Bool → List I → Machine I I C) : Prop where
  next : ∀ q qs x, ((writing false (q :: qs)).advance true x).next = writing qs.isEmpty qs ∧
    ((writing false (q :: qs)).advance true x).cmds = [.post (.write d q)]
  close : ∀ last ok qs x, (ok = true → qs = []) → ((writing last qs).advance ok x).next.Written ∧
    ∃ op, ((writing last qs).advance ok x).cmds = [.hangUp, .post op] ∧ ∀ b, op.wrote b = []

/-- A scribe does what the requests and the flags make of the channel. -/
theorem Scribe.channel {d : Option Instant} {writing : Bool → List I → Machine I I C} (hs : Scribe d writing)
    (last : Bool) {qs : List I} (hl : last = true → qs = []) (op : Op I I) (xs : List (Bool × Payload I)) :
    channel false (.run op :: (writing last qs).asks xs) (xs.map (·.1)) =
      op.wrote (xs.map (·.1)).head? ++ course qs (xs.map (·.1)) := by
  induction xs generalizing last qs op with
  | nil => cases qs <;> rfl
  | cons x xs ih =>
    obtain ⟨ok, x⟩ := x
    -- the writing is over, by the last request or by a failed write
    have closes (hq : ok = true → qs = []) :
        CallPump.channel false ((writing last qs).asks ((ok, x) :: xs)) (xs.map (·.1)) = [.closed] := by
      obtain ⟨hw, op', hc, ho⟩ := hs.close last ok qs x hq
      simp only [Machine.asks, hc, List.map_cons, List.map_nil, Cmd.ask, List.cons_append, List.nil_append,
        CallPump.channel, ho, channel_drops, channel_quiet (hw.asks xs)]
      rfl
    have hop : CallPump.channel false (.run op :: (writing last qs).asks ((ok, x) :: xs)) (((ok, x) :: xs).map (·.1)) =
        op.wrote (some ok) ++ CallPump.channel false ((writing last qs).asks ((ok, x) :: xs)) (xs.map (·.1)) := rfl
    rw [hop]
    show _ = op.wrote (some ok) ++ course qs (ok :: xs.map (·.1))
    congr 1
    cases ok with
    | false => rw [closes nofun, course]
    | true =>
      cases qs with
      | nil => rw [closes fun _ => rfl, course]
      | cons q qs =>
        obtain rfl : last = false := by
          cases last with
          | false => rfl
          | true => cases hl rfl
        obtain ⟨hn, hc⟩ := hs.next q qs x
        have hw := ih qs.isEmpty List.isEmpty_iff.mp (.write d q)
        simp only [Machine.asks, hn, hc, List.map_cons, List.map_nil, Cmd.ask, List.cons_append, List.nil_append,
          CallPump.channel, channel_drops] at hw ⊢
        exact hw

theorem RequestStreamCall.scribes (cb : C) (d : Option Instant) :
    Scribe (I := I) d fun last qs => .requestStream (writing cb d last qs) where
  next _ _ _ := ⟨rfl, rfl⟩
  close last ok qs x h := by
    cases ok with
    | false => cases last <;> exact ⟨.inr rfl, _, rfl, fun _ => rfl⟩
    | true =>
      obtain rfl := h rfl
      cases last <;> exact ⟨.inl rfl, _, rfl, fun _ => rfl⟩

theorem BidiCall.scribes (cb : C) (d : Option Instant) :
    Scribe (I := I) d fun last qs => .bidi (writing cb d last qs) where
  next _ _ _ := ⟨rfl, rfl⟩
  close last ok qs x h := by
    cases ok with
    | false => cases last <;> exact ⟨⟨nofun, nofun⟩, _, rfl, fun _ => rfl⟩
    | true =>
      obtain rfl := h rfl
      cases last <;> exact ⟨⟨nofun, nofun⟩, _, rfl, fun _ => rfl⟩

/-! ## From its start on -/

theorem Solo.asked_run (s : Solo I I C) (xs : List (Bool × Payload I)) :
    (s.run (xs.map fun x => .take x.1 x.2)).asked = s.asked ++ s.machine.asks xs := by
  induction xs generalizing s with
  | nil => exact (List.append_nil _).symm
  | cons x xs ih =>
    rw [List.map_cons]
    refine (ih _).trans ?_
    rw [(Solo.step_some (t := .take x.1 x.2) rfl).1, Machine.asks, List.append_assoc]

namespace Launch

/-- A call of the launch's kind that is started with it, and takes these completions. -/
def led (l : Launch I) (ctx : Context) (cb : C) (xs : List (Bool × Payload I)) : Solo I I C :=
  ((Solo.fresh l.kind).step (.start ctx l cb)).run (xs.map fun x => .take x.1 x.2)

/-- What it did to its channel by then. -/
def wrote (l : Launch I) (ctx : Context) (cb : C) (xs : List (Bool × Payload I)) : List (Wrote I) :=
  channel false (l.led ctx cb xs).asked (xs.map (·.1))

theorem asked_led (l : Launch I) (ctx : Context) (cb : C) (xs : List (Bool × Payload I)) :
    (l.led ctx cb xs).asked =
      (if l.writes then [.spawn ctx] else []) ++ .run (l.first ctx) :: (l.begun ctx cb).asks xs := by
  rw [led, Solo.asked_run, (Solo.step_some (s := .fresh l.kind) (t := .start ctx l cb) (start_new ctx l cb)).1]
  cases l <;> rfl

/-- The requests of a request stream, and of the first half of a bidirectional call, go the
    way that the flags of the completions make for them. -/
theorem wrote_requestStream (qs : List I) (ctx : Context) (cb : C) (xs : List (Bool × Payload I)) :
    (requestStream qs).wrote ctx cb xs = course qs (xs.map (·.1)) := by
  rw [wrote, asked_led]
  exact (RequestStreamCall.scribes cb ctx.deadline).channel false nofun (.nudge true) xs

theorem wrote_bidi (qs : List I) (ctx : Context) (cb : C) (xs : List (Bool × Payload I)) :
    (bidi qs).wrote ctx cb xs = course qs (xs.map (·.1)) := by
  rw [wrote, asked_led]
  exact (BidiCall.scribes cb ctx.deadline).channel false nofun (.nudge true) xs

end Launch

/-! ## Requests before responses -/

/-- Whether the operation reads responses. -/
def Op.listens : Op I I → Bool
  | .read _ | .drain _ => true
  | .settled _ _ | .exchange _ _ | .openStream _ _ | .write _ _ | .join | .joinStream => false

/-- The writing is over: no request is left, and the writing end is given up. -/
def BidiCall.Through (s : BidiCall I I C) : Prop := s.pending = [] ∧ s.writer = false

/-- How far the writing of a bidirectional call is, by its step. -/
structure BidiCall.Orderly (s : BidiCall I I C) : Prop where
  last : s.step = .writesDone → s.pending = []
  through : s.step ≠ .writeRequest → s.step ≠ .writesDone → s.Through

namespace Solo

/-- A bidirectional call that is past its writing has asked for the channel to be closed. -/
structure Orderly (s : Solo I I C) (b : BidiCall I I C) : Prop where
  machine : s.machine = .bidi b
  orderly : b.Orderly
  hungUp : b.step ≠ .writeRequest → b.step ≠ .writesDone → .hangUp ∈ s.asked

/-- What a touch does to an orderly call: it stays orderly, and if it reads responses from
    now on then its writing is over, and the channel was closed before. -/
def Proceeds (s : Solo I I C) (t : Touch I I C) : Prop :=
  ∃ b, (s.step t).Orderly b ∧ ∀ op ∈ s.posts t, op.listens = true →
    b.Through ∧ ∃ as bs, (s.step t).asked = as ++ .run op :: bs ∧ .hangUp ∈ as

/-- The move posts one operation at most, and none that reads responses. -/
def Quiet (v : Move (Machine I I C) I I C) : Prop := v.posts = [] ∨ ∃ op, v.posts = [op] ∧ op.listens = false

theorem proceeds_quiet {s : Solo I I C} {t : Touch I I C} {v : Move (Machine I I C) I I C} {b : BidiCall I I C}
    (hv : s.move t = some v) (hm : v.next = .bidi b) (hb : b.Orderly)
    (hh : b.step ≠ .writeRequest → b.step ≠ .writesDone → .hangUp ∈ s.asked ∨ .hangUp ∈ v.cmds.map Cmd.ask)
    (hp : Quiet v) : s.Proceeds t := by
  obtain ⟨hs, hq⟩ := step_some hv
  refine ⟨b, ⟨by rw [hs]; exact hm, hb, ?_⟩, ?_⟩
  · intro h₁ h₂
    rw [hs]
    rcases hh h₁ h₂ with h | h
    · exact List.mem_append_left _ h
    · exact List.mem_append_right _ (List.mem_append_left _ h)
  · intro op ho hl
    rw [hq] at ho
    rcases hp with hp | ⟨op', hp, hf⟩
    · rw [hp] at ho; cases ho
    · rw [hp, List.mem_singleton] at ho
      rw [ho, hf] at hl
      cases hl

theorem Orderly.unmoved {s : Solo I I C} {b : BidiCall I I C} (h : s.Orderly b) {t : Touch I I C}
    (hv : s.move t = none) : s.Proceeds t := by
  obtain ⟨hs, hp⟩ := step_none hv
  refine ⟨b, by rw [hs]; exact h, ?_⟩
  intro op ho
  rw [hp] at ho
  cases ho

/-- A move of which nobody sees anything leaves the order as it is. -/
theorem Orderly.still {s : Solo I I C} {b b' : BidiCall I I C} (h : s.Orderly b) {t : Touch I I C}
    {v : Move (Machine I I C) I I C} (hv : s.move t = some v) (hm : v.next = .bidi b') (hs : b'.step = b.step)
    (hp : b.pending = [] → b'.pending = []) (hw : b.writer = false → b'.writer = false)
    (hq : Quiet v) : s.Proceeds t := by
  refine proceeds_quiet hv hm ⟨?_, ?_⟩ ?_ hq
  · intro h₁
    exact hp (h.orderly.last (hs ▸ h₁))
  · intro h₁ h₂
    obtain ⟨hn, hf⟩ := h.orderly.through (hs ▸ h₁) (hs ▸ h₂)
    exact ⟨hp hn, hw hf⟩
  · intro h₁ h₂
    exact .inl (h.hungUp (hs ▸ h₁) (hs ▸ h₂))

/-- A call past its writing reads on, or comes to an end, as before. -/
theorem Orderly.past {s : Solo I I C} {b b' : BidiCall I I C} (h : s.Orderly b) {t : Touch I I C} {op : Op I I}
    {v : Move (Machine I I C) I I C} (hv : s.move t = some v) (hm : v.next = .bidi b') (hc : v.cmds = [.post op])
    (h₁ : b.step ≠ .writeRequest) (h₂ : b.step ≠ .writesDone) (h₃ : b'.step ≠ .writesDone)
    (hp : b'.pending = b.pending) (hw : b'.writer = b.writer) : s.Proceeds t := by
  obtain ⟨hs, hq⟩ := step_some hv
  obtain ⟨hn, hf⟩ := h.orderly.through h₁ h₂
  have ht : b'.Through := ⟨hp.trans hn, hw.trans hf⟩
  refine ⟨b', ⟨by rw [hs]; exact hm, ⟨fun e => absurd e h₃, fun _ _ => ht⟩, ?_⟩, ?_⟩
  · intro _ _
    rw [hs]
    exact List.mem_append_left _ (h.hungUp h₁ h₂)
  · intro op' ho _
    obtain rfl : op' = op := by simpa [hq, Move.posts, hc, Cmd.op?] using ho
    refine ⟨ht, s.asked, t.drops v, ?_, h.hungUp h₁ h₂⟩
    rw [hs, hc]
    rfl

/-- The last request is written. -/
theorem proceeds_close {s : Solo I I C} {b : BidiCall I I C} {t : Touch I I C} (hp : b.pending = [])
    (hv : s.move t = some (b.closeWrites.map .bidi)) : s.Proceeds t := by
  refine proceeds_quiet (b := { b with writer := false, step := .openStream }) hv rfl ⟨?_, ?_⟩ ?_ (.inr ⟨_, rfl, rfl⟩)
  · intro h
    cases h
  · intro _ _
    exact ⟨hp, rfl⟩
  · intro _ _
    exact .inr List.mem_cons_self

/-- A write failed: the writing end is given up before the responses are drained. -/
theorem proceeds_abandon {s : Solo I I C} {b : BidiCall I I C} {t : Touch I I C}
    (hv : s.move t = some (b.abandonWrites.map .bidi)) : s.Proceeds t := by
  obtain ⟨hs, hq⟩ := step_some hv
  have hb : b.abandonWrites.next.Orderly := by
    constructor
    · intro h
      cases h
    · intro _ _
      exact ⟨rfl, rfl⟩
  refine ⟨b.abandonWrites.next, ⟨by rw [hs]; rfl, hb, ?_⟩, ?_⟩
  · intro _ _
    rw [hs]
    exact List.mem_append_right _ (List.mem_append_left _ List.mem_cons_self)
  · intro op ho _
    rw [hq] at ho
    cases List.mem_singleton.mp ho
    refine ⟨⟨rfl, rfl⟩, s.asked ++ [.hangUp], t.drops (b.abandonWrites.map Machine.bidi), ?_,
      List.mem_append_right _ List.mem_cons_self⟩
    rw [hs, List.append_assoc]
    rfl

/-- The next request is on its way. -/
theorem proceeds_write {s : Solo I I C} {b : BidiCall I I C} {t : Touch I I C} (hw : b.step = .writeRequest)
    (hv : s.move t = some (b.writeNext.map .bidi)) : s.Proceeds t := by
  cases hp : b.pending with
  | nil => exact proceeds_close hp (by rw [hv, BidiCall.writeNext, hp])
  | cons q qs =>
    rw [BidiCall.writeNext, hp] at hv
    refine proceeds_quiet hv rfl ⟨?_, ?_⟩ ?_ (.inr ⟨_, rfl, by cases b.writer <;> rfl⟩)
    · cases qs <;> simp [hw]
    · cases qs <;> simp [hw]
    · cases qs <;> simp [hw]

/-- Each completion keeps the order. -/
theorem Orderly.take {s : Solo I I C} {b : BidiCall I I C} (h : s.Orderly b) (ok : Bool) (x : Payload I) :
    s.Proceeds (.take ok x) := by
  have hv : s.move (.take ok x) = some ((b.advance ok x).map .bidi) := by rw [move, h.machine]; rfl
  by_cases hc : b.resolver.state = .called
  · simp only [BidiCall.advance, hc, ne_eq, not_true_eq_false, if_false] at hv
    cases hb : b.step with
    | writeRequest =>
      simp only [hb] at hv
      cases ok with
      | false => exact proceeds_abandon hv
      | true => exact proceeds_write hb hv
    | writesDone =>
      simp only [hb] at hv
      cases ok with
      | false => exact proceeds_abandon hv
      | true => exact proceeds_close (h.orderly.last hb) hv
    | openStream =>
      simp only [hb] at hv
      exact h.past hv rfl rfl (by simp [hb]) (by simp [hb]) (by rintro ⟨⟩) rfl rfl
    | startRead =>
      simp only [hb] at hv
      cases hx : x.takeOpened with
      | error e => rw [hx] at hv; exact h.past hv rfl rfl (by simp [hb]) (by simp [hb]) (by rintro ⟨⟩) rfl rfl
      | ok u => rw [hx] at hv; exact h.past hv rfl rfl (by simp [hb]) (by simp [hb]) (by rintro ⟨⟩) rfl rfl
    | readOn =>
      simp only [hb] at hv
      rcases hx : x.takeItem with e | _ | i <;> rw [hx] at hv
      · exact h.past hv rfl rfl (by simp [hb]) (by simp [hb]) (by rintro ⟨⟩) rfl rfl
      · exact h.past hv rfl rfl (by simp [hb]) (by simp [hb]) (by rintro ⟨⟩) rfl rfl
      · exact h.past hv rfl rfl (by simp [hb]) (by simp [hb]) (by rintro ⟨⟩) rfl rfl
    | callback =>
      simp only [hb] at hv
      rcases hr : b.resolver.complete with ⟨r, _ | cb⟩ <;> rw [hr] at hv
      · exact h.still hv rfl hb.symm id id (.inl rfl)
      · exact h.still hv rfl hb.symm id id (.inl rfl)
  · simp only [BidiCall.advance, hc, ne_eq, not_false_eq_true, if_true] at hv
    exact h.still hv rfl rfl id id (.inl rfl)

theorem Orderly.step {s : Solo I I C} {b : BidiCall I I C} (h : s.Orderly b) (t : Touch I I C) : s.Proceeds t := by
  cases t with
  | back op ok x => exact h.unmoved rfl
  | lost op => exact h.unmoved rfl
  | take ok x => exact h.take ok x
  | cancel =>
    obtain ⟨m, asked, given⟩ := s
    cases h.machine
    exact h.still rfl rfl rfl (fun _ => rfl) (fun _ => rfl) (.inl rfl)
  | start ctx l cb =>
    obtain ⟨m, asked, given⟩ := s
    cases h.machine
    cases l with
    | unary q => exact h.still rfl rfl rfl id id (.inl rfl)
    | requestStream qs => exact h.still rfl rfl rfl id id (.inl rfl)
    | responseStream q => exact h.still rfl rfl rfl id id (.inl rfl)
    | bidi qs =>
      obtain ⟨⟨st, c, pr⟩, step, pending, writer, body, is, d⟩ := b
      cases st with
      | notStarted =>
        refine proceeds_quiet rfl rfl ⟨?_, ?_⟩ ?_ (.inr ⟨_, rfl, rfl⟩)
        · intro e
          cases e
        · intro e
          exact absurd rfl e
        · intro e
          exact absurd rfl e
      | cancelled =>
        exact h.still rfl rfl rfl id id (.inr ⟨_, rfl, rfl⟩)
      | called => exact h.unmoved rfl
      | completed => exact h.unmoved rfl

theorem Orderly.run {s : Solo I I C} {b : BidiCall I I C} (h : s.Orderly b) (ts : List (Touch I I C)) :
    ∃ b', (s.run ts).Orderly b' := by
  induction ts generalizing s b with
  | nil => exact ⟨b, h⟩
  | cons t ts ih =>
    obtain ⟨b', h', -⟩ := h.step t
    exact ih h'

theorem Orderly.fresh : (fresh .bidi : Solo I I C).Orderly {} := by
  refine ⟨rfl, ⟨?_, ?_⟩, ?_⟩
  · intro e
    cases e
  · intro e
    exact absurd rfl e
  · intro e
    exact absurd rfl e

/-- Whatever happens to a bidirectional call, it reads and drains nothing before its requests
    are through. -/
theorem proceeds (ts : List (Touch I I C)) (t : Touch I I C) : ((fresh .bidi).run ts).Proceeds t := by
  obtain ⟨b, h⟩ := Orderly.fresh.run ts
  exact h.step t

end Solo

/-! ## The answers -/

namespace Line

variable {ℓ : Line I} {ctx : Context} {cb : C}

/-- The errors of a response stream and of a bidirectional call on the same line are the same. -/
theorem answers_error (ho : ∀ text, ℓ.opening ≠ .panics text) (qs : List I) (q : I) (e : GrpcStatus) :
    ℓ.Answers ctx (.bidi qs) cb (some (.error e)) ↔ ℓ.Answers ctx (.responseStream q) cb (some (.error e)) := by
  rw [leads_begun, leads_begun, Reply, Reply, Fate.joined_of_calm ho]
  refine exists_congr fun r => and_congr_right fun _ => ?_
  rcases r with _ | e' | is
  · rfl
  · rfl
  · -- a list is no error
    constructor <;> intro h <;> cases h

/-- With all requests accepted, so are the lists. -/
theorem answers_ok (ho : ∀ text, ℓ.opening ≠ .panics text) {qs : List I} (hq : ℓ.takes 0 qs = true) (q : I)
    (a : Answer I) :
    ℓ.Answers ctx (.bidi qs) cb (some (.ok a)) ↔ ℓ.Answers ctx (.responseStream q) cb (some (.ok a)) := by
  rw [leads_begun, leads_begun, Reply, Reply, Fate.joined_of_calm ho, hq]
  rfl

end Line

/-- A bidirectional call agrees with a request stream on what it does to its channel, reads
    nothing before that is over, and agrees with a response stream on what its callback is
    given: on the errors always, and on the lists if every request is accepted. -/
theorem bidi_in_halves (qs : List I) (q : I) (ctx : Context) (cb : C) :
    (∀ xs ys, xs.map (·.1) = ys.map (·.1) →
      (Launch.bidi qs).wrote ctx cb xs = (Launch.requestStream qs).wrote ctx cb ys ∧
        (.closed ∈ (Launch.requestStream qs).wrote ctx cb ys → ∀ zs,
          (Launch.bidi qs).wrote ctx cb (xs ++ zs) = (Launch.bidi qs).wrote ctx cb xs ∧
            (Launch.requestStream qs).wrote ctx cb (ys ++ zs) = (Launch.requestStream qs).wrote ctx cb ys)) ∧
    (∀ (ts : List (Touch I I C)) (t : Touch I I C), ∃ b : BidiCall I I C,
      (((Solo.fresh .bidi).run ts).step t).machine = .bidi b ∧
        ∀ op ∈ ((Solo.fresh .bidi).run ts).posts t, op.listens = true →
          b.pending = [] ∧ b.writer = false ∧
            ∃ as bs, (((Solo.fresh .bidi).run ts).step t).asked = as ++ .run op :: bs ∧ .hangUp ∈ as) ∧
    ∀ ℓ : Line I, (∀ text, ℓ.opening ≠ .panics text) →
      (∀ e, ℓ.Answers ctx (.bidi qs) cb (some (.error e)) ↔ ℓ.Answers ctx (.responseStream q) cb (some (.error e))) ∧
        (ℓ.takes 0 qs = true → ∀ a,
          ℓ.Answers ctx (.bidi qs) cb (some (.ok a)) ↔ ℓ.Answers ctx (.responseStream q) cb (some (.ok a))) := by
  refine ⟨?_, ?_, ?_⟩
  · intro xs ys h
    simp only [Launch.wrote_bidi, Launch.wrote_requestStream, List.map_append, h]
    refine ⟨trivial, ?_⟩
    intro hc zs
    exact ⟨course_closed hc _, course_closed hc _⟩
  · intro ts t
    obtain ⟨b, hb, hp⟩ := Solo.proceeds ts t
    refine ⟨b, hb.machine, ?_⟩
    intro op hop hl
    obtain ⟨⟨hn, hw⟩, has⟩ := hp op hop hl
    exact ⟨hn, hw, has⟩
  · intro ℓ ho
    constructor
    · intro e
      exact Line.answers_error ho qs q e
    · intro hq a
      exact Line.answers_ok ho hq q a

/-- Two requests are written and accepted, and the one response is read. -/
theorem bidi_in_halves_oneResponse :
    let ℓ : Line Nat :=
      ⟨fun _ => true, .hangs, .comes (.ok ()), fun n => if n = 0 then .comes (some (.ok 7)) else .comes none⟩
    (∀ text, ℓ.opening ≠ .panics text) ∧ ℓ.takes 0 [1, 2] = true ∧
      ℓ.Answers {} (.bidi [1, 2]) () (some (.ok (.many [7]))) := by
  intro ℓ
  have ho : ∀ text, ℓ.opening ≠ .panics text := nofun
  have hr : ℓ.Answers {} (.responseStream 1) () (some (.ok (.many [7]))) :=
    (Line.leads_begun _).mpr ⟨some (.ok [7]), .read rfl (.more rfl (.atEnd rfl)), rfl⟩
  exact ⟨ho, rfl, (((bidi_in_halves [1, 2] 1 {} ()).2.2 ℓ ho).2 rfl _).mpr hr⟩

end CallPump
