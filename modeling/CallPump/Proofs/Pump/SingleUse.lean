/-
  CallPump.Proofs.Pump.SingleUse — how often a call can be started.

  The first start of a call is taken. As long as the call is not cancelled every other start
  is refused and changes nothing, while the call runs and when it is over. A cancelled call
  has no memory of its starts: it takes one after the other, each with a nudge that brings it
  to the pump to be let go of, and never starts anything.

  - `Tried.step`, `tried_run`: what a call has answered to its starts, by where it stands; one
    case for each thing that can happen to it, then any live run.
  - `Stay.started_once`: a call that is not cancelled is started once, and a cancelled one as
    often as it is tried.
  - `Stay.starts_twice`: the run that starts a call twice.
-/

import CallPump.Proofs.Pump.Stay

namespace CallPump

variable {Req Resp E T C : Type} {no : Outcome Unit} {as : List (Outcome Unit)}

/-! ## A call by itself -/

/-- What a call answers to a start, where `no` is its refusal. -/
def Solo.answer? (no : Outcome Unit) (s : Solo Req Resp C) : Touch Req Resp C → Option (Outcome Unit)
  | .start ctx l cb => some (if (s.machine.start true ctx l cb).isSome then .ok () else no)
  | .cancel | .back _ _ _ | .lost _ | .take _ _ => none

/-- The first start was taken, if there was one, and all others were refused. -/
def Once (no : Outcome Unit) (as : List (Outcome Unit)) : Prop := as = [] ∨ ∃ n, as = .ok () :: .replicate n no

theorem Once.taken {s : Status} (h : Once (.error s) as) : as.countP Except.isOk ≤ 1 := by
  rcases h with rfl | ⟨n, rfl⟩
  · exact Nat.zero_le 1
  · rw [List.countP_cons, List.countP_replicate]
    exact Nat.le_refl 1

/-- What the starts of a call were answered, by its resolver: once it is cancelled all are
    taken. -/
inductive Tried (no : Outcome Unit) : Resolver C → List (Outcome Unit) → Prop
  | unstarted : Tried no .fresh []
  | waiting (cb : C) (n : Nat) : Tried no (.waiting cb) (.ok () :: .replicate n no)
  | spent (n : Nat) : Tried no .spent (.ok () :: .replicate n no)
  | givenUp {as : List (Outcome Unit)} (m : Nat) : Once no as → Tried no .givenUp (as ++ .replicate m (.ok ()))

theorem Tried.refused (n : Nat) :
    (.ok () :: .replicate n no) ++ [no] = (.ok () :: .replicate (n + 1) no : List (Outcome Unit)) := by
  rw [List.replicate_succ', List.cons_append]

theorem Tried.start {s : Solo Req Resp C} (h : Tried no s.machine.resolver as) (ctx : Context) {l : Launch Req} (cb : C)
    (hk : s.machine.kind = l.kind) :
    Tried no (s.step (.start ctx l cb)).machine.resolver (as ++ (s.answer? no (.start ctx l cb)).toList) := by
  generalize hr : s.machine.resolver = r at h
  have again (hs : s.machine.state = .called ∨ s.machine.state = .completed) :
      s.step (.start ctx l cb) = s ∧ s.answer? no (.start ctx l cb) = some no := by
    have hn := Machine.start_again true ctx cb hk hs
    exact ⟨(Solo.step_none (t := .start ctx l cb) hn).1, by rw [Solo.answer?, hn]; rfl⟩
  cases h with
  | unstarted =>
    obtain ⟨v, hv, hw, -⟩ := Machine.start_fresh ctx cb hk hr
    rw [(Solo.step_some (t := .start ctx l cb) hv).1, Solo.answer?, hv, hw]
    exact .waiting cb 0
  | waiting cb' n =>
    obtain ⟨hs, ha⟩ := again (.inl (congrArg Resolver.state hr))
    rw [hs, ha, hr, Option.toList_some, refused]
    exact .waiting cb' (n + 1)
  | spent n =>
    obtain ⟨hs, ha⟩ := again (.inr (congrArg Resolver.state hr))
    rw [hs, ha, hr, Option.toList_some, refused]
    exact .spent (n + 1)
  | givenUp m h₀ =>
    have hv := Machine.start_cancelled true ctx cb hk (congrArg Resolver.state hr)
    rw [(Solo.step_some (t := .start ctx l cb) hv).1, Solo.answer?, hv, hr, List.append_assoc]
    rw [Option.isSome_some, if_pos rfl, Option.toList_some, ← List.replicate_succ']
    exact .givenUp (m + 1) h₀

theorem Tried.cancel {s : Solo Req Resp C} (h : Tried no s.machine.resolver as) :
    Tried no (s.step .cancel).machine.resolver as := by
  rw [(Solo.step_some (s := s) (t := .cancel) rfl).1]
  generalize hr : s.machine.resolver = r at h
  have givenUp (h₀ : Once no as) : Tried no (.givenUp : Resolver C) as := by
    have h := Tried.givenUp (C := C) 0 h₀
    rwa [List.replicate_zero, List.append_nil] at h
  cases h with
  | unstarted =>
    rw [(Machine.cancel_open (.inl hr)).1]
    exact givenUp (.inl rfl)
  | waiting cb n =>
    rw [(Machine.cancel_open (.inr ⟨cb, hr⟩)).1]
    exact givenUp (.inr ⟨n, rfl⟩)
  | spent n =>
    rw [(Machine.cancel_settled (.inr (congrArg Resolver.state hr))).1, hr]
    exact .spent n
  | givenUp m h₀ =>
    rw [(Machine.cancel_settled (.inl (congrArg Resolver.state hr))).1, hr]
    exact .givenUp m h₀

theorem Tried.take {s : Solo Req Resp C} (h : Tried no s.machine.resolver as) (ok : Bool) (x : Payload Resp) :
    Tried no (s.step (.take ok x)).machine.resolver as := by
  rw [(Solo.step_some (s := s) (t := .take ok x) rfl).1]
  by_cases hs : s.machine.state = .called
  · generalize hr : s.machine.resolver = r at h
    cases h with
    | waiting cb n =>
      rcases Machine.advance_waiting hr ok x with ⟨hw, -⟩ | ⟨hw, -⟩
      · rw [hw, hr]
        exact .waiting cb n
      · rw [hw]
        exact .spent n
    | unstarted => cases (congrArg Resolver.state hr).symm.trans hs
    | spent n => cases (congrArg Resolver.state hr).symm.trans hs
    | givenUp m h₀ => cases (congrArg Resolver.state hr).symm.trans hs
  · rw [Machine.advance_idle hs]
    exact h

/-- Whatever happens to a call, what it has answered goes with where it stands. -/
theorem Tried.step {s : Solo Req Resp C} (h : Tried no s.machine.resolver as) {t : Touch Req Resp C}
    (hk : ∀ ctx l cb, t = .start ctx l cb → s.machine.kind = l.kind) :
    Tried no (s.step t).machine.resolver (as ++ (s.answer? no t).toList) := by
  cases t with
  | start ctx l cb => exact h.start ctx cb (hk ctx l cb rfl)
  | cancel => exact (List.append_nil as).symm ▸ h.cancel
  | take ok x => exact (List.append_nil as).symm ▸ h.take ok x
  | back op ok x => exact (List.append_nil as).symm ▸ h
  | lost op => exact (List.append_nil as).symm ▸ h

/-! ## On a live pump -/

namespace Scene

variable {w : Scene Req Resp E T} {id : CallId} {r : Round Req Resp (Callback Resp E T)}

/-- What an event is answered that is a start of the call. -/
def answer? (w : Scene Req Resp E T) (id : CallId) : Event Req Resp E T → Option (Outcome Unit)
  | .start j ctx l cb =>
    if j = id ∧ (w.pump.get? j).any (·.machine.kind = l.kind) then some (w.pump.start j ctx l cb).1 else none
  | .create _ | .cancel _ | .finish _ _ _ | .abandon _ | .turn | .inject _ _ _ | .conclude _ | .close | .shutdown => none

/-- The call itself answers. -/
theorem answer?_eq (hw : Alive w) (hr : Beside w id r) (e : Event Req Resp E T) :
    w.answer? id e = (w.touch? id e).bind (r.call.answer? (.error (.alreadyStarted id.name))) := by
  obtain ⟨h, hb⟩ := hr.machine
  cases e with
  | start j ctx l cb =>
    rw [answer?, touch?]
    split
    · rename_i hj
      obtain ⟨rfl, -⟩ := hj
      rw [Option.bind_some, Solo.answer?, Pump.start, hb]
      simp only [hw.taking, Bool.not_false]
      cases r.call.machine.start true ctx l cb <;> rfl
    · rfl
  | cancel j =>
    rw [answer?, touch?]
    split <;> rfl
  | finish t ok x =>
    rw [answer?, touch?]
    cases w.pump.queue.find? t with
    | none => rfl
    | some o =>
      rw [Option.bind_some]
      split <;> rfl
  | abandon t =>
    rw [answer?, touch?]
    cases w.pump.queue.find? t with
    | none => rfl
    | some o =>
      rw [Option.bind_some]
      split <;> rfl
  | turn =>
    rw [answer?, touch?]
    cases w.pump.queue.ready.head? with
    | none => rfl
    | some c =>
      rw [Option.bind_some]
      split <;> rfl
  | create k => rfl
  | inject j ok x => rfl
  | conclude j => rfl
  | close => rfl
  | shutdown => rfl

/-- An event of a live run keeps what the call has answered, and its kind. -/
theorem tried_step (hw : Alive w) (hr : Beside w id r) {e : Event Req Resp E T} (he : Live w e)
    (h : Tried (.error (.alreadyStarted id.name)) r.call.machine.resolver as) :
    ∃ r', Beside (w.step e) id r' ∧ r'.call.machine.kind = r.call.machine.kind ∧
      Tried (.error (.alreadyStarted id.name)) r'.call.machine.resolver (as ++ (w.answer? id e).toList) := by
  obtain ⟨r', hp⟩ := beside_step hw hr he
  have hrun := hp.run
  have ha := answer?_eq hw hr e
  refine ⟨r', hp.beside, hrun.kind, ?_⟩
  cases ht : w.touch? id e with
  | none =>
    rw [ht] at hrun ha
    cases hrun
    rwa [ha, Option.bind_none, Option.toList_none, List.append_nil]
  | some t =>
    rw [ht] at hrun ha
    rw [ha, Option.bind_some, hrun.call]
    exact h.step fun ctx l cb hl => kind_of_touch hr (ht.trans (congrArg some hl))

theorem tried_run (es : List (Event Req Resp E T)) (hw : Alive w) (hr : Beside w id r) (he : Follows Live w es)
    (h : Tried (.error (.alreadyStarted id.name)) r.call.machine.resolver as) :
    Alive (w.run es) ∧ ∃ r', Beside (w.run es) id r' ∧ r'.call.machine.kind = r.call.machine.kind ∧
      Tried (.error (.alreadyStarted id.name)) r'.call.machine.resolver
        (as ++ gather (fun w e => (w.answer? id e).toList) w es) := by
  induction es generalizing w r as with
  | nil => exact ⟨hw, r, hr, rfl, (List.append_nil as).symm ▸ h⟩
  | cons e es ih =>
    obtain ⟨r₁, hb₁, hk₁, h₁⟩ := tried_step hw hr he.1 h
    obtain ⟨hv, r', hb, hk, h'⟩ := ih (alive_step e he.1 hw) hb₁ he.2 h₁
    refine ⟨hv, r', hb, hk.trans hk₁, ?_⟩
    rw [List.append_assoc] at h'
    exact h'

end Scene

namespace Pump

variable {p : Pump Req Resp E T} {id : CallId} {c : Call Req Resp E T} {ctx : Context} {l : Launch Req}

/-- A start is taken, and all that it does is to post a nudge. -/
def OnlyNudges (p : Pump Req Resp E T) (id : CallId) (ctx : Context) (l : Launch Req) (cb : Callback Resp E T) : Prop :=
  ∃ ticket q, p.queue.post id (.nudge false) = some (ticket, q) ∧
    p.start id ctx l cb = (.ok (), { p with queue := q }, [.run ticket id (.nudge false)])

theorem start_refuses (hg : p.get? id = some c) (hk : c.machine.kind = l.kind)
    (hs : c.machine.state = .called ∨ c.machine.state = .completed) (cb : Callback Resp E T) :
    p.start id ctx l cb = (.error (.alreadyStarted id.name), p, []) := by
  simp only [start, hg, Machine.start_again _ ctx cb hk hs]

theorem start_nudges (hc : p.queue.closed = false) (hg : p.get? id = some c) (hk : c.machine.kind = l.kind)
    (hs : c.machine.state = .cancelled) (cb : Callback Resp E T) : OnlyNudges p id ctx l cb := by
  have same : p.modify id (fun c' => ⟨c.machine, c'.handoff⟩) = p := by
    refine modify_self fun c' hc' => ?_
    cases hg.symm.trans hc'
    rfl
  refine ⟨_, _, by rw [Queue.post, if_neg (by rw [hc]; exact Bool.false_ne_true)], ?_⟩
  simp only [start, hg, Machine.start_cancelled _ ctx cb hk hs, make, same, orderAll, order, Queue.post, hc]
  rfl

end Pump

namespace Stay

open Scene (gather)

variable {k : CallKind} {t : Stay Req Resp E T k}

/-- What the starts of the call were answered, one after the other. -/
def answers (t : Stay Req Resp E T k) : List (Outcome Unit) :=
  gather (fun w e => (w.answer? t.id e).toList) t.birth t.after

/-- At most one start of the call was taken. After the first, whatever came of it, one more is
    refused and leaves the pump as it was, with nothing posted. -/
structure StartsOnce (t : Stay Req Resp E T k) : Prop where
  taken : t.answers.countP Except.isOk ≤ 1
  refused : t.answers ≠ [] → ∀ ctx l cb, l.kind = k →
    t.scene.pump.start t.id ctx l cb = (.error (.alreadyStarted t.id.name), t.scene.pump, [])

theorem tried (t : Stay Req Resp E T k) :
    t.scene.Alive ∧ ∃ m h, t.scene.pump.get? t.id = some ⟨m, h⟩ ∧ m.kind = k ∧
      Tried (.error (.alreadyStarted t.id.name)) m.resolver t.answers := by
  have h₀ : Tried (.error (.alreadyStarted t.id.name)) (Machine.new k : Machine Req Resp (Callback Resp E T)).resolver [] := by
    rw [Machine.new_resolver]
    exact .unstarted
  obtain ⟨hw, r, hb, hk, h⟩ := Scene.tried_run t.after t.alive_birth t.beside_birth t.live_parts.2 h₀
  rw [← scene_eq] at hw hb
  obtain ⟨o, hg⟩ := hb.machine
  exact ⟨hw, r.call.machine, o, hg, hk.trans (Machine.new_kind k), h⟩

/-- A call that is not cancelled was started once at most, and one more start is refused. A
    cancelled call takes every start, for nothing but a nudge: its starts were answered like
    those of a call that is started once, and from some point on all with `ok`. -/
theorem started_once (t : Stay Req Resp E T k) :
    (t.scene.pump.stateAt t.id ≠ some .cancelled → t.StartsOnce) ∧
      (t.scene.pump.stateAt t.id = some .cancelled →
        (∃ as m, Once (.error (.alreadyStarted t.id.name)) as ∧ t.answers = as ++ .replicate m (.ok ())) ∧
          ∀ ctx l cb, l.kind = k → t.scene.pump.OnlyNudges t.id ctx l cb) := by
  obtain ⟨hw, m, h, hg, hk, ht⟩ := t.tried
  rw [Pump.stateAt_some hg]
  have once (hs : m.state = .called ∨ m.state = .completed)
      (ha : Once (.error (.alreadyStarted t.id.name)) t.answers) : t.StartsOnce :=
    ⟨ha.taken, fun _ ctx l cb hl => Pump.start_refuses hg (hk.trans hl.symm) hs cb⟩
  generalize hr : m.resolver = r at ht
  have hs : m.state = r.state := congrArg Resolver.state hr
  generalize ha : t.answers = as at ht once
  cases ht with
  | unstarted =>
    refine ⟨fun _ => ⟨by rw [ha]; exact Nat.zero_le 1, fun hn => absurd ha hn⟩, fun hc => ?_⟩
    cases hs.symm.trans (Option.some.inj hc)
  | waiting cb n =>
    refine ⟨fun _ => once (.inl hs) (.inr ⟨n, rfl⟩), fun hc => ?_⟩
    cases hs.symm.trans (Option.some.inj hc)
  | spent n =>
    refine ⟨fun _ => once (.inr hs) (.inr ⟨n, rfl⟩), fun hc => ?_⟩
    cases hs.symm.trans (Option.some.inj hc)
  | givenUp n h₀ =>
    refine ⟨fun hn => absurd (congrArg some hs) hn, fun _ => ⟨⟨_, n, h₀, rfl⟩, fun ctx l cb hl => ?_⟩⟩
    exact Pump.start_nudges hw.taking hg (hk.trans hl.symm) hs cb

/-! A unary call is started twice, with nothing in between or cancelled. -/

def reply : Callback Nat Unit Nat := fun _ => { ended := .returned (.ok 0) }

def retried : Stay Nat Nat Unit Nat .unary where
  before := []
  after := [.start 1 {} (.unary 7) reply, .start 1 {} (.unary 8) reply]
  live := ⟨trivial, trivial, trivial, trivial⟩

def revived : Stay Nat Nat Unit Nat .unary where
  before := []
  after := [.start 1 {} (.unary 7) reply, .cancel 1, .start 1 {} (.unary 8) reply]
  live := ⟨trivial, trivial, trivial, trivial, trivial⟩

theorem started_once_retried :
    retried.scene.pump.stateAt 1 ≠ some .cancelled ∧ retried.answers = [.ok (), .error (.alreadyStarted "call-1")] ∧
      retried.StartsOnce := by
  have hs : retried.scene.pump.stateAt 1 = some .called := rfl
  have hn : retried.scene.pump.stateAt 1 ≠ some .cancelled := by
    rw [hs]
    nofun
  exact ⟨hn, rfl, (started_once retried).1 hn⟩

/-- Not every call is started once at most: the start of a cancelled call is taken whether or
    not it was started before. -/
theorem starts_twice : ¬ ∀ (k : CallKind) (t : Stay Nat Nat Unit Nat k), t.StartsOnce := by
  intro h
  have two : revived.answers = [.ok (), .ok ()] := rfl
  have one := (h _ revived).taken
  rw [two] at one
  exact absurd one (by decide)

/-- The nudge of the second start comes round before the operation of the first, and the pump
    lets go of a call that is not done with the queue. -/
example :
    let w := revived.scene.run [.finish 1 false .unit, .turn]
    w.freed = [1] ∧ w.pump.queue.flying 1 = [.exchange {} 7] := ⟨rfl, rfl⟩

end Stay

end CallPump
