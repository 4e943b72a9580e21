/-
  CallPump.Proofs.Handoff — what is seen of one future, whatever is done with the pair.

  The holder of a pair sets or drops the promise, drops the future, tries to take, polls
  and waits, in any order and any number of times. A wait takes the future along: one that
  begins while the promise is held blocks, and ends when the promise is set or dropped.

  The promise is set or dropped once, and that decides what there is to see (`Act.outcome?`).
  Everything seen before is pending. Afterwards the first who looks at the future sees the
  outcome, unchanged (`Watch.reader?`). The outcome is then gone from the future: who tries to
  take is told that the promise was dropped, also when it was set, and a poll or a wait
  panics (`Stale`).

  - `Fresh.step`, `Fresh.decided`, `Loaded.step`, `Over.step`: the three parts of a run.
  - `Watch.sights_of_pair`: what is seen along any run.
  - `taken_reads_as_dropped`: a promise that was set reads as dropped.
  - `setFromThread_eq`: a wait that another thread ends.
-/

import CallPump.Bench.Halves
import Mathlib.Data.List.Basic

namespace CallPump.Bench

variable {T : Type}

inductive Act (T : Type) where
  | set (o : Outcome T)
  | dropPromise
  | dropFuture
  | tryTake
  | poll
  | wait

namespace Act

/-- What an act on the promise has in store for the future. -/
def outcome? : Act T → Option (Outcome T)
  | .set o => some o
  | .dropPromise => some (.error .promiseDropped)
  | _ => none

/-- It looks at the future. -/
def looks : Act T → Bool
  | .tryTake | .poll | .wait => true
  | _ => false

def onFuture (b : Act T) : Bool := b.outcome?.isNone

end Act

structure Watch (T : Type) where
  halves : Halves T := Halves.new {}
  /-- A wait has begun, and holds the future. -/
  waiting : Bool := false
  /-- Who looked, and what was there to see. -/
  seen : List (Act T × Sight T) := []

namespace Watch

def withPair (w : Watch T) (p : Handoff T) : Watch T := { w with halves := { w.halves with handoff := p } }

def free (w : Watch T) : Bool := w.halves.inHand && !w.waiting

def look (w : Watch T) (b : Act T) (r : Halves T × Sight T) : Watch T :=
  { halves := r.1, seen := w.seen ++ [(b, r.2)] }

/-- A wait ends once the promise is gone. -/
def settle (w : Watch T) : Watch T := if w.waiting && !w.halves.hasPromise then w.look .wait w.halves.wait else w

/-- Nothing can be done with a future that is not in hand, or that a wait holds. -/
def step (w : Watch T) : Act T → Watch T
  | .set o => { w with halves := (w.halves.set o).1 }.settle
  | .dropPromise => { w with halves := w.halves.dropPromise.1 }.settle
  | .dropFuture => if w.free then { w with halves := w.halves.dropFuture.1 } else w
  | .tryTake => if w.free then w.look .tryTake w.halves.tryTake else w
  | .poll => if w.free then w.look .poll w.halves.poll else w
  | .wait => if w.free then { w with waiting := true }.settle else w

def run (acts : List (Act T)) : Watch T := acts.foldl step {}

/-- Who sees the outcome of a promise that is set or dropped at `w`: the wait that has begun,
    or who looks first in what comes next, unless the future is dropped before. -/
def reader? (w : Watch T) (next : List (Act T)) : Option (Act T) :=
  if w.waiting then some .wait
  else if w.halves.inHand then (next.find? (·.onFuture)).filter (·.looks)
  else none

end Watch

open Watch

/-- What is seen of a future that has given its outcome away. -/
def Stale (x : Act T × Sight T) : Prop :=
  x = (.tryTake, .outcome (.error .promiseDropped)) ∨
    (x.1 = .poll ∨ x.1 = .wait) ∧ x.2 = .panic Halves.calledAfterComplete

/-! ## Before -/

/-- The promise is held. -/
structure Fresh (w : Watch T) : Prop where
  held : w.halves.handoff.promise = .held
  empty : w.halves.handoff.stored = none
  unread : w.halves.inHand → w.halves.handoff.future = .unread
  inHand : w.waiting → w.halves.inHand
  pending : ∀ x ∈ w.seen, x.2 = .pending

/-- The promise is gone, and the future has the outcome `o`. -/
structure Loaded (o : Outcome T) (w : Watch T) : Prop where
  free : w.free
  gone : w.halves.handoff.promise ≠ .held
  unread : w.halves.handoff.future = .unread
  stored : w.halves.handoff.stored.getD (.error .promiseDropped) = o

/-- The promise is gone, and so is the outcome. -/
structure Over (w : Watch T) : Prop where
  idle : w.waiting = false
  gone : w.halves.handoff.promise ≠ .held
  spent : w.halves.inHand → w.halves.handoff.future = .spent

namespace Watch

variable {w : Watch T}

theorem settle_idle (h : w.waiting = false) : w.settle = w := by simp [settle, h]

theorem settle_held (h : w.halves.handoff.promise = .held) : w.settle = w := by simp [settle, Halves.hasPromise, h]

theorem free_iff : w.free ↔ w.halves.inHand = true ∧ w.waiting = false := by simp [free]

theorem step_busy (h : ¬w.free) {b : Act T} (hb : b.onFuture) : w.step b = w := by
  cases b <;> first | exact if_neg h | cases hb

end Watch

namespace Fresh

variable {w : Watch T} {b : Act T}

theorem start : Fresh ({} : Watch T) := by constructor <;> simp [Halves.new, Halves.replace]

theorem look (h : Fresh w) (hf : w.free) : w.halves.look = (w.halves, .pending) := by
  simp [Halves.look, Handoff.look, h.unread (free_iff.mp hf).1, h.empty, h.held, Halves.sightOf]

theorem looked (h : Fresh w) (b : Act T) : Fresh (w.look b (w.halves, .pending)) where
  held := h.held
  empty := h.empty
  unread := h.unread
  inHand := nofun
  pending x hx := by
    rcases List.mem_append.mp hx with hx | hx
    · exact h.pending x hx
    · rw [List.mem_singleton.mp hx]

/-- As long as the promise is held, all that is seen is pending. -/
theorem step (h : Fresh w) (hb : b.onFuture) : Fresh (w.step b) := by
  by_cases hf : w.free
  case neg => rwa [step_busy hf hb]
  have ⟨hi, hw⟩ := free_iff.mp hf
  cases b with
  | set | dropPromise => cases hb
  | dropFuture =>
    rw [Watch.step, if_pos hf, Halves.dropFuture, if_pos hi]
    exact ⟨h.held, rfl, nofun, by simp [hw], h.pending⟩
  | tryTake =>
    rw [Watch.step, if_pos hf, Halves.tryTake, if_pos hi, h.look hf]
    exact h.looked _
  | poll =>
    have hc : w.halves.handoff.canPoll := by simp [Handoff.canPoll, h.unread hi]
    rw [Watch.step, if_pos hf, Halves.poll, hi, hc, h.look hf]
    exact h.looked _
  | wait =>
    have hs : ({ w with waiting := true } : Watch T).settle = { w with waiting := true } := settle_held h.held
    rw [Watch.step, if_pos hf, hs]
    exact ⟨h.held, h.empty, h.unread, fun _ => hi, h.pending⟩

theorem run (h : Fresh w) {acts : List (Act T)} (ha : ∀ b ∈ acts, b.onFuture) : Fresh (acts.foldl Watch.step w) := by
  induction acts generalizing w with
  | nil => exact h
  | cons b acts ih =>
    rw [List.forall_mem_cons] at ha
    exact ih (h.step ha.1) ha.2

end Fresh

/-! ## After -/

namespace Over

variable {w : Watch T}

/-- What is seen from `w` on to `w'` is stale. -/
def Since (w w' : Watch T) : Prop := ∃ later, w'.seen = w.seen ++ later ∧ ∀ x ∈ later, Stale x

theorem Since.refl (w : Watch T) : Since w w := ⟨[], by simp, by simp⟩

theorem Since.trans {w w' w'' : Watch T} (h : Since w w') (h' : Since w' w'') : Since w w'' := by
  obtain ⟨l, hs, hl⟩ := h
  obtain ⟨l', hs', hl'⟩ := h'
  refine ⟨l ++ l', by rw [hs', hs, List.append_assoc], fun x hx => ?_⟩
  rcases List.mem_append.mp hx with hx | hx
  · exact hl x hx
  · exact hl' x hx

theorem Since.look {b : Act T} {r : Halves T × Sight T} (h : Stale (b, r.2)) : Since w (w.look b r) :=
  ⟨[(b, r.2)], rfl, by simpa using h⟩

/-- On the promise nothing can be done any more. -/
theorem step_promise (hw : w.waiting = false) (hp : w.halves.handoff.promise ≠ .held) {b : Act T}
    (hb : ¬b.onFuture) : w.step b = w := by
  have hn : w.halves.hasPromise = false := by simp [Halves.hasPromise, hp]
  cases b with
  | set o =>
    have h : w.halves.set o = (w.halves, none) := by simp [Halves.set, hn]
    rw [Watch.step, h]
    exact settle_idle hw
  | dropPromise =>
    have h : w.halves.dropPromise.1 = w.halves := by simp [Halves.dropPromise, Handoff.dropPromise, hp]
    rw [Watch.step, h]
    exact settle_idle hw
  | dropFuture | tryTake | poll | wait => exact absurd rfl hb

theorem step (h : Over w) (b : Act T) : Over (w.step b) ∧ Since w (w.step b) := by
  by_cases hb : b.onFuture
  case neg =>
    rw [step_promise h.idle h.gone hb]
    exact ⟨h, .refl w⟩
  by_cases hf : w.free
  case neg =>
    rw [step_busy hf hb]
    exact ⟨h, .refl w⟩
  have ⟨hi, hw⟩ := free_iff.mp hf
  have hs := h.spent hi
  have hn : w.halves.hasPromise = false := by simp [Halves.hasPromise, h.gone]
  have hpoll : w.halves.poll = (w.halves, .panic Halves.calledAfterComplete) := by
    simp [Halves.poll, hi, Handoff.canPoll, hs]
  cases b with
  | set | dropPromise => cases hb
  | dropFuture =>
    rw [Watch.step, if_pos hf, Halves.dropFuture, if_pos hi]
    exact ⟨⟨hw, h.gone, by simp⟩, .refl w⟩
  | tryTake =>
    have hl : w.halves.handoff.look = (w.halves.handoff, .outcome (.error .promiseDropped)) := by
      simp [Handoff.look, hs]
    rw [Watch.step, if_pos hf, Halves.tryTake, if_pos hi, Halves.look, hl]
    exact ⟨⟨rfl, h.gone, h.spent⟩, .look (.inl rfl)⟩
  | poll =>
    rw [Watch.step, if_pos hf, hpoll]
    exact ⟨⟨rfl, h.gone, h.spent⟩, .look (.inr ⟨.inl rfl, rfl⟩)⟩
  | wait =>
    rw [Watch.step, if_pos hf, Watch.settle]
    simp only [hn, Bool.not_false, Bool.and_self, if_true, Halves.wait, Bool.false_eq_true, if_false, hpoll]
    exact ⟨⟨rfl, h.gone, fun h => Bool.noConfusion h⟩, .look (.inr ⟨.inr rfl, rfl⟩)⟩

/-- Without the future there is nothing to see. -/
theorem run_gone (h : Over w) (hi : w.halves.inHand = false) (acts : List (Act T)) :
    acts.foldl Watch.step w = w := by
  have hs (b : Act T) : w.step b = w := by
    by_cases hb : b.onFuture
    · exact step_busy (by simp [free_iff, hi]) hb
    · exact step_promise h.idle h.gone hb
  induction acts with
  | nil => rfl
  | cons b acts ih => rwa [List.foldl_cons, hs]

theorem run (h : Over w) (acts : List (Act T)) : Since w (acts.foldl Watch.step w) := by
  induction acts generalizing w with
  | nil => exact .refl w
  | cons b acts ih => exact (h.step b).2.trans (ih (h.step b).1)

end Over

/-! ## The look that sees the outcome -/

namespace Loaded

variable {w : Watch T} {o : Outcome T}

theorem look (h : Loaded o w) :
    ∃ g, w.halves.look = (g, .outcome o) ∧ g.handoff.promise ≠ .held ∧ g.handoff.future = .spent := by
  have hl : w.halves.handoff.look = ({ w.halves.handoff with future := .spent, stored := none }, .outcome o) := by
    rw [← h.stored]
    cases hs : w.halves.handoff.stored <;> simp [Handoff.look, h.unread, h.gone, hs]
  exact ⟨{ w.halves with handoff := { w.halves.handoff with future := .spent, stored := none } },
    by rw [Halves.look, hl]; rfl, h.gone, rfl⟩

/-- The first look sees the outcome and takes it. -/
theorem step (h : Loaded o w) {b : Act T} (hb : b.looks) :
    Over (w.step b) ∧ (w.step b).seen = w.seen ++ [(b, .outcome o)] := by
  obtain ⟨g, hl, hg, hs⟩ := h.look
  have hi := (free_iff.mp h.free).1
  have hn : w.halves.hasPromise = false := by simp [Halves.hasPromise, h.gone]
  have hpoll : w.halves.poll = (g, .outcome o) := by simp [Halves.poll, hi, Handoff.canPoll, h.unread, hl]
  cases b with
  | set | dropPromise | dropFuture => cases hb
  | tryTake =>
    rw [Watch.step, if_pos h.free, Halves.tryTake, if_pos hi, hl]
    exact ⟨⟨rfl, hg, fun _ => hs⟩, rfl⟩
  | poll =>
    rw [Watch.step, if_pos h.free, hpoll]
    exact ⟨⟨rfl, hg, fun _ => hs⟩, rfl⟩
  | wait =>
    rw [Watch.step, if_pos h.free, Watch.settle]
    simp only [hn, Bool.not_false, Bool.and_self, if_true, Halves.wait, Bool.false_eq_true, if_false, hpoll]
    exact ⟨⟨rfl, hg, fun h => Bool.noConfusion h⟩, rfl⟩

theorem run (h : Loaded o w) (acts : List (Act T)) :
    ∃ later, (acts.foldl Watch.step w).seen =
        w.seen ++ ((w.reader? acts).map fun b => (b, Sight.outcome o)).toList ++ later ∧
      (∀ x ∈ later, Stale x) ∧ (w.reader? acts = none → later = []) := by
  have ⟨hi, hw⟩ := free_iff.mp h.free
  simp only [reader?, hw, hi, if_true, Bool.false_eq_true, if_false]
  induction acts with
  | nil => exact ⟨[], by simp, by simp, fun _ => rfl⟩
  | cons b acts ih =>
    by_cases hb : b.onFuture
    case neg => rwa [List.foldl_cons, Over.step_promise hw h.gone hb, List.find?_cons_of_neg hb]
    rw [List.foldl_cons, List.find?_cons_of_pos hb]
    by_cases hl : b.looks
    case pos =>
      obtain ⟨ho, hs⟩ := h.step hl
      obtain ⟨later, hr, hx⟩ := ho.run acts
      exact ⟨later, by rw [hr, hs, Option.filter_some_pos hl]; rfl, hx, by simp [hl]⟩
    case neg =>
      have hd : w.step b = { w with halves := w.halves.dropFuture.1 } := by
        cases b with
        | set | dropPromise => cases hb
        | tryTake | poll | wait => exact absurd rfl hl
        | dropFuture => exact if_pos h.free
      have hover : Over (w.step b) := by
        rw [hd, Halves.dropFuture, if_pos hi]
        exact ⟨hw, h.gone, by simp⟩
      have hgone : (w.step b).halves.inHand = false := by rw [hd, Halves.dropFuture, if_pos hi]
      exact ⟨[], by rw [hover.run_gone hgone, hd]; simp [hl], by simp, fun _ => rfl⟩

end Loaded

/-- What setting or dropping the promise makes of the pair. -/
theorem Fresh.decided {w : Watch T} (h : Fresh w) {b : Act T} {o : Outcome T} (hb : b.outcome? = some o) :
    ∃ p : Handoff T, w.step b = (w.withPair p).settle ∧
      p.promise ≠ .held ∧ (w.halves.inHand → p.future = .unread ∧ p.stored.getD (.error .promiseDropped) = o) := by
  cases b with
  | tryTake | poll | wait | dropFuture => cases hb
  | dropPromise =>
    cases hb
    refine ⟨{ w.halves.handoff with promise := .dropped }, ?_, by simp, fun hi => ⟨h.unread hi, by rw [h.empty]; rfl⟩⟩
    rw [Watch.step, Halves.dropPromise, Handoff.dropPromise, if_pos h.held, withPair]
  | set o =>
    cases hb
    have hs : (w.halves.set o).1 = { w.halves with handoff := (w.halves.handoff.set o).1 } := by
      simp [Halves.set, Halves.hasPromise, h.held]
    refine ⟨(w.halves.handoff.set o).1, by rw [Watch.step, hs, withPair], ?_, fun hi => ?_⟩
    · rw [Handoff.set, if_pos h.held]
      split <;> simp
    · simp [Handoff.set, h.held, h.unread hi]

/-- All that is seen of a future, along every run in which its promise is set or dropped
    (`a`). What was seen before is pending. Then who looks first sees the
    outcome as it was set, or that the promise was dropped, unless the future is dropped
    before, and then nobody sees anything. All later looks are stale. -/
theorem Watch.sights_of_pair {pre : List (Act T)} (post : List (Act T)) {a : Act T} {o : Outcome T}
    (hpre : ∀ b ∈ pre, b.outcome? = none) (ha : a.outcome? = some o) :
    let w := run pre
    (∀ x ∈ w.seen, x.2 = .pending) ∧
    ∃ later, (run (pre ++ a :: post)).seen =
        w.seen ++ ((w.reader? post).map fun b => (b, Sight.outcome o)).toList ++ later ∧
      (∀ x ∈ later, Stale x) ∧ (w.reader? post = none → later = []) := by
  intro w
  have hw : Fresh w := Fresh.start.run fun b hb => by rw [Act.onFuture, hpre b hb]; rfl
  refine ⟨hw.pending, ?_⟩
  obtain ⟨p, hstep, hp, hload⟩ := hw.decided ha
  have hrun : run (pre ++ a :: post) = post.foldl step (w.step a) := by rw [run, List.foldl_append]; rfl
  rw [hrun, hstep]
  let v := w.withPair p
  by_cases hwait : w.waiting
  · -- the wait that has begun takes the future along, and ends at once
    have hi := hw.inHand hwait
    have hl : Loaded o { v with waiting := false } := ⟨free_iff.mpr ⟨hi, rfl⟩, hp, (hload hi).1, (hload hi).2⟩
    have hs : ({ v with waiting := false } : Watch T).step .wait = v.settle := by
      rw [step, if_pos hl.free]
      exact congrArg settle (by rw [← hwait]; rfl)
    obtain ⟨ho, hseen⟩ := hl.step (b := .wait) rfl
    rw [hs] at ho hseen
    obtain ⟨later, hr, hx⟩ := ho.run post
    refine ⟨later, ?_, hx, by simp [reader?, hwait]⟩
    rw [hr, hseen, reader?, if_pos hwait]
    rfl
  · have hidle : w.waiting = false := by simpa using hwait
    have hv : v.waiting = false := hidle
    rw [settle_idle hv]
    by_cases hi : w.halves.inHand
    · have hl : Loaded o v := ⟨free_iff.mpr ⟨hi, hidle⟩, hp, (hload hi).1, (hload hi).2⟩
      exact hl.run post
    · have hgone : v.halves.inHand = false := by simpa [v, withPair] using hi
      have ho : Over v := ⟨hidle, hp, by simp [hgone]⟩
      exact ⟨[], by rw [ho.run_gone hgone]; simp [reader?, hwait, hi, v, withPair], by simp, fun _ => rfl⟩

/-- Two takes after a poll that came too early. -/
theorem sights_of_pair_taken_twice :
    (∀ b ∈ [Act.poll], b.outcome? = (none : Option (Outcome Nat))) ∧
      (Act.set (.ok 7)).outcome? = some (.ok 7 : Outcome Nat) ∧
      ∃ later, (run ([.poll] ++ .set (.ok 7) :: [.dropPromise, .tryTake, .tryTake])).seen =
          [(.poll, .pending), (.tryTake, .outcome (.ok 7))] ++ later ∧ ∀ x ∈ later, Stale (T := Nat) x := by
  have hpre : ∀ b ∈ [Act.poll], b.outcome? = (none : Option (Outcome Nat)) := by simp [Act.outcome?]
  obtain ⟨-, later, hs, hl, -⟩ := sights_of_pair [.dropPromise, .tryTake, .tryTake] hpre (a := .set (.ok 7)) rfl
  exact ⟨hpre, rfl, later, hs, hl⟩

/-- The promise was set and never dropped, and yet the second take is told that it was
    dropped, and a poll panics. -/
theorem taken_reads_as_dropped :
    (run (T := Nat) [.set (.ok 7), .tryTake, .tryTake, .poll]).seen =
      [(.tryTake, .outcome (.ok 7)), (.tryTake, .outcome (.error .promiseDropped)),
        (.poll, .panic Halves.calledAfterComplete)] := rfl

/-- A wait that has begun ends like one that another thread's setting ends. -/
theorem Fresh.setFromThread_eq {w : Watch T} (h : Fresh w) (hw : w.waiting) (o : Outcome T) :
    ∃ s b, w.halves.setFromThread o = ((w.step (.set o)).halves, some (s, b)) ∧
      (w.step (.set o)).seen = w.seen ++ [(.wait, s)] := by
  have hi := h.inHand hw
  have hs : w.halves.handoff.set o = ({ w.halves.handoff with promise := .used, stored := some o }, true) := by
    simp [Handoff.set, h.held, h.unread hi]
  refine ⟨.outcome o, true, ?_⟩
  simp [Halves.setFromThread, Watch.step, settle, Halves.set, Halves.hasPromise, h.held, hi, hs, hw, h.unread hi,
    Halves.wait, Halves.poll, Halves.look, Handoff.look, Halves.sightOf, Handoff.canPoll, Watch.look]

end CallPump.Bench
