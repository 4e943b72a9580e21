/-
  CallPump.Proofs.Queue.InOrder — what comes out of the completion queue, and in which order.

  However posts, operations, waits and shutdowns interleave, every operation that finishes
  queues one completion, and what was returned is the beginning of what was queued: what is
  missing is in the channel still.

  - `Ledger`: the account of the accepted posts, and of the completions. Every run keeps it
    (`Run.ledger`).
  - `Ends.next`: an answer is what the queue itself has next; what is there to wake a thread
    does not show in it.
  - `Run.minds`: when the flag is raised, a wait that has yet to look at it does not wait.
  - `Run.drains`: when the shutdown is done, the answers are what is left, and then that there
    is nothing more.
  - `completions_in_order`: all of it, for every run.
-/

import CallPump.Proofs.Queue.Shared
import Mathlib.Data.List.Forall2

namespace CallPump.SharedQueue

variable {O P : Type} {s t : SharedQueue O P} {ms ns : List (Mark O P)} {k : Nat}

/-! ## What is remembered -/

/-- The accepted posts, in order. -/
def posts (ms : List (Mark O P)) : List (Posted O) := ms.filterMap fun
  | .posted o => some o
  | _ => none

/-- The operations that finished, in order. -/
def finishes (ms : List (Mark O P)) : List (Ending P) := ms.filterMap fun
  | .finished x => some x
  | _ => none

/-- The operations that were given up. -/
def givenUp (ms : List (Mark O P)) : List Nat := ms.filterMap fun
  | .gaveUp t => some t
  | _ => none

/-- What the waits were answered with, in order. -/
def answers (ms : List (Mark O P)) : List (QueueEvent P) := ms.filterMap fun
  | .answered _ e => some e
  | _ => none

/-- The completions among the answers. -/
def returned (ms : List (Mark O P)) : List (Completion P) := (answers ms).filterMap fun
  | .ready c => some c
  | _ => none

@[simp] theorem posts_append : posts (ms ++ ns) = posts ms ++ posts ns := List.filterMap_append

@[simp] theorem finishes_append : finishes (ms ++ ns) = finishes ms ++ finishes ns := List.filterMap_append

@[simp] theorem givenUp_append : givenUp (ms ++ ns) = givenUp ms ++ givenUp ns := List.filterMap_append

@[simp] theorem answers_append : answers (ms ++ ns) = answers ms ++ answers ns := List.filterMap_append

@[simp] theorem returned_append : returned (ms ++ ns) = returned ms ++ returned ns := by
  simp only [returned, answers_append, List.filterMap_append]

/-- What is remembered says nothing of operations. -/
structure Idle (ms : List (Mark O P)) : Prop where
  posts : posts ms = []
  finishes : finishes ms = []
  givenUp : givenUp ms = []

theorem Next.idle (h : Next k s ms t) : Idle ms := by cases h <;> exact ⟨rfl, rfl, rfl⟩

/-- A wait takes from the front what it returns, and nothing else. -/
theorem Next.returns (h : Next k s ms t) : s.view.ready = returned ms ++ t.view.ready := by
  cases h with
  | take _ hch | takeLeft _ hch | wakeUp _ hch | skip _ hch | timeOut _ hch | nothingLeft _ hch =>
    rw [view, hch]
    rfl
  | _ => rfl

/-! ## The ledger -/

/-- A completion is that of an accepted post. -/
structure Stems (posts : List (Posted O)) (x : Ending P) (c : Completion P) : Prop where
  accepted : ∃ o ∈ posts, o.ticket = x.ticket ∧ o.tag = c.tag
  ok : c.ok = x.ok
  payload : c.payload = x.payload

theorem Stems.more {os : List (Posted O)} {x : Ending P} {c : Completion P} (h : Stems os x c) (os' : List (Posted O)) :
    Stems (os ++ os') x c := by
  obtain ⟨o, ho, he⟩ := h.accepted
  exact ⟨⟨o, List.mem_append_left _ ho, he⟩, h.ok, h.payload⟩

/-- The account of a run that began with nothing. -/
structure Ledger (ms : List (Mark O P)) (s : SharedQueue O P) : Prop where
  /-- Accepted posts have tickets of their own. -/
  tickets : (posts ms).map (·.ticket) = List.range s.issued
  flying : ∀ o ∈ s.inFlight, o ∈ posts ms
  /-- Each was finished, or given up, or is in flight: one of these, and once. -/
  once : ((finishes ms).map (·.ticket) ++ (givenUp ms ++ s.inFlight.map (·.ticket))).Perm (List.range s.issued)
  /-- What was returned, and then what is queued, is what the finished operations came to,
      one by one. -/
  order : List.Forall₂ (Stems (posts ms)) (finishes ms) (returned ms ++ s.view.ready)

theorem ledger_begin : Ledger [] ({} : SharedQueue O P) :=
  ⟨rfl, fun _ h => (nomatch h), .nil, .nil⟩

namespace Ledger

/-- Tickets in flight are distinct. -/
theorem ticketed (h : Ledger ms s) : s.view.Ticketed := by
  have distinct := (h.once.nodup_iff.mpr List.nodup_range)
  refine ⟨(List.nodup_append.mp (List.nodup_append.mp distinct).2.1).2.1, fun o ho => ?_⟩
  have mem : o.ticket ∈ (posts ms).map (·.ticket) := List.mem_map_of_mem (h.flying o ho)
  rw [h.tickets] at mem
  exact List.mem_range.mp mem

/-- What does not concern operations changes the account only by what it returns. -/
theorem idle (h : Ledger ms s) (hn : Idle ns) (hi : t.issued = s.issued) (hf : t.inFlight = s.inFlight)
    (hr : s.view.ready = returned ns ++ t.view.ready) : Ledger (ms ++ ns) t := by
  obtain ⟨tickets, flying, once, order⟩ := h
  have hp : posts (ms ++ ns) = posts ms := by rw [posts_append, hn.posts, List.append_nil]
  have hx : finishes (ms ++ ns) = finishes ms := by rw [finishes_append, hn.finishes, List.append_nil]
  have hg : givenUp (ms ++ ns) = givenUp ms := by rw [givenUp_append, hn.givenUp, List.append_nil]
  refine ⟨by rw [hp, hi]; exact tickets, by rw [hp, hf]; exact flying, by rw [hx, hg, hi, hf]; exact once, ?_⟩
  rw [hp, hx, returned_append, List.append_assoc, ← hr]
  exact order

theorem post (h : Ledger ms s) (tag : CallId) (op : O) :
    Ledger (ms ++ [.posted ⟨s.issued, tag, op⟩])
      (s.adopt { s.view with issued := s.issued + 1, inFlight := s.inFlight ++ [⟨s.issued, tag, op⟩] }) := by
  obtain ⟨tickets, flying, once, order⟩ := h
  have hp : posts (ms ++ [.posted ⟨s.issued, tag, op⟩]) = posts ms ++ [⟨s.issued, tag, op⟩] := posts_append
  refine ⟨?_, ?_, ?_, ?_⟩
  · rw [hp, List.map_append, tickets]
    exact List.range_succ.symm
  · intro o ho
    rw [hp]
    rcases List.mem_append.mp ho with ho | ho
    · exact List.mem_append_left _ (flying o ho)
    · exact List.mem_append_right _ ho
  · have grown := once.append_right [s.issued]
    rw [← List.range_succ] at grown
    simpa [adopt, finishes, givenUp] using grown
  · rw [hp]
    simpa [adopt, view, finishes, returned, answers] using order.imp fun _ _ hx => hx.more _

/-- The operation that ends was accepted and is accounted for apart from the others. -/
theorem accounted (h : Ledger ms s) {n : Nat} {o : Posted O} (ho : s.view.find? n = some o) :
    o ∈ posts ms ∧ o.ticket = n ∧ (∀ x ∈ (s.view.abandon n).inFlight, x ∈ posts ms) ∧
      (n :: ((finishes ms).map (·.ticket) ++ (givenUp ms ++ (s.view.abandon n).inFlight.map (·.ticket)))).Perm
        (List.range s.issued) := by
  obtain ⟨as, bs, hs, ha⟩ := Queue.abandon_split h.ticketed ho
  replace hs : s.inFlight = as ++ o :: bs := hs
  have ticket : o.ticket = n := by simpa using List.find?_some ho
  have once := h.once
  rw [hs, List.map_append, List.map_cons, ticket] at once
  refine ⟨h.flying o (by rw [hs]; exact List.mem_append_right _ List.mem_cons_self), ticket, fun x hx => ?_, ?_⟩
  · refine h.flying x ?_
    rw [hs]
    rw [ha] at hx
    exact ((List.sublist_cons_self o bs).append_left as).subset hx
  · rw [ha, List.map_append]
    simp only [← List.append_assoc] at once ⊢
    exact List.perm_middle.symm.trans once

theorem finish (h : Ledger ms s) {n : Nat} {o : Posted O} (ho : s.view.find? n = some o) (ok : Bool) (p : P) :
    Ledger (ms ++ [.finished ⟨n, ok, p⟩])
      { s.adopt (s.view.abandon n) with channel := s.channel ++ [.completion ⟨o.tag, ok, p⟩] } := by
  obtain ⟨accepted, ticket, flying, once⟩ := h.accounted ho
  have hp : posts (ms ++ [.finished ⟨n, ok, p⟩]) = posts ms := posts_append.trans (List.append_nil _)
  have hx : finishes (ms ++ [.finished ⟨n, ok, p⟩]) = finishes ms ++ [⟨n, ok, p⟩] := finishes_append
  have hg : givenUp (ms ++ [.finished ⟨n, ok, p⟩]) = givenUp ms := givenUp_append.trans (List.append_nil _)
  have stems : Stems (posts ms) ⟨n, ok, p⟩ (⟨o.tag, ok, p⟩ : Completion P) := ⟨⟨o, accepted, ticket, rfl⟩, rfl, rfl⟩
  refine ⟨by rw [hp]; exact h.tickets, by rw [hp]; exact flying, ?_, ?_⟩
  · rw [hx, hg, List.map_append, List.append_assoc]
    exact List.perm_middle.trans once
  · rw [hp, hx]
    have queued := List.rel_append h.order (.cons stems .nil)
    simpa [adopt, view, returned, answers, Parcel.completion?] using queued

theorem giveUp (h : Ledger ms s) {n : Nat} {o : Posted O} (ho : s.view.find? n = some o) :
    Ledger (ms ++ [.gaveUp n]) (s.adopt (s.view.abandon n)) := by
  obtain ⟨-, -, flying, once⟩ := h.accounted ho
  have hp : posts (ms ++ [.gaveUp n]) = posts ms := posts_append.trans (List.append_nil _)
  have hx : finishes (ms ++ [.gaveUp n]) = finishes ms := finishes_append.trans (List.append_nil _)
  have hg : givenUp (ms ++ [.gaveUp n]) = givenUp ms ++ [n] := givenUp_append
  have hr : returned (ms ++ [.gaveUp n]) = returned ms := returned_append.trans (List.append_nil _)
  refine ⟨by rw [hp]; exact h.tickets, by rw [hp]; exact flying, ?_, by rw [hp, hx, hr]; exact h.order⟩
  rw [hx, hg, List.append_assoc, ← List.append_assoc]
  refine List.perm_middle.trans ?_
  rw [List.append_assoc]
  exact once

/-- The signal ends all that is in flight. -/
theorem signal (h : Ledger ms s) (k : Nat) :
    Ledger (ms ++ s.inFlight.map fun o => .gaveUp o.ticket) ((s.adopt s.view.shutdown).put k .waking) := by
  obtain ⟨tickets, -, once, order⟩ := h
  generalize s.inFlight = os at once
  have hp : posts (ms ++ os.map fun o => (.gaveUp o.ticket : Mark O P)) = posts ms := by simp [posts]
  have hx : finishes (ms ++ os.map fun o => (.gaveUp o.ticket : Mark O P)) = finishes ms := by simp [finishes]
  have hg : givenUp (ms ++ os.map fun o => (.gaveUp o.ticket : Mark O P)) = givenUp ms ++ os.map (·.ticket) := by
    simp [givenUp]
  have hr : returned (ms ++ os.map fun o => (.gaveUp o.ticket : Mark O P)) = returned ms := by
    simp [returned, answers]
  refine ⟨by rw [hp]; exact tickets, fun _ ho => (nomatch ho), ?_, by rw [hp, hx, hr]; exact order⟩
  rw [hx, hg]
  simpa [put, adopt, view, Queue.shutdown] using once

theorem step (h : Ledger ms s) (hs : Step s ns t) : Ledger (ms ++ ns) t := by
  cases hs with
  | act k ha =>
    cases ha with
    | refuse => exact h.idle ⟨rfl, rfl, rfl⟩ rfl rfl rfl
    | post _ hq =>
      obtain ⟨-, rfl, rfl⟩ := view_post_some hq
      exact h.post _ _
    | next hn => exact h.idle hn.idle hn.frame.2.1 hn.frame.2.2 hn.returns
    | close hc =>
      cases hc with
      | already | raise => exact h.idle ⟨rfl, rfl, rfl⟩ rfl rfl rfl
      | signal => exact h.signal k
      | wake => exact h.idle ⟨rfl, rfl, rfl⟩ rfl rfl (by simp [view, put, Parcel.completion?, returned, answers])
  | env he =>
    cases he with
    | finish ok p ho => exact h.finish ho ok p
    | giveUp ho => exact h.giveUp ho
    | tick => exact h.idle ⟨rfl, rfl, rfl⟩ rfl rfl rfl

end Ledger

theorem Run.ledger (h : Run {} ms s) : Ledger ms s := by
  induction h with
  | none => exact ledger_begin
  | more _ hr ih => exact ih.step hr

/-! ## The answers -/

/-- What a wait can end with: the first completion, its time, or nothing left. -/
inductive Ends (k : Nat) (s : SharedQueue O P) : QueueEvent P → SharedQueue O P → Prop
  | ready {c : Completion P} {rest : List (Parcel P)} : s.channel = .completion c :: rest →
      Ends k s (.ready c) (s.leave k rest)
  | timeout {d : Instant} : s.standing k = .waiting d → s.channel = [] → d ≤ s.now → Ends k s .timeout (s.leave k [])
  | shutdown : s.standing k = .draining → s.channel = [] → Ends k s .shutdown (s.leave k [])

theorem Step.ends {e : QueueEvent P} (h : Step s ms t) (he : .answered k e ∈ ms) :
    ms = [.answered k e] ∧ Ends k s e t := by
  cases h with
  | act j ha =>
    cases ha with
    | refuse | post => simp at he
    | next hn =>
      cases hn with
      | take _ hch | takeLeft _ hch =>
        cases List.mem_singleton.mp he
        exact ⟨rfl, .ready hch⟩
      | timeOut hk hch hd =>
        cases List.mem_singleton.mp he
        exact ⟨rfl, .timeout hk hch hd⟩
      | nothingLeft hk hch =>
        cases List.mem_singleton.mp he
        exact ⟨rfl, .shutdown hk hch⟩
      | fault => simp at he
      | _ => cases he
    | close hc => cases hc <;> simp at he
  | env hv => cases hv <;> simp at he

/-- Whatever a wait is answered with, it is what the queue has next; only while another thread
    is in the middle of the shutdown can its time run out after the flag was raised. -/
theorem Ends.next {e : QueueEvent P} (h : Ends k s e t) (hs : Sound s) :
    s.view.next = (e, t.view) ∨ e = .timeout ∧ s.Closing ∧ t.view = s.view := by
  cases h with
  | ready hch => exact .inl (view_next_completion hch)
  | timeout hk hch =>
    rw [leave_view hch, view_next_nil hch]
    cases hc : s.closed with
    | false => exact .inl rfl
    | true =>
      refine .inr ⟨rfl, Classical.byContradiction fun hn => ?_, rfl⟩
      have wake := (hs.after ⟨hc, hn⟩).2 k _ hk
      rw [hch] at wake
      cases wake
  | shutdown hk hch =>
    rw [leave_view hch, view_next_nil hch, hs.known k (by rw [hk]; rfl)]
    exact .inl rfl

/-- Who has yet to look at the raised flag comes to no wait at the channel. -/
theorem Next.minds (h : Next k s ms t) (hc : s.closed = true) (hk : (s.standing k).waits = false) :
    (t.standing k).waits = false := by
  cases h with
  | wait _ ho => exact nomatch ho.symm.trans hc
  | sleepOn _ ho => exact nomatch ho.symm.trans hc
  | wakeUp hw => exact nomatch (congrArg Standing.waits hw).symm.trans hk
  | skip => exact hk
  | _ => exact congrArg Standing.waits (put_self s k _)

theorem Step.minds (h : Step s ms t) (hc : s.closed = true) (hk : (s.standing k).waits = false) :
    (t.standing k).waits = false ∧ .answered k .timeout ∉ ms ∧ .faulted k ∉ ms := by
  refine ⟨?_, fun he => ?_, fun hf => ?_⟩
  · cases h with
    | act j ha =>
      by_cases e : k = j
      · subst e
        cases ha with
        | refuse | post => exact hk
        | next hn => exact hn.minds hc hk
        | close hn =>
          cases hn with
          | already => exact hk
          | _ => exact congrArg Standing.waits (put_self s k _)
      · rw [ha.others e]
        exact hk
    | env hv => cases hv <;> exact hk
  · cases (h.ends he).2 with
    | timeout hw => exact nomatch (congrArg Standing.waits hw).symm.trans hk
  · cases h with
    | act j ha =>
      cases ha with
      | refuse | post => simp at hf
      | next hn =>
        cases hn with
        | fault _ ho => exact nomatch ho.symm.trans hc
        | _ => simp at hf
      | close hn => cases hn <;> simp at hf
    | env hv => cases hv <;> simp at hf

theorem Run.minds (h : Run s ms t) (hc : s.closed = true) (hk : (s.standing k).waits = false) :
    t.closed = true ∧ (t.standing k).waits = false ∧ .answered k .timeout ∉ ms ∧ .faulted k ∉ ms := by
  induction h with
  | none => exact ⟨hc, hk, List.not_mem_nil, List.not_mem_nil⟩
  | more _ hr ih =>
    obtain ⟨hc', hk', ht, hf⟩ := ih
    obtain ⟨hk'', ht', hf'⟩ := hr.minds hc' hk'
    exact ⟨hr.closed hc', hk'', fun he => (List.mem_append.mp he).elim ht ht',
      fun he => (List.mem_append.mp he).elim hf hf'⟩

/-! ## After the shutdown -/

/-- What some number of waits are answered with when so much is left, and nothing comes. -/
def drained (cs : List (Completion P)) (n : Nat) : List (QueueEvent P) :=
  (cs.take n).map .ready ++ List.replicate (n - cs.length) .shutdown

/-- One more wait takes one more of it, or finds that there is none. -/
theorem drained_next {cs : List (Completion P)} {n : Nat} {q q' : Queue O P} {e : QueueEvent P} (hq : q.closed = true)
    (hr : q.ready = cs.drop n) (hn : q.next = (e, q')) :
    drained cs (n + 1) = drained cs n ++ [e] ∧ q'.ready = cs.drop (n + 1) := by
  cases hd : cs.drop n with
  | nil =>
    have all : cs.length ≤ n := List.drop_eq_nil_iff.mp hd
    rw [Queue.next, hr.trans hd] at hn
    cases hn
    refine ⟨?_, by rw [hr, hd, List.drop_eq_nil_of_le (Nat.le_succ_of_le all)]⟩
    rw [drained, drained, List.take_of_length_le all, List.take_of_length_le (Nat.le_succ_of_le all), if_pos hq,
      Nat.succ_sub all, List.replicate_succ', List.append_assoc]
  | cons c rest =>
    have some : n < cs.length := by
      have := congrArg List.length hd
      simp only [List.length_drop, List.length_cons] at this
      omega
    rw [Queue.next, hr.trans hd] at hn
    cases hn
    rw [List.drop_eq_getElem_cons some] at hd
    cases hd
    refine ⟨?_, rfl⟩
    rw [drained, drained, Nat.sub_eq_zero_of_le (Nat.le_of_lt some), Nat.sub_eq_zero_of_le some,
      ← List.take_append_getElem some, List.map_append]
    simp

theorem Step.shut_returns (h : Step s ns t) (hs : Sound s) (hd : s.Shut) :
    posts ns = [] ∧ finishes ns = [] ∧ s.view.ready = returned ns ++ t.view.ready := by
  cases h with
  | act k ha =>
    cases ha with
    | refuse => exact ⟨rfl, rfl, rfl⟩
    | post _ hq => exact nomatch (view_post_some hq).1.symm.trans hd.1
    | next hn => exact ⟨hn.idle.posts, hn.idle.finishes, hn.returns⟩
    | close hc =>
      cases hc with
      | already => exact ⟨rfl, rfl, rfl⟩
      | raise _ ho => exact nomatch ho.symm.trans hd.1
      | signal hk | wake hk => exact absurd ⟨k, by rw [hk]; rfl⟩ hd.2
  | env he =>
    cases he with
    | finish _ _ ho =>
      rw [Queue.find?, view, (hs.after hd).1] at ho
      cases ho
    | giveUp | tick => exact ⟨rfl, rfl, rfl⟩

/-- A step answers nobody, or one wait. -/
theorem Step.one_answer (h : Step s ns t) : answers ns = [] ∨ ∃ k e, answers ns = [e] ∧ Ends k s e t := by
  cases ha : answers ns with
  | nil => exact .inl rfl
  | cons e es =>
    have mem : e ∈ answers ns := by rw [ha]; exact List.mem_cons_self
    obtain ⟨m, hm, hme⟩ := List.mem_filterMap.mp mem
    cases m with
    | answered k e' =>
      cases hme
      obtain ⟨rfl, ends⟩ := h.ends hm
      exact .inr ⟨k, e, ha.symm, ends⟩
    | _ => cases hme

/-- No operation begins or ends any more, and the waits are answered with what is left, in
    order, and after that with the shutdown. -/
theorem Run.drains (h : Run s ns t) (hs : Sound s) (hd : s.Shut) :
    t.Shut ∧ posts ns = [] ∧ finishes ns = [] ∧ answers ns = drained s.view.ready (answers ns).length ∧
      t.view.ready = s.view.ready.drop (answers ns).length := by
  induction h with
  | none => exact ⟨hd, rfl, rfl, by simp [answers, drained], rfl⟩
  | @more u v ms ns hr hstep ih =>
    obtain ⟨hu, hp, hx, ha, hv⟩ := ih
    have sound : Sound u := Run.sound hr hs
    obtain ⟨hp', hx', ret⟩ := hstep.shut_returns sound hu
    rw [posts_append, hp, hp', finishes_append, hx, hx', answers_append]
    refine ⟨hstep.shut hu, rfl, rfl, ?_⟩
    rcases hstep.one_answer with none | ⟨k, e, one, ends⟩
    · rw [returned, none] at ret
      rw [none, List.append_nil]
      exact ⟨ha, ret.symm.trans hv⟩
    · rcases ends.next sound with next | ⟨-, closing, -⟩
      · obtain ⟨he, hv'⟩ := drained_next hu.1 hv next
        rw [one, List.length_append, List.length_singleton, he, ← ha]
        exact ⟨rfl, hv'⟩
      · exact absurd closing hu.2

/-- Before the flag is raised, no wait ends with the shutdown. -/
theorem Run.closed_of_shutdown (h : Run {} ms s) (he : .shutdown ∈ answers ms) : s.closed = true := by
  induction h with
  | none => cases he
  | @more u v ms ns hr hstep ih =>
    rw [answers_append] at he
    refine hstep.closed ?_
    rcases List.mem_append.mp he with he | he
    · exact ih he
    · rcases hstep.one_answer with none | ⟨k, e, one, ends⟩
      · rw [none] at he
        cases he
      · rw [one] at he
        cases List.mem_singleton.mp he
        cases ends with
        | shutdown hk => exact (Run.sound hr sound_begin).known k (by rw [hk]; rfl)

/-- The queue is shut from the end of a shutdown on. -/
theorem Run.shut (h : Run {} ms s) (hk : .shut k ∈ ms) : s.Shut := by
  induction h with
  | none => cases hk
  | more hr hstep ih =>
    rcases List.mem_append.mp hk with hk | hk
    · exact hstep.shut (ih hk)
    · exact (Run.sound hr sound_begin).shut hstep hk

/-- In every run:
    - what was returned, and then what is queued, are the completions of the operations that
      finished, in that order; each is that of an accepted post of its own, which was not
      given up;
    - a wait is answered with what the queue has next, or, at an empty channel, when its time
      is over, be it in the middle of the shutdown;
    - no wait ends with the shutdown before the flag is raised, and who is at the channel gets
      what is queued;
    - when the flag is raised, a thread that is not at the channel does not come to wait there,
      nor does its time run out;
    - when a shutdown has ended, the waits are answered with what is left, in order, and then
      with the shutdown, and whoever has or can have the receiver is answered without more ado. -/
theorem completions_in_order (h : Run {} ms s) :
    Ledger ms s ∧
      (∀ ns t, Step s ns t → ∀ k e, .answered k e ∈ ns →
        (s.view.next = (e, t.view) ∨ e = .timeout ∧ s.Closing ∧ t.view = s.view) ∧
          (e = .timeout → s.channel = [] ∧ ∃ d, s.standing k = .waiting d ∧ d ≤ s.now)) ∧
      (s.closed = false → .shutdown ∉ answers ms) ∧
      (∀ k, (s.standing k).waits = true → s.view.ready ≠ [] → s.Answered k) ∧
      (s.closed = true → ∀ k, (s.standing k).waits = false → ∀ ns t, Run s ns t →
        (t.standing k).waits = false ∧ .answered k .timeout ∉ ns ∧ .faulted k ∉ ns) ∧
      ((∃ k, .shut k ∈ ms) → s.Shut) ∧
      (s.Shut → ∀ ns t, Run s ns t →
        t.Shut ∧ posts ns = [] ∧ finishes ns = [] ∧
          answers ns = drained s.view.ready (answers ns).length ∧
          (∀ k d, t.standing k = .waiting d → t.channel ≠ []) ∧
          ∀ k, (t.receiver = some k ∨ t.receiver = none ∧ ∃ d, t.standing k = .asking d) → t.Answered k) := by
  have sound : Sound s := Run.sound h sound_begin
  refine ⟨Run.ledger h, fun ns t hstep k e he => ?_, fun ho he => ?_, fun k => sound.answered_queued,
    fun hc k hk ns t hr => ?_, fun ⟨k, hk⟩ => Run.shut h hk, fun hd ns t hr => ?_⟩
  · have ends := (hstep.ends he).2
    refine ⟨ends.next sound, ?_⟩
    rintro rfl
    cases ends with
    | timeout hk hch hd => exact ⟨hch, _, hk, hd⟩
  · exact nomatch ho.symm.trans (Run.closed_of_shutdown h he)
  · exact (Run.minds hr hc hk).2
  · obtain ⟨ht, hp, hx, ha, -⟩ := Run.drains hr sound hd
    have sound' : Sound t := Run.sound hr sound
    refine ⟨ht, hp, hx, ha, fun k d hk => ?_, fun k hk => ?_⟩
    · exact List.ne_nil_of_mem ((sound'.after ht).2 k d hk)
    · rcases hk with hk | ⟨hr, d, hk⟩
      · exact sound'.answered_holding ht hk
      · exact sound'.answered_asking ht hr hk

/-! Two posts; a wait that has begun; the second operation finishes; another thread shuts the
    queue down, and the first operation is given up; the wait takes the completion, and a
    second one passes over what was there to wake it. -/

theorem completions_in_order_two_posts :
    let ms : List (Mark Unit Nat) :=
      [.posted ⟨0, 7, ()⟩, .posted ⟨1, 8, ()⟩, .finished ⟨1, true, 41⟩, .gaveUp 0, .shut 2,
        .answered 1 (.ready ⟨8, true, 41⟩), .answered 1 .shutdown, .refused 9]
    ∃ s, Run {} ms s ∧ Ledger ms s ∧ s.Shut := by
  intro ms
  have first : Run ({} : SharedQueue Unit Nat) [.posted ⟨0, 7, ()⟩] _ := .one (.act 0 (.post rfl rfl))
  have posted := first.more (show Step _ [.posted ⟨1, 8, ()⟩] _ from .act 0 (.post rfl rfl))
  have asking := posted.more (show Step _ [] _ from .act 1 (.next (.ask (t := 5) rfl)))
  have entered := asking.more (.act 1 (.next (.enter rfl rfl)))
  have waiting := entered.more (.act 1 (.next (.wait rfl rfl rfl)))
  have finished := waiting.more (.env (.finish (t := 1) true 41 rfl))
  have raised := finished.more (.act 2 (.close (.raise rfl rfl)))
  have signalled := raised.more (.act 2 (.close (.signal rfl)))
  have shut := signalled.more (.act 2 (.close (.wake rfl)))
  have taken := shut.more (.act 1 (.next (.take rfl rfl)))
  have again := taken.more (.act 1 (.next (.ask (t := 5) rfl)))
  have draining := (again.more (.act 1 (.next (.enter rfl rfl)))).more (.act 1 (.next (.drain rfl rfl)))
  have skipped := draining.more (.act 1 (.next (.skip rfl rfl)))
  have ended := skipped.more (.act 1 (.next (.nothingLeft rfl rfl)))
  have refused : Run _ ms _ := ended.more (show Step _ [.refused 9] _ from .act 0 (.refuse () rfl rfl))
  obtain ⟨ledger, -, -, -, -, done, -⟩ := completions_in_order refused
  exact ⟨_, refused, ledger, done ⟨2, by simp [ms]⟩⟩

end CallPump.SharedQueue
