/-
  CallPump.Proofs.Pump.Shutdown — a pump that is shut down, at whatever moment, and what can
  still be done with it.

  A shutdown cancels what is tracked, and every open call is (`Held`); so no call is open
  when the queue is stopped, and what is left on the queue starts no callback
  (`dispatch_settled`). From then on the pump is down (`Down`): nothing is tracked, nothing
  is under way, nothing is open. No event leads out of this (`down_step`).

  - `shutdown_is_final`: at any moment of any run, with callbacks executing or not, a
    shutdown settles every call; and after it, whatever is tried, no callback begins, no
    call is created or issued, no completion is taken and a further shutdown does nothing.
-/

import CallPump.Client
import CallPump.Proofs.Pump.Held
import CallPump.Proofs.Pump.Life

namespace CallPump

variable {Req Resp E T : Type}

/-- Cancelled and completed are final. -/
theorem CallState.GoesTo.of_settled {s t : CallState} (h : s.GoesTo t) (hs : s.isOpen = false) : t = s := by
  induction h with
  | refl => rfl
  | tail _ hm ih => subst ih; cases hm <;> cases hs

namespace Pump

variable {p : Pump Req Resp E T}

/-- No call is open. -/
def Settled (p : Pump Req Resp E T) : Prop := ∀ id s, p.stateAt id = some s → s.isOpen = false

structure Down (p : Pump Req Resp E T) : Prop where
  refused : p.shutdownRequested = true
  closed : p.queue.closed = true
  idle : p.queue.inFlight = []
  ready : p.queue.ready = []
  tracker : p.tracker = {}
  settled : Settled p

/-! ## Cancelling all -/

theorem cancel_frame (p : Pump Req Resp E T) (id : CallId) :
    (p.cancel id).1 = { p with calls := (p.cancel id).1.calls } := by
  cases hb : p.get? id with
  | none => rw [cancel_none hb]
  | some b => rw [cancel_fst hb, make_fst, Machine.cancel_posts]; rfl

theorem stateAt_cancel (p : Pump Req Resp E T) (id j : CallId) :
    (p.cancel id).1.stateAt j = (p.stateAt j).map fun s => if j = id then s.afterCancel else s := by
  cases hb : p.get? id with
  | none =>
    rw [cancel_none hb]
    by_cases e : j = id
    · subst e; rw [stateAt_none hb]; rfl
    · simp [e]
  | some b =>
    rw [cancel_fst hb, stateAt_make hb]
    by_cases e : j = id
    · subst e
      rw [stateAt_some hb]
      simp [Machine.cancel_state]
    · simp [e]

theorem cancel_each (ids : List CallId) (p : Pump Req Resp E T) :
    let q := ids.foldl (fun p id => (p.cancel id).1) p
    q = { p with calls := q.calls } ∧
      ∀ j, q.stateAt j = (p.stateAt j).map fun s => if j ∈ ids then s.afterCancel else s := by
  induction ids generalizing p with
  | nil => exact ⟨rfl, fun j => by simp⟩
  | cons id ids ih =>
    obtain ⟨hf, hs⟩ := ih (p.cancel id).1
    refine ⟨?_, fun j => ?_⟩
    · rw [List.foldl_cons, hf, cancel_frame p id]
    · rw [List.foldl_cons, hs, stateAt_cancel, Option.map_map]
      congr 1
      funext s
      by_cases e : j = id <;> by_cases e' : j ∈ ids <;> simp [e, e', CallState.afterCancel_twice]

/-- A pump that runs has hold of all that is open, so that cancelling it all settles all. -/
theorem stateAt_cancelAll (h : Running p) (j : CallId) :
    ({ p with shutdownRequested := true } : Pump Req Resp E T).cancelAll.stateAt j =
    (p.stateAt j).map CallState.afterCancel := by
  refine ((cancel_each p.tracker.refs _).2 j).trans ?_
  show (p.stateAt j).map _ = _
  cases hs : p.stateAt j with
  | none => rfl
  | some s =>
    by_cases ht : j ∈ p.tracker.refs
    · simp [ht]
    · have hn : s.isOpen = false := by
        cases ho : s.isOpen with
        | false => rfl
        | true => exact absurd ((h.sound.mem_refs j).mpr ((h.held j).tracked s hs ho)) ht
      simp [ht, CallState.afterCancel_settled hn]

/-! ## Draining -/

theorem deliver_settled (h : Settled p) (id : CallId) (ok : Bool) (x : Payload Resp) :
    (p.deliver id ok x).pump = p ∧ (p.deliver id ok x).reply = none := by
  cases hb : p.get? id with
  | none => rw [deliver_none hb]; exact ⟨rfl, rfl⟩
  | some b =>
    have hs : b.machine.state ≠ .called := fun e => by
      have := h id b.machine.state (stateAt_some hb)
      rw [e] at this
      cases this
    obtain ⟨hp, hr, -⟩ := deliver_of_get? hb ok x
    rw [hp, hr, Machine.advance_idle hs]
    exact ⟨make_done hb, rfl⟩

theorem dispatch_settled (h : Settled p) (c : Completion (Payload Resp)) :
    (p.dispatch c).reply = none ∧ ∃ t, (p.dispatch c).pump = { p with tracker := t } := by
  cases ht : p.tracker.contains c.tag with
  | false => rw [(dispatch_untracked ht).1]; exact ⟨(dispatch_untracked ht).2, p.tracker, rfl⟩
  | true =>
    obtain ⟨hp, hr, -⟩ := dispatch_tracked ht
    obtain ⟨hd, hn⟩ := deliver_settled h c.tag c.ok c.payload
    refine ⟨hr.trans hn, ?_⟩
    rw [hp, hd]
    split
    · exact ⟨_, rfl⟩
    · exact ⟨p.tracker, rfl⟩

theorem foldl_settled {A : Type} {f : Pump Req Resp E T → A → Pump Req Resp E T}
    (hf : ∀ q a, Settled q → ∃ t, f q a = { q with tracker := t }) :
    ∀ (as : List A) (q : Pump Req Resp E T), Settled q → ∃ t, as.foldl f q = { q with tracker := t } := by
  intro as
  induction as with
  | nil => intro q _; exact ⟨q.tracker, rfl⟩
  | cons a as ih =>
    intro q hq
    obtain ⟨t, ht⟩ := hf q a hq
    obtain ⟨t', ht'⟩ := ih { q with tracker := t } hq
    exact ⟨t', by rw [List.foldl_cons, ht, ht']⟩

/-- What was still queued changes nothing but the tracker. -/
theorem drain_settled (h : Settled p) :
    ∃ t, p.drain = { p with queue := { p.queue with ready := [] }, tracker := t } := by
  refine foldl_settled (fun q c hq => ?_) p.queue.ready (p.keeping []) h
  obtain ⟨hr, t, hp⟩ := dispatch_settled hq c
  refine ⟨t, ?_⟩
  simp only [hr]
  exact hp

/-! ## Shutting down -/

/-- The calls are cancelled, and what was queued is gone. -/
theorem shutdown_settles (h : Running p) :
    let q := ({ p with shutdownRequested := true } : Pump Req Resp E T).cancelAll
    Settled q ∧ q = { p with shutdownRequested := true, calls := q.calls } ∧
      p.shutdown = { q with queue := { q.queue.shutdown with ready := [] }, tracker := {} } := by
  intro q
  have settled : Settled q := fun j s hj => by
    rw [stateAt_cancelAll h, Option.map_eq_some_iff] at hj
    obtain ⟨s, -, rfl⟩ := hj
    cases s <;> rfl
  obtain ⟨t, ht⟩ := drain_settled (p := { q with queue := q.queue.shutdown }) settled
  exact ⟨settled, (cancel_each p.tracker.refs { p with shutdownRequested := true }).1, by rw [shutdown, ht]⟩

theorem shutdown_of_running (h : Running p) :
    Down p.shutdown ∧ ∀ j, p.shutdown.stateAt j = (p.stateAt j).map CallState.afterCancel := by
  obtain ⟨settled, hf, hp⟩ := shutdown_settles h
  rw [hp]
  exact ⟨⟨by rw [hf], rfl, rfl, rfl, rfl, settled⟩, stateAt_cancelAll h⟩

namespace Down

theorem create (h : Down p) (k : CallKind) : p.create k = none := create_closed h.refused k

theorem turn (h : Down p) : p.turn = .shutdown := by
  rw [Pump.turn, if_pos h.refused]

/-- A start on a handle of before takes no callback and asks the transport for nothing. -/
theorem start (h : Down p) {id : CallId} {c : Call Req Resp E T} (hc : p.get? id = some c) (ctx : Context)
    {l : Launch Req} (cb : Callback Resp E T) (hk : c.machine.kind = l.kind) :
    c.machine.resolver.takesStart cb = false ∧ (p.start id ctx l cb).2 = (p, []) := by
  have ho := h.settled id c.machine.state (stateAt_some hc)
  cases hs : c.machine.state with
  | notStarted => rw [hs] at ho; cases ho
  | called => rw [hs] at ho; cases ho
  | cancelled =>
    refine ⟨by simp [Resolver.takesStart, Resolver.begin?, show c.machine.resolver.state = _ from hs], ?_⟩
    simp only [Pump.start, hc, Machine.start_cancelled _ ctx cb hk hs, make]
    rw [modify_self fun c' hc' => by cases hc.symm.trans hc'; rfl]
    simp [orderAll, order, Queue.post, h.closed]
  | completed =>
    refine ⟨by simp [Resolver.takesStart, Resolver.begin?, show c.machine.resolver.state = _ from hs], ?_⟩
    simp only [Pump.start, hc, Machine.start_again _ ctx cb hk (.inr hs)]

theorem cancel (h : Down p) (id : CallId) : Down (p.cancel id).1 := by
  rw [cancel_frame]
  refine ⟨h.refused, h.closed, h.idle, h.ready, h.tracker, fun j s hj => ?_⟩
  change (p.cancel id).1.stateAt j = some s at hj
  rw [stateAt_cancel, Option.map_eq_some_iff] at hj
  obtain ⟨s, hs, rfl⟩ := hj
  have := h.settled j s hs
  split
  · rw [CallState.afterCancel_settled this]; exact this
  · exact this

theorem resolve (h : Down p) (id : CallId) (x : Ended T) : Down (p.resolve id x) := by
  rw [resolve_frame]
  refine ⟨h.refused, h.closed, h.idle, h.ready, h.tracker, fun j s hj => h.settled j s ?_⟩
  rw [← stateAt_resolve p id x]
  exact hj

theorem release (h : Down p) (id : CallId) : Down (p.release id) := by
  refine ⟨h.refused, h.closed, h.idle, h.ready, ?_, h.settled⟩
  show p.tracker.erase id = {}
  rw [h.tracker]
  rfl

theorem abandon (h : Down p) (t : Nat) : p.queue.abandon t = p.queue := by
  rw [Queue.abandon, h.idle, List.filter_nil, ← h.idle]

theorem finish (h : Down p) (t : Nat) (ok : Bool) (x : Payload Resp) : p.queue.finish t ok x = p.queue := by
  rw [Queue.finish, Queue.find?, h.idle]
  rfl

theorem close (h : Down p) : p.queue.shutdown = p.queue := by
  rw [Queue.shutdown, ← h.closed, ← h.idle]

end Down

end Pump

namespace Scene

variable {w : Scene Req Resp E T}

theorem waits_of_life (hl : ∀ id, w.LifeAt id) : w.pump.Waits := fun id _ hc hs =>
  ((lifeAt_some hc).mp (hl id)).waiting_of_called hs

/-! ## Every event -/

theorem start_pump (w : Scene Req Resp E T) (id : CallId) (ctx : Context) (l : Launch Req)
    (cb : Callback Resp E T) :
    (w.start id ctx l cb).pump = w.pump ∨ ∃ c, w.pump.get? id = some c ∧ c.machine.kind = l.kind ∧
      (w.start id ctx l cb).pump = (w.pump.start id ctx l cb).2.1 := by
  unfold start
  split
  · exact .inl rfl
  · rename_i c hc
    split
    · rename_i hk
      exact .inr ⟨c, hc, hk, rfl⟩
    · exact .inl rfl

theorem conclude_pump (w : Scene Req Resp E T) (id : CallId) :
    w.conclude id = w ∨ ∃ r ∈ w.replies id, (w.conclude id).pump = w.pump.resolve id r.ended ∨
      (w.conclude id).pump = (w.pump.resolve id r.ended).release id := by
  cases h : w.executing.find? (·.call == id) with
  | none => exact .inl (conclude_none h)
  | some x =>
    refine .inr ⟨x.reply, (conclude_some h).1, ?_⟩
    simp only [conclude, h, tell_pump]
    split
    · exact .inr rfl
    · exact .inl rfl

/-- A call whose callback is executing is not open. -/
theorem executing_settled {id : CallId} (hl : w.LifeAt id) {r : Reply E T} (hr : r ∈ w.replies id) {s : CallState}
    (hs : w.pump.stateAt id = some s) : s.isOpen = false := by
  cases hc : w.pump.get? id with
  | none => rw [((lifeAt_none hc).mp hl).2] at hr; cases hr
  | some c =>
    cases (Pump.stateAt_some hc).symm.trans hs
    show c.machine.resolver.state.isOpen = false
    rw [((lifeAt_some hc).mp hl).spent_of_executing hr]
    rfl

theorem running_step (hl : ∀ id, w.LifeAt id) (h : w.pump.Running) (e : Event Req Resp E T) :
    (w.step e).pump.Running ∨ (w.step e).pump.Down := by
  cases e with
  | create k =>
    refine .inl ?_
    simp only [step, create]
    cases hp : w.pump.create k with
    | none => exact h
    | some r => exact Pump.running_create h hp
  | start id ctx l cb =>
    refine .inl ?_
    rcases start_pump w id ctx l cb with hp | ⟨c, -, -, hp⟩
    · rw [step, hp]; exact h
    · rw [step, hp]; exact Pump.running_start h id ctx l cb
  | cancel id => rw [step, cancel_pump]; exact .inl (Pump.running_cancel h id)
  | finish t ok x =>
    exact .inl (Pump.running_queue h (Queue.ticketed_finish h.ticketed t ok x) fun id =>
      Nat.le_of_eq (Queue.outstanding_finish h.ticketed t ok x id))
  | abandon t =>
    exact .inl (Pump.running_queue h (Queue.ticketed_abandon h.ticketed t) (Queue.outstanding_abandon_le _ t))
  | turn =>
    rcases turn_cases w with ht | ⟨c, rest, hq, ht⟩
    · rw [step, ht]; exact .inl h
    · rw [step, ht, take_pump]; exact .inl (Pump.running_dispatch h (waits_of_life hl) hq)
  | inject id ok x => rw [step, take_pump]; exact .inl (Pump.running_deliver h (waits_of_life hl) id ok x)
  | conclude id =>
    rcases conclude_pump w id with hv | ⟨r, hr, hp | hp⟩
    · rw [step, hv]; exact .inl h
    · rw [step, hp]; exact .inl (Pump.running_resolve h id r.ended)
    · rw [step, hp]
      refine .inl (Pump.running_erase (Pump.running_resolve h id r.ended) fun s hs => ?_)
      rw [Pump.stateAt_resolve] at hs
      exact executing_settled (hl id) hr hs
  | close =>
    refine .inl (Pump.running_queue h (Queue.ticketed_shutdown _) fun id => ?_)
    exact Nat.add_le_add_right (Nat.zero_le _) _
  | shutdown => rw [step, shutdown_pump]; exact .inr (Pump.shutdown_of_running h).1

/-- Nothing is left for a second shutdown. -/
theorem shutdown_of_down (h : w.pump.Down) : w.shutdown = w := by
  have hr : w.refuse = w := by rw [refuse, ← h.refused]
  have hc : w.cancelAll = w := by rw [cancelAll, h.tracker]; rfl
  have hq : w.setQueue w.pump.queue.shutdown = w := by rw [h.close]; rfl
  have hd : w.drain = w := by rw [drain, ← h.ready, h.ready, List.foldl_nil, ← h.ready]; rfl
  rw [shutdown, hr, hc, hq, hd, ← h.tracker, show w.pump.tracker.refs = [] by rw [h.tracker]; rfl, List.append_nil]

theorem down_step (h : w.pump.Down) (e : Event Req Resp E T) : (w.step e).pump.Down := by
  cases e with
  | create k => simp only [step, create, h.create]; exact h
  | start id ctx l cb =>
    rcases start_pump w id ctx l cb with hp | ⟨c, hc, hk, hp⟩
    · rw [step, hp]; exact h
    · rw [step, hp, (h.start hc ctx cb hk).2]; exact h
  | cancel id => rw [step, cancel_pump]; exact h.cancel id
  | finish t ok x => rw [step, h.finish]; exact h
  | abandon t => rw [step, h.abandon]; exact h
  | turn => simp only [step, turn, h.turn]; exact h
  | inject id ok x => rw [step, take_pump, (Pump.deliver_settled h.settled id ok x).1]; exact h
  | conclude id =>
    rcases conclude_pump w id with hv | ⟨r, -, hp | hp⟩
    · rw [step, hv]; exact h
    · rw [step, hp]; exact h.resolve id r.ended
    · rw [step, hp]; exact (h.resolve id r.ended).release id
  | close => rw [step, h.close]; exact h
  | shutdown => rw [step, shutdown_of_down h]; exact h

/-- At any moment of any run the pump has hold of what is open, or it is down. -/
theorem standing_run (es : List (Event Req Resp E T)) :
    (({} : Scene Req Resp E T).run es).pump.Running ∨ (({} : Scene Req Resp E T).run es).pump.Down := by
  refine (run_induction (P := fun w => (∀ id, w.LifeAt id) ∧ (w.pump.Running ∨ w.pump.Down)) ?_ es {} ⟨?_, ?_⟩).2
  · rintro w e ⟨hl, h⟩
    refine ⟨fun id => (onward_step e (hl id)).life, ?_⟩
    rcases h with h | h
    · exact running_step hl h e
    · exact .inr (down_step h e)
  · exact fun id => lifeAt_run [] id
  · exact .inl Pump.running_empty

theorem down_shutdown (h : w.pump.Running ∨ w.pump.Down) :
    w.shutdown.pump.Down ∧ ∀ j, w.shutdown.pump.stateAt j = (w.pump.stateAt j).map CallState.afterCancel := by
  rcases h with h | h
  · rw [shutdown_pump]
    exact Pump.shutdown_of_running h
  · rw [shutdown_of_down h]
    refine ⟨h, fun j => ?_⟩
    cases hs : w.pump.stateAt j with
    | none => rfl
    | some s => rw [Option.map_some, CallState.afterCancel_settled (h.settled j s hs)]

/-- What is left of a call after a shutdown and anything after it. -/
theorem call_after_shutdown (es es' : List (Event Req Resp E T)) {id : CallId} {c : Call Req Resp E T}
    (hc : (({} : Scene Req Resp E T).run es).pump.get? id = some c) :
    ∃ c', ((({} : Scene Req Resp E T).run es).shutdown.run es').pump.get? id = some c' ∧
      c'.machine.state = c.machine.state.afterCancel ∧
      (({} : Scene Req Resp E T).run es).told id <+: ((({} : Scene Req Resp E T).run es).shutdown.run es').told id := by
  have hv := onward_shutdown (lifeAt_run es id)
  have hu := onward_run es' hv.life
  obtain ⟨c₁, h₁, -⟩ := hv.state c hc
  obtain ⟨c₂, h₂, hm⟩ := hu.state c₁ h₁
  have hs := (down_shutdown (standing_run es)).2 id
  rw [Pump.stateAt_some hc, Pump.stateAt_some h₁, Option.map_some, Option.some.injEq] at hs
  refine ⟨c₂, h₂, ?_, hv.told.trans hu.told⟩
  rw [← hs]
  exact hm.of_settled (by rw [hs, CallState.afterCancel_isOpen])

/-- A shutdown at any moment, with any callbacks executing, and whatever is done after it.
    To the pump it is the pump's own shutdown. Every call is settled: what was not completed
    is cancelled and its promise rejected, what was completed keeps its result, and an
    executing callback leaves its result when it ends. No callback has begun since. Nothing
    is tracked; no call can be created or issued; a turn finds the pump shut down; a start
    on a handle takes no callback, changes nothing and asks the transport for nothing; a
    further shutdown changes nothing, neither the pump nor what is remembered beside it. -/
theorem shutdown_is_final {I : Type} (es es' : List (Event I I E T)) :
    let w := ({} : Scene I I E T).run es
    let u := w.shutdown.run es'
    w.shutdown.pump = w.pump.shutdown ∧
    (∀ id c, w.pump.get? id = some c → ∃ c', u.pump.get? id = some c' ∧
      (c.machine.state ≠ .completed → c'.machine.state = .cancelled ∧ c'.handoff = .ready (.error .cancelled)) ∧
      (c.machine.state = .completed → c'.machine.state = .completed ∧
        (w.replies id = [] → c'.handoff = c.handoff) ∧ ∀ r, w.replies id = [r] →
          u.replies id = [r] ∧ c'.handoff = {} ∨ u.replies id = [] ∧ c'.handoff = .ready r.ended.outcome) ∧
      (u.replies id = [] → ∃ o, c'.handoff = .ready o) ∧
      (u.told id).countP Deed.isRan = (w.told id).countP Deed.isRan) ∧
    u.pump.tracker = {} ∧
    (∀ k, u.pump.create k = none) ∧
    (∀ plan, u.pump.issue (.ok plan) = (.failed .shutdown, u.pump, [])) ∧
    u.pump.turn = .shutdown ∧
    (∀ id c ctx l cb, u.pump.get? id = some c → c.machine.kind = l.kind →
      c.machine.resolver.takesStart cb = false ∧ (u.pump.start id ctx l cb).2 = (u.pump, [])) ∧
    u.shutdown = u ∧ u.pump.shutdown = u.pump := by
  intro w u
  have hd : u.pump.Down := run_induction (P := fun w => w.pump.Down) (fun _ e h => down_step h e) es' w.shutdown
    (down_shutdown (standing_run es)).1
  have hu : u.shutdown = u := shutdown_of_down hd
  refine ⟨shutdown_pump w, fun id c hc => ?_, hd.tracker, hd.create, fun plan => ?_, hd.turn, ?_, hu,
    by rw [← shutdown_pump, hu]⟩
  · obtain ⟨c', hc', hs, ht⟩ := call_after_shutdown es es' hc
    have hl := (lifeAt_some hc).mp (lifeAt_run es id)
    have hl' := (lifeAt_some hc').mp (onward_run es' (onward_shutdown (lifeAt_run es id)).life).life
    have ho : c'.machine.resolver.state.isOpen = false := by
      show c'.machine.state.isOpen = false
      rw [hs, CallState.afterCancel_isOpen]
    refine ⟨c', hc', fun hn => ?_, fun hn => ?_, hl'.resolved ho, ?_⟩
    · have hs' : c'.machine.state = .cancelled := hs.trans (if_neg hn)
      exact ⟨hs', (hl'.rejected_of_cancelled hs').1⟩
    · have hs' : c'.machine.state = .completed := hs.trans (if_pos hn)
      obtain ⟨hk, he, -⟩ := hl.completed_later hl' hn hs' ht
      exact ⟨hs', hk, he⟩
    · by_cases hn : c.machine.state = .completed
      · exact (hl.completed_later hl' hn (hs.trans (if_pos hn)) ht).2.2
      · rw [hl.never_ran hn]
        exact (hl'.rejected_of_cancelled (hs.trans (if_neg hn))).2
  · rw [Pump.issue, hd.create]
  · exact fun id c ctx l cb hc hk => hd.start hc ctx cb hk

end Scene

end CallPump
