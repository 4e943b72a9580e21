/-
  CallPump.Proofs.Pump.Held — a pump that was not shut down has hold of its open calls.

  An open call is tracked, so that a shutdown reaches it, and nothing is outstanding for a
  call that was not started, so that no completion lets go of it before that (`Running`).
  Whatever a call makes of a start, a cancel or a completion keeps this, since no move
  opens a call (`running_make`); so do the queue's operations, which post nothing
  (`running_queue`), and letting go of a call that is not open (`running_erase`).
-/

import CallPump.Proofs.Pump.Frame

namespace CallPump.Pump

variable {Req Resp E T : Type} {p : Pump Req Resp E T}

structure HeldAt (p : Pump Req Resp E T) (id : CallId) : Prop where
  tracked : ∀ s, p.stateAt id = some s → s.isOpen = true → p.tracker.contains id = true
  idle : p.stateAt id = none ∨ p.stateAt id = some .notStarted → p.queue.outstanding id = 0

structure Running (p : Pump Req Resp E T) : Prop where
  running : p.shutdownRequested = false
  ticketed : p.queue.Ticketed
  sound : p.tracker.Sound
  held : ∀ id, HeldAt p id

/-- A called call has its callback. -/
def Waits (p : Pump Req Resp E T) : Prop :=
  ∀ id c, p.get? id = some c → c.machine.state = .called → ∃ cb, c.machine.resolver = .waiting cb

theorem running_empty : Running ({} : Pump Req Resp E T) := by
  refine ⟨rfl, Queue.ticketed_empty, Tracker.sound_empty, fun id => ⟨fun s hs => ?_, fun _ => rfl⟩⟩
  cases id <;> cases hs

theorem running_make (h : Running p) {id : CallId} {b : Call Req Resp E T} (hb : p.get? id = some b)
    {m : Move (Machine Req Resp (Callback Resp E T)) Req Resp (Callback Resp E T)}
    (hm : Machine.Closes b.machine m) :
    Running (p.make id m).1 := by
  refine ⟨?_, ?_, ?_, fun j => ?_⟩
  · rw [make_shutdownRequested]; exact h.running
  · rw [make_queue]; exact Queue.ticketed_postAll h.ticketed _ _
  · rw [make_tracker]; exact h.sound
  · have hj := h.held j
    have hs := stateAt_make hb m j
    by_cases e : j = id
    · subst e
      rw [if_pos rfl] at hs
      refine ⟨fun s hs' ho => ?_, fun hn => ?_⟩
      · cases hs.symm.trans hs'
        rw [make_tracker]
        exact hj.tracked _ (stateAt_some hb) (hm.opened ho)
      · rw [hs] at hn
        rcases hn with hn | hn
        · cases hn
        · obtain ⟨hb', hp⟩ := hm.unstarted (Option.some.inj hn)
          rw [make_queue, hp]
          exact hj.idle (.inr (by rw [stateAt_some hb, hb']))
    · rw [if_neg e] at hs
      refine ⟨?_, ?_⟩
      · rw [hs, make_tracker]; exact hj.tracked
      · rw [hs, make_queue, Queue.outstanding_postAll_other _ _ e]; exact hj.idle

theorem running_queue (h : Running p) {q : Queue (Op Req Resp) (Payload Resp)} (hq : q.Ticketed)
    (ho : ∀ id, q.outstanding id ≤ p.queue.outstanding id) : Running { p with queue := q } := by
  refine ⟨h.running, hq, h.sound, fun id => ⟨(h.held id).tracked, fun hn => ?_⟩⟩
  exact Nat.le_zero.mp ((h.held id).idle hn ▸ ho id)

theorem running_resolve (h : Running p) (id : CallId) (x : Ended T) : Running (p.resolve id x) := by
  have hs := stateAt_resolve p id x
  rw [resolve_frame] at hs ⊢
  refine ⟨h.running, h.ticketed, h.sound, fun j => ⟨?_, ?_⟩⟩
  · rw [hs]; exact (h.held j).tracked
  · rw [hs]; exact (h.held j).idle

theorem running_erase (h : Running p) {id : CallId} (hn : ∀ s, p.stateAt id = some s → s.isOpen = false) :
    Running (p.release id) := by
  refine ⟨h.running, h.ticketed, h.sound.erase id, fun j => ⟨fun s hs ho => ?_, (h.held j).idle⟩⟩
  show (p.tracker.erase id).contains j = true
  rw [Tracker.contains_erase]
  by_cases e : j = id
  · subst e
    rw [hn s hs] at ho
    cases ho
  · rw [bne_iff_ne.mpr e, Bool.true_and]
    exact (h.held j).tracked s hs ho

theorem running_create (h : Running p) {k : CallKind} {id : CallId} {p' : Pump Req Resp E T}
    (hp : p.create k = some (id, p')) :
    Running p' := by
  rw [create_open h.running] at hp
  cases hp
  refine ⟨h.running, h.ticketed, h.sound.add _, fun j => ?_⟩
  have hj := h.held j
  have hg := get?_append p { machine := .new k } (p.tracker.add (p.calls.length + 1) (p.calls.length + 1)) j
  by_cases e : j = p.calls.length + 1
  · have hn : p.get? j = none := e ▸ get?_next _
    refine ⟨fun _ _ _ => ?_, fun _ => hj.idle (.inl (stateAt_none hn))⟩
    show (p.tracker.add _ _).contains j = true
    rw [Tracker.contains_add, e, beq_self_eq_true, Bool.true_or]
  · rw [if_neg e] at hg
    refine ⟨fun s hs ho => ?_, ?_⟩
    · rw [stateAt, hg] at hs
      show (p.tracker.add _ _).contains j = true
      rw [Tracker.contains_add, hj.tracked s hs ho, Bool.or_true]
    · rw [stateAt, hg]; exact hj.idle

theorem running_start (h : Running p) (id : CallId) (ctx : Context) (l : Launch Req) (cb : Callback Resp E T) :
    Running (p.start id ctx l cb).2.1 := by
  cases hb : p.get? id with
  | none => simp only [start, hb]; exact h
  | some b =>
    rw [start_fst hb]
    cases hm : b.machine.start (!p.queue.closed) ctx l cb with
    | none => exact h
    | some m => exact running_make h hb (Machine.closes_start hm)

theorem running_cancel (h : Running p) (id : CallId) : Running (p.cancel id).1 := by
  cases hb : p.get? id with
  | none => rw [cancel_none hb]; exact h
  | some b => rw [cancel_fst hb]; exact running_make h hb (Machine.closes_cancel _)

theorem running_deliver (h : Running p) (hw : Waits p) (id : CallId) (ok : Bool) (x : Payload Resp) :
    Running (p.deliver id ok x).pump := by
  cases hb : p.get? id with
  | none => rw [deliver_none hb]; exact h
  | some b => rw [(deliver_of_get? hb ok x).1]; exact running_make h hb (Machine.closes_advance (hw id b hb) ok x)

theorem running_keeping (h : Running p) {c : Completion (Payload Resp)}
    {rest : List (Completion (Payload Resp))} (hq : p.queue.ready = c :: rest) : Running (p.keeping rest) := by
  refine running_queue h ⟨h.ticketed.distinct, h.ticketed.issued⟩ fun id => ?_
  rw [Queue.outstanding_pop hq id]
  exact Nat.le_add_right _ _

/-- A completion of a call that was started. -/
theorem running_advance (h : Running p) (hw : Waits p) {c : Completion (Payload Resp)}
    (hc : ∃ s, p.stateAt c.tag = some s ∧ s ≠ .notStarted) : Running (p.dispatch c).pump := by
  obtain ⟨x, hx, hn⟩ := hc
  cases ht : p.tracker.contains c.tag with
  | false => rw [(dispatch_untracked ht).1]; exact h
  | true =>
    have hd := running_deliver h hw c.tag c.ok c.payload
    rw [(dispatch_tracked ht).1]
    split
    · rename_i hr
      refine running_erase hd fun s hs => ?_
      cases hb : p.get? c.tag with
      | none => cases (stateAt_none hb).symm.trans hx
      | some b =>
        cases (stateAt_some hb).symm.trans hx
        obtain ⟨hp, -, hf⟩ := deliver_of_get? hb c.ok c.payload
        rw [hp, stateAt_make hb, if_pos rfl] at hs
        cases hs
        rw [hf, Bool.and_eq_true] at hr
        exact Machine.advance_release (hw c.tag b hb) hn hr.1
    · exact hd

/-- What is queued is outstanding for its call, which therefore was started. -/
theorem HeldAt.started {c : Completion (Payload Resp)} (h : HeldAt p c.tag) (hc : c ∈ p.queue.ready) :
    ∃ s, p.stateAt c.tag = some s ∧ s ≠ .notStarted := by
  have ho := Nat.ne_of_gt (Queue.ready_outstanding hc)
  cases hs : p.stateAt c.tag with
  | none => exact absurd (h.idle (.inl hs)) ho
  | some s => exact ⟨s, rfl, fun e => absurd (h.idle (.inr (e ▸ hs))) ho⟩

theorem running_dispatch (h : Running p) (hw : Waits p) {c : Completion (Payload Resp)}
    {rest : List (Completion (Payload Resp))} (hq : p.queue.ready = c :: rest) :
    Running ((p.keeping rest).dispatch c).pump := by
  have hc : c ∈ p.queue.ready := by rw [hq]; exact List.mem_cons_self
  exact running_advance (p := p.keeping rest) (running_keeping h hq) hw ((h.held c.tag).started hc)

end CallPump.Pump
