/-
  CallPump.Proofs.Pump.Frame — what each operation of a pump touches.

  An operation on one call changes that call, posts under that call's handle and leaves
  every other call alone (`get?_make`, `make_fst`). Starting, cancelling and delivering are
  moves of the call they are about (`start_fst`, `cancel_fst`, `deliver_of_get?`); a
  dispatch is a delivery, after which a call without a callback to run is let go of
  (`dispatch_tracked`); creating appends one fresh call (`create_open`).
-/

import CallPump.Proofs.Call.Moves
import CallPump.Proofs.Queue
import CallPump.Pump

namespace CallPump

/-- The handoff of a call after a move that may reject its promise. -/
def Handoff.rejected {T : Type} (h : Handoff T) : Option Status → Handoff T
  | some s => (h.set (.error s)).1
  | none => h

@[simp] theorem Handoff.rejected_none {T : Type} (h : Handoff T) : h.rejected none = h := rfl

namespace Pump

variable {Req Resp E T : Type}

/-! ## One call among all -/

theorem get?_zero (p : Pump Req Resp E T) : p.get? 0 = none := rfl

theorem get?_succ (p : Pump Req Resp E T) (n : Nat) : p.get? (n + 1) = p.calls[n]? := if_neg (Nat.succ_ne_zero n)

/-- The handle that the next call gets. -/
theorem get?_next (p : Pump Req Resp E T) : p.get? (p.calls.length + 1) = none := by
  rw [get?_succ, List.getElem?_eq_none (Nat.le_refl _)]

theorem exists_get?_of_mem {p : Pump Req Resp E T} {c : Call Req Resp E T} (h : c ∈ p.calls) :
    ∃ id, p.get? id = some c := by
  obtain ⟨i, hi, rfl⟩ := List.getElem_of_mem h
  exact ⟨i + 1, by rw [get?_succ]; exact List.getElem?_eq_getElem hi⟩

def stateAt (p : Pump Req Resp E T) (id : CallId) : Option CallState := (p.get? id).map (·.machine.state)

theorem stateAt_some {p : Pump Req Resp E T} {id : CallId} {c : Call Req Resp E T} (h : p.get? id = some c) :
    p.stateAt id = some c.machine.state := by
  rw [stateAt, h]
  rfl

theorem stateAt_none {p : Pump Req Resp E T} {id : CallId} (h : p.get? id = none) : p.stateAt id = none := by
  rw [stateAt, h]
  rfl

theorem get?_modify (p : Pump Req Resp E T) (id : CallId) (f : Call Req Resp E T → Call Req Resp E T)
    (j : CallId) :
    (p.modify id f).get? j = if j = id then (p.get? j).map f else p.get? j := by
  cases id with
  | zero =>
    cases j with
    | zero => rfl
    | succ n => simp [modify]
  | succ i =>
    cases j with
    | zero => simp [get?_zero]
    | succ n =>
      rw [get?_succ, get?_succ]
      simp only [modify, Nat.succ_ne_zero, if_false, List.getElem?_modify, Nat.succ_sub_one, Nat.succ.injEq]
      by_cases e : n = i
      · subst e; simp
      · simp [e, Ne.symm e]

theorem modify_frame (p : Pump Req Resp E T) (id : CallId) (f : Call Req Resp E T → Call Req Resp E T) :
    p.modify id f = { p with calls := (p.modify id f).calls } := by
  unfold modify
  split <;> rfl

theorem modify_self {p : Pump Req Resp E T} {id : CallId} {f : Call Req Resp E T → Call Req Resp E T}
    (h : ∀ c, p.get? id = some c → f c = c) : p.modify id f = p := by
  have hc : (p.modify id f).calls = p.calls := by
    apply List.ext_getElem?
    intro i
    have hi := get?_modify p id f (i + 1)
    rw [get?_succ, get?_succ] at hi
    rw [hi]
    split
    · rename_i e
      cases hg : p.calls[i]? with
      | none => rfl
      | some c => rw [Option.map_some, h c (by rw [← e, get?_succ, hg])]
    · rfl
  rw [modify_frame, hc]

/-! ## Moves -/

theorem orderAll_fst (id : CallId) (cs : List (Cmd Req Resp)) (p : Pump Req Resp E T) :
    (orderAll id cs p).1 = { p with queue := p.queue.postAll id (cs.filterMap Cmd.op?) } := by
  induction cs generalizing p with
  | nil => rfl
  | cons c cs ih =>
    simp only [orderAll, ih]
    cases c with
    | spawn ctx => rfl
    | hangUp => rfl
    | post op =>
      simp only [order, Cmd.op?, List.filterMap_cons, Queue.postAll, List.foldl_cons]
      cases h : p.queue.post id op with
      | none => rfl
      | some r => rfl

/-- A move changes the calls at one place, and posts. -/
theorem make_fst (p : Pump Req Resp E T) (id : CallId)
    (m : Move (Machine Req Resp (Callback Resp E T)) Req Resp (Callback Resp E T)) :
    (p.make id m).1 = { p with
      calls := (p.modify id fun c => ⟨m.next, c.handoff.rejected m.reject⟩).calls
      queue := p.queue.postAll id m.posts } := by
  unfold make
  rw [orderAll_fst, modify_frame]
  rfl

theorem get?_make (p : Pump Req Resp E T) (id : CallId)
    (m : Move (Machine Req Resp (Callback Resp E T)) Req Resp (Callback Resp E T)) (j : CallId) :
    (p.make id m).1.get? j = if j = id then (p.get? j).map
    (fun c => ⟨m.next, c.handoff.rejected m.reject⟩) else p.get? j := by
  rw [make_fst, ← get?_modify]
  rfl

theorem get?_make_self {p : Pump Req Resp E T} {id : CallId} {b : Call Req Resp E T} (hb : p.get? id = some b)
    (m : Move (Machine Req Resp (Callback Resp E T)) Req Resp (Callback Resp E T)) :
    (p.make id m).1.get? id = some ⟨m.next, b.handoff.rejected m.reject⟩ := by
  rw [get?_make, if_pos rfl, hb]
  rfl

theorem stateAt_make {p : Pump Req Resp E T} {id : CallId} {b : Call Req Resp E T} (hb : p.get? id = some b)
    (m : Move (Machine Req Resp (Callback Resp E T)) Req Resp (Callback Resp E T)) (j : CallId) :
    (p.make id m).1.stateAt j = if j = id then some m.next.state else p.stateAt j := by
  rw [stateAt, get?_make]
  by_cases e : j = id
  · subst e; rw [if_pos rfl, if_pos rfl, hb]; rfl
  · rw [if_neg e, if_neg e]; rfl

theorem make_tracker (p : Pump Req Resp E T) (id : CallId)
    (m : Move (Machine Req Resp (Callback Resp E T)) Req Resp (Callback Resp E T)) :
    (p.make id m).1.tracker = p.tracker := by rw [make_fst]

theorem make_queue (p : Pump Req Resp E T) (id : CallId)
    (m : Move (Machine Req Resp (Callback Resp E T)) Req Resp (Callback Resp E T)) :
    (p.make id m).1.queue = p.queue.postAll id m.posts := by rw [make_fst]

theorem make_closed (p : Pump Req Resp E T) (id : CallId)
    (m : Move (Machine Req Resp (Callback Resp E T)) Req Resp (Callback Resp E T)) :
    (p.make id m).1.queue.closed = p.queue.closed := by
  rw [make_queue]
  exact (Queue.postAll_frame _ _ _).1

/-- A move adds what it posts to what is outstanding for its call. -/
theorem outstanding_make {p : Pump Req Resp E T} (h : p.queue.closed = false) (id : CallId)
    (m : Move (Machine Req Resp (Callback Resp E T)) Req Resp (Callback Resp E T)) (j : CallId) :
    (p.make id m).1.queue.outstanding j = p.queue.outstanding j + if j = id then m.posts.length else 0 := by
  rw [make_queue, Queue.outstanding_postAll h]

/-- A move that posts nothing and leaves its call as it was. -/
theorem make_done {p : Pump Req Resp E T} {id : CallId} {c : Call Req Resp E T} (h : p.get? id = some c) :
    (p.make id (.done c.machine)).1 = p := by
  have hm : (p.modify id fun c' => ⟨c.machine, c'.handoff.rejected none⟩) = p :=
    modify_self fun c' hc => by cases h.symm.trans hc; rfl
  rw [make_fst]
  show { p with calls := (p.modify id fun c' => ⟨c.machine, c'.handoff.rejected none⟩).calls } = p
  rw [hm]

theorem make_shutdownRequested (p : Pump Req Resp E T) (id : CallId)
    (m : Move (Machine Req Resp (Callback Resp E T)) Req Resp (Callback Resp E T)) :
    (p.make id m).1.shutdownRequested = p.shutdownRequested := by rw [make_fst]

/-! ## Taking completions off the queue -/

/-- What is left of the pump when only these completions are still queued. -/
def keeping (p : Pump Req Resp E T) (rest : List (Completion (Payload Resp))) : Pump Req Resp E T :=
  { p with queue := { p.queue with ready := rest } }

@[simp] theorem keeping_get? (p : Pump Req Resp E T) (rest : List (Completion (Payload Resp))) (j : CallId) :
    (p.keeping rest).get? j = p.get? j := rfl

/-! ## The operations -/

theorem create_open {p : Pump Req Resp E T} (h : p.shutdownRequested = false) (k : CallKind) :
    p.create k = some (p.calls.length + 1,
      { p with
        calls := p.calls ++ [{ machine := .new k }]
        tracker := p.tracker.add (p.calls.length + 1) (p.calls.length + 1) }) := by
  simp [create, h]

theorem create_closed {p : Pump Req Resp E T} (h : p.shutdownRequested = true) (k : CallKind) :
    p.create k = none := by
  simp [create, h]

/-- The calls after one more was created. -/
theorem get?_append (p : Pump Req Resp E T) (c : Call Req Resp E T) (t : Tracker CallId) (j : CallId) :
    ({ p with calls := p.calls ++ [c], tracker := t } : Pump Req Resp E T).get? j =
      if j = p.calls.length + 1 then some c else p.get? j := by
  cases j with
  | zero => simp [get?_zero]
  | succ n =>
    rw [get?_succ, get?_succ]
    simp only [Nat.succ_eq_add_one, Nat.add_right_cancel_iff, List.getElem?_append]
    split
    · rename_i h
      rw [if_neg (Nat.ne_of_lt h)]
    · rename_i h
      by_cases e : n = p.calls.length
      · subst e; simp
      · rw [if_neg e, List.getElem?_eq_none (by simp; omega), List.getElem?_eq_none (by omega)]

theorem start_fst {p : Pump Req Resp E T} {id : CallId} {c : Call Req Resp E T} (h : p.get? id = some c)
    (ctx : Context) (l : Launch Req) (cb : Callback Resp E T) :
    (p.start id ctx l cb).2.1 =
      match c.machine.start (!p.queue.closed) ctx l cb with
      | none => p
      | some m => (p.make id m).1 := by
  simp only [start, h]
  cases c.machine.start (!p.queue.closed) ctx l cb <;> rfl

theorem cancel_fst {p : Pump Req Resp E T} {id : CallId} {c : Call Req Resp E T} (h : p.get? id = some c) :
    (p.cancel id).1 = (p.make id c.machine.cancel).1 := by
  simp only [cancel, h]

theorem cancel_none {p : Pump Req Resp E T} {id : CallId} (h : p.get? id = none) : (p.cancel id).1 = p := by
  simp only [cancel, h]

theorem deliver_of_get? {p : Pump Req Resp E T} {id : CallId} {c : Call Req Resp E T} (h : p.get? id = some c)
    (ok : Bool) (x : Payload Resp) :
    (p.deliver id ok x).pump = (p.make id (c.machine.advance ok x)).1 ∧
      (p.deliver id ok x).reply = (c.machine.advance ok x).answer.map (fun a => a.1 a.2) ∧
      (p.deliver id ok x).release = (c.machine.advance ok x).release := by
  unfold deliver
  rw [h]
  exact ⟨rfl, rfl, rfl⟩

theorem deliver_none {p : Pump Req Resp E T} {id : CallId} (h : p.get? id = none) (ok : Bool) (x : Payload Resp) :
    p.deliver id ok x = { pump := p, release := true } := by
  simp only [deliver, h]

theorem deliver_other (p : Pump Req Resp E T) {id j : CallId} (hj : j ≠ id) (ok : Bool) (x : Payload Resp) :
    (p.deliver id ok x).pump.get? j = p.get? j := by
  cases h : p.get? id with
  | none => rw [deliver_none h]
  | some c => rw [(deliver_of_get? h ok x).1, get?_make, if_neg hj]

theorem dispatch_tracked {p : Pump Req Resp E T} {c : Completion (Payload Resp)}
    (h : p.tracker.contains c.tag = true) :
    let d := p.deliver c.tag c.ok c.payload
    (p.dispatch c).pump = (if d.release && d.reply.isNone then d.pump.release c.tag else d.pump) ∧
      (p.dispatch c).reply = d.reply ∧ (p.dispatch c).release = d.release := by
  simp only [dispatch, h, if_true]
  by_cases e : ((p.deliver c.tag c.ok c.payload).release && (p.deliver c.tag c.ok c.payload).reply.isNone) = true
  · simp [e, release]
  · simp [e]

/-- A dispatch to a call that is tracked is a move of the call, after which the call is let
    go of if it asks for it and no callback is to run. -/
theorem dispatch_of_get? {p : Pump Req Resp E T} {c : Completion (Payload Resp)} {b : Call Req Resp E T}
    (h : p.tracker.contains c.tag = true) (hb : p.get? c.tag = some b) :
    let m := b.machine.advance c.ok c.payload
    (p.dispatch c).pump = { (p.make c.tag m).1 with
      tracker := if m.release && m.answer.isNone then p.tracker.erase c.tag else p.tracker } ∧
      (p.dispatch c).reply = m.answer.map (fun a => a.1 a.2) ∧ (p.dispatch c).release = m.release := by
  intro m
  obtain ⟨hp, hr, hf⟩ := dispatch_tracked h
  obtain ⟨hp', hr', hf'⟩ := deliver_of_get? hb c.ok c.payload
  refine ⟨?_, hr.trans hr', hf.trans hf'⟩
  rw [hp, hp', hr', hf', Option.isNone_map]
  split
  · rw [release, make_tracker]
  · rw [← make_tracker p c.tag m]

theorem resolve_frame (p : Pump Req Resp E T) (id : CallId) (x : Ended T) :
    p.resolve id x = { p with calls := (p.resolve id x).calls } := modify_frame p id _

theorem get?_resolve (p : Pump Req Resp E T) (id : CallId) (x : Ended T) (j : CallId) :
    (p.resolve id x).get? j =
      if j = id then (p.get? j).map fun c => { c with handoff := (c.handoff.set x.outcome).1 } else p.get? j :=
  get?_modify p id _ j

theorem stateAt_resolve (p : Pump Req Resp E T) (id : CallId) (x : Ended T) (j : CallId) :
    (p.resolve id x).stateAt j = p.stateAt j := by
  rw [stateAt, get?_resolve, stateAt]
  split
  · rw [Option.map_map]; rfl
  · rfl

/-- The end of a callback touches one call and the tracker. -/
theorem release_resolve (p : Pump Req Resp E T) (id : CallId) (x : Ended T) :
    (p.resolve id x).release id = { p with calls := (p.resolve id x).calls, tracker := p.tracker.erase id } := by
  rw [release, resolve_frame]

theorem dispatch_untracked {p : Pump Req Resp E T} {c : Completion (Payload Resp)}
    (h : p.tracker.contains c.tag = false) :
    (p.dispatch c).pump = p ∧ (p.dispatch c).reply = none := by
  simp [dispatch, h]

/-- A dispatch is a delivery, or it drops the completion. -/
theorem dispatch_cases (p : Pump Req Resp E T) (c : Completion (Payload Resp)) :
    ((p.dispatch c).pump = p ∧ (p.dispatch c).reply = none) ∨
      ((p.dispatch c).pump.get? = (p.deliver c.tag c.ok c.payload).pump.get? ∧
        (p.dispatch c).reply = (p.deliver c.tag c.ok c.payload).reply) := by
  cases h : p.tracker.contains c.tag with
  | false => exact .inl (dispatch_untracked h)
  | true =>
    obtain ⟨hp, hr, -⟩ := dispatch_tracked h
    refine .inr ⟨?_, hr⟩
    rw [hp]
    split <;> rfl

/-- A turn that dispatches takes the oldest completion to its call. -/
theorem turn_dispatched {p : Pump Req Resp E T} {id : CallId} {d : Dispatched Req Resp E T}
    (h : p.turn = .dispatched id d) :
    ∃ c rest, p.queue.ready = c :: rest ∧ id = c.tag ∧ d = (p.keeping rest).dispatch c := by
  unfold turn at h
  cases hs : p.shutdownRequested with
  | true => rw [hs] at h; cases h
  | false =>
    cases hr : p.queue.ready with
    | nil => cases hc : p.queue.closed <;> simp [hs, Queue.next, hr, hc] at h
    | cons c rest =>
      simp only [hs, Bool.false_eq_true, if_false, Queue.next, hr, Turn.dispatched.injEq] at h
      refine ⟨c, rest, rfl, h.1.symm, h.2.symm.trans ?_⟩
      simp only [keeping, hs]

end Pump

end CallPump
