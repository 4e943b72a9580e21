/-
  CallPump.Proofs.Pump.Threads — a pump, the thread that drives it, and threads that shut it
  down.

  The driver is a thread of the pump's own, which can be joined, or a caller's. It looks at
  the shutdown flag, takes a completion off the queue, dispatches it, and executes the
  callback that begins by that; all else can happen between these. Threads without number
  request a shutdown, and a callback that the driver executes may request it too. Whoever
  requests it goes through the same stages (`Stage`) under one lock: flag, list, one
  cancelled call after the other, queue, join, one drained completion after the other, and
  the end. A callback on the pump's own thread does not wait for the lock, since the thread
  inside may be waiting for it to end; nor does it join its own thread.

  - `Threads.Step`: the actions, one at a time.
  - `Threads.undisturbed`: a shutdown that nobody disturbs comes to the pump's own.
  - `Scene.Onto`, `Pump.Firm`: what every one of them keeps of the calls: their lives, and a
    hold of those that are open.
-/

import CallPump.Proofs.Pump.Shutdown

namespace CallPump

variable {Req Resp E T : Type}

/-! ## The threads -/

inductive Who where
  | driver
  | other (n : Nat)
  deriving DecidableEq

/-- Where a thread stands with the shutdown that it requested. -/
inductive Stage (Resp : Type) where
  | away
  /-- It waits for the lock. -/
  | waiting
  | entered
  | listing
  | cancelling (ids : List CallId)
  | taking
  | joining
  | draining
  | delivering (c : Completion (Payload Resp))
  | finishing
  | back

/-- Whether the lock is held. -/
def Stage.inside : Stage Resp → Bool
  | .away | .waiting | .back => false
  | .entered | .listing | .cancelling _ | .taking | .joining | .draining | .delivering _ | .finishing => true

/-- Where the driver stands with a completion. -/
inductive Driver (Resp : Type) where
  | resting
  /-- It saw no shutdown, and waits on the queue. -/
  | looking
  | holding (c : Completion (Payload Resp))
  | executing (id : CallId)
  | gone

structure Threads (Req Resp E T : Type) where
  scene : Scene Req Resp E T := {}
  /-- Whether the driver is a thread of the pump's own. -/
  own : Bool
  /-- Whether that thread can be joined still. -/
  handle : Bool
  driver : Driver Resp := .resting
  stage : Who → Stage Resp := fun _ => .away
  /-- Who is inside the shutdown. -/
  lock : Option Who := none
  /-- Who has done the shutdown. -/
  done : Option Who := none

namespace Scene

/-- The calls that are still tracked are let go of. -/
def forget (w : Scene Req Resp E T) : Scene Req Resp E T :=
  { w with pump := { w.pump with tracker := {} }, freed := w.freed ++ w.pump.tracker.refs }

def keep (w : Scene Req Resp E T) (cs : List (Completion (Payload Resp))) : Scene Req Resp E T :=
  w.setQueue { w.pump.queue with ready := cs }

end Scene

namespace Threads

/-- The driver is a thread of the pump's own, or a caller's. -/
def begin (own : Bool) : Threads Req Resp E T := { own := own, handle := own }

def put (s : Threads Req Resp E T) (w : Who) (st : Stage Resp) : Threads Req Resp E T :=
  { s with stage := fun v => if v = w then st else s.stage v }

theorem put_self (s : Threads Req Resp E T) (w : Who) (st : Stage Resp) : (s.put w st).stage w = st := if_pos rfl

theorem put_other (s : Threads Req Resp E T) {w v : Who} (st : Stage Resp) (h : v ≠ w) :
    (s.put w st).stage v = s.stage v := if_neg h

/-- Whether a thread can request a shutdown now: the driver does it from a callback. -/
def CanRequest (s : Threads Req Resp E T) (w : Who) : Prop :=
  (s.stage w = .away ∨ s.stage w = .back) ∧ (w = .driver → ∃ id, s.driver = .executing id)

inductive Step : Threads Req Resp E T → Threads Req Resp E T → Prop
  -- anybody, at any time
  | create (s : Threads Req Resp E T) (k : CallKind) : Step s { s with scene := s.scene.create k }
  | start (s : Threads Req Resp E T) (id : CallId) (ctx : Context) (l : Launch Req) (cb : Callback Resp E T) :
      Step s { s with scene := s.scene.start id ctx l cb }
  | cancel (s : Threads Req Resp E T) (id : CallId) : Step s { s with scene := s.scene.cancel id }
  | finish (s : Threads Req Resp E T) (t : Nat) (ok : Bool) (x : Payload Resp) :
      Step s { s with scene := s.scene.setQueue (s.scene.pump.queue.finish t ok x) }
  | abandon (s : Threads Req Resp E T) (t : Nat) :
      Step s { s with scene := s.scene.setQueue (s.scene.pump.queue.abandon t) }
  /-- An operation that ended just as the queue was stopped. -/
  | late {s : Threads Req Resp E T} (c : Completion (Payload Resp)) : s.scene.pump.queue.closed = true →
      Step s { s with scene := s.scene.keep (s.scene.pump.queue.ready ++ [c]) }
  -- the driver
  | look {s : Threads Req Resp E T} : s.driver = .resting →
      Step s { s with driver := if s.scene.pump.shutdownRequested then .gone else .looking }
  | idle {s : Threads Req Resp E T} : s.driver = .looking → s.scene.pump.queue.ready = [] →
      Step s { s with driver := if s.scene.pump.queue.closed then .gone else .resting }
  | pop {s : Threads Req Resp E T} {c : Completion (Payload Resp)} {cs : List (Completion (Payload Resp))} :
      s.driver = .looking → s.scene.pump.queue.ready = c :: cs →
      Step s { s with driver := .holding c, scene := s.scene.keep cs }
  | pass {s : Threads Req Resp E T} {c : Completion (Payload Resp)} : s.driver = .holding c →
      (s.scene.pump.dispatch c).reply = none →
      Step s { s with driver := .resting,
                      scene := s.scene.take c.tag (s.scene.pump.dispatch c) (s.scene.pump.tracker.contains c.tag) }
  | begins {s : Threads Req Resp E T} {c : Completion (Payload Resp)} {r : Reply E T} : s.driver = .holding c →
      (s.scene.pump.dispatch c).reply = some r →
      Step s { s with driver := .executing c.tag,
                      scene := s.scene.take c.tag (s.scene.pump.dispatch c) (s.scene.pump.tracker.contains c.tag) }
  | ends {s : Threads Req Resp E T} {id : CallId} : s.driver = .executing id → (s.stage .driver).inside = false →
      s.stage .driver ≠ .waiting →
      Step s { s with driver := .resting, scene := s.scene.conclude id }
  -- a shutdown
  | request {s : Threads Req Resp E T} {w : Who} : s.CanRequest w → Step s (s.put w .waiting)
  | enter {s : Threads Req Resp E T} {w : Who} : s.stage w = .waiting → s.lock = none →
      Step s { s.put w .entered with lock := some w }
  /-- The pump's own thread leaves the shutdown to whoever is inside. -/
  | yield {s : Threads Req Resp E T} : s.own = true → s.stage .driver = .waiting → s.lock ≠ none →
      Step s { s.put .driver .back with scene := s.scene.refuse }
  | leave {s : Threads Req Resp E T} {w : Who} : s.stage w = .entered → s.done ≠ none →
      Step s { s.put w .back with lock := none }
  | refuse {s : Threads Req Resp E T} {w : Who} : s.stage w = .entered → s.done = none →
      Step s { s.put w .listing with scene := s.scene.refuse }
  | list {s : Threads Req Resp E T} {w : Who} : s.stage w = .listing →
      Step s (s.put w (.cancelling s.scene.pump.tracker.refs))
  | cancelNext {s : Threads Req Resp E T} {w : Who} {id : CallId} {ids : List CallId} :
      s.stage w = .cancelling (id :: ids) → Step s { s.put w (.cancelling ids) with scene := s.scene.cancel id }
  | close {s : Threads Req Resp E T} {w : Who} : s.stage w = .cancelling [] →
      Step s { s.put w .taking with scene := s.scene.setQueue s.scene.pump.queue.shutdown }
  | join {s : Threads Req Resp E T} {w : Who} : s.stage w = .taking → s.handle = true → w ≠ .driver →
      Step s { s.put w .joining with handle := false }
  | skip {s : Threads Req Resp E T} {w : Who} : s.stage w = .taking → s.handle = false ∨ w = .driver →
      Step s { s.put w .draining with handle := false }
  | joined {s : Threads Req Resp E T} {w : Who} : s.stage w = .joining → s.driver = .gone →
      Step s (s.put w .draining)
  | drain {s : Threads Req Resp E T} {w : Who} {c : Completion (Payload Resp)}
      {cs : List (Completion (Payload Resp))} : s.stage w = .draining → s.scene.pump.queue.ready = c :: cs →
      Step s { s.put w (.delivering c) with scene := s.scene.keep cs }
  | deliver {s : Threads Req Resp E T} {w : Who} {c : Completion (Payload Resp)} : s.stage w = .delivering c →
      Step s { s.put w .draining with scene := s.scene.drainOne c }
  | forget {s : Threads Req Resp E T} {w : Who} : s.stage w = .draining → s.scene.pump.queue.ready = [] →
      Step s { s.put w .finishing with scene := s.scene.forget }
  | finishes {s : Threads Req Resp E T} {w : Who} : s.stage w = .finishing →
      Step s { s.put w .back with lock := none, done := some w }

inductive Reach (own : Bool) : Threads Req Resp E T → Prop
  | begin : Reach own (begin own)
  | step {s s' : Threads Req Resp E T} : Reach own s → Step s s' → Reach own s'

end Threads

/-! ## A hold of the open calls -/

namespace Pump

variable {p q : Pump Req Resp E T}

/-- The flag is as it was, and no call was created. -/
structure Stays (p q : Pump Req Resp E T) : Prop where
  flag : q.shutdownRequested = p.shutdownRequested
  calls : ∀ id, p.get? id = none → q.get? id = none

theorem stays_refl (p : Pump Req Resp E T) : Stays p p := ⟨rfl, fun _ h => h⟩

theorem stays_make (p : Pump Req Resp E T) (id : CallId)
    (m : Move (Machine Req Resp (Callback Resp E T)) Req Resp (Callback Resp E T)) : Stays p (p.make id m).1 := by
  refine ⟨make_shutdownRequested p id m, ?_⟩
  intro j hj
  rw [get?_make]
  split
  · rw [hj]; rfl
  · exact hj

theorem stays_start (p : Pump Req Resp E T) (id : CallId) (ctx : Context) (l : Launch Req)
    (cb : Callback Resp E T) : Stays p (p.start id ctx l cb).2.1 := by
  cases hb : p.get? id with
  | none => simp only [start, hb]; exact stays_refl p
  | some b =>
    rw [start_fst hb]
    split
    · exact stays_refl p
    · exact stays_make p id _

theorem stays_cancel (p : Pump Req Resp E T) (id : CallId) : Stays p (p.cancel id).1 := by
  cases hb : p.get? id with
  | none => rw [cancel_none hb]; exact stays_refl p
  | some b => rw [cancel_fst hb]; exact stays_make p id _

theorem stays_deliver (p : Pump Req Resp E T) (id : CallId) (ok : Bool) (x : Payload Resp) :
    Stays p (p.deliver id ok x).pump := by
  cases hb : p.get? id with
  | none => rw [deliver_none hb]; exact stays_refl p
  | some b => rw [(deliver_of_get? hb ok x).1]; exact stays_make p id _

theorem stays_dispatch (p : Pump Req Resp E T) (c : Completion (Payload Resp)) : Stays p (p.dispatch c).pump := by
  cases ht : p.tracker.contains c.tag with
  | false => rw [(dispatch_untracked ht).1]; exact stays_refl p
  | true =>
    obtain ⟨hf, hc⟩ := stays_deliver p c.tag c.ok c.payload
    rw [(dispatch_tracked ht).1]
    split <;> exact ⟨hf, hc⟩

theorem stays_resolve (p : Pump Req Resp E T) (id : CallId) (x : Ended T) : Stays p (p.resolve id x) := by
  refine ⟨by rw [resolve_frame], ?_⟩
  intro j hj
  rw [get?_resolve]
  split
  · rw [hj]; rfl
  · exact hj

theorem Stays.release (h : Stays p q) (id : CallId) : Stays p (q.release id) := ⟨h.flag, h.calls⟩

/-! The flag is nothing to the calls. -/

/-- The pump, had nobody requested a shutdown. -/
def unasked (p : Pump Req Resp E T) : Pump Req Resp E T := { p with shutdownRequested := false }

theorem make_unasked (p : Pump Req Resp E T) (id : CallId)
    (m : Move (Machine Req Resp (Callback Resp E T)) Req Resp (Callback Resp E T)) :
    (p.unasked.make id m).1 = (p.make id m).1.unasked := by
  rw [make_fst, make_fst]
  cases id <;> rfl

theorem start_unasked (p : Pump Req Resp E T) (id : CallId) (ctx : Context) (l : Launch Req)
    (cb : Callback Resp E T) : (p.unasked.start id ctx l cb).2.1 = (p.start id ctx l cb).2.1.unasked := by
  cases hb : p.get? id with
  | none => simp only [start, hb, show p.unasked.get? id = none from hb]
  | some b =>
    rw [start_fst hb, start_fst (p := p.unasked) hb, show p.unasked.queue = p.queue from rfl]
    cases b.machine.start (!p.queue.closed) ctx l cb with
    | none => rfl
    | some m => exact make_unasked p id m

theorem cancel_unasked (p : Pump Req Resp E T) (id : CallId) : (p.unasked.cancel id).1 = (p.cancel id).1.unasked := by
  cases hb : p.get? id with
  | none => rw [cancel_none hb, cancel_none (p := p.unasked) hb]
  | some b => rw [cancel_fst hb, cancel_fst (p := p.unasked) hb, make_unasked]

theorem deliver_unasked (p : Pump Req Resp E T) (id : CallId) (ok : Bool) (x : Payload Resp) :
    (p.unasked.deliver id ok x).pump = (p.deliver id ok x).pump.unasked ∧
      (p.unasked.deliver id ok x).release = (p.deliver id ok x).release ∧
      (p.unasked.deliver id ok x).reply = (p.deliver id ok x).reply := by
  cases hb : p.get? id with
  | none =>
    rw [deliver_none hb, deliver_none (p := p.unasked) hb]
    exact ⟨rfl, rfl, rfl⟩
  | some b =>
    obtain ⟨hp, hr, hl⟩ := deliver_of_get? hb ok x
    obtain ⟨hp', hr', hl'⟩ := deliver_of_get? (p := p.unasked) hb ok x
    rw [hp, hr, hl, hp', hr', hl']
    exact ⟨make_unasked p id _, rfl, rfl⟩

theorem dispatch_unasked (p : Pump Req Resp E T) (c : Completion (Payload Resp)) :
    (p.unasked.dispatch c).pump = (p.dispatch c).pump.unasked := by
  cases ht : p.tracker.contains c.tag with
  | false => rw [(dispatch_untracked ht).1, (dispatch_untracked (p := p.unasked) ht).1]
  | true =>
    obtain ⟨hp, hl, hr⟩ := deliver_unasked p c.tag c.ok c.payload
    rw [(dispatch_tracked ht).1, (dispatch_tracked (p := p.unasked) ht).1, hp, hl, hr]
    split <;> rfl

theorem resolve_unasked (p : Pump Req Resp E T) (id : CallId) (x : Ended T) :
    p.unasked.resolve id x = (p.resolve id x).unasked := by
  cases id <;> rfl

/-- Every call is settled, and none can come. -/
structure Over (p : Pump Req Resp E T) : Prop where
  refused : p.shutdownRequested = true
  settled : Settled p

/-- It is over, or the queue is open and the pump has hold of the open calls, whether a
    shutdown was requested or not. -/
inductive Firm (p : Pump Req Resp E T) : Prop
  | past : Over p → Firm p
  | holding : p.queue.closed = false → Running p.unasked → Firm p

end Pump

namespace Scene

variable {w v : Scene Req Resp E T}

/-- What an action keeps: every call's life goes on, and after a request no call is created. -/
structure Onto (w v : Scene Req Resp E T) : Prop where
  onward : ∀ id, w.LifeAt id → Onward w v id
  flag : w.pump.shutdownRequested = true → v.pump.shutdownRequested = true
  calls : w.pump.shutdownRequested = true → ∀ id, w.pump.get? id = none → v.pump.get? id = none

theorem onto_of_stays (hp : Pump.Stays w.pump v.pump) (ho : ∀ id, w.LifeAt id → Onward w v id) : Onto w v :=
  ⟨ho, fun h => hp.flag.trans h, fun _ => hp.calls⟩

theorem onto_same (hp : Pump.Stays w.pump v.pump) (h : ∀ id, SameAt w v id) : Onto w v :=
  onto_of_stays hp fun id => (h id).onward

/-- A call that is open later was open. -/
theorem Onto.opened (h : Onto w v) (hl : ∀ id, w.LifeAt id) (hf : w.pump.shutdownRequested = true) {id : CallId}
    {s : CallState} (hs : v.pump.stateAt id = some s) (ho : s.isOpen = true) :
    ∃ s', w.pump.stateAt id = some s' ∧ s'.isOpen = true := by
  cases hc : w.pump.get? id with
  | none => rw [Pump.stateAt_none (h.calls hf id hc)] at hs; cases hs
  | some c =>
    refine ⟨c.machine.state, Pump.stateAt_some hc, ?_⟩
    obtain ⟨c', hc', hm⟩ := (h.onward id (hl id)).state c hc
    cases (Pump.stateAt_some hc').symm.trans hs
    cases hn : c.machine.state.isOpen with
    | true => rfl
    | false => rw [hm.of_settled hn, hn] at ho; cases ho

theorem Onto.over (h : Onto w v) (hl : ∀ id, w.LifeAt id) (ho : w.pump.Over) : v.pump.Over := by
  refine ⟨h.flag ho.refused, ?_⟩
  intro id s hs
  cases hn : s.isOpen with
  | false => rfl
  | true =>
    obtain ⟨s', hs', hn'⟩ := h.opened hl ho.refused hs hn
    rw [ho.settled id s' hs'] at hn'
    cases hn'

/-- A call that was started stays so. -/
theorem Onto.started (h : Onto w v) (hl : ∀ id, w.LifeAt id) {id : CallId} {s : CallState}
    (hs : w.pump.stateAt id = some s) (hn : s ≠ .notStarted) :
    ∃ s', v.pump.stateAt id = some s' ∧ s' ≠ .notStarted := by
  cases hc : w.pump.get? id with
  | none => rw [Pump.stateAt_none hc] at hs; cases hs
  | some c =>
    cases (Pump.stateAt_some hc).symm.trans hs
    obtain ⟨c', hc', hm⟩ := (h.onward id (hl id)).state c hc
    refine ⟨c'.machine.state, Pump.stateAt_some hc', ?_⟩
    intro e
    rw [e] at hm
    rcases Relation.ReflTransGen.cases_tail hm with e' | ⟨s₁, -, hs₁⟩
    · exact hn e'.symm
    · cases hs₁

/-! ## Every action -/

theorem onto_create (w : Scene Req Resp E T) (k : CallKind) : Onto w (w.create k) := by
  refine ⟨fun id => onward_create k, ?_, ?_⟩
  · intro h
    simp only [create, Pump.create_closed h]
    exact h
  · intro h id hn
    simp only [create, Pump.create_closed h]
    exact hn

theorem onto_start (w : Scene Req Resp E T) (id : CallId) (ctx : Context) (l : Launch Req) (cb : Callback Resp E T) :
    Onto w (w.start id ctx l cb) := by
  refine onto_of_stays ?_ fun j => onward_start id ctx l cb
  rcases start_pump w id ctx l cb with h | ⟨c, -, -, h⟩
  · rw [h]; exact Pump.stays_refl _
  · rw [h]; exact Pump.stays_start _ _ _ _ _

theorem onto_cancel (w : Scene Req Resp E T) (id : CallId) : Onto w (w.cancel id) := by
  refine onto_of_stays ?_ fun j => onward_cancel id
  rw [cancel_pump]
  exact Pump.stays_cancel _ _

theorem onto_setQueue (w : Scene Req Resp E T) (q : Queue (Op Req Resp) (Payload Resp)) : Onto w (w.setQueue q) :=
  onto_same ⟨rfl, fun _ h => h⟩ (setQueue_same w q)

theorem onto_refuse (w : Scene Req Resp E T) : Onto w w.refuse :=
  ⟨fun id => (refuse_same w id).onward, fun _ => rfl, fun _ _ h => h⟩

theorem onto_forget (w : Scene Req Resp E T) : Onto w w.forget :=
  onto_same ⟨rfl, fun _ h => h⟩ fun _ => ⟨rfl, rfl, rfl⟩

theorem onto_dispatch (w : Scene Req Resp E T) (c : Completion (Payload Resp)) (t : Bool) :
    Onto w (w.take c.tag (w.pump.dispatch c) t) := by
  refine onto_of_stays ?_ ?_
  · rw [take_pump]
    exact Pump.stays_dispatch _ _
  · intro j hj
    rcases Pump.dispatch_cases w.pump c with ⟨hp, hr⟩ | ⟨hp, hr⟩
    · exact (take_idle hr (congrArg (·.get? j) hp)).onward hj
    · exact onward_take hp hr hj

theorem onto_conclude (w : Scene Req Resp E T) (id : CallId) : Onto w (w.conclude id) := by
  refine onto_of_stays ?_ fun j => onward_conclude id
  rcases conclude_pump w id with h | ⟨r, -, h | h⟩
  · rw [h]; exact Pump.stays_refl _
  · rw [h]; exact Pump.stays_resolve _ _ _
  · rw [h]; exact (Pump.stays_resolve _ _ _).release id

theorem onto_drainOne (w : Scene Req Resp E T) (c : Completion (Payload Resp)) : Onto w (w.drainOne c) := by
  refine onto_of_stays ?_ fun j => onward_drainOne c
  have h := Pump.stays_dispatch w.pump c
  rw [drainOne_pump]
  split
  · exact h
  · rename_i r hr
    have h' := Pump.stays_resolve (w.pump.dispatch c).pump c.tag r.ended
    exact ⟨h'.flag.trans h.flag, fun id hn => h'.calls id (h.calls id hn)⟩

/-! Actions during which no callback begins or ends. -/

theorem create_executing (w : Scene Req Resp E T) (k : CallKind) : (w.create k).executing = w.executing := by
  rw [create]
  split <;> rfl

theorem start_executing (w : Scene Req Resp E T) (id : CallId) (ctx : Context) (l : Launch Req)
    (cb : Callback Resp E T) : (w.start id ctx l cb).executing = w.executing := by
  rw [start]
  split
  · rfl
  · split <;> rfl

theorem cancel_executing (w : Scene Req Resp E T) (id : CallId) : (w.cancel id).executing = w.executing := by
  rw [cancel]
  split <;> rfl

theorem drainOne_executing (w : Scene Req Resp E T) (c : Completion (Payload Resp)) :
    (w.drainOne c).executing = w.executing := by
  rw [drainOne]
  split <;> rfl

/-! Actions that keep hold of the open calls. -/

theorem Onto.firm (h : Onto w v) (hl : ∀ id, w.LifeAt id) (hw : w.pump.Firm)
    (hv : w.pump.queue.closed = false → w.pump.unasked.Running → v.pump.Firm) : v.pump.Firm := by
  cases hw with
  | past ho => exact .past (h.over hl ho)
  | holding hc hr => exact hv hc hr

theorem firm_create (hl : ∀ id, w.LifeAt id) (hw : w.pump.Firm) (k : CallKind) : (w.create k).pump.Firm := by
  refine (onto_create w k).firm hl hw ?_
  intro hc hr
  cases hf : w.pump.shutdownRequested with
  | true => simp only [create, Pump.create_closed hf]; exact hw
  | false =>
    have hu : w.pump.unasked = w.pump := by rw [Pump.unasked, ← hf]
    rw [hu] at hr
    have hp := Pump.create_open hf k
    simp only [create, hp]
    have hr' := Pump.running_create hr hp
    exact .holding hc (by rw [Pump.unasked, ← hr'.running]; exact hr')

theorem firm_start (hl : ∀ id, w.LifeAt id) (hw : w.pump.Firm) (id : CallId) (ctx : Context) (l : Launch Req)
    (cb : Callback Resp E T) : (w.start id ctx l cb).pump.Firm := by
  refine (onto_start w id ctx l cb).firm hl hw ?_
  intro hc hr
  rcases start_pump w id ctx l cb with h | ⟨c, hb, -, h⟩
  · rw [h]; exact .holding hc hr
  · rw [h]
    refine .holding ?_ (by rw [← Pump.start_unasked]; exact Pump.running_start hr id ctx l cb)
    rw [Pump.start_fst hb]
    split
    · exact hc
    · rw [Pump.make_closed]; exact hc

theorem firm_cancel (hl : ∀ id, w.LifeAt id) (hw : w.pump.Firm) (id : CallId) : (w.cancel id).pump.Firm := by
  refine (onto_cancel w id).firm hl hw ?_
  intro hc hr
  rw [cancel_pump]
  refine .holding ?_ (by rw [← Pump.cancel_unasked]; exact Pump.running_cancel hr id)
  rw [Pump.cancel_frame]
  exact hc

/-- A queue that is as open, with nothing more on it. -/
theorem firm_setQueue (hl : ∀ id, w.LifeAt id) (hw : w.pump.Firm) {q : Queue (Op Req Resp) (Payload Resp)}
    (hq : w.pump.queue.closed = false → w.pump.queue.Ticketed →
      q.closed = false ∧ q.Ticketed ∧ ∀ id, q.outstanding id ≤ w.pump.queue.outstanding id) :
    (w.setQueue q).pump.Firm := by
  refine (onto_setQueue w q).firm hl hw ?_
  intro hc hr
  obtain ⟨ho, ht, hn⟩ := hq hc hr.ticketed
  exact .holding ho (Pump.running_queue hr ht hn)

theorem firm_refuse (hl : ∀ id, w.LifeAt id) (hw : w.pump.Firm) : w.refuse.pump.Firm :=
  (onto_refuse w).firm hl hw fun hc hr => .holding hc hr

theorem firm_dispatch (hl : ∀ id, w.LifeAt id) (hw : w.pump.Firm) {c : Completion (Payload Resp)} (t : Bool)
    (hs : w.pump.Over ∨ ∃ x, w.pump.stateAt c.tag = some x ∧ x ≠ .notStarted) :
    (w.take c.tag (w.pump.dispatch c) t).pump.Firm := by
  have ho := onto_dispatch w c t
  rcases hs with hs | hs
  · exact .past (ho.over hl hs)
  · refine ho.firm hl hw ?_
    intro hc hr
    rw [take_pump]
    refine .holding ?_ ?_
    · cases ht : w.pump.tracker.contains c.tag with
      | false => rw [(Pump.dispatch_untracked ht).1]; exact hc
      | true =>
        rw [(Pump.dispatch_tracked ht).1]
        cases hb : w.pump.get? c.tag with
        | none => rw [Pump.deliver_none hb]; exact hc
        | some b =>
          rw [(Pump.deliver_of_get? hb _ _).1]
          split
          · exact (Pump.make_closed _ _ _).trans hc
          · exact (Pump.make_closed _ _ _).trans hc
    · rw [← Pump.dispatch_unasked]
      exact Pump.running_advance hr (waits_of_life hl) hs

theorem firm_conclude (hl : ∀ id, w.LifeAt id) (hw : w.pump.Firm) (id : CallId) : (w.conclude id).pump.Firm := by
  refine (onto_conclude w id).firm hl hw ?_
  intro hc hr
  rcases conclude_pump w id with h | ⟨r, hm, h | h⟩
  · rw [h]; exact .holding hc hr
  · rw [h]
    refine .holding (by rw [Pump.resolve_frame]; exact hc) ?_
    rw [← Pump.resolve_unasked]
    exact Pump.running_resolve hr id r.ended
  · rw [h]
    refine .holding (by rw [Pump.release_resolve]; exact hc) ?_
    show ((w.pump.resolve id r.ended).unasked.release id).Running
    rw [← Pump.resolve_unasked]
    refine Pump.running_erase (Pump.running_resolve hr id r.ended) ?_
    intro s hs
    rw [Pump.stateAt_resolve] at hs
    exact executing_settled (hl id) hm hs

end Scene

/-! ## A shutdown by itself -/

namespace Threads

variable {s : Threads Req Resp E T} {w : Who}

theorem steps_cancelling {ids : List CallId} (hw : s.stage w = .cancelling ids) :
    ∃ v, Relation.ReflTransGen Step s v ∧ v.stage w = .cancelling [] ∧ v.driver = s.driver ∧ v.handle = s.handle ∧
      v.scene = ids.foldl Scene.cancel s.scene := by
  induction ids generalizing s with
  | nil => exact ⟨s, .refl, hw, rfl, rfl, rfl⟩
  | cons id ids ih =>
    obtain ⟨v, hv, h⟩ := ih (s := { s.put w (.cancelling ids) with scene := s.scene.cancel id }) (put_self s w _)
    exact ⟨v, .head (.cancelNext hw) hv, h⟩

theorem steps_taking (hw : s.stage w = .taking) (hn : w ≠ .driver) (hd : s.driver = .resting)
    (hf : s.scene.pump.shutdownRequested = true) :
    ∃ v, Relation.ReflTransGen Step s v ∧ v.stage w = .draining ∧ v.scene = s.scene := by
  cases hh : s.handle with
  | false => exact ⟨_, .single (.skip hw (.inl hh)), put_self s w _, rfl⟩
  | true =>
    -- the driver sees the flag, and its thread ends
    refine ⟨_, .head (.join hw hh hn) (.head (.look hd) (.single (.joined (put_self s w _) ?_))), put_self _ w _, rfl⟩
    exact if_pos hf

theorem steps_draining (hw : s.stage w = .draining) (hs : s.scene.pump.Settled) :
    ∃ v, Relation.ReflTransGen Step s v ∧ v.stage w = .draining ∧
      ∃ t, v.scene.pump = { s.scene.pump.keeping [] with tracker := t } := by
  generalize hq : s.scene.pump.queue.ready = cs
  induction cs generalizing s with
  | nil => exact ⟨s, .refl, hw, s.scene.pump.tracker, by rw [Pump.keeping, ← hq]⟩
  | cons c cs ih =>
    obtain ⟨hr, t, hp⟩ := Pump.dispatch_settled (p := (s.scene.keep cs).pump) hs c
    obtain ⟨s₁, h₁, hw₁, hv₁⟩ : ∃ v, Step s v ∧ v.stage w = .delivering c ∧ v.scene = s.scene.keep cs :=
      ⟨_, .drain hw hq, put_self s w _, rfl⟩
    obtain ⟨s₂, h₂, hw₂, hv₂⟩ : ∃ v, Step s₁ v ∧ v.stage w = .draining ∧ v.scene = s₁.scene.drainOne c :=
      ⟨_, .deliver hw₁, put_self s₁ w _, rfl⟩
    have hp₂ : s₂.scene.pump = { (s.scene.keep cs).pump with tracker := t } := by
      rw [hv₂, hv₁, Scene.drainOne_pump, hr]
      exact hp
    obtain ⟨v, hv, hst, t', hp'⟩ := ih hw₂ (by rw [hp₂]; exact hs) (by rw [hp₂]; rfl)
    exact ⟨v, .head h₁ (.head h₂ hv), hst, t', by rw [hp', hp₂]; rfl⟩

theorem steps_requested {n : Nat} (hw : s.stage (.other n) = .away) (hk : s.lock = none) (hd : s.done = none) :
    ∃ v, Relation.ReflTransGen Step s v ∧ v.stage (.other n) = .cancelling s.scene.pump.tracker.refs ∧
      v.driver = s.driver ∧ v.scene = s.scene.refuse := by
  refine ⟨_, .head (.request (w := .other n) ⟨.inl hw, nofun⟩) (.head (.enter (put_self s _ _) hk)
    (.head (.refuse (put_self (s.put _ .waiting) _ .entered) hd) (.single (.list (w := .other n) ?_)))), ?_, ?_, ?_⟩
  · exact put_self _ _ _
  · exact put_self _ _ _
  · rfl
  · rfl

/-- Stage by stage, a shutdown that nobody disturbs comes to what the pump's own does at once. -/
theorem undisturbed {n : Nat} (hr : s.scene.pump.Running) (hw : s.stage (.other n) = .away) (hk : s.lock = none)
    (hd : s.done = none) (hg : s.driver = .resting) :
    ∃ v, Relation.ReflTransGen Step s v ∧ v.stage (.other n) = .back ∧ v.scene.pump = s.scene.pump.shutdown := by
  obtain ⟨settled, hf, hp⟩ := Pump.shutdown_settles hr
  obtain ⟨s₁, h₁, hw₁, hg₁, hv₁⟩ := steps_requested hw hk hd
  obtain ⟨s₂, h₂, hw₂, hg₂, -, hv₂⟩ := steps_cancelling hw₁
  have hp₂ : s₂.scene.pump = s.scene.refuse.pump.cancelAll := by
    rw [hv₂, hv₁, ← Scene.cancelAll_pump]
    rfl
  obtain ⟨s₃, h₃, hw₃, hg₃, hp₃⟩ : ∃ v, Step s₂ v ∧ v.stage (.other n) = .taking ∧ v.driver = .resting ∧
      v.scene.pump = { s₂.scene.pump with queue := s₂.scene.pump.queue.shutdown } :=
    ⟨_, .close hw₂, put_self s₂ _ _, hg₂.trans (hg₁.trans hg), rfl⟩
  rw [hp₂] at hp₃
  obtain ⟨s₄, h₄, hw₄, hv₄⟩ := steps_taking hw₃ nofun hg₃ (by rw [hp₃]; exact congrArg (·.shutdownRequested) hf)
  obtain ⟨s₅, h₅, hw₅, t, hp₅⟩ := steps_draining hw₄ (by rw [hv₄, hp₃]; exact settled)
  obtain ⟨s₆, h₆, hw₆, hp₆⟩ : ∃ v, Step s₅ v ∧ v.stage (.other n) = .finishing ∧
      v.scene.pump = { s₅.scene.pump with tracker := {} } :=
    ⟨_, .forget hw₅ (by rw [hp₅]; rfl), put_self s₅ _ _, rfl⟩
  have hrun := h₁.trans (h₂.trans (.head h₃ (h₄.trans (h₅.trans (.head h₆ (.single (.finishes hw₆)))))))
  refine ⟨_, hrun, put_self s₆ _ _, ?_⟩
  show s₆.scene.pump = _
  rw [hp₆, hp₅, hv₄, hp₃, hp]
  rfl

end Threads

end CallPump
