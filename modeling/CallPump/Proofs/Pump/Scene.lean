/-
  CallPump.Proofs.Pump.Scene — a pump with all that can happen to it, one event at a time.

  Callers create, start and cancel calls, operations finish or die, the pump takes
  completions, callbacks end, the queue is closed, the pump is shut down. Nothing orders
  these events: a callback is executing from the dispatch that began it to the event that
  ends it, and all other events can happen in between, whoever causes them (the callback
  itself, other threads). `inject` hands a call a completion that is not its own.

  Beside the pump a scene remembers what cannot be read off it any more: which callbacks
  are executing, what was done to each call (`told`), which handles were started and which
  calls were let go of because they asked for it (`freed`).

  - `run_induction`, `follows_induction`: what one step keeps, a whole run keeps.
  - `shutdown_pump`: the shutdown of a scene is the shutdown of its pump.
-/

import CallPump.Proofs.Pump.Frame

namespace CallPump

/-- A callback that has begun and not ended. -/
structure Executing (E T : Type) where
  call : CallId
  reply : Reply E T
  /-- Whether its call is let go of when it ends. -/
  releases : Bool

/-- What is done to a call. -/
inductive Deed (Resp E T : Type) where
  /-- A start takes the callback; whether the queue takes the call's first operation. -/
  | took (cb : Callback Resp E T) (accepted : Bool)
  /-- The callback begins, and this is what it does. -/
  | ran (r : Reply E T)
  /-- The promise is given an outcome. -/
  | gave (o : Outcome T)

namespace Deed

variable {Resp E T : Type}

def isRan : Deed Resp E T → Bool
  | .ran _ => true
  | _ => false

def isGave : Deed Resp E T → Bool
  | .gave _ => true
  | _ => false

/-- What a rejection does. -/
def rejects : Option Status → List (Deed Resp E T)
  | some s => [.gave (.error s)]
  | none => []

end Deed

inductive Event (Req Resp E T : Type) where
  | create (k : CallKind)
  | start (id : CallId) (ctx : Context) (l : Launch Req) (cb : Callback Resp E T)
  | cancel (id : CallId)
  /-- The operation posted under the ticket ends. -/
  | finish (ticket : Nat) (ok : Bool) (payload : Payload Resp)
  /-- The operation posted under the ticket dies without a completion. -/
  | abandon (ticket : Nat)
  /-- The pump looks at its queue once. -/
  | turn
  /-- A completion reaches the call past the queue. -/
  | inject (id : CallId) (ok : Bool) (payload : Payload Resp)
  /-- The callback of the call ends. -/
  | conclude (id : CallId)
  /-- The queue alone is shut down. -/
  | close
  | shutdown

structure Scene (Req Resp E T : Type) where
  pump : Pump Req Resp E T := {}
  executing : List (Executing E T) := []
  told : CallId → List (Deed Resp E T) := fun _ => []
  started : List CallId := []
  freed : List CallId := []

namespace Scene

variable {Req Resp E T : Type}

/-- What the executing callbacks of a call are doing. -/
def replies (w : Scene Req Resp E T) (id : CallId) : List (Reply E T) :=
  (w.executing.filter (·.call == id)).map (·.reply)

def tell (w : Scene Req Resp E T) (id : CallId) (ds : List (Deed Resp E T)) : Scene Req Resp E T :=
  { w with told := fun j => if j = id then w.told j ++ ds else w.told j }

/-! ## The steps -/

def create (w : Scene Req Resp E T) (k : CallKind) : Scene Req Resp E T :=
  match w.pump.create k with
  | none => w
  | some (_, p) => { w with pump := p }

/-- A start takes the requests of its call's kind, so that no other can be made. -/
def start (w : Scene Req Resp E T) (id : CallId) (ctx : Context) (l : Launch Req) (cb : Callback Resp E T) :
    Scene Req Resp E T :=
  match w.pump.get? id with
  | none => w
  | some c =>
    if c.machine.kind = l.kind then
      let live := !w.pump.queue.closed
      let took : List (Deed Resp E T) := if c.machine.resolver.takesStart cb then [.took cb live] else []
      let v := { w with pump := (w.pump.start id ctx l cb).2.1, started := w.started ++ [id] }
      v.tell id (took ++ Deed.rejects ((c.machine.start live ctx l cb).bind (·.reject)))
    else w

def cancel (w : Scene Req Resp E T) (id : CallId) : Scene Req Resp E T :=
  match w.pump.get? id with
  | none => w
  | some c => { w with pump := (w.pump.cancel id).1 }.tell id (Deed.rejects c.machine.cancel.reject)

/-- What a call made of a completion: its callback begins, or it may be done. -/
def take (w : Scene Req Resp E T) (id : CallId) (d : Dispatched Req Resp E T) (tracked : Bool) :
    Scene Req Resp E T :=
  match d.reply with
  | none => { w with pump := d.pump, freed := if tracked && d.release then w.freed ++ [id] else w.freed }
  | some r =>
    let x : Executing E T := { call := id, reply := r, releases := tracked && d.release }
    let v := { w with pump := d.pump, executing := w.executing ++ [x] }
    v.tell id [.ran r]

def turn (w : Scene Req Resp E T) : Scene Req Resp E T :=
  match w.pump.turn with
  | .dispatched id d => w.take id d (w.pump.tracker.contains id)
  | _ => w

def conclude (w : Scene Req Resp E T) (id : CallId) : Scene Req Resp E T :=
  match w.executing.find? (·.call == id) with
  | none => w
  | some x =>
    let p := w.pump.resolve id x.reply.ended
    { w with pump := if x.releases then p.release id else p,
             executing := w.executing.filter (·.call != id),
             freed := if x.releases then w.freed ++ [id] else w.freed }.tell id [.gave x.reply.ended.outcome]

def setQueue (w : Scene Req Resp E T) (q : Queue (Op Req Resp) (Payload Resp)) : Scene Req Resp E T :=
  { w with pump := { w.pump with queue := q } }

/-- A completion that the shutdown takes to its call; a callback would run to its end. -/
def drainOne (w : Scene Req Resp E T) (c : Completion (Payload Resp)) : Scene Req Resp E T :=
  let d := w.pump.dispatch c
  match d.reply with
  | none => { w with pump := d.pump }
  | some r =>
    { w with pump := (d.pump.resolve c.tag r.ended).release c.tag }.tell c.tag [.ran r, .gave r.ended.outcome]

def refuse (w : Scene Req Resp E T) :
    Scene Req Resp E T := { w with pump := { w.pump with shutdownRequested := true } }

def cancelAll (w : Scene Req Resp E T) : Scene Req Resp E T := w.pump.tracker.refs.foldl cancel w

def drain (w : Scene Req Resp E T) : Scene Req Resp E T :=
  w.pump.queue.ready.foldl drainOne (w.setQueue { w.pump.queue with ready := [] })

/-- The calls that are tracked when it begins are let go of when it ends. -/
def shutdown (w : Scene Req Resp E T) : Scene Req Resp E T :=
  let v := w.refuse.cancelAll
  let v := (v.setQueue v.pump.queue.shutdown).drain
  { v with pump := { v.pump with tracker := {} }, freed := v.freed ++ w.pump.tracker.refs }

def step (w : Scene Req Resp E T) : Event Req Resp E T → Scene Req Resp E T
  | .create k => w.create k
  | .start id ctx l cb => w.start id ctx l cb
  | .cancel id => w.cancel id
  | .finish t ok x => w.setQueue (w.pump.queue.finish t ok x)
  | .abandon t => w.setQueue (w.pump.queue.abandon t)
  | .turn => w.turn
  | .inject id ok x => w.take id (w.pump.deliver id ok x) false
  | .conclude id => w.conclude id
  | .close => w.setQueue w.pump.queue.shutdown
  | .shutdown => w.shutdown

def run (w : Scene Req Resp E T) (es : List (Event Req Resp E T)) : Scene Req Resp E T := es.foldl step w

/-- Every event of a run is one that may happen where it happens. -/
def Follows (may : Scene Req Resp E T → Event Req Resp E T → Prop) :
    Scene Req Resp E T → List (Event Req Resp E T) → Prop
  | _, [] => True
  | w, e :: es => may w e ∧ Follows may (w.step e) es

/-! ## Runs -/

theorem run_induction {P : Scene Req Resp E T → Prop} (hs : ∀ w e, P w → P (w.step e)) :
    ∀ (es : List (Event Req Resp E T)) (w : Scene Req Resp E T), P w → P (w.run es) := by
  intro es
  induction es with
  | nil => intro w h; exact h
  | cons e es ih => intro w h; exact ih _ (hs w e h)

theorem follows_induction {may : Scene Req Resp E T → Event Req Resp E T → Prop} {P : Scene Req Resp E T → Prop}
    (hs : ∀ w e, may w e → P w → P (w.step e)) :
    ∀ (es : List (Event Req Resp E T)) (w : Scene Req Resp E T), Follows may w es → P w → P (w.run es) := by
  intro es
  induction es with
  | nil => intro w _ h; exact h
  | cons e es ih => intro w hf h; exact ih _ hf.2 (hs w e hf.1 h)

theorem run_append (w : Scene Req Resp E T) (es es' : List (Event Req Resp E T)) :
    w.run (es ++ es') = (w.run es).run es' := List.foldl_append

theorem follows_append {may : Scene Req Resp E T → Event Req Resp E T → Prop} {w : Scene Req Resp E T}
    {es es' : List (Event Req Resp E T)} :
    Follows may w (es ++ es') ↔ Follows may w es ∧ Follows may (w.run es) es' := by
  induction es generalizing w with
  | nil => exact ⟨fun h => ⟨trivial, h⟩, fun h => h.2⟩
  | cons e es ih =>
    rw [List.cons_append, Follows, Follows, ih, and_assoc]
    rfl

/-! ## Frames -/

@[simp] theorem tell_pump (w : Scene Req Resp E T) (id : CallId) (ds : List (Deed Resp E T)) :
    (w.tell id ds).pump = w.pump := rfl
@[simp] theorem tell_executing (w : Scene Req Resp E T) (id : CallId) (ds : List (Deed Resp E T)) :
    (w.tell id ds).executing = w.executing := rfl
@[simp] theorem tell_replies (w : Scene Req Resp E T) (id : CallId) (ds : List (Deed Resp E T)) (j : CallId) :
    (w.tell id ds).replies j = w.replies j := rfl
@[simp] theorem tell_started (w : Scene Req Resp E T) (id : CallId) (ds : List (Deed Resp E T)) :
    (w.tell id ds).started = w.started := rfl
@[simp] theorem tell_freed (w : Scene Req Resp E T) (id : CallId) (ds : List (Deed Resp E T)) :
    (w.tell id ds).freed = w.freed := rfl
@[simp] theorem tell_self (w : Scene Req Resp E T) (id : CallId) (ds : List (Deed Resp E T)) :
    (w.tell id ds).told id = w.told id ++ ds := if_pos rfl
@[simp] theorem tell_other (w : Scene Req Resp E T) {id j : CallId} (ds : List (Deed Resp E T)) (h : j ≠ id) :
    (w.tell id ds).told j = w.told j := if_neg h

/-- Nothing of the call differs between the two. -/
structure SameAt (w v : Scene Req Resp E T) (id : CallId) : Prop where
  call : v.pump.get? id = w.pump.get? id
  told : v.told id = w.told id
  replies : v.replies id = w.replies id

theorem SameAt.refl (w : Scene Req Resp E T) (id : CallId) : SameAt w w id := ⟨rfl, rfl, rfl⟩

theorem setQueue_same (w : Scene Req Resp E T) (q : Queue (Op Req Resp) (Payload Resp)) (j : CallId) :
    SameAt w (w.setQueue q) j := ⟨rfl, rfl, rfl⟩

theorem refuse_same (w : Scene Req Resp E T) (j : CallId) : SameAt w w.refuse j := ⟨rfl, rfl, rfl⟩

theorem start_of_none {w : Scene Req Resp E T} {id : CallId} {c : Call Req Resp E T} {ctx : Context}
    {l : Launch Req} {cb : Callback Resp E T} (h : w.pump.get? id = some c) (hk : c.machine.kind = l.kind)
    (hm : c.machine.start (!w.pump.queue.closed) ctx l cb = none) :
    w.start id ctx l cb = ({ w with started := w.started ++ [id] } : Scene Req Resp E T).tell id
      (if c.machine.resolver.takesStart cb then [.took cb (!w.pump.queue.closed)] else []) := by
  simp only [start, h, hk, if_true, Pump.start_fst h, hm, Option.bind_none, Deed.rejects, List.append_nil]

theorem start_of_some {w : Scene Req Resp E T} {id : CallId} {c : Call Req Resp E T} {ctx : Context}
    {l : Launch Req} {cb : Callback Resp E T}
    {m : Move (Machine Req Resp (Callback Resp E T)) Req Resp (Callback Resp E T)} (h : w.pump.get? id = some c)
    (hk : c.machine.kind = l.kind) (hm : c.machine.start (!w.pump.queue.closed) ctx l cb = some m) :
    w.start id ctx l cb =
      ({ w with pump := (w.pump.make id m).1, started := w.started ++ [id] } : Scene Req Resp E T).tell id
        ((if c.machine.resolver.takesStart cb then [.took cb (!w.pump.queue.closed)] else []) ++
          Deed.rejects m.reject) := by
  simp only [start, h, hk, if_true, Pump.start_fst h, hm, Option.bind_some]

theorem start_other (w : Scene Req Resp E T) {id j : CallId} (ctx : Context) (l : Launch Req)
    (cb : Callback Resp E T) (hj : j ≠ id) : SameAt w (w.start id ctx l cb) j := by
  cases h : w.pump.get? id with
  | none => simp only [start, h]; exact SameAt.refl w j
  | some c =>
    by_cases hk : c.machine.kind = l.kind
    · cases hm : c.machine.start (!w.pump.queue.closed) ctx l cb with
      | none => rw [start_of_none h hk hm]; exact ⟨rfl, tell_other _ _ hj, rfl⟩
      | some m =>
        rw [start_of_some h hk hm]
        refine ⟨?_, tell_other _ _ hj, rfl⟩
        rw [tell_pump, Pump.get?_make, if_neg hj]
    · simp only [start, h, hk, if_false]
      exact SameAt.refl w j

theorem cancel_of_get? {w : Scene Req Resp E T} {id : CallId} {c : Call Req Resp E T}
    (h : w.pump.get? id = some c) :
    w.cancel id = ({ w with pump := (w.pump.make id c.machine.cancel).1 } : Scene Req Resp E T).tell id
      (Deed.rejects c.machine.cancel.reject) := by
  simp only [cancel, h, Pump.cancel_fst h]

theorem cancel_other (w : Scene Req Resp E T) {id j : CallId} (hj : j ≠ id) : SameAt w (w.cancel id) j := by
  cases h : w.pump.get? id with
  | none => simp only [cancel, h]; exact SameAt.refl w j
  | some c =>
    rw [cancel_of_get? h]
    refine ⟨?_, tell_other _ _ hj, rfl⟩
    rw [tell_pump, Pump.get?_make, if_neg hj]

/-- What is executing after one more callback began. -/
theorem replies_append (w : Scene Req Resp E T) (x : Executing E T) (j : CallId) :
    ({ w with executing := w.executing ++ [x] } : Scene Req Resp E T).replies j =
      w.replies j ++ if j = x.call then [x.reply] else [] := by
  by_cases e : x.call = j
  · simp [replies, e]
  · simp [replies, e, Ne.symm e]

theorem take_pump (w : Scene Req Resp E T) (id : CallId) (d : Dispatched Req Resp E T) (t : Bool) :
    (w.take id d t).pump = d.pump := by
  unfold take
  split <;> rfl

theorem take_self (w : Scene Req Resp E T) (id : CallId) (d : Dispatched Req Resp E T) (t : Bool) :
    (w.take id d t).told id = w.told id ++ (d.reply.map Deed.ran).toList ∧
      (w.take id d t).replies id = w.replies id ++ d.reply.toList := by
  unfold take
  cases d.reply with
  | none => exact ⟨(List.append_nil _).symm, (List.append_nil _).symm⟩
  | some r => exact ⟨tell_self _ _ _, (replies_append w _ id).trans (by simp)⟩

theorem take_other (w : Scene Req Resp E T) {id j : CallId} (d : Dispatched Req Resp E T) (t : Bool)
    (hj : j ≠ id) :
    (w.take id d t).told j = w.told j ∧ (w.take id d t).replies j = w.replies j := by
  unfold take
  cases d.reply with
  | none => exact ⟨rfl, rfl⟩
  | some r => exact ⟨tell_other _ _ hj, (replies_append w _ j).trans (by simp [hj])⟩

theorem take_started (w : Scene Req Resp E T) (id : CallId) (d : Dispatched Req Resp E T) (t : Bool) :
    (w.take id d t).started = w.started := by
  unfold take
  split <;> rfl

theorem take_executing (w : Scene Req Resp E T) (id : CallId) (d : Dispatched Req Resp E T) (t : Bool) :
    (w.take id d t).executing = w.executing ++
    (d.reply.map fun r => (⟨id, r, t && d.release⟩ : Executing E T)).toList := by
  unfold take
  cases d.reply with
  | none => exact (List.append_nil _).symm
  | some r => rfl

theorem take_freed (w : Scene Req Resp E T) (id : CallId) (d : Dispatched Req Resp E T) (t : Bool) :
    (w.take id d t).freed = if t && d.release && d.reply.isNone then w.freed ++ [id] else w.freed := by
  unfold take
  cases d.reply with
  | none => simp
  | some r => simp

/-- A call that runs no callback on what it was given. -/
theorem take_idle {w : Scene Req Resp E T} {id : CallId} {d : Dispatched Req Resp E T} {t : Bool}
    (hr : d.reply = none) {j : CallId} (hp : d.pump.get? j = w.pump.get? j) : SameAt w (w.take id d t) j := by
  refine ⟨by rw [take_pump]; exact hp, ?_, ?_⟩ <;> simp only [take, hr, replies]

/-- A turn takes the oldest completion to its call, or changes nothing. -/
theorem turn_cases (w : Scene Req Resp E T) :
    w.turn = w ∨ ∃ c rest, w.pump.queue.ready = c :: rest ∧
      w.turn = w.take c.tag ((w.pump.keeping rest).dispatch c) (w.pump.tracker.contains c.tag) := by
  unfold turn
  cases h : w.pump.turn with
  | shutdown => exact .inl rfl
  | idle => exact .inl rfl
  | dispatched id d =>
    obtain ⟨c, rest, hq, rfl, rfl⟩ := Pump.turn_dispatched h
    exact .inr ⟨c, rest, hq, rfl⟩

theorem conclude_none {w : Scene Req Resp E T} {id : CallId} (h : w.executing.find? (·.call == id) = none) :
    w.conclude id = w := by
  simp only [conclude, h]

theorem conclude_some {w : Scene Req Resp E T} {id : CallId} {x : Executing E T}
    (h : w.executing.find? (·.call == id) = some x) :
    x.reply ∈ w.replies id ∧ (w.conclude id).replies id = [] ∧
      (w.conclude id).told id = w.told id ++ [.gave x.reply.ended.outcome] ∧
      ∀ j, (w.conclude id).pump.get? j = (w.pump.resolve id x.reply.ended).get? j := by
  simp only [conclude, h]
  refine ⟨?_, ?_, tell_self _ _ _, fun j => ?_⟩
  · exact List.mem_map_of_mem (List.mem_filter.mpr ⟨List.mem_of_find?_eq_some h, by simpa using List.find?_some h⟩)
  · simp [replies, List.filter_filter]
  · rw [tell_pump]
    split <;> rfl

theorem conclude_other (w : Scene Req Resp E T) {id j : CallId} (hj : j ≠ id) : SameAt w (w.conclude id) j := by
  cases h : w.executing.find? (·.call == id) with
  | none => rw [conclude_none h]; exact SameAt.refl w j
  | some x =>
    refine ⟨?_, ?_, ?_⟩
    · rw [(conclude_some h).2.2.2, Pump.get?_resolve, if_neg hj]
    · simp only [conclude, h]
      exact tell_other _ _ hj
    · simp only [conclude, h]
      show ((w.executing.filter (·.call != id)).filter (·.call == j)).map (·.reply) = w.replies j
      rw [List.filter_filter, replies]
      congr 2
      funext y
      by_cases e : y.call = j
      · simp [e, hj]
      · simp [e]

/-! ## Shutdown -/

theorem cancel_pump (w : Scene Req Resp E T) (id : CallId) : (w.cancel id).pump = (w.pump.cancel id).1 := by
  unfold cancel
  cases h : w.pump.get? id with
  | none => exact (Pump.cancel_none h).symm
  | some c => rfl

theorem cancelAll_pump (w : Scene Req Resp E T) : w.cancelAll.pump = w.pump.cancelAll :=
  (List.foldl_hom pump fun w id => (cancel_pump w id).symm).symm

theorem drainOne_none {w : Scene Req Resp E T} {c : Completion (Payload Resp)}
    (h : (w.pump.dispatch c).reply = none) :
    w.drainOne c = { w with pump := (w.pump.dispatch c).pump } := by
  simp only [drainOne, h]

theorem drainOne_some {w : Scene Req Resp E T} {c : Completion (Payload Resp)} {r : Reply E T}
    (h : (w.pump.dispatch c).reply = some r) :
    w.drainOne c =
      ({ w with pump := ((w.pump.dispatch c).pump.resolve c.tag r.ended).release c.tag } : Scene Req Resp E T).tell
        c.tag [.ran r, .gave r.ended.outcome] := by
  simp only [drainOne, h]

/-- A completion that a shutdown takes to another call. -/
theorem drainOne_other {w : Scene Req Resp E T} {c : Completion (Payload Resp)} {j : CallId} (hj : j ≠ c.tag)
    (hp : (w.pump.dispatch c).pump.get? j = w.pump.get? j) : SameAt w (w.drainOne c) j := by
  cases hx : (w.pump.dispatch c).reply with
  | none => rw [drainOne_none hx]; exact ⟨hp, rfl, rfl⟩
  | some r =>
    rw [drainOne_some hx]
    refine ⟨?_, tell_other _ _ hj, rfl⟩
    show ((w.pump.dispatch c).pump.resolve c.tag r.ended).get? j = _
    rw [Pump.get?_resolve, if_neg hj, hp]

theorem drainOne_pump (w : Scene Req Resp E T) (c : Completion (Payload Resp)) :
    (w.drainOne c).pump =
      match (w.pump.dispatch c).reply with
      | none => (w.pump.dispatch c).pump
      | some r => ((w.pump.dispatch c).pump.resolve c.tag r.ended).release c.tag := by
  cases h : (w.pump.dispatch c).reply with
  | none => rw [drainOne_none h]
  | some r => rw [drainOne_some h]; rfl

theorem drain_pump (w : Scene Req Resp E T) : w.drain.pump = w.pump.drain :=
  (List.foldl_hom pump fun w c => (drainOne_pump w c).symm).symm

/-- What the events call a shutdown is the pump's. -/
theorem shutdown_pump (w : Scene Req Resp E T) : w.shutdown.pump = w.pump.shutdown := by
  have h1 : w.refuse.cancelAll.pump = { w.pump with shutdownRequested := true }.cancelAll := cancelAll_pump w.refuse
  unfold shutdown Pump.shutdown
  simp only [drain_pump, setQueue, h1]

end Scene

end CallPump
