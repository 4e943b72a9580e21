/-
  CallPump.Proofs.Pump.Stay — one call among others, on a pump that stays live.

  Calls are created, started (also again) and cancelled, operations end and die, completions
  are taken and callbacks end, in any order, by whomever; nothing is shut down and no
  completion goes past the queue (`Live`). Of all this a call notices its own touches: that
  it is started or cancelled, that an operation of its own ends or dies, that a completion
  of its own is taken (`touch?`). What the pump asks of the transport for the call, and what
  the call's callback is given, are the call's own doing.

  - `beside_step`: an event is a step of the call's round if it touches the call, and else
    changes nothing of it.
  - `Stay.beside`: what a pump has of a call, after any live run, is what the call has come
    to by itself from its touches alone.
-/

import CallPump.Proofs.Call.Solo
import CallPump.Proofs.Pump.Balance
import CallPump.Proofs.Pump.Shutdown

namespace CallPump

variable {Req Resp E T : Type}

def Deed.ran? : Deed Resp E T → Option (Reply E T)
  | .ran r => some r
  | _ => none

/-! ## Orders of one call -/

def Order.call : Order Req Resp → CallId
  | .spawn id _ | .hangUp id | .run _ id _ | .dropStream id => id

def Order.ask : Order Req Resp → Ask Req Resp
  | .spawn _ ctx => .spawn ctx
  | .hangUp _ => .hangUp
  | .run _ _ op => .run op
  | .dropStream _ => .dropStream

/-- What is asked for one call, among what is asked for all. -/
def asksFor (id : CallId) (os : List (Order Req Resp)) : List (Ask Req Resp) :=
  (os.filter (·.call == id)).map Order.ask

theorem asksFor_append (id : CallId) (os os' : List (Order Req Resp)) :
    asksFor id (os ++ os') = asksFor id os ++ asksFor id os' := by
  simp only [asksFor, List.filter_append, List.map_append]

theorem asksFor_one (id : CallId) (o : Order Req Resp) :
    asksFor id [o] = if o.call = id then [o.ask] else [] := by
  by_cases e : o.call = id <;> simp [asksFor, e]

namespace Pump

variable {p : Pump Req Resp E T}

theorem asksFor_orderAll (h : p.queue.closed = false) (id : CallId) (cs : List (Cmd Req Resp)) (j : CallId) :
    asksFor j (orderAll id cs p).2 = if id = j then cs.map Cmd.ask else [] := by
  induction cs generalizing p with
  | nil => simp [orderAll, asksFor]
  | cons c cs ih =>
    have one (q : Pump Req Resp E T) (o : Order Req Resp) (hc : o.call = id) (ha : o.ask = c.ask)
        (hq : q.queue.closed = false) :
        asksFor j ([o] ++ (orderAll id cs q).2) = if id = j then (c :: cs).map Cmd.ask else [] := by
      rw [asksFor_append, asksFor_one, ih hq, hc, ha]
      by_cases e : id = j <;> simp [e]
    cases c with
    | spawn ctx =>
      simp only [orderAll, order, h, Bool.false_eq_true, if_false]
      exact one p (.spawn id ctx) rfl rfl h
    | hangUp => exact one p (.hangUp id) rfl rfl h
    | post op =>
      simp only [orderAll, order, Queue.post, h, Bool.false_eq_true, if_false]
      exact one _ (.run p.queue.issued id op) rfl rfl rfl

theorem flying_make (h : p.queue.closed = false) (id : CallId)
    (m : Move (Machine Req Resp (Callback Resp E T)) Req Resp (Callback Resp E T)) (j : CallId) :
    (p.make id m).1.queue.flying j = p.queue.flying j ++ if id = j then m.posts else [] := by
  rw [make_queue, Queue.flying_postAll h]

theorem queued_make (id : CallId)
    (m : Move (Machine Req Resp (Callback Resp E T)) Req Resp (Callback Resp E T)) (j : CallId) :
    (p.make id m).1.queue.queued j = p.queue.queued j := by
  rw [make_queue, Queue.queued_postAll]

/-- A move asks for its call alone, and for all that it wishes. -/
theorem asksFor_make (h : p.queue.closed = false) (id : CallId)
    (m : Move (Machine Req Resp (Callback Resp E T)) Req Resp (Callback Resp E T)) (j : CallId) :
    asksFor j (p.make id m).2 = if id = j then m.cmds.map Cmd.ask else [] := by
  refine asksFor_orderAll ?_ id m.cmds j
  rw [modify_frame]
  exact h

theorem asksFor_cancel (h : p.queue.closed = false) {id : CallId} {b : Call Req Resp E T} (hb : p.get? id = some b)
    (j : CallId) : asksFor j (p.cancel id).2 = if id = j then b.machine.cancel.cmds.map Cmd.ask else [] := by
  simp only [cancel, hb]
  exact asksFor_make h id _ j

theorem asksFor_start (h : p.queue.closed = false) {id : CallId} {b : Call Req Resp E T} (hb : p.get? id = some b)
    (ctx : Context) (l : Launch Req) (cb : Callback Resp E T) (j : CallId) :
    asksFor j (p.start id ctx l cb).2.2 =
      if id = j then ((b.machine.start true ctx l cb).map fun m => m.cmds.map Cmd.ask).getD [] else [] := by
  simp only [start, hb, h, Bool.not_false]
  cases b.machine.start true ctx l cb with
  | none => simp [asksFor]
  | some m => exact asksFor_make h id m j

/-- A stream that is not read on is dropped, in the name of the call that it came to. -/
theorem asksFor_deliver (h : p.queue.closed = false) {id : CallId} {b : Call Req Resp E T}
    (hb : p.get? id = some b) (ok : Bool) (x : Payload Resp) (j : CallId) :
    let m := b.machine.advance ok x
    asksFor j (p.deliver id ok x).orders =
      if id = j then m.cmds.map Cmd.ask ++ Touch.drops (.take ok x : Touch Req Resp (Callback Resp E T)) m else [] := by
  intro m
  have hd : (p.deliver id ok x).orders =
      if x.hasStream && !m.readsOn then (p.make id m).2 ++ [.dropStream id] else (p.make id m).2 := by
    simp only [deliver, hb]
    rfl
  rw [hd, Touch.drops]
  split
  · rw [asksFor_append, asksFor_make h, asksFor_one]
    by_cases e : id = j <;> simp [Order.call, Order.ask, e]
  · rw [asksFor_make h, List.append_nil]

theorem orders_tracked {c : Completion (Payload Resp)} (h : p.tracker.contains c.tag = true) :
    (p.dispatch c).orders = (p.deliver c.tag c.ok c.payload).orders := by
  simp only [dispatch, h, if_true]
  split <;> rfl

theorem orders_untracked {c : Completion (Payload Resp)} (h : p.tracker.contains c.tag = false) :
    (p.dispatch c).orders = if c.payload.hasStream then [.dropStream c.tag] else [] := by
  simp [dispatch, h]

/-- A completion means nothing to another call. -/
theorem dispatch_other (h : p.queue.closed = false) (c : Completion (Payload Resp)) {j : CallId} (hj : c.tag ≠ j) :
    (p.dispatch c).pump.get? j = p.get? j ∧ (p.dispatch c).pump.queue.flying j = p.queue.flying j ∧
      (p.dispatch c).pump.queue.queued j = p.queue.queued j ∧ asksFor j (p.dispatch c).orders = [] := by
  cases ht : p.tracker.contains c.tag with
  | false =>
    rw [(dispatch_untracked ht).1, orders_untracked ht]
    refine ⟨rfl, rfl, rfl, ?_⟩
    split
    · rw [asksFor_one]; exact if_neg hj
    · rfl
  | true =>
    cases hb : p.get? c.tag with
    | none =>
      obtain ⟨hp, -, -⟩ := dispatch_tracked ht
      rw [orders_tracked ht, hp, deliver_none hb]
      exact ⟨rfl, rfl, rfl, rfl⟩
    | some b =>
      obtain ⟨hp, -, -⟩ := dispatch_of_get? ht hb
      rw [orders_tracked ht, hp, asksFor_deliver h hb, if_neg hj]
      refine ⟨(get?_make p _ _ j).trans (if_neg (Ne.symm hj)), ?_, queued_make _ _ j, rfl⟩
      exact (flying_make h _ _ j).trans (by rw [if_neg hj, List.append_nil])

/-- Whatever its call makes of a completion, the queue stays open or closed and nothing more
    is queued. -/
theorem dispatch_queue (p : Pump Req Resp E T) (c : Completion (Payload Resp)) :
    (p.dispatch c).pump.queue.closed = p.queue.closed ∧ (p.dispatch c).pump.queue.ready = p.queue.ready := by
  cases ht : p.tracker.contains c.tag with
  | false => rw [(dispatch_untracked ht).1]; exact ⟨rfl, rfl⟩
  | true =>
    have hd : (p.deliver c.tag c.ok c.payload).pump.queue.closed = p.queue.closed ∧
        (p.deliver c.tag c.ok c.payload).pump.queue.ready = p.queue.ready := by
      cases hb : p.get? c.tag with
      | none => rw [deliver_none hb]; exact ⟨rfl, rfl⟩
      | some b => rw [(deliver_of_get? hb c.ok c.payload).1, make_queue]; exact Queue.postAll_frame _ _ _
    rw [(dispatch_tracked ht).1]
    split
    · exact hd
    · exact hd

/-- A turn takes the oldest completion to its call. -/
theorem turn_of_ready (h : p.shutdownRequested = false) {c : Completion (Payload Resp)}
    {rest : List (Completion (Payload Resp))} (hq : p.queue.ready = c :: rest) :
    p.turn = .dispatched c.tag ((p.keeping rest).dispatch c) := by
  simp only [turn, h, Bool.false_eq_true, if_false, Queue.next, hq, keeping]

theorem turn_of_idle (h : p.shutdownRequested = false) (hc : p.queue.closed = false) (hq : p.queue.ready = []) :
    p.turn = .idle := by
  simp [turn, h, Queue.next, hq, hc]

end Pump

/-- What a call by itself makes of its promise, once its callback has ended. -/
def Solo.result (s : Solo Req Resp (Callback Resp E T)) : Handoff T :=
  match s.given with
  | a :: _ => .ready (a.1 a.2).ended.outcome
  | [] => if s.machine.state = .cancelled then .ready (.error .cancelled) else {}

namespace Scene

variable {w : Scene Req Resp E T} {id : CallId}

/-! ## Live runs -/

/-- What may happen on a pump that stays live. -/
def Live (_ : Scene Req Resp E T) : Event Req Resp E T → Prop
  | .inject _ _ _ | .close | .shutdown => False
  | .create _ | .start _ _ _ _ | .cancel _ | .finish _ _ _ | .abandon _ | .turn | .conclude _ => True

theorem closed_step {e : Event Req Resp E T} (he : Live w e) :
    (w.step e).pump.queue.closed = w.pump.queue.closed := by
  cases e with
  | create k =>
    cases hs : w.pump.shutdownRequested with
    | true => simp only [step, create, Pump.create_closed hs]
    | false => simp only [step, create, Pump.create_open hs]
  | start id ctx l cb =>
    rcases start_pump w id ctx l cb with hp | ⟨c, hc, -, hp⟩
    · rw [step, hp]
    · rw [step, hp, Pump.start_fst hc]
      split
      · rfl
      · rw [Pump.make_closed]
  | cancel id =>
    rw [step, cancel_pump, Pump.cancel_frame]
  | finish t ok x => exact Queue.finish_closed _ t ok x
  | abandon t => rfl
  | turn =>
    rcases turn_cases w with h | ⟨c, rest, -, h⟩
    · rw [step, h]
    · rw [step, h, take_pump]
      exact (Pump.dispatch_queue (w.pump.keeping rest) c).1
  | conclude id =>
    rcases conclude_pump w id with h | ⟨r, -, hp | hp⟩
    · rw [step, h]
    · rw [step, hp, Pump.resolve_frame]
    · rw [step, hp, Pump.release_resolve]
  | inject id ok x => cases he
  | close => cases he
  | shutdown => cases he

/-- The pump takes calls and operations, and has hold of what is open. -/
structure Alive (w : Scene Req Resp E T) : Prop where
  life : ∀ id, w.LifeAt id
  running : w.pump.Running
  taking : w.pump.queue.closed = false

theorem alive_empty : Alive ({} : Scene Req Resp E T) := ⟨fun id => lifeAt_run [] id, Pump.running_empty, rfl⟩

theorem alive_step (e : Event Req Resp E T) (he : Live w e) (hw : Alive w) : Alive (w.step e) := by
  have hc := (closed_step he).trans hw.taking
  refine ⟨fun id => (onward_step e (hw.life id)).life, ?_, hc⟩
  rcases running_step hw.life hw.running e with h | h
  · exact h
  · rw [h.closed] at hc; cases hc

theorem alive_run {es : List (Event Req Resp E T)} (h : Follows Live {} es) :
    Alive (({} : Scene Req Resp E T).run es) :=
  follows_induction (fun _ e he hw => alive_step e he hw) es {} h alive_empty

/-! ## What a call notices -/

/-- What an event does to the call, if it does anything to it. -/
def touch? (w : Scene Req Resp E T) (id : CallId) :
    Event Req Resp E T → Option (Touch Req Resp (Callback Resp E T))
  | .start j ctx l cb =>
    if j = id ∧ (w.pump.get? j).any (·.machine.kind = l.kind) then some (.start ctx l cb) else none
  | .cancel j => if j = id ∧ (w.pump.get? j).isSome then some .cancel else none
  | .finish t ok x => (w.pump.queue.find? t).bind fun o => if o.tag = id then some (.back o.op ok x) else none
  | .abandon t => (w.pump.queue.find? t).bind fun o => if o.tag = id then some (.lost o.op) else none
  | .turn => w.pump.queue.ready.head?.bind fun c => if c.tag = id then some (.take c.ok c.payload) else none
  | .create _ | .inject _ _ _ | .conclude _ | .close | .shutdown => none

/-- A turn touches the call that the oldest completion is for. -/
theorem touch?_turn {c : Completion (Payload Resp)} {cs : List (Completion (Payload Resp))}
    (h : w.pump.queue.ready = c :: cs) (id : CallId) :
    w.touch? id .turn = if c.tag = id then some (.take c.ok c.payload) else none := by
  simp only [touch?, h, List.head?_cons, Option.bind_some]

/-- What the pump asks of the transport in an event of a live run. -/
def orders (w : Scene Req Resp E T) : Event Req Resp E T → List (Order Req Resp)
  | .start id ctx l cb =>
    if (w.pump.get? id).any (·.machine.kind = l.kind) then (w.pump.start id ctx l cb).2.2 else []
  | .cancel id => (w.pump.cancel id).2
  | .turn =>
    match w.pump.turn with
    | .dispatched _ d => d.orders
    | _ => []
  | .inject id ok x => (w.pump.deliver id ok x).orders
  | .create _ | .finish _ _ _ | .abandon _ | .conclude _ | .close | .shutdown => []

/-- The callback that a turn begins, with its call and with what it is given. -/
def begins? (w : Scene Req Resp E T) :
    Event Req Resp E T → Option (CallId × Callback Resp E T × Except GrpcStatus (Answer Resp))
  | .turn =>
    w.pump.queue.ready.head?.bind fun c =>
      if w.pump.tracker.contains c.tag then
        (w.pump.get? c.tag).bind fun b => (b.machine.advance c.ok c.payload).answer.map fun a => (c.tag, a)
      else none
  | _ => none

/-- What the pump hands out to be run is that callback on that argument. -/
theorem begins_turn {d : Dispatched Req Resp E T} (h : w.pump.turn = .dispatched id d) :
    d.reply.map (fun r => (id, r)) = (w.begins? .turn).map fun x => (x.1, x.2.1 x.2.2) := by
  obtain ⟨c, rest, hq, rfl, rfl⟩ := Pump.turn_dispatched h
  simp only [begins?, hq, List.head?_cons, Option.bind_some]
  cases ht : w.pump.tracker.contains c.tag with
  | false =>
    rw [(Pump.dispatch_untracked (p := w.pump.keeping rest) ht).2]
    rfl
  | true =>
    rw [if_pos rfl, (Pump.dispatch_tracked (p := w.pump.keeping rest) ht).2.1]
    cases hb : w.pump.get? c.tag with
    | none => rw [Pump.deliver_none (p := w.pump.keeping rest) hb]; rfl
    | some b =>
      rw [(Pump.deliver_of_get? (p := w.pump.keeping rest) hb c.ok c.payload).2.1, Option.map_map, Option.bind_some,
        Option.map_map]
      rfl

def given? (w : Scene Req Resp E T) (id : CallId) (e : Event Req Resp E T) :
    Option (Callback Resp E T × Except GrpcStatus (Answer Resp)) :=
  (w.begins? e).bind fun x => if x.1 = id then some x.2 else none

/-- What the pump has of a call is what the round says. -/
structure Beside (w : Scene Req Resp E T) (id : CallId) (r : Round Req Resp (Callback Resp E T)) : Prop where
  machine : ∃ h, w.pump.get? id = some ⟨r.call.machine, h⟩
  flying : w.pump.queue.flying id = r.flying
  queued : w.pump.queue.queued id = r.queued
  ran : (w.told id).filterMap Deed.ran? = r.call.given.map fun a => a.1 a.2
  accepted : ∀ cb, .took cb false ∉ w.told id

theorem beside_same {v : Scene Req Resp E T} {r : Round Req Resp (Callback Resp E T)} (hw : Beside w id r)
    (h : SameAt w v id) (hf : v.pump.queue.flying id = w.pump.queue.flying id)
    (hq : v.pump.queue.queued id = w.pump.queue.queued id) : Beside v id r := by
  refine ⟨?_, hf.trans hw.flying, hq.trans hw.queued, ?_, ?_⟩
  · rw [h.call]; exact hw.machine
  · rw [h.told]; exact hw.ran
  · rw [h.told]; exact hw.accepted

/-- The round goes on, over what an event does to the call, to what the pump has of it then. -/
structure Passage (v : Scene Req Resp E T) (id : CallId) (r r' : Round Req Resp (Callback Resp E T))
    (t : Option (Touch Req Resp (Callback Resp E T))) (asks : List (Ask Req Resp))
    (given : Option (Callback Resp E T × Except GrpcStatus (Answer Resp))) : Prop where
  run : Round.Runs r t.toList r'
  beside : Beside v id r'
  asked : r'.call.asked = r.call.asked ++ asks
  given : r'.call.given = r.call.given ++ given.toList

theorem passage_none {v : Scene Req Resp E T} {r : Round Req Resp (Callback Resp E T)} (h : Beside v id r) :
    Passage v id r r none [] none := ⟨.nil r, h, (List.append_nil _).symm, (List.append_nil _).symm⟩

/-- The call makes a move, and its operations join those on their way. -/
theorem passage_moved {v : Scene Req Resp E T} {r r' : Round Req Resp (Callback Resp E T)}
    {t : Touch Req Resp (Callback Resp E T)} {m : Move (Machine Req Resp (Callback Resp E T)) Req Resp (Callback Resp E T)}
    {h : Handoff T} {ds : List (Deed Resp E T)} (hw : Beside w id r) (hm : r.call.move t = some m)
    (hs : Round.Step r t r') (hf : r'.flying = r.flying ++ m.posts) (hg : v.pump.get? id = some ⟨m.next, h⟩)
    (hvf : v.pump.queue.flying id = w.pump.queue.flying id ++ m.posts) (hvq : v.pump.queue.queued id = r'.queued)
    (ht : v.told id = w.told id ++ ds) (hd : ds.filterMap Deed.ran? = m.answer.toList.map fun a => a.1 a.2)
    (ha : ∀ cb, .took cb false ∉ ds) :
    Passage v id r r' (some t) (m.cmds.map Cmd.ask ++ t.drops m) m.answer := by
  have hc : r'.call = ⟨m.next, r.call.asked ++ (m.cmds.map Cmd.ask ++ t.drops m), r.call.given ++ m.answer.toList⟩ :=
    hs.call.trans (Solo.step_some hm).1
  refine ⟨.cons hs (.nil r'), ⟨⟨h, ?_⟩, ?_, hvq, ?_, fun cb => ?_⟩, ?_, ?_⟩
  · rw [hg, hc]
  · rw [hvf, hw.flying, hf]
  · rw [ht, List.filterMap_append, hw.ran, hd, hc, List.map_append]
  · rw [ht, List.mem_append]
    rintro (hx | hx)
    · exact hw.accepted cb hx
    · exact ha cb hx
  · rw [hc]
  · rw [hc]

variable {r : Round Req Resp (Callback Resp E T)}

/-- Between callbacks the call's outcome is what the call has come to. -/
theorem Beside.call (hr : Beside w id r) (hl : w.LifeAt id) (hn : w.replies id = []) :
    w.pump.get? id = some ⟨r.call.machine, r.call.result⟩ := by
  obtain ⟨h, hb⟩ := hr.machine
  have hl' := (lifeAt_some hb).mp hl
  have hran := hr.ran
  have hacc := hr.accepted
  rw [hn] at hl'
  generalize hd : w.told id = ds at hl' hran hacc
  generalize hm : r.call.machine.resolver = v at hl'
  have hs : r.call.machine.state = v.state := congrArg Resolver.state hm
  -- a callback that ran is one that was given something
  have quiet (hz : ds.filterMap Deed.ran? = []) : r.call.given = [] := by
    rw [hz] at hran
    exact List.map_eq_nil_iff.mp hran.symm
  rw [hb, Solo.result]
  cases hl' with
  | notStarted => rw [quiet rfl, hs]; rfl
  | called cb => rw [quiet rfl, hs]; rfl
  | cancelledUnstarted => rw [quiet rfl, hs]; rfl
  | cancelled cb => rw [quiet rfl, hs]; rfl
  | refused cb => exact absurd List.mem_cons_self (hacc cb)
  | completed cb x =>
    cases hg : r.call.given with
    | nil => rw [hg] at hran; cases hran
    | cons a as =>
      rw [hg] at hran
      rw [show cb x = a.1 a.2 from (List.cons.inj hran).1]
      rfl

/-! ## Every event -/

theorem rejects_silent (s : Option Status) :
    (Deed.rejects s : List (Deed Resp E T)).filterMap Deed.ran? = [] ∧
      ∀ cb, .took cb false ∉ (Deed.rejects s : List (Deed Resp E T)) := by
  cases s with
  | none => exact ⟨rfl, nofun⟩
  | some s => exact ⟨rfl, by simp [Deed.rejects]⟩

theorem beside_create (hr : Beside w id r) (k : CallKind) : Beside (w.create k) id r := by
  obtain ⟨h, hg⟩ := hr.machine
  cases hs : w.pump.shutdownRequested with
  | true => simp only [create, Pump.create_closed hs]; exact hr
  | false =>
    have hne : id ≠ w.pump.calls.length + 1 := by
      rintro rfl
      rw [Pump.get?_next] at hg
      cases hg
    simp only [create, Pump.create_open hs]
    exact beside_same hr ⟨(Pump.get?_append _ _ _ _).trans (if_neg hne), rfl, rfl⟩ rfl rfl

theorem passage_start (hw : Alive w) (hr : Beside w id r) (j : CallId) (ctx : Context) (l : Launch Req)
    (cb : Callback Resp E T) :
    ∃ r', Passage (w.start j ctx l cb) id r r' (w.touch? id (.start j ctx l cb))
      (asksFor id (w.orders (.start j ctx l cb))) none := by
  cases hg : w.pump.get? j with
  | none =>
    refine ⟨r, ?_⟩
    simp only [start, touch?, orders, hg, Option.any_none, Bool.false_eq_true, and_false, if_false]
    exact passage_none hr
  | some b =>
    by_cases hk : b.machine.kind = l.kind
    · have hlive : (!w.pump.queue.closed) = true := by rw [hw.taking]; rfl
      simp only [touch?, orders, hg, Option.any_some, hk, decide_true, and_true, if_true]
      rw [Pump.asksFor_start hw.taking hg]
      by_cases e : j = id
      · subst e
        obtain ⟨h, hb⟩ := hr.machine
        cases hg.symm.trans hb
        simp only [if_true]
        cases hm : r.call.machine.start true ctx l cb with
        | none =>
          obtain ⟨hs, hp⟩ := Solo.step_none (s := r.call) (t := .start ctx l cb) hm
          have hl : r.call.machine.resolver.takesStart cb = false :=
            Life.start_none ((lifeAt_some hb).mp (hw.life j)) hk hm
          rw [start_of_none hb hk (by rw [hlive]; exact hm), hl]
          refine ⟨r, ?_, ?_, (List.append_nil _).symm, (List.append_nil _).symm⟩
          · have hs' := Round.Step.start r ctx l cb
            rw [Round.moved, hs, hp, List.append_nil] at hs'
            exact .cons hs' (.nil r)
          · exact beside_same hr ⟨rfl, (tell_self _ _ _).trans (List.append_nil _), rfl⟩ rfl rfl
        | some m =>
          have ha := Machine.start_answer hm
          have hmv : r.call.move (.start ctx l cb) = some m := hm
          have hp := (Solo.step_some hmv).2
          rw [start_of_some hb hk (by rw [hlive]; exact hm)]
          refine ⟨r.moved (.start ctx l cb), ?_⟩
          have hv := passage_moved (v := ({ w with pump := (w.pump.make j m).1, started := w.started ++ [j] } :
              Scene Req Resp E T).tell j ((if r.call.machine.resolver.takesStart cb
                then [.took cb (!w.pump.queue.closed)] else []) ++ Deed.rejects m.reject))
            hr hmv (.start r ctx l cb) (by rw [Round.moved, hp]) (Pump.get?_make_self hb m) ?_ ?_ (tell_self _ _ _) ?_ ?_
          · rw [ha] at hv
            simpa [Touch.drops] using hv
          · rw [tell_pump, Pump.flying_make hw.taking, if_pos rfl]
          · exact (Pump.queued_make j m j).trans hr.queued
          · rw [List.filterMap_append, (rejects_silent m.reject).1, ha]
            split <;> rfl
          · intro cb'
            rw [hlive, List.mem_append]
            rintro (hx | hx)
            · split at hx <;> simp at hx
            · exact (rejects_silent m.reject).2 cb' hx
      · refine ⟨r, ?_⟩
        simp only [if_neg e]
        refine passage_none (beside_same hr (start_other w ctx l cb (Ne.symm e)) ?_ ?_)
        · cases hm : b.machine.start (!w.pump.queue.closed) ctx l cb with
          | none => rw [start_of_none hg hk hm]; rfl
          | some m =>
            rw [start_of_some hg hk hm]
            exact (Pump.flying_make hw.taking j m id).trans (by rw [if_neg e, List.append_nil])
        · cases hm : b.machine.start (!w.pump.queue.closed) ctx l cb with
          | none => rw [start_of_none hg hk hm]; rfl
          | some m =>
            rw [start_of_some hg hk hm]
            exact Pump.queued_make j m id
    · refine ⟨r, ?_⟩
      simp only [start, touch?, orders, hg, hk, Option.any_some, decide_false, Bool.false_eq_true, and_false, if_false]
      exact passage_none hr

theorem passage_cancel (hw : Alive w) (hr : Beside w id r) (j : CallId) :
    ∃ r', Passage (w.cancel j) id r r' (w.touch? id (.cancel j)) (asksFor id (w.orders (.cancel j))) none := by
  cases hg : w.pump.get? j with
  | none =>
    refine ⟨r, ?_⟩
    simp only [cancel, touch?, orders, Pump.cancel, hg, Option.isSome_none, Bool.false_eq_true, and_false, if_false]
    exact passage_none hr
  | some b =>
    simp only [touch?, orders, hg, Option.isSome_some, and_true]
    rw [Pump.asksFor_cancel hw.taking hg, cancel_of_get? hg]
    by_cases e : j = id
    · subst e
      obtain ⟨h, hb⟩ := hr.machine
      cases hg.symm.trans hb
      have ha := Machine.cancel_answer r.call.machine
      have hp := (Solo.step_some (s := r.call) (t := .cancel) rfl).2
      refine ⟨r.moved .cancel, ?_⟩
      have hv := passage_moved (v := ({ w with pump := (w.pump.make j r.call.machine.cancel).1 } :
          Scene Req Resp E T).tell j (Deed.rejects r.call.machine.cancel.reject))
        hr rfl (.cancel r) (by rw [Round.moved, hp]) (Pump.get?_make_self hb _) ?_ ?_ (tell_self _ _ _) ?_ ?_
      · rw [ha] at hv
        simpa [Touch.drops] using hv
      · rw [tell_pump, Pump.flying_make hw.taking, if_pos rfl]
      · exact (Pump.queued_make j _ j).trans hr.queued
      · rw [(rejects_silent _).1, ha]; rfl
      · exact (rejects_silent _).2
    · refine ⟨r, ?_⟩
      simp only [if_neg e]
      have ho := cancel_other w (Ne.symm e)
      rw [cancel_of_get? hg] at ho
      refine passage_none (beside_same hr ho ?_ ?_)
      · rw [tell_pump, Pump.flying_make hw.taking, if_neg e, List.append_nil]
      · rw [tell_pump, Pump.queued_make]

theorem passage_finish (hw : Alive w) (hr : Beside w id r) (t : Nat) (ok : Bool) (x : Payload Resp) :
    ∃ r', Passage (w.setQueue (w.pump.queue.finish t ok x)) id r r' (w.touch? id (.finish t ok x)) [] none := by
  have same := setQueue_same w (w.pump.queue.finish t ok x) id
  cases ho : w.pump.queue.find? t with
  | none =>
    rw [Queue.finish_none ho]
    simp only [touch?, ho, Option.bind_none]
    exact ⟨r, passage_none hr⟩
  | some o =>
    have hf := Queue.flying_abandon hw.running.ticketed ho id
    have hq := Queue.queued_finish ho ok x id
    have hfl : (w.pump.queue.finish t ok x).flying id = (w.pump.queue.abandon t).flying id := by
      rw [Queue.finish_some ho]; rfl
    simp only [touch?, ho, Option.bind_some]
    by_cases e : o.tag = id
    · rw [if_pos e] at hf hq
      obtain ⟨as, bs, ha, hb⟩ := hf
      rw [hr.flying] at ha
      rw [if_pos e]
      refine ⟨{ r with flying := as ++ bs, queued := r.queued ++ [(ok, x)] }, .cons (.back ok x ha) (.nil _), ?_,
        (List.append_nil _).symm, (List.append_nil _).symm⟩
      refine ⟨hr.machine, hfl.trans hb, hq.trans ?_, hr.ran, hr.accepted⟩
      rw [hr.queued]
    · rw [if_neg e] at hf hq ⊢
      exact ⟨r, passage_none (beside_same hr same (hfl.trans hf) (hq.trans (List.append_nil _)))⟩

theorem passage_abandon (hw : Alive w) (hr : Beside w id r) (t : Nat) :
    ∃ r', Passage (w.setQueue (w.pump.queue.abandon t)) id r r' (w.touch? id (.abandon t)) [] none := by
  have same := setQueue_same w (w.pump.queue.abandon t) id
  cases ho : w.pump.queue.find? t with
  | none =>
    rw [Queue.abandon_none ho]
    simp only [touch?, ho, Option.bind_none]
    exact ⟨r, passage_none hr⟩
  | some o =>
    have hf := Queue.flying_abandon hw.running.ticketed ho id
    simp only [touch?, ho, Option.bind_some]
    by_cases e : o.tag = id
    · rw [if_pos e] at hf
      obtain ⟨as, bs, ha, hb⟩ := hf
      rw [hr.flying] at ha
      rw [if_pos e]
      exact ⟨{ r with flying := as ++ bs }, .cons (.lost ha) (.nil _),
        ⟨hr.machine, hb, hr.queued, hr.ran, hr.accepted⟩, (List.append_nil _).symm, (List.append_nil _).symm⟩
    · rw [if_neg e] at hf ⊢
      exact ⟨r, passage_none (beside_same hr same hf rfl)⟩

/-- The call takes a completion while it is tracked. -/
theorem passage_take (hw : Alive w) (hr : Beside w id r) {c : Completion (Payload Resp)}
    {rest : List (Completion (Payload Resp))} (hq : w.pump.queue.ready = c :: rest) (e : c.tag = id)
    (ht : w.pump.tracker.contains id = true) :
    let m := r.call.machine.advance c.ok c.payload
    ∃ r', Passage (w.take id ((w.pump.keeping rest).dispatch c) true) id r r' (some (.take c.ok c.payload))
      (m.cmds.map Cmd.ask ++ Touch.drops (.take c.ok c.payload : Touch Req Resp (Callback Resp E T)) m) m.answer := by
  intro m
  subst e
  obtain ⟨h, hb⟩ := hr.machine
  have hv := turned_of_tracked rest ht hb
  have hd := (Pump.dispatch_of_get? (p := w.pump.keeping rest) ht hb).2.1
  have hpop := (Queue.queued_pop hq c.tag).symm.trans hr.queued
  rw [if_pos rfl] at hpop
  have hmv : r.call.move (.take c.ok c.payload) = some m := rfl
  refine ⟨{ r.moved (.take c.ok c.payload) with
    queued := ({ w.pump.queue with ready := rest } : Queue _ _).queued c.tag }, ?_⟩
  refine passage_moved hr hmv (.take hpop.symm) ?_ ((hv.call c.tag).trans (if_pos rfl)) ?_ ?_
    (take_self w c.tag _ true).1 ?_ ?_
  · show r.flying ++ r.call.posts _ = _
    rw [(Solo.step_some hmv).2]
  · rw [hv.queue, Queue.flying_postAll (by exact hw.taking), if_pos rfl]
    rfl
  · rw [hv.queue, Queue.queued_postAll]
    rfl
  · rw [hd]
    show List.filterMap _ (Option.map _ (Option.map _ m.answer)).toList = _
    cases m.answer <;> rfl
  · intro cb
    rw [hd]
    show _ ∉ (Option.map _ (Option.map _ m.answer)).toList
    cases m.answer <;> simp

/-- A call that is let go of does nothing with a completion. -/
theorem passage_reject (hw : Alive w) (hr : Beside w id r) {c : Completion (Payload Resp)}
    {rest : List (Completion (Payload Resp))} (hq : w.pump.queue.ready = c :: rest) (e : c.tag = id)
    (ht : w.pump.tracker.contains id = false) :
    ∃ r', Passage (w.take id ((w.pump.keeping rest).dispatch c) false) id r r' (some (.take c.ok c.payload))
      (if c.payload.hasStream then [.dropStream] else []) none := by
  subst e
  obtain ⟨h, hb⟩ := hr.machine
  obtain ⟨hp, hn⟩ := Pump.dispatch_untracked (p := w.pump.keeping rest) ht
  have hpop := (Queue.queued_pop hq c.tag).symm.trans hr.queued
  rw [if_pos rfl] at hpop
  -- an open call is tracked
  have hs : r.call.machine.state ≠ .called := by
    intro hs
    have := (hw.running.held c.tag).tracked _ (Pump.stateAt_some hb) (by rw [hs]; rfl)
    rw [ht] at this
    cases this
  have hmv : r.call.move (.take c.ok c.payload) = some (.done r.call.machine) :=
    congrArg some (Machine.advance_idle hs c.ok c.payload)
  have hd : [] ++ Touch.drops (.take c.ok c.payload : Touch Req Resp (Callback Resp E T)) (.done r.call.machine) =
      if c.payload.hasStream then [.dropStream] else [] := by
    cases hs : c.payload.hasStream <;> simp [Touch.drops, hs, Move.readsOn, Move.done]
  refine ⟨{ r.moved (.take c.ok c.payload) with
    queued := ({ w.pump.queue with ready := rest } : Queue _ _).queued c.tag }, ?_⟩
  rw [← hd]
  have hk : (w.take c.tag ((w.pump.keeping rest).dispatch c) false).told c.tag = w.told c.tag ++ [] := by
    rw [(take_self w c.tag _ false).1, hn]
    rfl
  refine passage_moved (h := h) hr hmv (.take hpop.symm) ?_ ?_ ?_ ?_ hk rfl fun cb => List.not_mem_nil
  · show r.flying ++ r.call.posts _ = _
    rw [(Solo.step_some hmv).2]
  · rw [take_pump, hp]
    exact hb
  · rw [take_pump, hp]
    exact (List.append_nil _).symm
  · rw [take_pump, hp]
    rfl

theorem only_mine (j id : CallId) {A : Type} (o : Option A) :
    ((o.map fun a => (j, a)).bind fun x => if x.1 = id then some x.2 else none) = if j = id then o else none := by
  cases o <;> simp

theorem passage_turn (hw : Alive w) (hr : Beside w id r) :
    ∃ r', Passage w.turn id r r' (w.touch? id .turn) (asksFor id (w.orders .turn)) (w.given? id .turn) := by
  cases hq : w.pump.queue.ready with
  | nil =>
    have ht := Pump.turn_of_idle hw.running.running hw.taking hq
    refine ⟨r, ?_⟩
    simp only [turn, touch?, orders, given?, begins?, ht, hq, List.head?_nil, Option.bind_none]
    exact passage_none hr
  | cons c rest =>
    have ht := Pump.turn_of_ready hw.running.running hq
    simp only [turn, touch?, orders, given?, begins?, ht, hq, List.head?_cons, Option.bind_some]
    by_cases e : c.tag = id
    · obtain ⟨h, hb⟩ := hr.machine
      simp only [e, if_true, hb, Option.bind_some]
      cases hk : w.pump.tracker.contains id with
      | true =>
        have ho := Pump.orders_tracked (p := w.pump.keeping rest) (c := c) (by rw [e]; exact hk)
        rw [ho, Pump.asksFor_deliver (p := w.pump.keeping rest) hw.taking (by rw [e]; exact hb), if_pos e]
        rw [if_pos rfl, only_mine, if_pos rfl]
        exact passage_take hw hr hq e hk
      | false =>
        have ho := Pump.orders_untracked (p := w.pump.keeping rest) (c := c) (by rw [e]; exact hk)
        rw [ho, if_neg Bool.false_ne_true, Option.bind_none]
        have hd : asksFor id (if c.payload.hasStream then [.dropStream c.tag] else [] : List (Order Req Resp)) =
            if c.payload.hasStream then [.dropStream] else [] := by
          split
          · rw [asksFor_one]; exact if_pos e
          · rfl
        rw [hd]
        exact passage_reject hw hr hq e hk
    · obtain ⟨hg, hf, hqd, ha⟩ := Pump.dispatch_other (p := w.pump.keeping rest) hw.taking c e
      have hn : ((if w.pump.tracker.contains c.tag then
          (w.pump.get? c.tag).bind fun b => (b.machine.advance c.ok c.payload).answer.map fun a => (c.tag, a)
          else none).bind fun x => if x.1 = id then some x.2 else none) = none := by
        split
        · cases w.pump.get? c.tag with
          | none => rfl
          | some b => exact (only_mine c.tag id _).trans (if_neg e)
        · rfl
      rw [if_neg e, hn, ha]
      refine ⟨r, passage_none (beside_same hr ⟨?_, (take_other w _ _ (Ne.symm e)).1,
        (take_other w _ _ (Ne.symm e)).2⟩ ?_ ?_)⟩
      · rw [take_pump]; exact hg
      · rw [take_pump]; exact hf
      · rw [take_pump, hqd, Queue.queued_pop hq, if_neg e]; rfl

theorem beside_conclude (hr : Beside w id r) (j : CallId) : Beside (w.conclude j) id r := by
  have hf : (w.conclude j).pump.queue = w.pump.queue := by
    rcases conclude_pump w j with h | ⟨x, -, hp | hp⟩
    · rw [h]
    · rw [hp, Pump.resolve_frame]
    · rw [hp, Pump.release_resolve]
  by_cases e : id = j
  · subst e
    cases hx : w.executing.find? (·.call == id) with
    | none => rw [conclude_none hx]; exact hr
    | some x =>
      obtain ⟨-, -, ht, hg⟩ := conclude_some hx
      obtain ⟨h, hb⟩ := hr.machine
      refine ⟨⟨(h.set x.reply.ended.outcome).1, ?_⟩, by rw [hf, hr.flying], by rw [hf, hr.queued], ?_, fun cb => ?_⟩
      · rw [hg, Pump.get?_resolve, if_pos rfl, hb]; rfl
      · rw [ht, List.filterMap_append, hr.ran]; exact List.append_nil _
      · rw [ht, List.mem_append]
        rintro (hx | hx)
        · exact hr.accepted cb hx
        · simp at hx
  · exact beside_same hr (conclude_other w e) (by rw [hf]) (by rw [hf])

/-- An event of a live pump is a step of the call's round, or the call does not notice it. -/
theorem beside_step (hw : Alive w) (hr : Beside w id r) {e : Event Req Resp E T} (he : Live w e) :
    ∃ r', Passage (w.step e) id r r' (w.touch? id e) (asksFor id (w.orders e)) (w.given? id e) := by
  cases e with
  | create k => exact ⟨r, passage_none (beside_create hr k)⟩
  | start j ctx l cb => exact passage_start hw hr j ctx l cb
  | cancel j => exact passage_cancel hw hr j
  | finish t ok x => exact passage_finish hw hr t ok x
  | abandon t => exact passage_abandon hw hr t
  | turn => exact passage_turn hw hr
  | conclude j => exact ⟨r, passage_none (beside_conclude hr j)⟩
  | inject j ok x => cases he
  | close => cases he
  | shutdown => cases he

/-! ## A whole run -/

/-- What the events of a run make of the scenes that they find, one after the other. -/
def gather {A : Type} (f : Scene Req Resp E T → Event Req Resp E T → List A) :
    Scene Req Resp E T → List (Event Req Resp E T) → List A
  | _, [] => []
  | w, e :: es => f w e ++ gather f (w.step e) es

def touches (w : Scene Req Resp E T) (id : CallId) (es : List (Event Req Resp E T)) :
    List (Touch Req Resp (Callback Resp E T)) := gather (fun w e => (w.touch? id e).toList) w es

theorem touches_append (w : Scene Req Resp E T) (id : CallId) (es es' : List (Event Req Resp E T)) :
    w.touches id (es ++ es') = w.touches id es ++ (w.run es).touches id es' := by
  induction es generalizing w with
  | nil => rfl
  | cons e es ih =>
    have h := ih (w.step e)
    simp only [touches, List.cons_append, gather, List.append_assoc] at h ⊢
    rw [h]
    rfl

theorem touches_one {e : Event Req Resp E T} {o : Option (Touch Req Resp (Callback Resp E T))}
    (h : w.touch? id e = o) : w.touches id [e] = o.toList := by
  rw [← h]
  exact List.append_nil _

/-- A start takes the requests of its call's kind. -/
theorem kind_of_touch (hr : Beside w id r) {e : Event Req Resp E T} {ctx : Context} {l : Launch Req}
    {cb : Callback Resp E T} (h : w.touch? id e = some (.start ctx l cb)) : r.call.machine.kind = l.kind := by
  obtain ⟨h', hb⟩ := hr.machine
  cases e with
  | start j ctx' l' cb' =>
    simp only [touch?, Option.ite_none_right_eq_some, Option.some.injEq] at h
    obtain ⟨⟨rfl, hk⟩, h⟩ := h
    cases h
    rw [hb] at hk
    simpa using hk
  | cancel j => simp [touch?] at h
  | finish t ok x =>
    cases ho : w.pump.queue.find? t <;> simp [touch?, ho] at h
  | abandon t =>
    cases ho : w.pump.queue.find? t <;> simp [touch?, ho] at h
  | turn =>
    cases ho : w.pump.queue.ready <;> simp [touch?, ho] at h
  | create k => cases h
  | inject j ok x => cases h
  | conclude j => cases h
  | close => cases h
  | shutdown => cases h

/-- A live run leads the round over the call's touches, and all that is asked for the call
    and given to its callback is the call's own doing. -/
theorem beside_run (es : List (Event Req Resp E T)) (hw : Alive w) (hr : Beside w id r) (he : Follows Live w es) :
    Alive (w.run es) ∧ ∃ r', Round.Runs r (w.touches id es) r' ∧ Beside (w.run es) id r' ∧
      r'.call.asked = r.call.asked ++ gather (fun w e => asksFor id (w.orders e)) w es ∧
      r'.call.given = r.call.given ++ gather (fun w e => (w.given? id e).toList) w es ∧
      ∀ ctx l cb, .start ctx l cb ∈ w.touches id es → r.call.machine.kind = l.kind := by
  induction es generalizing w r with
  | nil => exact ⟨hw, r, .nil r, hr, (List.append_nil _).symm, (List.append_nil _).symm, nofun⟩
  | cons e es ih =>
    obtain ⟨r₁, h₁⟩ := beside_step hw hr he.1
    obtain ⟨hv, r₂, hR, hb, ha, hg, hk⟩ := ih (alive_step e he.1 hw) h₁.beside he.2
    refine ⟨hv, r₂, h₁.run.append hR, hb, ?_, ?_, fun ctx l cb hm => ?_⟩
    · rw [ha, h₁.asked, List.append_assoc]; rfl
    · rw [hg, h₁.given, List.append_assoc]; rfl
    · rcases List.mem_append.mp hm with hm | hm
      · exact kind_of_touch hr (Option.mem_toList.mp hm)
      · rw [← hk ctx l cb hm]
        exact h₁.run.kind.symm

end Scene

open Scene (Follows Live gather)

/-- A live run, from its start, in which a call of the kind is created at some point. -/
structure Stay (Req Resp E T : Type) (k : CallKind) where
  before : List (Event Req Resp E T)
  after : List (Event Req Resp E T)
  live : Follows Live {} (before ++ .create k :: after)

namespace Stay

variable {k : CallKind} (s : Stay Req Resp E T k)

def events : List (Event Req Resp E T) := s.before ++ .create k :: s.after

/-- The scene that the run ends in. -/
def scene : Scene Req Resp E T := ({} : Scene Req Resp E T).run s.events

/-- The scene in which the call was just created. -/
def birth : Scene Req Resp E T := (({} : Scene Req Resp E T).run s.before).create k

def id : CallId := (({} : Scene Req Resp E T).run s.before).pump.calls.length + 1

def touches : List (Touch Req Resp (Callback Resp E T)) := s.birth.touches s.id s.after

/-- When the call was started, cancelled and turned to. -/
def cues : List (Cue Req (Callback Resp E T)) := s.touches.filterMap Touch.cue?

/-- What the transport brought for the call. -/
def brought : List (Bool × Payload Resp) := s.touches.filterMap Touch.brought?

/-- What the pump asked of the transport for the call. -/
def asked : List (Ask Req Resp) := gather (fun w e => asksFor s.id (w.orders e)) s.birth s.after

/-- Every callback of the call that began, with what it was given. -/
def given : List (Callback Resp E T × Except GrpcStatus (Answer Resp)) :=
  gather (fun w e => (w.given? s.id e).toList) s.birth s.after

theorem scene_eq : s.scene = s.birth.run s.after := by
  simp only [scene, events, Scene.run, List.foldl_append, List.foldl_cons]
  rfl

/-- The run goes on to the call's creation, and from there. -/
theorem live_parts : Follows Live {} s.before ∧ Follows Live s.birth s.after := by
  obtain ⟨hb, -, ha⟩ := Scene.follows_append.mp s.live
  exact ⟨hb, ha⟩

theorem alive_birth : s.birth.Alive := Scene.alive_step (.create k) trivial (Scene.alive_run s.live_parts.1)

/-- At its creation the call has nothing behind it. -/
theorem beside_birth : s.birth.Beside s.id ⟨.fresh k, [], []⟩ := by
  have hw : ({} : Scene Req Resp E T).run s.before |>.Alive := Scene.alive_run s.live_parts.1
  have hn := Pump.get?_next (({} : Scene Req Resp E T).run s.before).pump
  obtain ⟨ht, -⟩ := (Scene.lifeAt_none hn).mp (hw.life _)
  have ho := (hw.running.held s.id).idle (.inl (Pump.stateAt_none hn))
  rw [Queue.outstanding_eq, Nat.add_eq_zero_iff, List.length_eq_zero_iff, List.length_eq_zero_iff] at ho
  simp only [birth, Scene.create, Pump.create_open hw.running.running]
  refine ⟨⟨{}, (Pump.get?_append _ _ _ _).trans (if_pos rfl)⟩, ho.1, ho.2, ?_, fun cb => ?_⟩
  · show List.filterMap _ ((({} : Scene Req Resp E T).run s.before).told s.id) = []
    rw [id, ht]; rfl
  · show _ ∉ (({} : Scene Req Resp E T).run s.before).told s.id
    rw [id, ht]; exact List.not_mem_nil

/-- What a pump has of a call, after any live run, is what the call has come to by itself. -/
theorem beside :
    s.scene.Alive ∧ ∃ r, Round.Runs ⟨.fresh k, [], []⟩ s.touches r ∧ s.scene.Beside s.id r ∧
      r.call.asked = s.asked ∧ r.call.given = s.given ∧ ∀ ctx l cb, .start ctx l cb ∈ s.touches → l.kind = k := by
  obtain ⟨hw, r, hR, hb, ha, hg, hk⟩ := Scene.beside_run s.after s.alive_birth s.beside_birth s.live_parts.2
  rw [scene_eq]
  exact ⟨hw, r, hR, hb, ha, hg, fun ctx l cb hm => (hk ctx l cb hm).symm.trans (Machine.new_kind k)⟩

/-- Every operation that the call posted has ended and come back to it. -/
structure Through : Prop where
  kept : ∀ op, .lost op ∉ s.touches
  idle : s.scene.pump.queue.outstanding s.id = 0

/-- Where a call stands that nothing is under way for. -/
theorem through_cases (ht : s.Through) :
    ∃ r, Round.Runs ⟨.fresh k, [], []⟩ s.touches r ∧ s.scene.Beside s.id r ∧ r.call.given = s.given ∧
      r.Standing (s.touches.findSome? Touch.callback?) (s.touches.any Touch.cancels) ∧
      r.flying.length + r.queued.length = 0 := by
  obtain ⟨-, r, hR, hb, -, hg, hk⟩ := s.beside
  have h₀ : Round.Standing (⟨.fresh k, [], []⟩ : Round Req Resp (Callback Resp E T)) none false :=
    .unstarted (Machine.new_resolver k) rfl
  refine ⟨r, hR, hb, hg, ?_, ?_⟩
  · have hs := h₀.run hR ht.kept fun ctx l cb hm => (Machine.new_kind k).trans (hk ctx l cb hm).symm
    rwa [Option.none_or, Bool.false_or] at hs
  · have ho := ht.idle
    rw [Queue.outstanding_eq, hb.flying, hb.queued] at ho
    exact ho

/-- A call that was started first of all and never cancelled has run its callback, once all
    that it posted came back: once, on what the call by itself makes of what was brought. -/
theorem completes {ctx : Context} {l : Launch Req} {cb : Callback Resp E T} {cs : List (Cue Req (Callback Resp E T))}
    (hs : s.cues = .start ctx l cb :: cs) (hc : .cancel ∉ cs) (ht : s.Through) :
    ∃ x, s.given = [(cb, x)] ∧ ((Solo.fresh k).replay s.cues s.brought).given = [(cb, x)] ∧
      (s.scene.replies s.id = [] → ∃ m, s.scene.pump.get? s.id = some ⟨m, .ready (cb x).ended.outcome⟩) := by
  obtain ⟨r, hR, hb, hg, hr, hz⟩ := s.through_cases ht
  have hn : .cancel ∉ s.cues := by
    rw [hs, List.mem_cons]
    rintro (h | h)
    · cases h
    · exact hc h
  rw [Touch.callback_of_cues hs, Touch.uncancelled_of_cues hn] at hr
  cases hr with
  | waiting cb h₁ h₂ h₃ => omega
  | spent cb c x h₁ h₂ =>
    have hq : r.queued = [] := List.length_eq_zero_iff.mp (by omega)
    have hp : r.call = (Solo.fresh k).replay s.cues s.brought := hR.replayed rfl hq
    refine ⟨x, hg.symm.trans h₂, by rw [← hp, h₂], fun he => ⟨r.call.machine, ?_⟩⟩
    rw [hb.call (s.beside.1.life s.id) he, Solo.result, h₂]

end Stay

end CallPump
