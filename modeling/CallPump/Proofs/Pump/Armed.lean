/-
  CallPump.Proofs.Pump.Armed — every call of a pump has in hand what its next completion
  asks for.

  All that happens to a pump is allowed here but a completion that no operation of the
  call brought: an operation comes back with a payload of its own shape or dies, and nothing
  is taken to a call past the queue (`OwnPosts`). Then what is outstanding for a called call is
  at most one operation or completion, of the shape that its step takes; it is exactly one
  unless operations can be lost, which takes a dying operation or a closed queue
  (`Event.keeps`).

  - `Pump.ArmedAt`: one call with all that is in flight and queued for it. Moves, turns
    and a shutdown keep it (`armed_make`, `armed_turn`, `armed_shutdown`).
  - `Scene.called_calls_are_equipped`: what holds of every call at any moment of any such
    run.
-/

import CallPump.Proofs.Call.Armed
import CallPump.Proofs.Pump.Shutdown
import CallPump.Proofs.Pump.Stay

namespace CallPump

variable {Req Resp E T : Type}

namespace Queue

variable {q : Queue (Op Req Resp) (Payload Resp)}

/-- The shapes of all that is outstanding for a call. -/
def shapes (q : Queue (Op Req Resp) (Payload Resp)) (id : CallId) : List Shape :=
  (q.flying id).map Op.shape ++ (q.queued id).map (·.2.shape)

theorem shapes_of_outstanding {id : CallId} (h : q.outstanding id = 0) : q.shapes id = [] := by
  rw [outstanding_eq, Nat.add_eq_zero_iff, List.length_eq_zero_iff, List.length_eq_zero_iff] at h
  rw [shapes, h.1, h.2]
  rfl

theorem shapes_post {S C : Type} (q : Queue (Op Req Resp) (Payload Resp)) (tag : CallId) (v : Move S Req Resp C)
    (id : CallId) :
    (q.shapes id ++ if id = tag then v.adds (!q.closed) else []).Perm ((q.postAll tag v.posts).shapes id) := by
  cases hc : q.closed with
  | true =>
    rw [postAll_closed hc]
    simp [Move.adds]
  | false =>
    rw [shapes, shapes, flying_postAll hc, queued_postAll, List.map_append, List.append_assoc, List.append_assoc]
    refine List.Perm.append_left _ (List.perm_append_comm.trans ?_)
    by_cases e : id = tag
    · simp [e, Move.adds]
    · simp [e, Ne.symm e]

theorem shapes_finish (h : Ticketed q) {t : Nat} {x : Payload Resp}
    (hx : ∀ o, q.find? t = some o → x.shape = o.op.shape) (ok : Bool) (id : CallId) :
    (q.shapes id).Perm ((q.finish t ok x).shapes id) := by
  cases ho : q.find? t with
  | none => rw [finish_none ho]
  | some o =>
    have hf : (q.finish t ok x).flying id = (q.abandon t).flying id := by rw [finish_some ho]; rfl
    have hsplit := flying_abandon h ho id
    rw [shapes, shapes, hf, queued_finish ho]
    by_cases e : o.tag = id
    · rw [if_pos e] at hsplit ⊢
      obtain ⟨as, bs, hq, ha⟩ := hsplit
      rw [hq, ha]
      simp only [List.map_append, List.map_cons, List.map_nil, hx o ho, List.append_assoc, List.cons_append]
      refine List.Perm.append_left _ ?_
      rw [← List.append_assoc]
      exact List.perm_append_singleton .. |>.symm
    · rw [if_neg e] at hsplit ⊢
      rw [hsplit, List.append_nil]

theorem shapes_abandon (h : Ticketed q) (t : Nat) (id : CallId) :
    ((q.abandon t).shapes id).Sublist (q.shapes id) := by
  cases ho : q.find? t with
  | none => rw [abandon_none ho]
  | some o =>
    have hsplit := flying_abandon h ho id
    refine List.Sublist.append_right (List.Sublist.map _ ?_) _
    by_cases e : o.tag = id
    · rw [if_pos e] at hsplit
      obtain ⟨as, bs, hq, ha⟩ := hsplit
      rw [hq, ha]
      exact List.Sublist.append_left (List.sublist_cons_self _ _) _
    · rw [if_neg e] at hsplit
      rw [hsplit]

/-- What was in flight is given up with the queue. -/
theorem shapes_shutdown (q : Queue (Op Req Resp) (Payload Resp)) (id : CallId) :
    (q.shutdown.shapes id).Sublist (q.shapes id) := List.sublist_append_right _ _

theorem shapes_pop {c : Completion (Payload Resp)} {rest : List (Completion (Payload Resp))}
    (h : q.ready = c :: rest) (id : CallId) :
    (q.shapes id).Perm ((if c.tag = id then [c.payload.shape] else []) ++
      ({ q with ready := rest } : Queue (Op Req Resp) (Payload Resp)).shapes id) := by
  rw [shapes, shapes, queued_pop h]
  by_cases e : c.tag = id
  · rw [if_pos e, if_pos e]
    exact List.perm_middle
  · rw [if_neg e, if_neg e]
    exact .refl _

end Queue

namespace Pump

variable {p : Pump Req Resp E T} {kept : Prop}

/-- The call, if there is one, is armed with all that is outstanding for it. -/
def ArmedAt (kept : Prop) (p : Pump Req Resp E T) (id : CallId) : Prop :=
  ∀ c, p.get? id = some c → Armed kept c.machine (p.queue.shapes id)

/-- A move that keeps its call armed, with what it adds to what is outstanding. -/
theorem armed_make {id : CallId} (h : ∀ j, j ≠ id → p.ArmedAt kept j) {b : Call Req Resp E T}
    (hb : p.get? id = some b) {v : Move (Machine Req Resp (Callback Resp E T)) Req Resp (Callback Resp E T)}
    (hv : Armed kept v.next (p.queue.shapes id ++ v.adds (!p.queue.closed))) (j : CallId) :
    (p.make id v).1.ArmedAt kept j := by
  intro c hc
  have hp := Queue.shapes_post p.queue id v j
  rw [make_queue]
  rw [get?_make] at hc
  by_cases e : j = id
  · subst e
    rw [if_pos rfl, hb] at hc
    cases hc
    rw [if_pos rfl] at hp
    exact hv.perm hp
  · rw [if_neg e] at hc
    rw [if_neg e, List.append_nil] at hp
    exact (h j e c hc).perm hp

theorem armed_create (h : ∀ id, p.ArmedAt kept id) (hp : p.Running) {k : CallKind} {id : CallId}
    {p' : Pump Req Resp E T} (hc : p.create k = some (id, p')) (j : CallId) : p'.ArmedAt kept j := by
  rw [create_open hp.running] at hc
  cases hc
  intro c hj
  rw [get?_append] at hj
  by_cases e : j = p.calls.length + 1
  · rw [if_pos e] at hj
    cases hj
    have ho := (hp.held j).idle (.inl (stateAt_none (e ▸ get?_next p)))
    exact (Queue.shapes_of_outstanding ho).symm ▸ Armed.new k
  · rw [if_neg e] at hj
    exact h j c hj

theorem armed_start (h : ∀ id, p.ArmedAt kept id) {id : CallId} {c : Call Req Resp E T} (hc : p.get? id = some c)
    (ctx : Context) {l : Launch Req} (cb : Callback Resp E T) (hk : c.machine.kind = l.kind) (j : CallId) :
    (p.start id ctx l cb).2.1.ArmedAt kept j := by
  rw [start_fst hc]
  cases hv : c.machine.start (!p.queue.closed) ctx l cb with
  | none => exact h j
  | some v => exact armed_make (fun j _ => h j) hc ((h id c hc).start hk hv) j

theorem armed_cancel (h : ∀ id, p.ArmedAt kept id) (id j : CallId) : (p.cancel id).1.ArmedAt kept j := by
  cases hb : p.get? id with
  | none => rw [cancel_none hb]; exact h j
  | some b =>
    rw [cancel_fst hb]
    refine armed_make (fun j _ => h j) hb ?_ j
    rw [Move.adds, Machine.cancel_posts, List.map_nil, ite_self, List.append_nil]
    exact (h id b hb).cancel

theorem armed_cancelAll (h : ∀ id, p.ArmedAt kept id) (j : CallId) : p.cancelAll.ArmedAt kept j := by
  have each (ids : List CallId) (p : Pump Req Resp E T) (h : ∀ id, p.ArmedAt kept id) :
      ∀ j, (ids.foldl (fun p id => (p.cancel id).1) p).ArmedAt kept j := by
    induction ids generalizing p with
    | nil => exact h
    | cons id ids ih => exact ih _ (armed_cancel h id)
  exact each p.tracker.refs p h j

/-- The oldest completion goes to its call. A called call is tracked, so that it gets it. -/
theorem armed_turn (h : ∀ id, p.ArmedAt kept id) {c : Completion (Payload Resp)}
    {rest : List (Completion (Payload Resp))} (hq : p.queue.ready = c :: rest)
    (ht : ∀ b, p.get? c.tag = some b → b.machine.state = .called → p.tracker.contains c.tag = true)
    (hl : kept → p.queue.closed = false) (j : CallId) : ((p.keeping rest).dispatch c).pump.ArmedAt kept j := by
  have popped (j : CallId) (b : Call Req Resp E T) (hb : p.get? j = some b) : Armed kept b.machine
      ((if c.tag = j then [c.payload.shape] else []) ++ (p.keeping rest).queue.shapes j) :=
    (h j b hb).perm (Queue.shapes_pop hq j)
  have others (j : CallId) (hj : j ≠ c.tag) : (p.keeping rest).ArmedAt kept j := by
    intro b hb
    have hp := popped j b hb
    rwa [if_neg (Ne.symm hj)] at hp
  have mine (b : Call Req Resp E T) (hb : p.get? c.tag = some b) : Armed kept b.machine
      (c.payload.shape :: (p.keeping rest).queue.shapes c.tag) := by
    have hp := popped c.tag b hb
    rwa [if_pos rfl] at hp
  cases hc : p.tracker.contains c.tag with
  | false =>
    rw [(dispatch_untracked (p := p.keeping rest) hc).1]
    by_cases hj : j = c.tag
    · subst hj
      exact fun b hb => (mine b hb).unseen fun hs => by rw [ht b hb hs] at hc; cases hc
    · exact others j hj
  | true =>
    cases hb : p.get? c.tag with
    | none =>
      rw [(dispatch_tracked (p := p.keeping rest) hc).1, deliver_none (p := p.keeping rest) hb]
      by_cases hj : j = c.tag
      · subst hj
        exact fun b hb' => nomatch hb.symm.trans hb'
      · exact others j hj
    | some b =>
      rw [(dispatch_of_get? (p := p.keeping rest) hc hb).1]
      refine armed_make (p := p.keeping rest) others hb ((mine b hb).advance c.ok fun hk => ?_) j
      show (!p.queue.closed) = true
      rw [hl hk]
      rfl

/-- The end of a callback is the promise's affair. -/
theorem armed_resolve (h : ∀ id, p.ArmedAt kept id) (id : CallId) (x : Ended T) (j : CallId) :
    (p.resolve id x).ArmedAt kept j := by
  intro c hc
  rw [get?_resolve] at hc
  rw [resolve_frame]
  by_cases e : j = id
  · rw [if_pos e, Option.map_eq_some_iff] at hc
    obtain ⟨b, hb, rfl⟩ := hc
    exact h j b hb
  · rw [if_neg e] at hc
    exact h j c hc

/-- Losing all that is outstanding. -/
theorem armed_shutdown (h : ∀ id, p.ArmedAt kept id) (hp : p.Running) (hk : ¬kept) (j : CallId) :
    p.shutdown.ArmedAt kept j := by
  rw [(shutdown_settles hp).2.2]
  exact fun c hc => (armed_cancelAll (p := { p with shutdownRequested := true }) h j c hc).lost hk (List.nil_sublist _)

end Pump

/-- No operation goes away without its completion in such an event. -/
def Event.keeps : Event Req Resp E T → Bool
  | .abandon _ | .close | .shutdown => false
  | .create _ | .start _ _ _ _ | .cancel _ | .finish _ _ _ | .turn | .inject _ _ _ | .conclude _ => true

namespace Scene

variable {w : Scene Req Resp E T} {kept : Prop}

/-- Completions come from the calls' own operations, each with a payload of its own shape. -/
def OwnPosts (w : Scene Req Resp E T) : Event Req Resp E T → Prop
  | .inject _ _ _ => False
  | .finish t _ x => ∀ o, w.pump.queue.find? t = some o → x.shape = o.op.shape
  | .create _ | .start _ _ _ _ | .cancel _ | .abandon _ | .turn | .conclude _ | .close | .shutdown => True

structure Armory (kept : Prop) (w : Scene Req Resp E T) : Prop where
  life : ∀ id, w.LifeAt id
  standing : w.pump.Running ∨ w.pump.Down
  taking : kept → w.pump.queue.closed = false
  armed : ∀ id, w.pump.ArmedAt kept id

namespace Armory

theorem start : Armory kept ({} : Scene Req Resp E T) where
  life id := lifeAt_run [] id
  standing := .inl Pump.running_empty
  taking _ := rfl
  armed id c hc := by cases id <;> cases hc

theorem ticketed (h : Armory kept w) : w.pump.queue.Ticketed := by
  rcases h.standing with hr | hd
  · exact hr.ticketed
  · constructor <;> simp [hd.idle]

/-- A pump has hold of its called calls. -/
theorem tracked (h : Armory kept w) {id : CallId} {c : Call Req Resp E T} (hc : w.pump.get? id = some c)
    (hs : c.machine.state = .called) : w.pump.tracker.contains id = true := by
  rcases h.standing with hr | hd
  · exact (hr.held id).tracked _ (Pump.stateAt_some hc) (by rw [hs]; rfl)
  · have ho := hd.settled id _ (Pump.stateAt_some hc)
    rw [hs] at ho
    cases ho

/-- What an event does to the pump keeps every call armed. -/
theorem armed_step (h : Armory kept w) {e : Event Req Resp E T} (he : w.OwnPosts e) (hk : kept → e.keeps) (j : CallId) :
    (w.step e).pump.ArmedAt kept j := by
  cases e with
  | create k =>
    simp only [step, create]
    cases hp : w.pump.create k with
    | none => exact h.armed j
    | some r =>
      rcases h.standing with hr | hd
      · exact Pump.armed_create h.armed hr hp j
      · cases (hd.create k).symm.trans hp
  | start id ctx l cb =>
    rcases start_pump w id ctx l cb with hp | ⟨c, hc, hl, hp⟩
    · rw [step, hp]; exact h.armed j
    · rw [step, hp]; exact Pump.armed_start h.armed hc ctx cb hl j
  | cancel id => rw [step, cancel_pump]; exact Pump.armed_cancel h.armed id j
  | finish t ok x => exact fun c hc => (h.armed j c hc).perm (Queue.shapes_finish h.ticketed he ok j)
  | abandon t =>
    exact fun c hc => (h.armed j c hc).lost (fun k => Bool.false_ne_true (hk k)) (Queue.shapes_abandon h.ticketed t j)
  | turn =>
    rcases turn_cases w with ht | ⟨c, rest, hq, ht⟩
    · rw [step, ht]; exact h.armed j
    · rw [step, ht, take_pump]
      exact Pump.armed_turn h.armed hq (fun b hb hs => h.tracked hb hs) h.taking j
  | inject id ok x => cases he
  | conclude id =>
    rcases conclude_pump w id with hv | ⟨r, -, hp | hp⟩
    · rw [step, hv]; exact h.armed j
    · rw [step, hp]; exact Pump.armed_resolve h.armed id r.ended j
    · rw [step, hp]; exact Pump.armed_resolve h.armed id r.ended j
  | close => exact fun c hc => (h.armed j c hc).lost (fun k => Bool.false_ne_true (hk k)) (Queue.shapes_shutdown _ j)
  | shutdown =>
    rw [step]
    rcases h.standing with hr | hd
    · rw [shutdown_pump]
      exact Pump.armed_shutdown h.armed hr (fun k => Bool.false_ne_true (hk k)) j
    · rw [shutdown_of_down hd]
      exact h.armed j

theorem step (h : Armory kept w) {e : Event Req Resp E T} (he : w.OwnPosts e) (hk : kept → e.keeps) :
    Armory kept (w.step e) where
  life id := (onward_step e (h.life id)).life
  standing := by
    rcases h.standing with hr | hd
    · exact running_step h.life hr e
    · exact .inr (down_step hd e)
  taking k := by
    have hl : Live w e := by
      have hk := hk k
      cases e <;> trivial
    rw [closed_step hl, h.taking k]
  armed := h.armed_step he hk

theorem run (h : Armory kept w) {es : List (Event Req Resp E T)} (hes : Follows OwnPosts w es)
    (hk : kept → ∀ e ∈ es, e.keeps) : Armory kept (w.run es) := by
  induction es generalizing w with
  | nil => exact h
  | cons e es ih =>
    exact ih (h.step hes.1 fun k => hk k e List.mem_cons_self) hes.2 fun k e he => hk k e (List.mem_cons_of_mem _ he)

end Armory

/-- Every call of every kind, at any moment of any run in which completions come from the
    calls' own operations, whatever else happens: starts, cancels, operations that die,
    callbacks, a closed queue, shutdowns.

    A called call has its callback and its promise, the writing end as long as it writes, the body until
    it is joined, and nothing pending once its last request is on its way. What is
    outstanding for it is one operation or completion with the payload that its step takes, or
    nothing where an operation was lost. With such a payload it meets no branch for
    an error of the runtime itself, and no completion that is queued for any call meets
    one. A cancelled call has no callback, no promise, no writing end, no pending request
    and no response. -/
theorem called_calls_are_equipped {es : List (Event Req Resp E T)} (h : Follows OwnPosts {} es) (id : CallId)
    {c : Call Req Resp E T} (hc : (({} : Scene Req Resp E T).run es).pump.get? id = some c) :
    let q := (({} : Scene Req Resp E T).run es).pump.queue
    (c.machine.state = .called →
      c.machine.Equipped ∧
      (q.shapes id = [] ∨ q.shapes id = [c.machine.expects]) ∧
      ((∀ e ∈ es, e.keeps) → q.shapes id = [c.machine.expects]) ∧
      ∀ ok p, p.shape = c.machine.expects → c.machine.slips ok p = []) ∧
    (∀ x ∈ q.queued id, c.machine.slips x.1 x.2 = []) ∧
    (c.machine.state = .cancelled → c.machine.Emptied) := by
  intro q
  have ha : Armed (∀ e ∈ es, e.keeps) c.machine (q.shapes id) := (Armory.start.run h fun k => k).armed id c hc
  refine ⟨fun hs => ?_, fun x hx => ?_, ha.emptied⟩
  · obtain ⟨he, ho⟩ := ha.equipped hs
    refine ⟨he, ho.symm.imp And.right fun h => h, fun hk => ?_, fun ok p hp => (he.advance hp ok).2⟩
    rcases ho with ho | ⟨hn, -⟩
    · exact ho
    · exact absurd hk hn
  · exact ha.no_slip (List.mem_append_right _ (List.mem_map_of_mem hx)) x.1

/-! A call with its last request on its way, and another that was cancelled before its first. -/

def counted : Callback Nat Unit Nat := fun _ => { ended := .returned (.ok 0) }

def lastOnItsWay : List (Event Nat Nat Unit Nat) :=
  [.create .requestStream, .create .bidi, .start 1 {} (.requestStream [5]) counted, .start 2 {} (.bidi [6, 7]) counted,
    .finish 0 true .unit, .turn, .cancel 2]

theorem called_calls_are_equipped_lastWrite :
    Follows OwnPosts {} lastOnItsWay ∧ ∃ c c', let p := (({} : Scene Nat Nat Unit Nat).run lastOnItsWay).pump
      p.get? 1 = some c ∧ c.machine.Equipped ∧ c.machine.phase = .lastWrite ∧ p.queue.shapes 1 = [.unit] ∧
      p.get? 2 = some c' ∧ c'.machine.Emptied := by
  have hf : Follows OwnPosts {} lastOnItsWay := by
    refine ⟨trivial, trivial, trivial, trivial, fun o ho => ?_, trivial, trivial, trivial⟩
    cases ho
    rfl
  obtain ⟨hc, -, -⟩ := called_calls_are_equipped hf 1 rfl
  obtain ⟨-, -, hn⟩ := called_calls_are_equipped hf 2 rfl
  obtain ⟨he, -, ho, -⟩ := hc rfl
  exact ⟨hf, _, _, rfl, he, rfl, ho (by decide), rfl, hn rfl⟩

end Scene

end CallPump
