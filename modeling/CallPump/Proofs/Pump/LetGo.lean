/-
  CallPump.Proofs.Pump.LetGo — when a live pump lets go of a call.

  A pump has hold of a call as long as the call is open. It lets go of the call when the
  call's callback has ended, and of a call that runs no callback when it comes by
  (`LetGo`). So a call that is on its way to its callback either waits, and its pump has
  hold of it, for one thing that is under way (`Stay.Waits`); or it has come there, and
  with the end of its callback it is gone (`Stay.Ended`).

  - `letGo_step`: every event of a live pump keeps this.
  - `Stay.Shows.waits_or_ended`: where a call on its way stands, and how many completions it
    took to get there.
  - `Stay.Shows.arrives`: from wherever it stands, there are events that get it to its end.
-/

import CallPump.Proofs.Call.Way
import CallPump.Proofs.Pump.Staged

namespace CallPump

variable {Req Resp I E T S : Type}

namespace Scene

variable {w v : Scene Req Resp E T} {id : CallId}

/-! ## Letting go -/

structure LetGo (w : Scene Req Resp E T) (id : CallId) : Prop where
  releases : ∀ x ∈ w.executing, x.call = id → x.releases = true
  kept : (w.pump.stateAt id).all CallState.isOpen = true → id ∉ w.freed
  ended : (w.told id).filterMap Deed.ran? ≠ [] → w.replies id = [] →
    w.pump.tracker.contains id = false ∧ id ∈ w.freed

theorem letGo_empty (id : CallId) : LetGo ({} : Scene Req Resp E T) id := ⟨nofun, fun _ => List.not_mem_nil, nofun⟩

/-- The pump's hold on the call is the same, and no callback of it began or ended. -/
structure Retains (w v : Scene Req Resp E T) (id : CallId) : Prop where
  executing : v.executing = w.executing
  freed : v.freed = w.freed
  tracker : (∃ c, w.pump.get? id = some c) → v.pump.tracker.contains id = w.pump.tracker.contains id
  ran : (v.told id).filterMap Deed.ran? = (w.told id).filterMap Deed.ran?

/-- An open call was open before. -/
theorem Onward.opened (h : Onward w v id) (hv : (v.pump.stateAt id).all CallState.isOpen = true) :
    (w.pump.stateAt id).all CallState.isOpen = true := by
  cases hc : w.pump.get? id with
  | none => rw [Pump.stateAt_none hc]; rfl
  | some c =>
    obtain ⟨c', hc', hm⟩ := h.state c hc
    rw [Pump.stateAt_some hc'] at hv
    rw [Pump.stateAt_some hc]
    have back {a b : CallState} (hab : a.Moves b) (hb : b.isOpen = true) : a.isOpen = true := by
      cases hab with
      | start => rfl
      | cancelUnstarted => cases hb
      | complete => cases hb
      | cancel => cases hb
    exact hm.head_induction_on hv fun hab _ hb => back hab hb

theorem LetGo.retained (h : LetGo w id) (hw : w.LifeAt id) (ho : Onward w v id) (hv : Retains w v id) : LetGo v id := by
  refine ⟨?_, ?_, ?_⟩
  · rw [hv.executing]
    exact h.releases
  · intro hs
    rw [hv.freed]
    exact h.kept (ho.opened hs)
  · intro hr hn
    rw [hv.ran] at hr
    rw [replies, hv.executing] at hn
    have hc : ∃ c, w.pump.get? id = some c := by
      cases hc : w.pump.get? id with
      | none => rw [((lifeAt_none hc).mp hw).1] at hr; exact absurd rfl hr
      | some c => exact ⟨c, rfl⟩
    rw [hv.tracker hc, hv.freed]
    exact h.ended hr hn

/-- The pump may let go of another call. -/
theorem LetGo.past (h : LetGo w id) (ho : Onward w v id) (hs : SameAt w v id) {j : CallId} (hj : j ≠ id) {b : Bool}
    (hx : ∀ y ∈ v.executing, y.call = id → y ∈ w.executing)
    (hf : v.freed = if b then w.freed ++ [j] else w.freed)
    (ht : v.pump.tracker = if b then w.pump.tracker.erase j else w.pump.tracker) : LetGo v id := by
  have hfreed : id ∈ v.freed ↔ id ∈ w.freed := by
    rw [hf]
    cases b
    · exact Iff.rfl
    · simp [Ne.symm hj]
  have htracker : v.pump.tracker.contains id = w.pump.tracker.contains id := by
    rw [ht]
    cases b
    · rfl
    · exact (Tracker.contains_erase _ _ _).trans (by rw [bne_iff_ne.mpr (Ne.symm hj), Bool.true_and])
  refine ⟨fun y hy hc => h.releases y (hx y hy hc) hc, fun hv => ?_, fun hr hn => ?_⟩
  · rw [hfreed]
    exact h.kept (ho.opened hv)
  · rw [hs.told] at hr
    rw [hs.replies] at hn
    rw [htracker, hfreed]
    exact h.ended hr hn

theorem retains_create (hw : Alive w) (k : CallKind) (id : CallId) : Retains w (w.create k) id := by
  simp only [create, Pump.create_open hw.running.running]
  refine ⟨rfl, rfl, ?_, rfl⟩
  rintro ⟨c, hc⟩
  have hne : id ≠ w.pump.calls.length + 1 := by
    rintro rfl
    rw [Pump.get?_next] at hc
    cases hc
  show (w.pump.tracker.add _ _).contains id = _
  rw [Tracker.contains_add, beq_false_of_ne hne, Bool.false_or]

theorem retains_start (w : Scene Req Resp E T) (j : CallId) (ctx : Context) (l : Launch Req) (cb : Callback Resp E T)
    (id : CallId) : Retains w (w.start j ctx l cb) id := by
  have quiet (took : Prop) [Decidable took] (live : Bool) (s : Option Status) :
      ((if took then [.took cb live] else []) ++ Deed.rejects s : List (Deed Resp E T)).filterMap Deed.ran? = [] := by
    rw [List.filterMap_append, (rejects_silent s).1]
    split <;> rfl
  have told (u : Scene Req Resp E T) (ds : List (Deed Resp E T)) (hu : u.told = w.told)
      (hd : ds.filterMap Deed.ran? = []) :
      ((u.tell j ds).told id).filterMap Deed.ran? = (w.told id).filterMap Deed.ran? := by
    by_cases e : id = j
    · subst e
      rw [tell_self, List.filterMap_append, hd, List.append_nil, hu]
    · rw [tell_other _ _ e, hu]
  cases hb : w.pump.get? j with
  | none => simp only [start, hb]; exact ⟨rfl, rfl, fun _ => rfl, rfl⟩
  | some b =>
    by_cases hk : b.machine.kind = l.kind
    · cases hm : b.machine.start (!w.pump.queue.closed) ctx l cb with
      | none =>
        rw [start_of_none hb hk hm]
        exact ⟨rfl, rfl, fun _ => rfl, told _ _ rfl (by split <;> rfl)⟩
      | some m =>
        rw [start_of_some hb hk hm]
        refine ⟨rfl, rfl, fun _ => ?_, told _ _ rfl (quiet _ _ _)⟩
        rw [tell_pump, Pump.make_tracker]
    · simp only [start, hb, hk, if_false]
      exact ⟨rfl, rfl, fun _ => rfl, rfl⟩

theorem retains_cancel (w : Scene Req Resp E T) (j id : CallId) : Retains w (w.cancel j) id := by
  cases hb : w.pump.get? j with
  | none => simp only [cancel, hb]; exact ⟨rfl, rfl, fun _ => rfl, rfl⟩
  | some b =>
    rw [cancel_of_get? hb]
    refine ⟨rfl, rfl, fun _ => by rw [tell_pump, Pump.make_tracker], ?_⟩
    by_cases e : id = j
    · subst e
      rw [tell_self, List.filterMap_append, (rejects_silent _).1, List.append_nil]
    · rw [tell_other _ _ e]

/-- What a turn makes of the pump's hold on the call that it turns to. -/
theorem letGo_take (hw : Alive w) (h : LetGo w id) {c : Completion (Payload Resp)}
    {rest : List (Completion (Payload Resp))} (hq : w.pump.queue.ready = c :: rest) (e : c.tag = id)
    (ht : w.pump.tracker.contains id = true) (ho : Onward w (w.take id ((w.pump.keeping rest).dispatch c) true) id) :
    LetGo (w.take id ((w.pump.keeping rest).dispatch c) true) id := by
  subst e
  have hc : c ∈ w.pump.queue.ready := by rw [hq]; exact List.mem_cons_self
  obtain ⟨s, hs, hn⟩ := (hw.running.held c.tag).started hc
  obtain ⟨b, hb, rfl⟩ := Option.map_eq_some_iff.mp hs
  have hv := turned_of_tracked rest ht hb
  have htold := (take_self w c.tag ((w.pump.keeping rest).dispatch c) true).1
  rw [(Pump.dispatch_of_get? (p := w.pump.keeping rest) ht hb).2.1] at htold
  have hstate := Pump.stateAt_some ((hv.call c.tag).trans (if_pos rfl))
  generalize w.take c.tag ((w.pump.keeping rest).dispatch c) true = v at hv htold ho hstate
  by_cases hcalled : b.machine.state = .called
  · obtain ⟨cb, hr⟩ := ((lifeAt_some hb).mp (hw.life c.tag)).waiting_of_called hcalled
    have hm := Machine.advance_waiting hr c.ok c.payload
    generalize b.machine.advance c.ok c.payload = m at hv htold hstate hm
    rcases hm with ⟨-, ha, hf, -⟩ | ⟨hk, ⟨x, ha⟩, hf, -⟩
    · -- it goes on, and the pump with it
      refine h.retained (hw.life c.tag) ho ⟨?_, ?_, fun _ => ?_, ?_⟩
      · rw [hv.executing, ha]; exact List.append_nil _
      · rw [hv.freed, hf]; rfl
      · rw [hv.tracker, hf]; rfl
      · rw [htold, ha]; exact congrArg _ (List.append_nil _)
    · -- its callback begins, and the call is let go of when it ends
      refine ⟨fun y hy he => ?_, fun hs => ?_, fun _ hn => ?_⟩
      · rw [hv.executing, ha, hf] at hy
        rcases List.mem_append.mp hy with hy | hy
        · exact h.releases y hy he
        · cases List.mem_singleton.mp hy; rfl
      · rw [hstate, Machine.state, hk] at hs
        cases hs
      · rw [hv.replies, if_pos rfl, ha] at hn
        simp at hn
  · -- it only came by
    rw [Machine.advance_idle hcalled] at hv hstate
    have hfree : c.tag ∈ v.freed := by rw [hv.freed]; exact List.mem_append_right _ List.mem_cons_self
    have huntracked : v.pump.tracker.contains c.tag = false := by
      rw [hv.tracker]
      exact (Tracker.contains_erase _ _ _).trans (by rw [bne_self_eq_false, Bool.false_and])
    refine ⟨fun y hy he => ?_, fun hs => ?_, fun _ _ => ⟨huntracked, hfree⟩⟩
    · rw [hv.executing] at hy
      exact h.releases y (by rwa [Move.done, Option.map_none, Option.toList_none, List.append_nil] at hy) he
    · have hopen : b.machine.state.isOpen = true := by rwa [hstate] at hs
      cases hb' : b.machine.state with
      | notStarted => exact absurd hb' hn
      | called => exact absurd hb' hcalled
      | cancelled => rw [hb'] at hopen; cases hopen
      | completed => rw [hb'] at hopen; cases hopen

theorem letGo_turn (hw : Alive w) (h : LetGo w id) (ho : Onward w w.turn id) : LetGo w.turn id := by
  rcases turn_cases w with he | ⟨c, rest, hq, he⟩
  · rw [he]
    exact h
  · rw [he] at ho ⊢
    cases ht : w.pump.tracker.contains c.tag with
    | false =>
      rw [ht] at ho
      obtain ⟨hp, hn⟩ := Pump.dispatch_untracked (p := w.pump.keeping rest) ht
      refine h.retained (hw.life id) ho ⟨?_, ?_, fun _ => ?_, ?_⟩
      · rw [take_executing, hn]; exact List.append_nil _
      · rw [take_freed]; rfl
      · rw [take_pump, hp]; rfl
      · simp only [take, hn]
    | true =>
      rw [ht] at ho
      by_cases e : c.tag = id
      · subst e
        exact letGo_take hw h hq rfl ht ho
      · have hc : c ∈ w.pump.queue.ready := by rw [hq]; exact List.mem_cons_self
        obtain ⟨s, hs, -⟩ := (hw.running.held c.tag).started hc
        obtain ⟨b, hb, rfl⟩ := Option.map_eq_some_iff.mp hs
        have hv := turned_of_tracked rest ht hb
        have htold := (take_other w ((w.pump.keeping rest).dispatch c) true (Ne.symm e)).1
        generalize w.take c.tag ((w.pump.keeping rest).dispatch c) true = v at hv htold ho
        have hsame : SameAt w v id := by
          refine ⟨(hv.call id).trans (if_neg (Ne.symm e)), htold, ?_⟩
          rw [hv.replies, if_neg (Ne.symm e), List.append_nil]
        refine h.past ho hsame e (fun y hy hy' => ?_) hv.freed hv.tracker
        rw [hv.executing] at hy
        rcases List.mem_append.mp hy with hy | hy
        · exact hy
        · obtain ⟨a, -, rfl⟩ := Option.map_eq_some_iff.mp (Option.mem_toList.mp hy)
          exact absurd hy' e

theorem letGo_conclude (hw : Alive w) (h : LetGo w id) (j : CallId) (ho : Onward w (w.conclude j) id) :
    LetGo (w.conclude j) id := by
  cases hx : w.executing.find? (·.call == j) with
  | none =>
    rw [conclude_none hx]
    exact h
  | some x =>
    have hxj : x.call = j := by simpa using List.find?_some hx
    have hxm := List.mem_of_find?_eq_some hx
    have hexec : (w.conclude j).executing = w.executing.filter (·.call != j) := by simp only [conclude, hx]; rfl
    have hfreed : (w.conclude j).freed = if x.releases then w.freed ++ [j] else w.freed := by
      simp only [conclude, hx]; rfl
    have htracker : (w.conclude j).pump.tracker = if x.releases then w.pump.tracker.erase j else w.pump.tracker := by
      simp only [conclude, hx]
      cases x.releases
      · show (w.pump.resolve j x.reply.ended).tracker = w.pump.tracker
        rw [Pump.resolve_frame]
      · show ((w.pump.resolve j x.reply.ended).release j).tracker = w.pump.tracker.erase j
        rw [Pump.release_resolve]
    have hstay (y : Executing E T) (hy : y ∈ (w.conclude j).executing) : y ∈ w.executing := by
      rw [hexec] at hy
      exact (List.mem_filter.mp hy).1
    by_cases e : j = id
    · subst e
      rw [h.releases x hxm hxj, if_pos rfl] at hfreed htracker
      have hfree : j ∈ (w.conclude j).freed := by rw [hfreed]; exact List.mem_append_right _ List.mem_cons_self
      refine ⟨fun y hy => h.releases y (hstay y hy), fun hs => ?_, fun _ _ => ⟨?_, hfree⟩⟩
      · -- a callback executes for a completed call only
        have hm := (conclude_some hx).1
        have hs' := ho.opened hs
        cases hc : w.pump.get? j with
        | none => rw [((lifeAt_none hc).mp (hw.life j)).2] at hm; cases hm
        | some c =>
          have hl := (lifeAt_some hc).mp (hw.life j)
          rw [Pump.stateAt_some hc, Option.all_some, Machine.state] at hs'
          generalize w.replies j = rs at hl hm
          generalize w.told j = ds at hl
          generalize c.machine.resolver = r at hl hs'
          generalize c.handoff = o at hl
          cases hl with
          | executing cb a => cases hs'
          | notStarted => cases hm
          | called => cases hm
          | cancelledUnstarted => cases hm
          | cancelled => cases hm
          | refused => cases hm
          | completed => cases hm
      · rw [htracker, Tracker.contains_erase, bne_self_eq_false, Bool.false_and]
    · exact h.past ho (conclude_other w (Ne.symm e)) e (fun y hy _ => hstay y hy) hfreed htracker

theorem letGo_step (hw : Alive w) (h : LetGo w id) {e : Event Req Resp E T} (he : Live w e) : LetGo (w.step e) id := by
  have ho := onward_step e (hw.life id)
  cases e with
  | create k => exact h.retained (hw.life id) ho (retains_create hw k id)
  | start j ctx l cb => exact h.retained (hw.life id) ho (retains_start w j ctx l cb id)
  | cancel j => exact h.retained (hw.life id) ho (retains_cancel w j id)
  | finish t ok x => exact h.retained (hw.life id) ho ⟨rfl, rfl, fun _ => rfl, rfl⟩
  | abandon t => exact h.retained (hw.life id) ho ⟨rfl, rfl, fun _ => rfl, rfl⟩
  | turn => exact letGo_turn hw h ho
  | conclude j => exact letGo_conclude hw h j ho
  | inject j ok x => cases he
  | close => cases he
  | shutdown => cases he

theorem letGo_run {es : List (Event Req Resp E T)} (h : Follows Live {} es) (id : CallId) :
    LetGo (({} : Scene Req Resp E T).run es) id := by
  have hrun := follows_induction (P := fun w => Alive w ∧ LetGo w id)
    (fun _ e he hw => ⟨alive_step e he hw.1, letGo_step hw.1 hw.2 he⟩) es {} h ⟨alive_empty, letGo_empty id⟩
  exact hrun.2

end Scene

/-! ## A call on its way -/

namespace Stay

variable {k : CallKind}

/-- How many completions the call has taken. -/
def taken (t : Stay Req Resp E T k) : Nat := (t.touches.filterMap Touch.taken?).length

/-- The operations that the call has posted, oldest first. -/
def posted (t : Stay I I E T k) : List (Op I I) := t.asked.filterMap Ask.op?

variable {t : Stay I I E T k} {ctx : Context} {l : Launch I} {cb : Callback I E T}

/-- The call waits, with its promise unset, and its pump has hold of it: the operation is
    under way, or what it came back with is queued. -/
structure Waits (t : Stay I I E T k) (op : Op I I) : Prop where
  called : ∃ m, t.scene.pump.get? t.id = some ⟨m, {}⟩ ∧ m.state = .called
  given : t.given = []
  held : t.scene.pump.tracker.contains t.id = true ∧ t.id ∉ t.scene.freed
  pending : t.scene.pump.queue.flying t.id = [op] ∧ t.scene.pump.queue.queued t.id = [] ∨
    t.scene.pump.queue.flying t.id = [] ∧ ∃ x, t.scene.pump.queue.queued t.id = [x]

/-- The callback was given `a`, once, and asks to be let go of; nothing is under way any
    more. When the callback has ended, the pump has let go of the call, and the promise holds
    what the callback made of `a`. -/
structure Ended (t : Stay I I E T k) (cb : Callback I E T) (a : Except GrpcStatus (Answer I)) : Prop where
  given : t.given = [(cb, a)]
  idle : t.scene.pump.queue.outstanding t.id = 0
  releases : ∀ x ∈ t.scene.executing, x.call = t.id → x.releases = true
  gone : t.scene.replies t.id = [] → t.scene.pump.tracker.contains t.id = false ∧ t.id ∈ t.scene.freed ∧
    ∃ m, t.scene.pump.get? t.id = some ⟨m, .ready (cb a).ended.outcome⟩ ∧ m.state = .completed

theorem letGo (t : Stay I I E T k) : t.scene.LetGo t.id := Scene.letGo_run t.live t.id

/-- A call whose promise is unset, with one thing under way for it. -/
theorem waits_of_waiting {r : Round I I (Callback I E T)} {op : Op I I} (hb : t.scene.Beside t.id r)
    (hg : r.call.given = t.given) (hr : r.call.machine.resolver = .waiting cb) (hn : r.call.given = [])
    (hp : r.flying = [op] ∧ r.queued = [] ∨ r.flying = [] ∧ ∃ x, r.queued = [x]) : t.Waits op := by
  have hw := t.beside.1
  obtain ⟨o, ho⟩ := hb.machine
  have hs : t.scene.pump.stateAt t.id = some .called :=
    (Pump.stateAt_some ho).trans (congrArg (some ·.state) hr)
  refine ⟨⟨r.call.machine, ?_, congrArg Resolver.state hr⟩, hg.symm.trans hn, ⟨?_, ?_⟩, ?_⟩
  · have hl := (Scene.lifeAt_some ho).mp (hw.life t.id)
    rw [show (⟨r.call.machine, o⟩ : Call I I E T).machine.resolver = _ from hr] at hl
    generalize t.scene.told t.id = ds at hl
    generalize t.scene.replies t.id = rs at hl
    cases hl
    exact ho
  · exact (hw.running.held t.id).tracked _ hs rfl
  · exact t.letGo.kept (by rw [hs]; rfl)
  · rw [hb.flying, hb.queued]
    exact hp

theorem ended_of_answered {r : Round I I (Callback I E T)} {a : Except GrpcStatus (Answer I)}
    (hb : t.scene.Beside t.id r) (hg : r.call.given = t.given) (ha : r.Answered cb a) : t.Ended cb a := by
  refine ⟨hg.symm.trans ha.given, ?_, t.letGo.releases, fun hn => ?_⟩
  · rw [Queue.outstanding_eq, hb.flying, hb.queued, ha.flying, ha.queued]
    rfl
  · have hran : (t.scene.told t.id).filterMap Deed.ran? ≠ [] := by
      rw [hb.ran, ha.given]
      exact List.cons_ne_nil _ _
    obtain ⟨hu, hf⟩ := t.letGo.ended hran hn
    refine ⟨hu, hf, r.call.machine, ?_, congrArg Resolver.state ha.spent⟩
    rw [hb.call (t.beside.1.life t.id) hn, Solo.result, ha.given]

variable {b : Backing I S} {G : List (Op I I) → Except GrpcStatus (Answer I) → Prop} {s s' : S}
  {r : Round I I (Callback I E T)}

theorem onWay (hl : b.Sure cb G [] (l.begun ctx cb) (l.first ctx) s)
    (hs : ∃ cs, t.cues = .start ctx l cb :: cs ∧ .cancel ∉ cs) (hc : b.Carries s t.touches s') :
    ∃ r, t.Shows r ∧ r.OnWay b cb G t.taken s' := by
  obtain rfl := kind_of_started hs
  obtain ⟨cs, hs, hn⟩ := hs
  obtain ⟨r, hr, hk⟩ := t.shows
  exact ⟨r, hr, .launched hl hr.runs hs hn hc hk⟩

/-- Where a call stands that is on its way. -/
theorem Shows.waits_or_ended (hr : t.Shows r) (h : r.OnWay b cb G t.taken s') :
    (∃ done op more a, done.length = t.taken ∧ t.posted = done ++ [op] ∧ G (done ++ op :: more) a ∧ t.Waits op ∧
        (t.scene.pump.queue.flying t.id = [op] → b.awaits s' op)) ∨
      ∃ a, t.posted.length = t.taken ∧ G t.posted a ∧ t.Ended cb a := by
  have hposted : t.posted = r.call.posted := congrArg (List.filterMap Ask.op?) hr.asked.symm
  rw [hposted]
  cases h with
  | @underway done op s hlen hu hp hsure =>
    obtain ⟨more, a, hG⟩ := hsure.reaches hu.waiting
    exact .inl ⟨done, op, more, a, hlen, hp, hG,
      waits_of_waiting hr.beside hr.given hu.waiting hu.given (.inl ⟨hu.flying, hu.queued⟩), fun _ => hsure.awaits⟩
  | @due done op ok x s s' hlen hd hp hbr hsure =>
    obtain ⟨more, a, hG⟩ := hsure.reaches hd.waiting
    refine .inl ⟨done, op, more, a, hlen, hp, hG,
      waits_of_waiting hr.beside hr.given hd.waiting hd.given (.inr ⟨hd.flying, _, hd.queued⟩), fun hf => ?_⟩
    rw [hr.beside.flying, hd.flying] at hf
    cases hf
  | @answered done a s hlen ha hp hG =>
    rw [hp]
    exact .inr ⟨a, hlen, hG, ended_of_answered hr.beside hr.given ha⟩

/-- From there the run can be carried on until the callback has ended, by what the backing
    brings and without the caller. -/
theorem Shows.arrives {P : S → Prop}
    (hP : ∀ {s op}, P s → b.awaits s op → ∃ ok x s', b.brings s op ok x s' ∧ P s') (hr : t.Shows r)
    (h : r.OnWay b cb G t.taken s') (hp : P s') :
    ∃ es he ts s'', (t.more es he).touches = t.touches ++ ts ∧ (∀ u ∈ ts, u.byCaller = false) ∧
      b.Carries s' ts s'' ∧ P s'' ∧ (t.more es he).given ≠ [] ∧ (t.more es he).scene.replies t.id = [] := by
  obtain ⟨ts, r', s'', hB, hp, a, ha⟩ := h.arrives hP hp
  obtain ⟨es, he, q, hts, hq, hqr, hx⟩ := hr.staged hB.runs hB.unasked
  refine ⟨es, he, ts, s'', hts, hB.unasked, hB.carries, hp, ?_, hx⟩
  rw [← hq.given, (ha.alike hqr).given]
  exact List.cons_ne_nil _ _

end Stay

end CallPump
