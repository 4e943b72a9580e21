/-
  CallPump.Proofs.Pump.Balance — what a pump owes its calls while it runs.

  Calls are created, each is started at most once, calls are cancelled, operations finish,
  completions are taken and callbacks end, in any order; nothing is shut down and no
  operation dies. Then each call is in one of seven situations (`Account`), which tell
  whether it is tracked and how many operations are outstanding for it: one from its start
  on until its callback begins or, if it was cancelled, until it comes by for the last
  time. Each event takes a call from one to another (`Account.start`, `Account.cancel`,
  `Account.take`, `Account.conclude`).

  - `balanced_run`: the tracker and the queue agree, at any moment of such a run.
-/

import CallPump.Proofs.Pump.Scene

namespace CallPump

variable {Req Resp E T : Type}

/-- The resolver of a call, whether it is tracked, was started and was let go of, how many
    operations are outstanding for it, and its executing callback. -/
inductive Account : Resolver (Callback Resp E T) → Bool → Bool → Bool → Nat → List (Reply E T) → Prop
  | notStarted : Account .fresh true false false 0 []
  | called (cb : Callback Resp E T) : Account (.waiting cb) true true false 1 []
  | cancelledUnstarted : Account .givenUp true false false 0 []
  | cancelled : Account .givenUp true true false 1 []
  | executing (x : Reply E T) : Account .spent true true false 0 [x]
  | reaped : Account .givenUp false true true 0 []
  | released : Account .spent false true true 0 []

namespace Account

variable {m : Machine Req Resp (Callback Resp E T)} {tracked started freed : Bool} {n : Nat}
    {rs : List (Reply E T)}

theorem start (h : Account m.resolver tracked false freed n rs) (ctx : Context) {l : Launch Req}
    (cb : Callback Resp E T) (hk : m.kind = l.kind) :
    ∃ v, m.start true ctx l cb = some v ∧ Account v.next.resolver tracked true freed (n + v.posts.length) rs := by
  generalize hr : m.resolver = r at h
  cases h with
  | notStarted =>
    obtain ⟨v, hv, hw, -, op, hp⟩ := Machine.start_fresh ctx cb hk hr
    refine ⟨v, hv, ?_⟩
    rw [hw, hp]
    exact called cb
  | cancelledUnstarted =>
    refine ⟨_, Machine.start_cancelled true ctx cb hk (congrArg Resolver.state hr), ?_⟩
    rw [hr]
    exact cancelled

theorem cancel (h : Account m.resolver tracked started freed n rs) :
    Account m.cancel.next.resolver tracked started freed n rs := by
  have settled (hs : m.state = .cancelled ∨ m.state = .completed) :
      Account m.cancel.next.resolver tracked started freed n rs := by
    rw [(Machine.cancel_settled hs).1]
    exact h
  generalize hr : m.resolver = r at h settled
  have hs : m.state = r.state := congrArg Resolver.state hr
  cases h with
  | notStarted => rw [(Machine.cancel_open (.inl hr)).1]; exact cancelledUnstarted
  | called cb => rw [(Machine.cancel_open (.inr ⟨cb, hr⟩)).1]; exact cancelled
  | cancelledUnstarted => exact settled (.inl hs)
  | cancelled => exact settled (.inl hs)
  | executing => exact settled (.inr hs)
  | reaped => exact settled (.inl hs)
  | released => exact settled (.inr hs)

/-- A call takes one of its outstanding operations: it posts the next one, or its callback
    begins, or it is let go of. -/
theorem take (h : Account m.resolver tracked started freed (n + 1) rs) (ok : Bool) (p : Payload Resp) :
    let v := m.advance ok p
    let gone := v.release && v.answer.isNone
    tracked = true ∧ freed = false ∧ (v.answer.isSome → v.release = true) ∧
      Account v.next.resolver (!gone) started gone (n + v.posts.length)
        (rs ++ (v.answer.map fun a => a.1 a.2).toList) := by
  generalize hn : n + 1 = k at h
  generalize hr : m.resolver = r at h
  cases h with
  | called cb =>
    cases Nat.succ.inj hn
    rcases Machine.advance_waiting hr ok p with ⟨hw, ha, hf, op, hp⟩ | ⟨hw, ⟨x, ha⟩, hf, hp⟩
    · refine ⟨rfl, rfl, fun h => ?_, ?_⟩
      · rw [ha] at h; cases h
      · rw [hw, ha, hf, hp, hr]
        exact called cb
    · refine ⟨rfl, rfl, fun _ => hf, ?_⟩
      rw [hw, ha, hf, hp]
      exact executing (cb x)
  | cancelled =>
    cases Nat.succ.inj hn
    have hs : m.state ≠ .called := by rw [show m.state = _ from congrArg Resolver.state hr]; nofun
    rw [Machine.advance_idle hs]
    refine ⟨rfl, rfl, nofun, ?_⟩
    show Account m.resolver false true true 0 []
    rw [hr]
    exact reaped
  | notStarted => cases hn
  | cancelledUnstarted => cases hn
  | executing => cases hn
  | reaped => cases hn
  | released => cases hn

theorem conclude {r : Resolver (Callback Resp E T)} {x : Reply E T} (h : Account r tracked started freed n rs)
    (hx : x ∈ rs) :
    Account r false started true n [] := by
  cases h with
  | executing => exact released
  | notStarted => cases hx
  | called => cases hx
  | cancelledUnstarted => cases hx
  | cancelled => cases hx
  | reaped => cases hx
  | released => cases hx

/-! ## What one says -/

section

variable {r : Resolver (Callback Resp E T)}

theorem tracked_iff (h : Account r tracked started freed n rs) :
    tracked = true ↔ freed = false := by cases h <;> simp

theorem owed (h : Account r true started freed n rs) :
    (started = false → n = 0) ∧ (started = true → rs = [] → n = 1) ∧ (rs ≠ [] → n = 0) := by
  cases h <;> simp

theorem untracked (h : Account r false started freed n rs) : n = 0 := by cases h <;> rfl

theorem settled (h : Account r tracked started freed 0 rs) : r.state ≠ .called := by cases h <;> simp

end

end Account

namespace Scene

variable {w : Scene Req Resp E T}

/-- What happens while a pump runs: no operation dies, nothing is shut down, and no call is
    started twice. -/
def Orderly (w : Scene Req Resp E T) : Event Req Resp E T → Prop
  | .start id _ _ _ => id ∉ w.started
  | .abandon _ | .inject _ _ _ | .close | .shutdown => False
  | .create _ | .cancel _ | .finish _ _ _ | .turn | .conclude _ => True

/-! ## One call -/

/-- The call has an account; to a handle without a call nothing belongs. -/
def AccountAt (w : Scene Req Resp E T) (id : CallId) : Prop :=
  match w.pump.get? id with
  | none =>
    w.pump.tracker.contains id = false ∧ w.started.contains id = false ∧ w.freed.contains id = false ∧
      w.pump.queue.outstanding id = 0 ∧ w.replies id = []
  | some c =>
    Account c.machine.resolver (w.pump.tracker.contains id) (w.started.contains id) (w.freed.contains id)
      (w.pump.queue.outstanding id) (w.replies id)

theorem accountAt_some {id : CallId} {c : Call Req Resp E T} (h : w.pump.get? id = some c) :
    w.AccountAt id ↔ Account c.machine.resolver (w.pump.tracker.contains id) (w.started.contains id)
      (w.freed.contains id) (w.pump.queue.outstanding id) (w.replies id) := by
  simp only [AccountAt, h]

theorem accountAt_none {id : CallId} (h : w.pump.get? id = none) :
    w.AccountAt id ↔ w.pump.tracker.contains id = false ∧ w.started.contains id = false ∧ w.freed.contains id = false ∧
      w.pump.queue.outstanding id = 0 ∧ w.replies id = [] := by
  simp only [AccountAt, h]

/-- Nothing of the call's account differs between the two. -/
structure SameAccount (w v : Scene Req Resp E T) (id : CallId) : Prop where
  call : v.pump.get? id = w.pump.get? id
  tracked : v.pump.tracker.contains id = w.pump.tracker.contains id
  started : v.started.contains id = w.started.contains id
  freed : v.freed.contains id = w.freed.contains id
  outstanding : v.pump.queue.outstanding id = w.pump.queue.outstanding id
  replies : v.replies id = w.replies id

theorem SameAccount.accountAt {w v : Scene Req Resp E T} {id : CallId} (h : SameAccount w v id)
    (hw : w.AccountAt id) :
    v.AccountAt id := by
  unfold AccountAt
  rw [h.call, h.tracked, h.started, h.freed, h.outstanding, h.replies]
  exact hw

/-! ## All calls -/

/-- The pump runs, and its tracker and its queue are in agreement about every call. -/
structure Balanced (w : Scene Req Resp E T) : Prop where
  running : w.pump.shutdownRequested = false
  taking : w.pump.queue.closed = false
  ticketed : w.pump.queue.Ticketed
  sound : w.pump.tracker.Sound
  releases : ∀ x ∈ w.executing, x.releases = true
  account : ∀ id, w.AccountAt id

theorem balanced_empty : Balanced ({} : Scene Req Resp E T) := by
  refine ⟨rfl, rfl, Queue.ticketed_empty, Tracker.sound_empty, fun _ h => (nomatch h), fun id => ?_⟩
  cases id <;> exact ⟨rfl, rfl, rfl, rfl, rfl⟩

theorem balanced_create (hw : Balanced w) (k : CallKind) : Balanced (w.create k) := by
  simp only [create, Pump.create_open hw.running]
  refine ⟨hw.running, hw.taking, hw.ticketed, hw.sound.add _, hw.releases, fun j => ?_⟩
  by_cases e : j = w.pump.calls.length + 1
  · have hn : w.pump.get? j = none := e ▸ Pump.get?_next _
    obtain ⟨-, hs, hf, ho, hr⟩ := (accountAt_none hn).mp (hw.account j)
    rw [accountAt_some ((Pump.get?_append _ _ _ _).trans (if_pos e)), Machine.new_resolver]
    show Account _ ((w.pump.tracker.add _ _).contains j) (w.started.contains j) (w.freed.contains j)
      (w.pump.queue.outstanding j) (w.replies j)
    rw [Tracker.contains_add, hs, hf, ho, hr, e, beq_self_eq_true, Bool.true_or]
    exact Account.notStarted
  · refine SameAccount.accountAt (w := w) ⟨?_, ?_, rfl, rfl, rfl, rfl⟩ (hw.account j)
    · exact (Pump.get?_append _ _ _ _).trans (if_neg e)
    show (w.pump.tracker.add _ _).contains j = _
    rw [Tracker.contains_add, beq_false_of_ne e, Bool.false_or]

theorem balanced_start (hw : Balanced w) {id : CallId} (hn : id ∉ w.started) (ctx : Context) (l : Launch Req)
    (cb : Callback Resp E T) : Balanced (w.start id ctx l cb) := by
  cases h : w.pump.get? id with
  | none => simp only [start, h]; exact hw
  | some c =>
    by_cases hk : c.machine.kind = l.kind
    · have ha := (accountAt_some h).mp (hw.account id)
      have hs : w.started.contains id = false := by simpa using hn
      rw [hs] at ha
      obtain ⟨v, hv, hv'⟩ := ha.start ctx cb hk
      have hm : c.machine.start (!w.pump.queue.closed) ctx l cb = some v := by rw [hw.taking]; exact hv
      rw [start_of_some h hk hm]
      refine ⟨?_, ?_, ?_, ?_, hw.releases, fun j => ?_⟩
      · exact (Pump.make_shutdownRequested _ _ _).trans hw.running
      · exact (Pump.make_closed _ _ _).trans hw.taking
      · rw [tell_pump, Pump.make_queue]
        exact Queue.ticketed_postAll hw.ticketed _ _
      · rw [tell_pump, Pump.make_tracker]
        exact hw.sound
      · by_cases e : j = id
        · subst e
          rw [accountAt_some (Pump.get?_make_self h _), tell_pump, Pump.make_tracker,
            Pump.outstanding_make hw.taking, if_pos rfl]
          show Account _ _ ((w.started ++ [j]).contains j) (w.freed.contains j) _ (w.replies j)
          rw [List.contains_append, List.contains_cons, beq_self_eq_true, Bool.true_or, Bool.or_true]
          exact hv'
        · refine SameAccount.accountAt (w := w) ⟨?_, ?_, ?_, rfl, ?_, rfl⟩ (hw.account j)
          · rw [tell_pump, Pump.get?_make, if_neg e]
          · rw [tell_pump, Pump.make_tracker]
          · show (w.started ++ [id]).contains j = _
            simp [e]
          · rw [tell_pump, Pump.outstanding_make hw.taking, if_neg e, Nat.add_zero]
    · simp only [start, h, hk, if_false]
      exact hw

theorem balanced_cancel (hw : Balanced w) (id : CallId) : Balanced (w.cancel id) := by
  cases h : w.pump.get? id with
  | none => simp only [cancel, h]; exact hw
  | some c =>
    have ho : ∀ j, (w.pump.make id c.machine.cancel).1.queue.outstanding j = w.pump.queue.outstanding j := by
      intro j
      rw [Pump.outstanding_make hw.taking, Machine.cancel_posts, List.length_nil, ite_self, Nat.add_zero]
    rw [cancel_of_get? h]
    refine ⟨?_, ?_, ?_, ?_, hw.releases, fun j => ?_⟩
    · exact (Pump.make_shutdownRequested _ _ _).trans hw.running
    · exact (Pump.make_closed _ _ _).trans hw.taking
    · rw [tell_pump, Pump.make_queue]
      exact Queue.ticketed_postAll hw.ticketed _ _
    · rw [tell_pump, Pump.make_tracker]
      exact hw.sound
    · by_cases e : j = id
      · subst e
        rw [accountAt_some (Pump.get?_make_self h _), tell_pump, Pump.make_tracker, ho]
        exact Account.cancel ((accountAt_some h).mp (hw.account j))
      · refine SameAccount.accountAt (w := w) ⟨?_, ?_, rfl, rfl, ?_, rfl⟩ (hw.account j)
        · rw [tell_pump, Pump.get?_make, if_neg e]
        · rw [tell_pump, Pump.make_tracker]
        · rw [tell_pump, ho]

theorem balanced_finish (hw : Balanced w) (t : Nat) (ok : Bool) (x : Payload Resp) :
    Balanced (w.setQueue (w.pump.queue.finish t ok x)) := by
  have hc := (Queue.finish_closed w.pump.queue t ok x).trans hw.taking
  refine ⟨hw.running, hc, Queue.ticketed_finish hw.ticketed _ _ _, hw.sound, hw.releases, fun j => ?_⟩
  have ho := Queue.outstanding_finish hw.ticketed t ok x j
  exact SameAccount.accountAt (w := w) ⟨rfl, rfl, rfl, rfl, ho, rfl⟩ (hw.account j)

/-- A completion always comes to a call that is tracked. -/
theorem tracked_of_outstanding {id : CallId} {n : Nat} (ha : w.AccountAt id)
    (hn : w.pump.queue.outstanding id = n + 1) :
    ∃ c, w.pump.get? id = some c ∧ w.pump.tracker.contains id = true := by
  cases h : w.pump.get? id with
  | none =>
    rw [((accountAt_none h).mp ha).2.2.2.1] at hn
    cases hn
  | some c =>
    have ha' := (accountAt_some h).mp ha
    rw [hn] at ha'
    exact ⟨c, rfl, (ha'.take true .unit).1⟩

/-- The move that a call makes on the oldest completion of a balanced pump. -/
theorem account_of_ready (hw : Balanced w) {c : Completion (Payload Resp)}
    {rest : List (Completion (Payload Resp))} (hq : w.pump.queue.ready = c :: rest) :
    ∃ b, w.pump.get? c.tag = some b ∧ w.pump.tracker.contains c.tag = true ∧ w.freed.contains c.tag = false ∧
      let m := b.machine.advance c.ok c.payload
      let gone := m.release && m.answer.isNone
      (m.answer.isSome → m.release = true) ∧
        Account m.next.resolver (!gone) (w.started.contains c.tag) gone
          ((w.pump.keeping rest).queue.outstanding c.tag + m.posts.length)
          (w.replies c.tag ++ (m.answer.map fun a => a.1 a.2).toList) := by
  have ho : w.pump.queue.outstanding c.tag = (w.pump.keeping rest).queue.outstanding c.tag + 1 :=
    (Queue.outstanding_pop hq c.tag).trans (by rw [if_pos rfl]; rfl)
  obtain ⟨b, hb, ht⟩ := tracked_of_outstanding (hw.account c.tag) ho
  have ha := (accountAt_some hb).mp (hw.account c.tag)
  rw [ho] at ha
  exact ⟨b, hb, ht, (ha.take c.ok c.payload).2⟩

/-- A completion was taken to a tracked call `b`, which made the move `m` of it. -/
structure Turned (w v : Scene Req Resp E T) (c : Completion (Payload Resp))
    (rest : List (Completion (Payload Resp)))
    (b : Call Req Resp E T) (m : Move (Machine Req Resp (Callback Resp E T)) Req Resp (Callback Resp E T)) :
    Prop where
  running : v.pump.shutdownRequested = w.pump.shutdownRequested
  queue : v.pump.queue = (w.pump.keeping rest).queue.postAll c.tag m.posts
  tracker : v.pump.tracker = if m.release && m.answer.isNone then w.pump.tracker.erase c.tag else w.pump.tracker
  call : ∀ j, v.pump.get? j = if j = c.tag then some ⟨m.next, b.handoff.rejected m.reject⟩ else w.pump.get? j
  executing : v.executing =
    w.executing ++ (m.answer.map fun a => (⟨c.tag, a.1 a.2, m.release⟩ : Executing E T)).toList
  started : v.started = w.started
  freed : v.freed = if m.release && m.answer.isNone then w.freed ++ [c.tag] else w.freed
  replies : ∀ j, v.replies j = w.replies j ++ if j = c.tag then (m.answer.map fun a => a.1 a.2).toList else []

theorem turned_of_tracked {c : Completion (Payload Resp)} (rest : List (Completion (Payload Resp)))
    {b : Call Req Resp E T} (ht : w.pump.tracker.contains c.tag = true) (hb : w.pump.get? c.tag = some b) :
    Turned w (w.take c.tag ((w.pump.keeping rest).dispatch c) true) c rest b (b.machine.advance c.ok c.payload) := by
  obtain ⟨hp, hd, hg⟩ := Pump.dispatch_of_get? (p := w.pump.keeping rest) ht hb
  generalize b.machine.advance c.ok c.payload = m at hp hd hg
  generalize (w.pump.keeping rest).dispatch c = d at hp hd hg
  have hm := Pump.make_fst (w.pump.keeping rest) c.tag m
  refine ⟨?_, ?_, ?_, fun j => ?_, ?_, take_started _ _ _ _, ?_, fun j => ?_⟩
  · rw [take_pump, hp, hm]; rfl
  · rw [take_pump, hp, hm]
  · rw [take_pump, hp]; rfl
  · rw [take_pump, hp]
    show ((w.pump.keeping rest).make c.tag m).1.get? j = _
    rw [Pump.get?_make, Pump.keeping_get?]
    by_cases e : j = c.tag
    · subst e; rw [if_pos rfl, if_pos rfl, hb]; rfl
    · rw [if_neg e, if_neg e]
  · rw [take_executing, hd, hg, Option.map_map]; rfl
  · rw [take_freed, hd, hg, Option.isNone_map, Bool.true_and]
  · by_cases e : j = c.tag
    · subst e; rw [if_pos rfl, (take_self _ _ _ _).2, hd]
    · rw [if_neg e, List.append_nil, (take_other _ _ _ e).2]

theorem balanced_turn (hw : Balanced w) : Balanced w.turn := by
  rcases turn_cases w with h | ⟨c, rest, hq, h⟩
  · rw [h]; exact hw
  obtain ⟨b, hb, ht, hf, hr, ha⟩ := account_of_ready hw hq
  have hv := turned_of_tracked rest ht hb
  rw [h, ht]
  generalize b.machine.advance c.ok c.payload = m at hr ha hv
  generalize w.take c.tag ((w.pump.keeping rest).dispatch c) true = v at hv
  have hk : (w.pump.keeping rest).queue.Ticketed := ⟨hw.ticketed.distinct, hw.ticketed.issued⟩
  have hout (j : CallId) : v.pump.queue.outstanding j =
      (w.pump.keeping rest).queue.outstanding j + if j = c.tag then m.posts.length else 0 := by
    rw [hv.queue, Queue.outstanding_postAll (q := (w.pump.keeping rest).queue) hw.taking]
  refine ⟨hv.running.trans hw.running, ?_, ?_, ?_, fun x hx => ?_, fun j => ?_⟩
  · rw [hv.queue]
    exact (Queue.postAll_frame _ _ _).1.trans hw.taking
  · rw [hv.queue]
    exact Queue.ticketed_postAll hk _ _
  · rw [hv.tracker]
    split
    · exact hw.sound.erase _
    · exact hw.sound
  · rw [hv.executing] at hx
    rcases List.mem_append.mp hx with hx | hx
    · exact hw.releases x hx
    · obtain ⟨a, hm, rfl⟩ := Option.map_eq_some_iff.mp (Option.mem_toList.mp hx)
      exact hr (by rw [hm]; rfl)
  · by_cases e : j = c.tag
    · subst e
      rw [accountAt_some ((hv.call _).trans (if_pos rfl)), hv.tracker, hv.started, hv.freed, hout, hv.replies,
        if_pos rfl, if_pos rfl]
      -- let go of or not, as the move says
      cases hgo : m.release && m.answer.isNone <;> rw [hgo] at ha
      · rw [if_neg Bool.false_ne_true, if_neg Bool.false_ne_true, ht, hf]
        exact ha
      · simpa [Tracker.contains_erase] using ha
    · have hc := (hv.call j).trans (if_neg e)
      refine SameAccount.accountAt (w := w) ⟨hc, ?_, by rw [hv.started], ?_, ?_, ?_⟩ (hw.account j)
      · rw [hv.tracker]
        split
        · rw [Tracker.contains_erase, bne_iff_ne.mpr e, Bool.true_and]
        · rfl
      · rw [hv.freed]
        split
        · simp [e]
        · rfl
      · rw [hout, if_neg e, Nat.add_zero]
        exact ((Queue.outstanding_pop hq j).trans (by rw [if_neg (Ne.symm e)]; rfl)).symm
      · rw [hv.replies, if_neg e, List.append_nil]

theorem balanced_conclude (hw : Balanced w) (id : CallId) : Balanced (w.conclude id) := by
  cases h : w.executing.find? (·.call == id) with
  | none => rw [conclude_none h]; exact hw
  | some x =>
    obtain ⟨hm, hr, -, hp⟩ := conclude_some h
    have ho (j : CallId) (hj : j ≠ id) : SameAt w (w.conclude id) j := conclude_other w hj
    have hx : x.releases = true := hw.releases x (List.mem_of_find?_eq_some h)
    have hv : w.conclude id = ({ w with
        pump := { w.pump with calls := (w.pump.resolve id x.reply.ended).calls, tracker := w.pump.tracker.erase id }
        executing := w.executing.filter (·.call != id)
        freed := w.freed ++ [id] } : Scene Req Resp E T).tell id [.gave x.reply.ended.outcome] := by
      simp only [conclude, h, hx, if_true, Pump.release_resolve]
    refine ⟨?_, ?_, ?_, ?_, ?_, fun j => ?_⟩
    · rw [hv]; exact hw.running
    · rw [hv]; exact hw.taking
    · rw [hv]; exact hw.ticketed
    · rw [hv]; exact hw.sound.erase id
    · rw [hv]; exact fun y hy => hw.releases y (List.mem_filter.mp hy).1
    · by_cases e : j = id
      · subst e
        cases hc : w.pump.get? j with
        | none => rw [((accountAt_none hc).mp (hw.account j)).2.2.2.2] at hm; cases hm
        | some c =>
          have ha := ((accountAt_some hc).mp (hw.account j)).conclude hm
          rw [accountAt_some (c := { c with handoff := (c.handoff.set x.reply.ended.outcome).1 }), hr, hv]
          · show Account _ ((w.pump.tracker.erase j).contains j) _ ((w.freed ++ [j]).contains j) _ _
            simpa [Tracker.contains_erase] using ha
          · rw [hp, Pump.get?_resolve, if_pos rfl, hc]
            rfl
      · refine SameAccount.accountAt (w := w) ⟨(ho j e).call, ?_, ?_, ?_, ?_, (ho j e).replies⟩ (hw.account j)
        all_goals rw [hv]
        · show (w.pump.tracker.erase id).contains j = _
          rw [Tracker.contains_erase, bne_iff_ne.mpr e, Bool.true_and]
        · rfl
        · show (w.freed ++ [id]).contains j = _
          simp [e]
        · rfl

theorem balanced_step (e : Event Req Resp E T) (he : Orderly w e) (hw : Balanced w) :
    Balanced (w.step e) := by
  cases e with
  | create k => exact balanced_create hw k
  | start id ctx l cb => exact balanced_start hw he ctx l cb
  | cancel id => exact balanced_cancel hw id
  | finish t ok x => exact balanced_finish hw t ok x
  | turn => exact balanced_turn hw
  | conclude id => exact balanced_conclude hw id
  | abandon t => cases he
  | inject id ok x => cases he
  | close => cases he
  | shutdown => cases he

theorem balanced_run {es : List (Event Req Resp E T)} (h : Follows Orderly {} es) :
    Balanced (({} : Scene Req Resp E T).run es) :=
  follows_induction (fun _ e he hw => balanced_step e he hw) es {} h balanced_empty

/-! ## What the tracker and the queue say -/

/-- At any moment of an orderly run: the tracker holds every call that was created and not
    let go of, once; a tracked call has no operation outstanding until it is started and
    exactly one from then on, but for the time in which its callback executes; a call that
    is not tracked has none, so that every completion comes to a tracked call; and when
    nothing is in flight or queued no call is waiting. -/
theorem tracker_and_queue_agree {es : List (Event Req Resp E T)} (h : Follows Orderly {} es) :
    let w := ({} : Scene Req Resp E T).run es
    ((w.pump.tracker.entries.map (·.1)).Nodup ∧ ∀ e ∈ w.pump.tracker.entries, e.2 = e.1) ∧
    (∀ id, w.pump.tracker.contains id = true ↔ (w.pump.get? id).isSome ∧ id ∉ w.freed) ∧
    (∀ id, w.pump.tracker.contains id = true →
      (id ∉ w.started → w.pump.queue.outstanding id = 0) ∧
      (id ∈ w.started → w.replies id = [] → w.pump.queue.outstanding id = 1) ∧
      (w.replies id ≠ [] → w.pump.queue.outstanding id = 0)) ∧
    (∀ id, w.pump.tracker.contains id = false → w.pump.queue.outstanding id = 0) ∧
    (∀ id d, w.pump.turn = .dispatched id d → w.pump.tracker.contains id = true) ∧
    (w.pump.queue.inFlight = [] → w.pump.queue.ready = [] → ∀ c ∈ w.pump.calls, c.machine.state ≠ .called) := by
  intro w
  have hw : Balanced w := balanced_run h
  refine ⟨⟨hw.sound.distinct, hw.sound.own⟩, fun id => ?_, fun id ht => ?_, fun id ht => ?_, fun id d hd => ?_,
    fun hf hr c hc => ?_⟩
  · cases hg : w.pump.get? id with
    | none => simp [((accountAt_none hg).mp (hw.account id)).1]
    | some c =>
      have ha := ((accountAt_some hg).mp (hw.account id)).tracked_iff
      simpa using ha
  · cases hg : w.pump.get? id with
    | none => rw [((accountAt_none hg).mp (hw.account id)).1] at ht; cases ht
    | some c =>
      have ha := (accountAt_some hg).mp (hw.account id)
      rw [ht] at ha
      simpa using ha.owed
  · cases hg : w.pump.get? id with
    | none => exact ((accountAt_none hg).mp (hw.account id)).2.2.2.1
    | some c =>
      have ha := (accountAt_some hg).mp (hw.account id)
      rw [ht] at ha
      exact ha.untracked
  · obtain ⟨c, rest, hq, rfl, -⟩ := Pump.turn_dispatched hd
    exact (account_of_ready hw hq).choose_spec.2.1
  · obtain ⟨id, hg⟩ := Pump.exists_get?_of_mem hc
    have ha := (accountAt_some hg).mp (hw.account id)
    rw [Queue.outstanding_idle hf hr] at ha
    exact ha.settled

/-- One call that ran to its end, and one that was cancelled before it was started. -/
def ranAndReaping : List (Event Unit Unit Unit Nat) :=
  let cb : Callback Unit Unit Nat := fun _ => { ended := .returned (.ok 7) }
  [.create .unary, .create .bidi, .start 1 {} (.unary ()) cb, .cancel 2, .finish 0 true (.outcome (.ok ())), .turn,
    .start 2 {} (.bidi [()]) cb, .conclude 1]

theorem tracker_and_queue_agree_ranAndReaping :
    Follows Orderly {} ranAndReaping ∧
      (({} : Scene Unit Unit Unit Nat).run ranAndReaping).pump.queue.outstanding 1 = 0 ∧
      (({} : Scene Unit Unit Unit Nat).run ranAndReaping).pump.queue.outstanding 2 = 1 := by
  have h : Follows Orderly {} ranAndReaping :=
    ⟨trivial, trivial, show (1 : CallId) ∉ [] by decide, trivial, trivial, trivial, show (2 : CallId) ∉ [1] by decide,
      trivial, trivial⟩
  obtain ⟨-, -, ht, hu, -, -⟩ := tracker_and_queue_agree h
  exact ⟨h, hu 1 rfl, (ht 2 rfl).2.1 (by decide) rfl⟩

end Scene

end CallPump
