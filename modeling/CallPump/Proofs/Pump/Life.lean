/-
  CallPump.Proofs.Pump.Life — what a call comes through, from its creation on.

  A call's resolver, its handoff, what was done to it and the callback that is executing
  for it belong together: `Life` lists the seven ways in which they can. Every start,
  cancel, completion and end of a callback leads from one of them to another
  (`Life.start`, `Life.cancel`, `Life.advance`, `Life.conclude`), an event leaves the calls
  alone that it is not about (`SameAt`), and so every call of every run has a life
  (`lifeAt_run`).

  - `promise_follows_state`: the promise of a call is set at most once, its callback runs
    at most once, its state goes forward only, and the state says what the promise holds.
-/

import CallPump.Proofs.Pump.Scene
import Mathlib.Logic.Relation

namespace CallPump

open Relation (ReflTransGen)

variable {Req Resp E T : Type}

/-- The resolver of a call, its handoff, what was done to it, and its executing callback. -/
inductive Life : Resolver (Callback Resp E T) → Handoff T → List (Deed Resp E T) → List (Reply E T) → Prop
  | notStarted : Life .fresh {} [] []
  | called (cb : Callback Resp E T) : Life (.waiting cb) {} [.took cb true] []
  | cancelledUnstarted : Life .givenUp (.ready (.error .cancelled)) [.gave (.error .cancelled)] []
  | cancelled (cb : Callback Resp E T) :
      Life .givenUp (.ready (.error .cancelled)) [.took cb true, .gave (.error .cancelled)] []
  | refused (cb : Callback Resp E T) :
      Life .spent (.ready (.error .shutdown)) [.took cb false, .gave (.error .shutdown)] []
  | executing (cb : Callback Resp E T) (x : Except GrpcStatus (Answer Resp)) :
      Life .spent {} [.took cb true, .ran (cb x)] [cb x]
  | completed (cb : Callback Resp E T) (x : Except GrpcStatus (Answer Resp)) :
      Life .spent (.ready (cb x).ended.outcome) [.took cb true, .ran (cb x), .gave (cb x).ended.outcome] []

/-- The state went on from one to the other, or stayed. -/
abbrev CallState.GoesTo : CallState → CallState → Prop := ReflTransGen CallState.Moves

namespace Life

variable {m : Machine Req Resp (Callback Resp E T)} {h : Handoff T} {ds : List (Deed Resp E T)}
    {rs : List (Reply E T)}

/-! ## What moves a call from one to another -/

theorem start_some {live : Bool} {ctx : Context} {l : Launch Req} {cb : Callback Resp E T}
    {v : Move (Machine Req Resp (Callback Resp E T)) Req Resp (Callback Resp E T)}
    (hl : Life m.resolver h ds rs) (hk : m.kind = l.kind) (hv : m.start live ctx l cb = some v) :
    Life v.next.resolver (h.rejected v.reject)
        (ds ++ ((if m.resolver.takesStart cb then [.took cb live] else []) ++ Deed.rejects v.reject)) rs ∧
      m.state.GoesTo v.next.state := by
  have unsettled : ¬ (m.state = .called ∨ m.state = .completed) := by
    intro hs
    rw [Machine.start_again live ctx cb hk hs] at hv
    cases hv
  generalize hr : m.resolver = r at hl
  have hs : m.state = r.state := congrArg Resolver.state hr
  rw [hs] at unsettled ⊢
  cases hl with
  | notStarted =>
    cases live with
    | true =>
      obtain ⟨v', hv', hw, hj, -⟩ := Machine.start_fresh ctx cb hk hr
      cases hv.symm.trans hv'
      have hn : v.next.state = .called := congrArg Resolver.state hw
      rw [hw, hj, hn]
      exact ⟨Life.called cb, .single .start⟩
    | false =>
      obtain ⟨v', hv', hw, hj, -⟩ := Machine.start_refused ctx cb hk hr
      cases hv.symm.trans hv'
      have hn : v.next.state = .completed := congrArg Resolver.state hw
      rw [hw, hj, hn]
      exact ⟨Life.refused cb, .tail (.single .start) .complete⟩
  | called cb' => exact absurd (.inl rfl) unsettled
  | cancelledUnstarted =>
    cases hv.symm.trans (Machine.start_cancelled live ctx cb hk hs)
    rw [hs, hr]
    exact ⟨Life.cancelledUnstarted, .refl⟩
  | cancelled cb' =>
    cases hv.symm.trans (Machine.start_cancelled live ctx cb hk hs)
    rw [hs, hr]
    exact ⟨Life.cancelled cb', .refl⟩
  | refused cb' => exact absurd (.inr rfl) unsettled
  | executing cb' x => exact absurd (.inr rfl) unsettled
  | completed cb' x => exact absurd (.inr rfl) unsettled

theorem start_none {live : Bool} {ctx : Context} {l : Launch Req} {cb : Callback Resp E T}
    (hl : Life m.resolver h ds rs) (hk : m.kind = l.kind) (hv : m.start live ctx l cb = none) :
    m.resolver.takesStart cb = false := by
  generalize hr : m.resolver = r at hl
  cases hl with
  | notStarted =>
    cases live with
    | true => obtain ⟨v, hv', -⟩ := Machine.start_fresh ctx cb hk hr; rw [hv'] at hv; cases hv
    | false => obtain ⟨v, hv', -⟩ := Machine.start_refused ctx cb hk hr; rw [hv'] at hv; cases hv
  | called => rfl
  | cancelledUnstarted => rfl
  | cancelled => rfl
  | refused => rfl
  | executing => rfl
  | completed => rfl

theorem cancel (hl : Life m.resolver h ds rs) :
    Life m.cancel.next.resolver (h.rejected m.cancel.reject) (ds ++ Deed.rejects m.cancel.reject) rs ∧
      m.state.GoesTo m.cancel.next.state := by
  have ended (hs : m.state = .cancelled ∨ m.state = .completed) :
      Life m.cancel.next.resolver (h.rejected m.cancel.reject) (ds ++ Deed.rejects m.cancel.reject) rs ∧
        m.state.GoesTo m.cancel.next.state := by
    obtain ⟨hn, hj⟩ := Machine.cancel_settled hs
    have hn' : m.cancel.next.state = m.state := congrArg Resolver.state hn
    rw [hn, hj, hn']
    exact ⟨by simpa [Deed.rejects] using hl, .refl⟩
  generalize hr : m.resolver = r at hl ended
  have hs : m.state = r.state := congrArg Resolver.state hr
  cases hl with
  | notStarted =>
    obtain ⟨hn, hj⟩ := Machine.cancel_open (.inl hr)
    have hn' : m.cancel.next.state = .cancelled := congrArg Resolver.state hn
    rw [hn, hj, hn', hs]
    exact ⟨Life.cancelledUnstarted, .single .cancelUnstarted⟩
  | called cb =>
    obtain ⟨hn, hj⟩ := Machine.cancel_open (.inr ⟨cb, hr⟩)
    have hn' : m.cancel.next.state = .cancelled := congrArg Resolver.state hn
    rw [hn, hj, hn', hs]
    exact ⟨Life.cancelled cb, .single .cancel⟩
  | cancelledUnstarted => exact ended (.inl hs)
  | cancelled => exact ended (.inl hs)
  | refused => exact ended (.inr hs)
  | executing => exact ended (.inr hs)
  | completed => exact ended (.inr hs)

theorem advance (hl : Life m.resolver h ds rs) (ok : Bool) (p : Payload Resp) :
    Life (m.advance ok p).next.resolver h
        (ds ++ ((m.advance ok p).answer.map fun a => Deed.ran (a.1 a.2)).toList)
        (rs ++ ((m.advance ok p).answer.map fun a => a.1 a.2).toList) ∧
      m.state.GoesTo (m.advance ok p).next.state := by
  have idle (hs : m.state ≠ .called) :
      Life (m.advance ok p).next.resolver h
          (ds ++ ((m.advance ok p).answer.map fun a => Deed.ran (a.1 a.2)).toList)
          (rs ++ ((m.advance ok p).answer.map fun a => a.1 a.2).toList) ∧
        m.state.GoesTo (m.advance ok p).next.state := by
    rw [Machine.advance_idle hs]
    exact ⟨by simpa [Move.done] using hl, .refl⟩
  generalize hr : m.resolver = r at hl idle
  have hs : m.state = r.state := congrArg Resolver.state hr
  cases hl with
  | notStarted => exact idle (by simp [hs])
  | called cb =>
    rcases Machine.advance_waiting hr ok p with ⟨hn, ha, -, -⟩ | ⟨hn, ⟨x, ha⟩, -, -⟩
    · have hn' : (m.advance ok p).next.state = m.state := congrArg Resolver.state hn
      rw [hn, ha, hn', hr]
      exact ⟨Life.called cb, .refl⟩
    · have hn' : (m.advance ok p).next.state = .completed := congrArg Resolver.state hn
      rw [hn, ha, hn', hs]
      exact ⟨Life.executing cb x, .single .complete⟩
  | cancelledUnstarted => exact idle (by simp [hs])
  | cancelled => exact idle (by simp [hs])
  | refused => exact idle (by simp [hs])
  | executing => exact idle (by simp [hs])
  | completed => exact idle (by simp [hs])

/-- The callback of a call that has one ends. -/
theorem conclude {r : Resolver (Callback Resp E T)} {x : Reply E T} (hl : Life r h ds rs) (hx : x ∈ rs) :
    rs = [x] ∧ Life r (h.set x.ended.outcome).1 (ds ++ [.gave x.ended.outcome]) [] := by
  cases hl with
  | executing cb y =>
    cases List.mem_singleton.mp hx
    exact ⟨rfl, Life.completed cb y⟩
  | notStarted => cases hx
  | called => cases hx
  | cancelledUnstarted => cases hx
  | cancelled => cases hx
  | refused => cases hx
  | completed => cases hx

/-! ## What one says -/

section

variable {r : Resolver (Callback Resp E T)}

theorem once (hl : Life r h ds rs) :
    ds.countP Deed.isGave ≤ 1 ∧ ds.countP Deed.isRan ≤ 1 ∧ rs.length ≤ 1 := by
  cases hl <;> simp [Deed.isGave, Deed.isRan, List.countP_cons]

theorem waiting_of_called (hl : Life r h ds rs) (hs : r.state = .called) : ∃ cb, r = .waiting cb := by
  cases hl with
  | called cb => exact ⟨cb, rfl⟩
  | notStarted => cases hs
  | cancelledUnstarted => cases hs
  | cancelled => cases hs
  | refused => cases hs
  | executing => cases hs
  | completed => cases hs

theorem rejected_of_cancelled (hl : Life r h ds rs) (hs : r.state = .cancelled) :
    h = .ready (.error .cancelled) ∧ ds.countP Deed.isRan = 0 := by
  cases hl with
  | cancelledUnstarted => exact ⟨rfl, rfl⟩
  | cancelled => exact ⟨rfl, rfl⟩
  | notStarted => cases hs
  | called => cases hs
  | refused => cases hs
  | executing => cases hs
  | completed => cases hs

theorem never_ran (hl : Life r h ds rs) (hs : r.state ≠ .completed) : ds.countP Deed.isRan = 0 := by
  cases hl with
  | refused => exact absurd rfl hs
  | executing => exact absurd rfl hs
  | completed => exact absurd rfl hs
  | notStarted => rfl
  | called => rfl
  | cancelledUnstarted => rfl
  | cancelled => rfl

theorem resolved (hl : Life r h ds rs) (hs : r.state.isOpen = false) (hr : rs = []) : ∃ o, h = .ready o := by
  cases hl with
  | notStarted => cases hs
  | called => cases hs
  | executing => cases hr
  | cancelledUnstarted => exact ⟨_, rfl⟩
  | cancelled => exact ⟨_, rfl⟩
  | refused => exact ⟨_, rfl⟩
  | completed => exact ⟨_, rfl⟩

/-- A promise is set when the callback ends, not before. -/
theorem quiet_of_ready {o : Outcome T} (hl : Life r h ds rs) (hh : h = .ready o) : rs = [] := by
  cases hl with
  | executing => cases hh
  | notStarted => rfl
  | called => rfl
  | cancelledUnstarted => rfl
  | cancelled => rfl
  | refused => rfl
  | completed => rfl

/-- A call that is completed, and the same call later: the result stays, and an executing
    callback is executing still or has left its result. -/
theorem completed_later {r' : Resolver (Callback Resp E T)} {h' : Handoff T} {ds' : List (Deed Resp E T)}
    {rs' : List (Reply E T)} (hl : Life r h ds rs) (hl' : Life r' h' ds' rs') (hs : r.state = .completed)
    (hs' : r'.state = .completed) (hd : ds <+: ds') :
    (rs = [] → h' = h) ∧ (∀ x, rs = [x] → rs' = [x] ∧ h' = {} ∨ rs' = [] ∧ h' = .ready x.ended.outcome) ∧
      ds'.countP Deed.isRan = ds.countP Deed.isRan := by
  cases hl with
  | notStarted => cases hs
  | called => cases hs
  | cancelledUnstarted => cases hs
  | cancelled => cases hs
  | refused cb =>
    cases hl' with
    | refused cb' => exact ⟨fun _ => rfl, nofun, rfl⟩
    | executing cb' y => simp at hd
    | completed cb' y => simp at hd
    | notStarted => cases hs'
    | called => cases hs'
    | cancelledUnstarted => cases hs'
    | cancelled => cases hs'
  | executing cb x =>
    cases hl' with
    | refused cb' => simp at hd
    | executing cb' y =>
      simp only [List.cons_prefix_cons, Deed.ran.injEq] at hd
      rw [hd.2.1]
      exact ⟨nofun, fun z hz => .inl ⟨hz, rfl⟩, rfl⟩
    | completed cb' y =>
      simp only [List.cons_prefix_cons, Deed.ran.injEq] at hd
      rw [hd.2.1]
      refine ⟨nofun, fun z hz => .inr ⟨rfl, ?_⟩, rfl⟩
      cases hz
      rfl
    | notStarted => cases hs'
    | called => cases hs'
    | cancelledUnstarted => cases hs'
    | cancelled => cases hs'
  | completed cb x =>
    cases hl' with
    | refused cb' => simp at hd
    | executing cb' y => simp at hd
    | completed cb' y =>
      simp only [List.cons_prefix_cons, Deed.ran.injEq] at hd
      rw [hd.2.1]
      exact ⟨fun _ => rfl, nofun, rfl⟩
    | notStarted => cases hs'
    | called => cases hs'
    | cancelledUnstarted => cases hs'
    | cancelled => cases hs'

theorem spent_of_executing {x : Reply E T} (hl : Life r h ds rs) (hx : x ∈ rs) : r = .spent := by
  cases hl with
  | executing => rfl
  | notStarted => cases hx
  | called => cases hx
  | cancelledUnstarted => cases hx
  | cancelled => cases hx
  | refused => cases hx
  | completed => cases hx

end

end Life

namespace Scene

variable {w : Scene Req Resp E T}

/-! ## One call of a scene -/

/-- The call has a life; to a handle without a call nothing was done. -/
def LifeAt (w : Scene Req Resp E T) (id : CallId) : Prop :=
  match w.pump.get? id with
  | none => w.told id = [] ∧ w.replies id = []
  | some c => Life c.machine.resolver c.handoff (w.told id) (w.replies id)

theorem lifeAt_none {id : CallId} (h : w.pump.get? id = none) :
    w.LifeAt id ↔ w.told id = [] ∧ w.replies id = [] := by
  simp only [LifeAt, h]

theorem lifeAt_some {id : CallId} {c : Call Req Resp E T} (h : w.pump.get? id = some c) :
    w.LifeAt id ↔ Life c.machine.resolver c.handoff (w.told id) (w.replies id) := by
  simp only [LifeAt, h]

/-- The call has a life in the later scene, its state went forward and nothing that was
    done to it is forgotten. -/
structure Onward (w v : Scene Req Resp E T) (id : CallId) : Prop where
  life : v.LifeAt id
  told : w.told id <+: v.told id
  state : ∀ c, w.pump.get? id = some c → ∃ c', v.pump.get? id = some c' ∧ c.machine.state.GoesTo c'.machine.state

theorem SameAt.onward {w v : Scene Req Resp E T} {id : CallId} (h : SameAt w v id) (hw : w.LifeAt id) :
    Onward w v id := by
  refine ⟨?_, h.told ▸ List.prefix_rfl, fun c hc => ⟨c, h.call.trans hc, .refl⟩⟩
  unfold LifeAt
  rw [h.call, h.told, h.replies]
  exact hw

theorem Onward.trans {u v w : Scene Req Resp E T} {id : CallId} (h : Onward u v id) (h' : Onward v w id) :
    Onward u w id := by
  refine ⟨h'.life, h.told.trans h'.told, fun c hc => ?_⟩
  obtain ⟨c₁, hc₁, hm₁⟩ := h.state c hc
  obtain ⟨c₂, hc₂, hm₂⟩ := h'.state c₁ hc₁
  exact ⟨c₂, hc₂, hm₁.trans hm₂⟩

/-- A move that a call with a life makes, with what was done in it. -/
theorem onward_some {w v : Scene Req Resp E T} {id : CallId} {b c : Call Req Resp E T}
    {ds : List (Deed Resp E T)} {rs : List (Reply E T)} (hb : w.pump.get? id = some b)
    (hc : v.pump.get? id = some c) (hd : v.told id = w.told id ++ ds) (hr : v.replies id = rs)
    (h : Life c.machine.resolver c.handoff (w.told id ++ ds) rs ∧ b.machine.state.GoesTo c.machine.state) :
    Onward w v id := by
  refine ⟨?_, hd ▸ List.prefix_append _ _, fun c₁ h₁ => ?_⟩
  · rw [lifeAt_some hc, hd, hr]
    exact h.1
  · cases hb.symm.trans h₁
    exact ⟨c, hc, h.2⟩

theorem onward_foldl {A : Type} {f : Scene Req Resp E T → A → Scene Req Resp E T} {id : CallId}
    (hf : ∀ w a, w.LifeAt id → Onward w (f w a) id) :
    ∀ (as : List A) (w : Scene Req Resp E T), w.LifeAt id → Onward w (as.foldl f w) id := by
  intro as
  induction as with
  | nil => intro w hw; exact (SameAt.refl w id).onward hw
  | cons a as ih => intro w hw; exact (hf w a hw).trans (ih _ (hf w a hw).life)

/-! ## Every event -/

theorem onward_create {id : CallId} (k : CallKind) (hw : w.LifeAt id) : Onward w (w.create k) id := by
  cases hs : w.pump.shutdownRequested with
  | true => simp only [create, Pump.create_closed hs]; exact (SameAt.refl w id).onward hw
  | false =>
    simp only [create, Pump.create_open hs]
    by_cases e : id = w.pump.calls.length + 1
    · have hn : w.pump.get? id = none := e ▸ Pump.get?_next _
      obtain ⟨ht, hr⟩ := (lifeAt_none hn).mp hw
      refine ⟨?_, List.prefix_rfl, fun c hc => nomatch hn.symm.trans hc⟩
      rw [lifeAt_some ((Pump.get?_append _ _ _ _).trans (if_pos e)), Machine.new_resolver]
      show Life _ _ (w.told id) (w.replies id)
      rw [ht, hr]
      exact Life.notStarted
    · exact SameAt.onward ⟨(Pump.get?_append _ _ _ _).trans (if_neg e), rfl, rfl⟩ hw

theorem onward_start {j : CallId} (id : CallId) (ctx : Context) (l : Launch Req) (cb : Callback Resp E T)
    (hw : w.LifeAt j) : Onward w (w.start id ctx l cb) j := by
  by_cases e : j = id
  · subst e
    cases h : w.pump.get? j with
    | none => simp only [start, h]; exact (SameAt.refl w j).onward hw
    | some c =>
      have hl := (lifeAt_some h).mp hw
      by_cases hk : c.machine.kind = l.kind
      · cases hm : c.machine.start (!w.pump.queue.closed) ctx l cb with
        | none =>
          rw [start_of_none h hk hm, Life.start_none hl hk hm]
          exact SameAt.onward ⟨rfl, (tell_self _ _ _).trans (List.append_nil _), rfl⟩ hw
        | some m =>
          rw [start_of_some h hk hm]
          exact onward_some h (Pump.get?_make_self h _) (tell_self _ _ _) rfl
            (Life.start_some hl hk hm)
      · simp only [start, h, hk, if_false]
        exact (SameAt.refl w j).onward hw
  · exact (start_other w ctx l cb e).onward hw

theorem onward_cancel {j : CallId} (id : CallId) (hw : w.LifeAt j) : Onward w (w.cancel id) j := by
  by_cases e : j = id
  · subst e
    cases h : w.pump.get? j with
    | none => simp only [cancel, h]; exact (SameAt.refl w j).onward hw
    | some c =>
      rw [cancel_of_get? h]
      exact onward_some h (Pump.get?_make_self h _) (tell_self _ _ _) rfl
        (Life.cancel ((lifeAt_some h).mp hw))
  · exact (cancel_other w e).onward hw

/-- What a delivery does to its call. -/
theorem deliver_life {id : CallId} {c : Call Req Resp E T} (h : w.pump.get? id = some c) (hw : w.LifeAt id)
    (ok : Bool) (x : Payload Resp) :
    ∃ c', (w.pump.deliver id ok x).pump.get? id = some c' ∧
      Life c'.machine.resolver c'.handoff (w.told id ++ ((w.pump.deliver id ok x).reply.map Deed.ran).toList)
          (w.replies id ++ (w.pump.deliver id ok x).reply.toList) ∧
      c.machine.state.GoesTo c'.machine.state := by
  obtain ⟨hp, hr, -⟩ := Pump.deliver_of_get? h ok x
  have hl := Life.advance ((lifeAt_some h).mp hw) ok x
  refine ⟨⟨(c.machine.advance ok x).next, c.handoff⟩, ?_, ?_⟩
  · rw [hp, Pump.get?_make, if_pos rfl, h, Machine.advance_reject]
    rfl
  · rw [hr, Option.map_map]
    exact hl

theorem onward_take {j : CallId} {id : CallId} {d : Dispatched Req Resp E T} {t ok : Bool} {x : Payload Resp}
    (hp : d.pump.get? = (w.pump.deliver id ok x).pump.get?) (hr : d.reply = (w.pump.deliver id ok x).reply)
    (hw : w.LifeAt j) : Onward w (w.take id d t) j := by
  by_cases e : j = id
  · subst e
    cases h : w.pump.get? j with
    | none =>
      rw [Pump.deliver_none h] at hp hr
      obtain ⟨ht, hs⟩ := take_self w j d t
      rw [hr] at ht hs
      refine SameAt.onward ⟨?_, ht.trans (List.append_nil _), hs.trans (List.append_nil _)⟩ hw
      rw [take_pump, hp]
    | some c =>
      obtain ⟨c', hc', hl, hm⟩ := deliver_life h hw ok x
      obtain ⟨ht, hs⟩ := take_self w j d t
      rw [hr] at ht hs
      refine onward_some h (c := c') ?_ ht hs ⟨hl, hm⟩
      rw [take_pump, hp, hc']
  · refine SameAt.onward ⟨?_, (take_other w d t e).1, (take_other w d t e).2⟩ hw
    rw [take_pump, hp, Pump.deliver_other _ e]

theorem onward_turn {j : CallId} (hw : w.LifeAt j) : Onward w w.turn j := by
  rcases turn_cases w with h | ⟨c, rest, -, h⟩
  · rw [h]; exact (SameAt.refl w j).onward hw
  · rw [h]
    let v := w.setQueue { w.pump.queue with ready := rest }
    have hv := (setQueue_same w { w.pump.queue with ready := rest } j).onward hw
    rcases Pump.dispatch_cases v.pump c with ⟨hp, hr⟩ | ⟨hp, hr⟩
    · exact (take_idle hr (congrArg (·.get? j) hp)).onward hw
    · exact hv.trans (onward_take (w := v) hp hr hv.life)

theorem onward_conclude {j : CallId} (id : CallId) (hw : w.LifeAt j) : Onward w (w.conclude id) j := by
  by_cases e : j = id
  · subst e
    cases hx : w.executing.find? (·.call == j) with
    | none => rw [conclude_none hx]; exact (SameAt.refl w j).onward hw
    | some x =>
      obtain ⟨hm, hr, ht, hp⟩ := conclude_some hx
      cases h : w.pump.get? j with
      | none => rw [((lifeAt_none h).mp hw).2] at hm; cases hm
      | some c =>
        refine onward_some h (c := { c with handoff := (c.handoff.set x.reply.ended.outcome).1 }) ?_ ht hr
          ⟨(Life.conclude ((lifeAt_some h).mp hw) hm).2, .refl⟩
        rw [hp, Pump.get?_resolve, if_pos rfl, h]
        rfl
  · exact (conclude_other w e).onward hw

/-- A callback that begins and ends within one step. -/
theorem onward_drainOne {j : CallId} (c : Completion (Payload Resp)) (hw : w.LifeAt j) :
    Onward w (w.drainOne c) j := by
  rcases Pump.dispatch_cases w.pump c with ⟨hp, hr⟩ | ⟨hp, hr⟩
  · rw [drainOne_none hr, hp]
    exact (SameAt.refl w j).onward hw
  by_cases e : j = c.tag
  · subst e
    cases h : w.pump.get? c.tag with
    | none =>
      rw [Pump.deliver_none h] at hp hr
      rw [drainOne_none hr]
      exact SameAt.onward (w := w) ⟨by rw [hp], rfl, rfl⟩ hw
    | some b =>
      obtain ⟨b', hb', hl, hm⟩ := deliver_life h hw c.ok c.payload
      rw [← hr] at hl
      rw [← hp] at hb'
      cases hx : (w.pump.dispatch c).reply with
      | none =>
        rw [hx] at hl
        rw [drainOne_none hx]
        exact onward_some h hb' (List.append_nil _).symm (List.append_nil _).symm ⟨hl, hm⟩
      | some r =>
        rw [hx] at hl
        obtain ⟨hs, hl'⟩ := Life.conclude hl (List.mem_append_right _ (List.mem_singleton.mpr rfl))
        have hn : w.replies c.tag = [] := by simpa using hs
        rw [drainOne_some hx]
        refine onward_some h (c := { b' with handoff := (b'.handoff.set r.ended.outcome).1 }) ?_ (tell_self _ _ _) hn
          ⟨by simpa using hl', hm⟩
        show ((w.pump.dispatch c).pump.resolve c.tag r.ended).get? c.tag = _
        rw [Pump.get?_resolve, if_pos rfl, hb']
        rfl
  · exact (drainOne_other e (by rw [hp, Pump.deliver_other _ e])).onward hw

theorem onward_cancelAll {j : CallId} (hw : w.LifeAt j) : Onward w w.cancelAll j :=
  onward_foldl (fun _ id hv => onward_cancel id hv) _ w hw

theorem onward_drain {j : CallId} (hw : w.LifeAt j) : Onward w w.drain j := by
  have h := (setQueue_same w { w.pump.queue with ready := [] } j).onward hw
  exact h.trans (onward_foldl (fun _ c hv => onward_drainOne c hv) _ _ h.life)

theorem onward_shutdown {j : CallId} (hw : w.LifeAt j) : Onward w w.shutdown j := by
  have h₁ := (refuse_same w j).onward hw
  have h₂ := h₁.trans (onward_cancelAll h₁.life)
  have h₃ := h₂.trans ((setQueue_same w.refuse.cancelAll w.refuse.cancelAll.pump.queue.shutdown j).onward h₂.life)
  have h₄ := h₃.trans (onward_drain h₃.life)
  exact h₄.trans (SameAt.onward ⟨rfl, rfl, rfl⟩ h₄.life)

theorem onward_step {j : CallId} (e : Event Req Resp E T) (hw : w.LifeAt j) : Onward w (w.step e) j := by
  cases e with
  | create k => exact onward_create k hw
  | start id ctx l cb => exact onward_start id ctx l cb hw
  | cancel id => exact onward_cancel id hw
  | finish t ok x => exact (setQueue_same w _ j).onward hw
  | abandon t => exact (setQueue_same w _ j).onward hw
  | turn => exact onward_turn hw
  | inject id ok x => exact onward_take rfl rfl hw
  | conclude id => exact onward_conclude id hw
  | close => exact (setQueue_same w _ j).onward hw
  | shutdown => exact onward_shutdown hw

theorem onward_run (es : List (Event Req Resp E T)) {j : CallId} (hw : w.LifeAt j) :
    Onward w (w.run es) j :=
  onward_foldl (fun _ e hv => onward_step e hv) es w hw

/-- Every call of every run has a life. -/
theorem lifeAt_run (es : List (Event Req Resp E T)) (id : CallId) :
    (({} : Scene Req Resp E T).run es).LifeAt id := by
  refine (onward_run es ?_).life
  cases id <;> exact ⟨rfl, rfl⟩

/-! ## The promise -/

/-- For a call of any kind, after any events and before any others: its promise is set at
    most once and its callback runs at most once; its state only goes forward; and while
    its callback is not executing, the promise is unset as long as the call is open, was
    rejected without the callback if it was cancelled, and if it completed holds what the
    callback made of the transport's answer, or the refusal of the call's first operation. -/
theorem promise_follows_state (es es' : List (Event Req Resp E T)) (id : CallId) :
    let w := ({} : Scene Req Resp E T).run es
    ∀ c, w.pump.get? id = some c →
      ((w.told id).countP Deed.isGave ≤ 1 ∧ (w.told id).countP Deed.isRan ≤ 1) ∧
      (∃ c', (w.run es').pump.get? id = some c' ∧ c.machine.state.GoesTo c'.machine.state) ∧
      (w.replies id = [] →
        (c.handoff = {} ↔ c.machine.state = .notStarted ∨ c.machine.state = .called) ∧
        (c.machine.state = .cancelled →
          c.handoff = .ready (.error .cancelled) ∧ (w.told id).countP Deed.isRan = 0) ∧
        (c.machine.state = .completed →
          (∃ cb x, w.told id = [.took cb true, .ran (cb x), .gave (cb x).ended.outcome] ∧
            ((∃ r, (cb x).ended = .returned r ∧ c.handoff = .ready r) ∨
              (∃ t, (cb x).ended = .panicked t ∧ c.handoff = .ready (.error (.callbackPanicked t))))) ∨
          (∃ cb, w.told id = [.took cb false, .gave (.error .shutdown)] ∧
            c.handoff = .ready (.error .shutdown)))) := by
  intro w c hc
  have hl := (lifeAt_some hc).mp (lifeAt_run es id)
  refine ⟨⟨hl.once.1, hl.once.2.1⟩, (onward_run es' (lifeAt_run es id)).state c hc, fun hn => ?_⟩
  change Life c.machine.resolver c.handoff (w.told id) (w.replies id) at hl
  rw [hn] at hl
  generalize hr : c.machine.resolver = r at hl
  generalize hh : c.handoff = h at hl
  generalize hd : w.told id = ds at hl
  have hs : c.machine.state = r.state := congrArg Resolver.state hr
  rw [hs]
  cases hl with
  | notStarted => exact ⟨⟨fun _ => .inl rfl, fun _ => rfl⟩, nofun, nofun⟩
  | called cb => exact ⟨⟨fun _ => .inr rfl, fun _ => rfl⟩, nofun, nofun⟩
  | cancelledUnstarted => exact ⟨⟨nofun, fun h => by rcases h with h | h <;> cases h⟩, fun _ => ⟨rfl, rfl⟩, nofun⟩
  | cancelled cb => exact ⟨⟨nofun, fun h => by rcases h with h | h <;> cases h⟩, fun _ => ⟨rfl, rfl⟩, nofun⟩
  | refused cb => exact ⟨⟨nofun, fun h => by rcases h with h | h <;> cases h⟩, nofun, fun _ => .inr ⟨cb, rfl, rfl⟩⟩
  | completed cb x =>
    refine ⟨⟨nofun, fun h => by rcases h with h | h <;> cases h⟩, nofun, fun _ => .inl ⟨cb, x, rfl, ?_⟩⟩
    cases he : (cb x).ended with
    | returned r => exact .inl ⟨r, rfl, rfl⟩
    | panicked t => exact .inr ⟨t, rfl, rfl⟩

/-- A unary call that is started twice and cancelled while its callback executes. -/
def lateCancel : List (Event Unit Unit Unit Nat) :=
  let cb : Callback Unit Unit Nat := fun _ => { ended := .returned (.ok 7) }
  [.create .unary, .start 1 {} (.unary ()) cb, .finish 0 true (.outcome (.ok ())), .turn,
    .start 1 {} (.unary ()) cb, .cancel 1, .conclude 1]

theorem promise_follows_state_lateCancel :
    ∃ c, (({} : Scene Unit Unit Unit Nat).run lateCancel).pump.get? 1 = some c ∧ c.machine.state = .completed ∧
      c.handoff ≠ {} := by
  have h := promise_follows_state lateCancel [] 1 _ rfl
  exact ⟨_, rfl, rfl, fun e => nomatch (h.2.2 rfl).1.mp e⟩

end Scene

end CallPump
