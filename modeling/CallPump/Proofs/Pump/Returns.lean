/-
  CallPump.Proofs.Pump.Returns — what holds when a requested shutdown returns.

  A pump is driven by one thread and shut down by any number of others, and maybe by a
  callback of its own (`Threads`). Three things hold at every moment of every run:
  - the calls have their lives, and the pump has hold of the open ones until all are settled
    (`Sound`);
  - the lock has one holder, who finds at every stage what the stages before have made, and
    leaves behind a pump that is over (`Agreed`);
  - a callback is executing only while the driver executes it (`Manned`).

  - `Threads.returned`: when a shutdown returns to a thread that is not the driver, every
    call is settled, and its future has an outcome unless its callback is executing. If the
    driver is the pump's own thread and did not do the shutdown itself, no callback is.
  - `Threads.returns_early`: otherwise one can be, and its future waits.
-/

import CallPump.Proofs.Pump.Threads

namespace CallPump

variable {Req Resp E T : Type}

/-- Whether the stage comes after the joining has begun. -/
def Stage.took : Stage Resp → Bool
  | .joining | .draining | .delivering _ | .finishing => true
  | .away | .waiting | .back | .entered | .listing | .cancelling _ | .taking => false

theorem Stage.inside_of_took {st : Stage Resp} (h : st.took = true) : st.inside = true := by
  cases st <;> first | rfl | cases h

namespace Threads

variable {s s' : Threads Req Resp E T} {w : Who} {st : Stage Resp} {own : Bool}

/-! ## The calls -/

structure Sound (s : Threads Req Resp E T) : Prop where
  life : ∀ id, s.scene.LifeAt id
  firm : s.scene.pump.Firm
  /-- What the driver holds is for a call that was started. -/
  hand : ∀ c, s.driver = .holding c → s.scene.pump.Over ∨
    ∃ x, s.scene.pump.stateAt c.tag = some x ∧ x ≠ .notStarted

/-- The driver takes nothing in hand. -/
theorem Sound.onto (h : Sound s) (ho : Scene.Onto s.scene s'.scene) (hf : s'.scene.pump.Firm)
    (hd : s'.driver = s.driver ∨ ∀ c, s'.driver ≠ .holding c) : Sound s' := by
  refine ⟨fun id => (ho.onward id (h.life id)).life, hf, ?_⟩
  intro c hc
  rcases hd with hd | hd
  · rcases h.hand c (hd.symm.trans hc) with hp | ⟨x, hx, hn⟩
    · exact .inl (ho.over h.life hp)
    · exact .inr (ho.started h.life hx hn)
  · exact absurd hc (hd c)

/-! ## The shutdown -/

/-- What a thread can count on at each stage. -/
def Certain (s : Threads Req Resp E T) (w : Who) : Stage Resp → Prop
  | .away | .waiting | .entered => True
  | .listing => s.done = none ∧ s.scene.pump.shutdownRequested = true
  | .cancelling ids => s.done = none ∧ s.scene.pump.shutdownRequested = true ∧
      ∀ id x, s.scene.pump.stateAt id = some x → x.isOpen = true → id ∈ ids
  | .taking => s.done = none ∧ s.scene.pump.Over
  | .joining => s.scene.pump.Over
  | .draining | .delivering _ | .finishing => s.scene.pump.Over ∧ (s.own = true → w = .driver ∨ s.driver = .gone)
  | .back => w = .driver ∨ s.done ≠ none

structure Agreed (s : Threads Req Resp E T) : Prop where
  locked : ∀ w, (s.stage w).inside = true → s.lock = some w
  certain : ∀ w, s.Certain w (s.stage w)
  done : ∀ w, s.done = some w → s.scene.pump.Over ∧ (s.own = true → w = .driver ∨ s.driver = .gone)
  /-- Nobody else takes the handle of the pump's own thread. -/
  handle : s.done = none → (∀ w, (s.stage w).took = false) → s.handle = s.own

/-- Beside the one inside, everybody is outside. -/
theorem Agreed.alone (h : Agreed s) (hw : s.stage w = st) (hi : st.inside = true) {u : Who} (hu : u ≠ w) :
    (s.stage u).inside = false := by
  subst hw
  cases hn : (s.stage u).inside with
  | false => rfl
  | true =>
    cases (h.locked u hn).symm.trans (h.locked w hi)
    exact absurd rfl hu

theorem Agreed.untaken (h : Agreed s) (hw : s.stage w = st) (hi : st.inside = true) {u : Who} (hu : u ≠ w) :
    (s.stage u).took = false := by
  cases ht : (s.stage u).took with
  | false => rfl
  | true => cases (Stage.inside_of_took ht).symm.trans (h.alone hw hi hu)

theorem Agreed.counts (h : Agreed s) (hw : s.stage w = st) : s.Certain w st := hw ▸ h.certain w

/-- When the last call is cancelled, it is over. -/
theorem Certain.over (h : s.Certain w (.cancelling [])) : s.scene.pump.Over := by
  refine ⟨h.2.1, ?_⟩
  intro i x hx
  cases hn : x.isOpen with
  | false => rfl
  | true => cases h.2.2 i x hx hn

/-- What a thread can count on is not lost by what happens to the calls. -/
theorem Certain.onto (h : s.Certain w st) (hl : ∀ id, s.scene.LifeAt id) (ho : Scene.Onto s.scene s'.scene)
    (hd : s'.done = s.done) (he : s'.own = s.own) (hg : s.driver = .gone → s'.driver = .gone) : s'.Certain w st := by
  have past (hp : s.scene.pump.Over ∧ (s.own = true → w = .driver ∨ s.driver = .gone)) :
      s'.scene.pump.Over ∧ (s'.own = true → w = .driver ∨ s'.driver = .gone) :=
    ⟨ho.over hl hp.1, fun e => (hp.2 (he ▸ e)).imp_right hg⟩
  cases st with
  | away => trivial
  | waiting => trivial
  | entered => trivial
  | listing => exact ⟨hd.trans h.1, ho.flag h.2⟩
  | cancelling ids =>
    refine ⟨hd.trans h.1, ho.flag h.2.1, ?_⟩
    intro id x hx hn
    obtain ⟨x', hx', hn'⟩ := ho.opened hl h.2.1 hx hn
    exact h.2.2 id x' hx' hn'
  | taking => exact ⟨hd.trans h.1, ho.over hl h.2⟩
  | joining => exact ho.over hl h
  | draining => exact past h
  | delivering c => exact past h
  | finishing => exact past h
  | back => exact h.imp_right fun hn => hd ▸ hn

/-- An action that is no part of a shutdown. -/
theorem Agreed.onto (h : Agreed s) (hl : ∀ id, s.scene.LifeAt id) (ho : Scene.Onto s.scene s'.scene)
    (hst : s'.stage = s.stage) (hk : s'.lock = s.lock) (hd : s'.done = s.done) (hh : s'.handle = s.handle)
    (he : s'.own = s.own) (hg : s.driver = .gone → s'.driver = .gone) : Agreed s' := by
  refine ⟨?_, ?_, ?_, ?_⟩
  · rw [hst, hk]
    exact h.locked
  · intro w
    rw [hst]
    exact (h.certain w).onto hl ho hd he hg
  · intro w hw
    rw [hd] at hw
    obtain ⟨hp, hj⟩ := h.done w hw
    exact ⟨ho.over hl hp, fun e => (hj (he ▸ e)).imp_right hg⟩
  · rw [hst, hd, hh, he]
    exact h.handle

/-- One thread goes to a stage, and the others stay where they are. -/
theorem agreed_put (hst : s'.stage = (s.put w st).stage) (hin : st.inside = true → s'.lock = some w)
    (hc : s'.Certain w st)
    (ho : ∀ u, u ≠ w → ((s.stage u).inside = true → s'.lock = some u) ∧ s'.Certain u (s.stage u))
    (hd : ∀ u, s'.done = some u → s'.scene.pump.Over ∧ (s'.own = true → u = .driver ∨ s'.driver = .gone))
    (hh : s'.done = none → st.took = false → (∀ u, u ≠ w → (s.stage u).took = false) → s'.handle = s'.own) :
    Agreed s' := by
  have self : s'.stage w = st := by rw [hst, put_self]
  have other (u : Who) (hu : u ≠ w) : s'.stage u = s.stage u := by rw [hst, put_other s st hu]
  refine ⟨?_, ?_, hd, ?_⟩
  · intro u hu
    by_cases e : u = w
    · subst e
      rw [self] at hu
      exact hin hu
    · rw [other u e] at hu
      exact (ho u e).1 hu
  · intro u
    by_cases e : u = w
    · subst e
      rw [self]
      exact hc
    · rw [other u e]
      exact (ho u e).2
  · intro hn ht
    refine hh hn (self ▸ ht w) ?_
    intro u hu
    rw [← other u hu]
    exact ht u

/-- A thread that goes from one stage outside to another. -/
theorem Agreed.outside (h : Agreed s) (hl : ∀ id, s.scene.LifeAt id) {v : Scene Req Resp E T} {st₀ : Stage Resp}
    (ho : Scene.Onto s.scene v) (hw : s.stage w = st₀) (hi : st₀.inside = false) (hi' : st.inside = false)
    (hc : { s.put w st with scene := v }.Certain w st) : Agreed { s.put w st with scene := v } := by
  refine agreed_put rfl ?_ hc ?_ ?_ ?_
  · intro e
    rw [hi'] at e
    cases e
  · intro u _
    exact ⟨h.locked u, (h.certain u).onto hl ho rfl rfl id⟩
  · intro u hu
    obtain ⟨hp, hj⟩ := h.done u hu
    exact ⟨ho.over hl hp, hj⟩
  · intro hn _ ht
    refine h.handle hn ?_
    intro u
    by_cases e : u = w
    · subst e
      cases hk : (s.stage u).took with
      | false => rfl
      | true => cases (Stage.inside_of_took (hw ▸ hk)).symm.trans hi
    · exact ht u e

/-- A thread that waited gets the lock. -/
theorem Agreed.enters (h : Agreed s) (hl : ∀ id, s.scene.LifeAt id) (hw : s.stage w = .waiting) (hk : s.lock = none) :
    Agreed { s.put w .entered with lock := some w } := by
  have refl := Scene.onto_same (v := s.scene) (Pump.stays_refl s.scene.pump) (Scene.SameAt.refl s.scene)
  refine agreed_put rfl (fun _ => rfl) trivial ?_ h.done ?_
  · intro u _
    refine ⟨?_, (h.certain u).onto hl refl rfl rfl id⟩
    intro hu
    cases hk.symm.trans (h.locked u hu)
  · intro hn _ ht
    refine h.handle hn ?_
    intro u
    by_cases e : u = w
    · rw [e, hw]
      rfl
    · exact ht u e

/-- The thread inside goes on to its next stage. -/
theorem Agreed.inside (h : Agreed s) (hl : ∀ id, s.scene.LifeAt id) {v : Scene Req Resp E T} {b : Bool}
    {st₀ : Stage Resp} (ho : Scene.Onto s.scene v) (hw : s.stage w = st₀) (hi : st₀.inside = true)
    (hc : { s.put w st with scene := v, handle := b }.Certain w st)
    (hb : st.took = true ∨ b = s.handle ∧ st₀.took = false) :
    Agreed { s.put w st with scene := v, handle := b } := by
  subst hw
  refine agreed_put rfl (fun _ => h.locked w hi) hc ?_ ?_ ?_
  · intro u _
    exact ⟨h.locked u, (h.certain u).onto hl ho rfl rfl id⟩
  · intro u hu
    obtain ⟨hp, hj⟩ := h.done u hu
    exact ⟨ho.over hl hp, hj⟩
  · intro hn ht _
    rcases hb with hb | ⟨rfl, hb⟩
    · cases hb.symm.trans ht
    · refine h.handle hn ?_
      intro u
      by_cases e : u = w
      · rw [e]
        exact hb
      · exact h.untaken rfl hi e

/-- The thread inside leaves. -/
theorem Agreed.leaves (h : Agreed s) {st₀ : Stage Resp} (hw : s.stage w = st₀) (hi : st₀.inside = true)
    {d : Option Who} (hd : d ≠ none)
    (hs : ∀ u, d = some u → s.scene.pump.Over ∧ (s.own = true → u = .driver ∨ s.driver = .gone)) :
    Agreed { s.put w .back with lock := none, done := d } := by
  refine agreed_put rfl ?_ (.inr hd) ?_ hs fun hn => absurd hn hd
  · intro e
    cases e
  · intro u hu
    have hn := h.alone hw hi hu
    -- whoever is outside counts on nothing but that someone was done
    cases he : s.stage u with
    | away => exact ⟨nofun, trivial⟩
    | waiting => exact ⟨nofun, trivial⟩
    | back => exact ⟨nofun, .inr hd⟩
    | entered => rw [he] at hn; cases hn
    | listing => rw [he] at hn; cases hn
    | cancelling ids => rw [he] at hn; cases hn
    | taking => rw [he] at hn; cases hn
    | joining => rw [he] at hn; cases hn
    | draining => rw [he] at hn; cases hn
    | delivering c => rw [he] at hn; cases hn
    | finishing => rw [he] at hn; cases hn

/-! ## The callback -/

/-- What is executing is what the driver executes. -/
def Manned (s : Threads Req Resp E T) : Prop :=
  match s.driver with
  | .executing id => ∃ x, s.scene.executing = [x] ∧ x.call = id
  | .resting | .looking | .holding _ | .gone => s.scene.executing = []

theorem Manned.same (h : Manned s) (hd : s'.driver = s.driver) (he : s'.scene.executing = s.scene.executing) :
    Manned s' := by
  unfold Manned at h ⊢
  rw [hd, he]
  exact h

theorem Manned.gone (h : Manned s) (hd : s.driver = .gone) : s.scene.executing = [] := by
  unfold Manned at h
  rw [hd] at h
  exact h

theorem Manned.length_le (h : Manned s) : s.scene.executing.length ≤ 1 := by
  unfold Manned at h
  generalize s.driver = d at h
  cases d with
  | executing id => obtain ⟨x, hx, -⟩ := h; simp [hx]
  | resting => simp [h]
  | looking => simp [h]
  | holding c => simp [h]
  | gone => simp [h]

/-! ## Every step -/

theorem agreed_step (h : Agreed s) (hs : Sound s) (hstep : Step s s') : Agreed s' := by
  have refl := Scene.onto_same (v := s.scene) (Pump.stays_refl s.scene.pump) (Scene.SameAt.refl s.scene)
  have gone {d : Driver Resp} (hd : s.driver = d) (hn : d ≠ .gone) (d' : Driver Resp) :
      s.driver = .gone → d' = .gone := by
    intro e
    exact absurd (hd.symm.trans e) hn
  cases hstep with
  | create k => exact h.onto hs.life (Scene.onto_create _ k) rfl rfl rfl rfl rfl id
  | start i ctx l cb => exact h.onto hs.life (Scene.onto_start _ i ctx l cb) rfl rfl rfl rfl rfl id
  | cancel i => exact h.onto hs.life (Scene.onto_cancel _ i) rfl rfl rfl rfl rfl id
  | finish t ok x => exact h.onto hs.life (Scene.onto_setQueue _ _) rfl rfl rfl rfl rfl id
  | abandon t => exact h.onto hs.life (Scene.onto_setQueue _ _) rfl rfl rfl rfl rfl id
  | late c _ => exact h.onto hs.life (Scene.onto_setQueue _ _) rfl rfl rfl rfl rfl id
  | look hd => exact h.onto hs.life refl rfl rfl rfl rfl rfl (gone hd nofun _)
  | idle hd _ => exact h.onto hs.life refl rfl rfl rfl rfl rfl (gone hd nofun _)
  | pop hd _ => exact h.onto hs.life (Scene.onto_setQueue _ _) rfl rfl rfl rfl rfl (gone hd nofun _)
  | pass hd _ => exact h.onto hs.life (Scene.onto_dispatch _ _ _) rfl rfl rfl rfl rfl (gone hd nofun _)
  | begins hd _ => exact h.onto hs.life (Scene.onto_dispatch _ _ _) rfl rfl rfl rfl rfl (gone hd nofun _)
  | ends hd _ _ => exact h.onto hs.life (Scene.onto_conclude _ _) rfl rfl rfl rfl rfl (gone hd nofun _)
  | @request w hr =>
    rcases hr.1 with hw | hw
    · exact h.outside hs.life refl hw rfl rfl trivial
    · exact h.outside hs.life refl hw rfl rfl trivial
  | enter hw hk => exact h.enters hs.life hw hk
  | yield _ hw _ => exact h.outside hs.life (Scene.onto_refuse _) hw rfl rfl (.inl rfl)
  | leave hw hd => exact h.leaves hw rfl hd h.done
  | refuse hw hd => exact h.inside hs.life (Scene.onto_refuse _) hw rfl ⟨hd, rfl⟩ (.inr ⟨rfl, rfl⟩)
  | @list w hw =>
    obtain ⟨hd, hf⟩ := h.counts hw
    refine h.inside hs.life refl hw rfl ⟨hd, hf, ?_⟩ (.inr ⟨rfl, rfl⟩)
    -- the open calls are tracked
    intro i x hx hn
    cases hs.firm with
    | past ho =>
      rw [ho.settled i x hx] at hn
      cases hn
    | holding _ hr => exact (hr.sound.mem_refs i).mpr ((hr.held i).tracked x hx hn)
  | @cancelNext w i is hw =>
    obtain ⟨hd, hf, hc⟩ := h.counts hw
    have ho := Scene.onto_cancel s.scene i
    refine h.inside hs.life ho hw rfl ⟨hd, ho.flag hf, ?_⟩ (.inr ⟨rfl, rfl⟩)
    -- and the one that was next is settled now
    intro j x hx hn
    change (s.scene.cancel i).pump.stateAt j = some x at hx
    rw [Scene.cancel_pump, Pump.stateAt_cancel, Option.map_eq_some_iff] at hx
    obtain ⟨y, hy, rfl⟩ := hx
    by_cases e : j = i
    · rw [if_pos e, CallState.afterCancel_isOpen] at hn
      cases hn
    · rw [if_neg e] at hn
      exact (List.mem_cons.mp (hc j y hy hn)).resolve_left e
  | close hw =>
    have hc := h.counts hw
    have ho := Scene.onto_setQueue s.scene s.scene.pump.queue.shutdown
    exact h.inside hs.life ho hw rfl ⟨hc.1, ho.over hs.life hc.over⟩ (.inr ⟨rfl, rfl⟩)
  | join hw _ _ => exact h.inside hs.life refl hw rfl (h.counts hw).2 (.inl rfl)
  | @skip w hw hb =>
    obtain ⟨hd, hp⟩ := h.counts hw
    refine h.inside hs.life refl hw rfl ⟨hp, ?_⟩ (.inl rfl)
    intro ho
    rcases hb with hb | hb
    · -- the handle is gone and nobody took it: there was none
      have hz : s.handle = s.own := by
        refine h.handle hd ?_
        intro u
        by_cases e : u = w
        · rw [e, hw]
          rfl
        · exact h.untaken hw rfl e
      cases (hb.symm.trans hz).trans ho
    · exact .inl hb
  | joined hw hg => exact h.inside hs.life refl hw rfl ⟨h.counts hw, fun _ => .inr hg⟩ (.inl rfl)
  | @drain w c cs hw _ =>
    obtain ⟨hp, hj⟩ := h.counts hw
    have ho := Scene.onto_setQueue s.scene { s.scene.pump.queue with ready := cs }
    exact h.inside hs.life ho hw rfl ⟨ho.over hs.life hp, hj⟩ (.inl rfl)
  | @deliver w c hw =>
    obtain ⟨hp, hj⟩ := h.counts hw
    have ho := Scene.onto_drainOne s.scene c
    exact h.inside hs.life ho hw rfl ⟨ho.over hs.life hp, hj⟩ (.inl rfl)
  | forget hw _ =>
    obtain ⟨hp, hj⟩ := h.counts hw
    have ho := Scene.onto_forget s.scene
    exact h.inside hs.life ho hw rfl ⟨ho.over hs.life hp, hj⟩ (.inl rfl)
  | @finishes w hw =>
    refine h.leaves hw rfl nofun ?_
    intro u hu
    cases hu
    exact h.counts hw

theorem sound_step (h : Sound s) (ha : Agreed s) (hstep : Step s s') : Sound s' := by
  have refl := Scene.onto_same (v := s.scene) (Pump.stays_refl s.scene.pump) (Scene.SameAt.refl s.scene)
  cases hstep with
  | create k => exact h.onto (Scene.onto_create _ k) (Scene.firm_create h.life h.firm k) (.inl rfl)
  | start i ctx l cb =>
    exact h.onto (Scene.onto_start _ i ctx l cb) (Scene.firm_start h.life h.firm i ctx l cb) (.inl rfl)
  | cancel i => exact h.onto (Scene.onto_cancel _ i) (Scene.firm_cancel h.life h.firm i) (.inl rfl)
  | finish t ok x =>
    refine h.onto (Scene.onto_setQueue _ _) (Scene.firm_setQueue h.life h.firm ?_) (.inl rfl)
    intro hc ht
    refine ⟨?_, Queue.ticketed_finish ht t ok x, fun i => Nat.le_of_eq (Queue.outstanding_finish ht t ok x i)⟩
    rw [Queue.finish]
    split <;> exact hc
  | abandon t =>
    refine h.onto (Scene.onto_setQueue _ _) (Scene.firm_setQueue h.life h.firm ?_) (.inl rfl)
    intro hc ht
    exact ⟨hc, Queue.ticketed_abandon ht t, Queue.outstanding_abandon_le _ t⟩
  | late c hc =>
    refine h.onto (Scene.onto_setQueue _ _) (Scene.firm_setQueue h.life h.firm ?_) (.inl rfl)
    intro ho
    cases ho.symm.trans hc
  | look _ =>
    refine h.onto refl h.firm (.inr ?_)
    intro c hc
    dsimp only at hc
    split at hc <;> cases hc
  | idle _ _ =>
    refine h.onto refl h.firm (.inr ?_)
    intro c hc
    dsimp only at hc
    split at hc <;> cases hc
  | @pop c cs hd hq =>
    have ho := Scene.onto_setQueue s.scene { s.scene.pump.queue with ready := cs }
    refine ⟨fun i => (ho.onward i (h.life i)).life, ?_, ?_⟩
    · refine Scene.firm_setQueue h.life h.firm ?_
      intro hc ht
      refine ⟨hc, ⟨ht.distinct, ht.issued⟩, ?_⟩
      intro i
      rw [Queue.outstanding_pop hq i]
      exact Nat.le_add_right _ _
    · intro c' hc'
      cases hc'
      cases h.firm with
      | past hp => exact .inl (ho.over h.life hp)
      | holding _ hr => exact .inr ((hr.held c.tag).started (by rw [Pump.unasked, hq]; exact List.mem_cons_self))
  | @pass c hd _ =>
    refine h.onto (Scene.onto_dispatch _ c _) (Scene.firm_dispatch h.life h.firm _ (h.hand c hd)) (.inr ?_)
    intro c' hc'
    cases hc'
  | @begins c r hd _ =>
    refine h.onto (Scene.onto_dispatch _ c _) (Scene.firm_dispatch h.life h.firm _ (h.hand c hd)) (.inr ?_)
    intro c' hc'
    cases hc'
  | ends hd _ _ =>
    refine h.onto (Scene.onto_conclude _ _) (Scene.firm_conclude h.life h.firm _) (.inr ?_)
    intro c hc
    cases hc
  | request _ => exact h.onto refl h.firm (.inl rfl)
  | enter _ _ => exact h.onto refl h.firm (.inl rfl)
  | yield _ _ _ => exact h.onto (Scene.onto_refuse _) (Scene.firm_refuse h.life h.firm) (.inl rfl)
  | leave _ _ => exact h.onto refl h.firm (.inl rfl)
  | refuse _ _ => exact h.onto (Scene.onto_refuse _) (Scene.firm_refuse h.life h.firm) (.inl rfl)
  | list _ => exact h.onto refl h.firm (.inl rfl)
  | cancelNext _ => exact h.onto (Scene.onto_cancel _ _) (Scene.firm_cancel h.life h.firm _) (.inl rfl)
  | close hw =>
    have ho := Scene.onto_setQueue s.scene s.scene.pump.queue.shutdown
    exact h.onto ho (.past (ho.over h.life (ha.counts hw).over)) (.inl rfl)
  | join _ _ _ => exact h.onto refl h.firm (.inl rfl)
  | skip _ _ => exact h.onto refl h.firm (.inl rfl)
  | joined _ _ => exact h.onto refl h.firm (.inl rfl)
  | @drain w c cs hw _ =>
    have ho := Scene.onto_setQueue s.scene { s.scene.pump.queue with ready := cs }
    exact h.onto ho (.past (ho.over h.life (ha.counts hw).1)) (.inl rfl)
  | @deliver w c hw =>
    have ho := Scene.onto_drainOne s.scene c
    exact h.onto ho (.past (ho.over h.life (ha.counts hw).1)) (.inl rfl)
  | forget hw _ =>
    have ho := Scene.onto_forget s.scene
    exact h.onto ho (.past (ho.over h.life (ha.counts hw).1)) (.inl rfl)
  | finishes _ => exact h.onto refl h.firm (.inl rfl)

theorem manned_step (h : Manned s) (hstep : Step s s') : Manned s' := by
  cases hstep with
  | create k => exact h.same rfl (Scene.create_executing _ k)
  | start i ctx l cb => exact h.same rfl (Scene.start_executing _ i ctx l cb)
  | cancel i => exact h.same rfl (Scene.cancel_executing _ i)
  | finish t ok x => exact h.same rfl rfl
  | abandon t => exact h.same rfl rfl
  | late c hc => exact h.same rfl rfl
  | look hd =>
    simp only [Manned, hd] at h
    cases hf : s.scene.pump.shutdownRequested <;> simpa [Manned, hf] using h
  | idle hd _ =>
    simp only [Manned, hd] at h
    cases hc : s.scene.pump.queue.closed <;> simpa [Manned, hc] using h
  | pop hd _ =>
    simp only [Manned, hd] at h ⊢
    exact h
  | pass hd hr =>
    simp only [Manned, hd] at h ⊢
    rw [Scene.take_executing, h, hr]
    rfl
  | begins hd hr =>
    simp only [Manned, hd] at h ⊢
    rw [Scene.take_executing, h, hr]
    exact ⟨_, rfl, rfl⟩
  | ends hd _ _ =>
    simp only [Manned, hd] at h ⊢
    obtain ⟨x, hx, rfl⟩ := h
    simp [Scene.conclude, hx]
  | request _ => exact h.same rfl rfl
  | enter _ _ => exact h.same rfl rfl
  | yield _ _ _ => exact h.same rfl rfl
  | leave _ _ => exact h.same rfl rfl
  | refuse _ _ => exact h.same rfl rfl
  | list _ => exact h.same rfl rfl
  | cancelNext _ => exact h.same rfl (Scene.cancel_executing _ _)
  | close _ => exact h.same rfl rfl
  | join _ _ _ => exact h.same rfl rfl
  | skip _ _ => exact h.same rfl rfl
  | joined _ _ => exact h.same rfl rfl
  | drain _ _ => exact h.same rfl rfl
  | deliver _ => exact h.same rfl (Scene.drainOne_executing _ _)
  | forget _ _ => exact h.same rfl rfl
  | finishes _ => exact h.same rfl rfl

/-! ## Every run -/

theorem sound_begin : Sound (begin own : Threads Req Resp E T) := by
  refine ⟨fun id => Scene.lifeAt_run [] id, .holding rfl Pump.running_empty, ?_⟩
  intro c hc
  cases hc

theorem agreed_begin : Agreed (begin own : Threads Req Resp E T) := by
  refine ⟨?_, fun _ => trivial, ?_, fun _ _ => rfl⟩
  · intro w hw
    cases hw
  · intro w hw
    cases hw

theorem reach_inv (h : Reach own s) : s.own = own ∧ Sound s ∧ Agreed s ∧ Manned s := by
  induction h with
  | begin => exact ⟨rfl, sound_begin, agreed_begin, rfl⟩
  | step _ hstep ih =>
    obtain ⟨he, hs, ha, hm⟩ := ih
    refine ⟨?_, sound_step hs ha hstep, agreed_step ha hs hstep, manned_step hm hstep⟩
    cases hstep <;> exact he

/-- No callback is executing, and every future has its outcome. -/
def Finished (s : Threads Req Resp E T) : Prop :=
  s.scene.executing = [] ∧ ∀ id c, s.scene.pump.get? id = some c → ∃ o, c.handoff = .ready o

/-- Whenever a shutdown has returned to a thread that is not the driver, no call is open, and
    a future has its outcome exactly if the call's callback is not executing. One callback
    may be. Everything is finished if the driver is the pump's own thread and the shutdown
    was not done by a callback on it. -/
theorem returned (h : Reach own s) {n : Nat} (hb : s.stage (.other n) = .back) :
    (∀ id c, s.scene.pump.get? id = some c → c.machine.state.isOpen = false ∧
        (s.scene.replies id = [] ↔ ∃ o, c.handoff = .ready o)) ∧
      s.scene.executing.length ≤ 1 ∧ (own = true → s.done ≠ some .driver → s.Finished) := by
  obtain ⟨he, hs, ha, hm⟩ := reach_inv h
  obtain ⟨w, hw⟩ := Option.ne_none_iff_exists'.mp ((ha.counts hb).resolve_left nofun)
  obtain ⟨ho, hj⟩ := ha.done w hw
  have settled (id : CallId) (c : Call Req Resp E T) (hc : s.scene.pump.get? id = some c) :
      c.machine.state.isOpen = false ∧ (s.scene.replies id = [] ↔ ∃ o, c.handoff = .ready o) := by
    have hn := ho.settled id _ (Pump.stateAt_some hc)
    have hl := (Scene.lifeAt_some hc).mp (hs.life id)
    refine ⟨hn, fun hr => hl.resolved hn hr, ?_⟩
    rintro ⟨o, hr⟩
    exact hl.quiet_of_ready hr
  refine ⟨settled, hm.length_le, ?_⟩
  intro hown hd
  -- the driver did not do the shutdown, so it was joined and is gone
  have hx : s.scene.executing = [] := by
    rcases hj (he.trans hown) with rfl | hg
    · exact absurd hw hd
    · exact hm.gone hg
  refine ⟨hx, ?_⟩
  intro id c hc
  refine (settled id c hc).2.mp ?_
  rw [Scene.replies, hx]
  rfl

/-- A call is created and never started; a shutdown cancels it, and joins the pump's thread. -/
theorem returned_joined :
    ∃ s : Threads Nat Nat Unit Nat, Reach true s ∧ s.stage (.other 0) = .back ∧ s.done ≠ some .driver ∧ s.Finished := by
  have h₀ : Reach true (begin true : Threads Nat Nat Unit Nat) := .begin
  have h₁ := h₀.step (.create _ .unary)
  have h₂ := h₁.step (.request (w := .other 0) ⟨.inl rfl, nofun⟩)
  have h₃ := h₂.step (.enter (w := .other 0) rfl rfl)
  have h₄ := h₃.step (.refuse (w := .other 0) rfl rfl)
  have h₅ := h₄.step (.list (w := .other 0) rfl)
  have h₆ := h₅.step (.cancelNext (w := .other 0) rfl)
  have h₇ := h₆.step (.close (w := .other 0) rfl)
  have h₈ := h₇.step (.join (w := .other 0) rfl rfl nofun)
  have h₉ := h₈.step (.look rfl)
  have h₁₀ := h₉.step (.joined (w := .other 0) rfl rfl)
  have h₁₁ := h₁₀.step (.forget (w := .other 0) rfl rfl)
  have h₁₂ := h₁₁.step (.finishes (w := .other 0) rfl)
  exact ⟨_, h₁₂, rfl, nofun, (returned h₁₂ (n := 0) rfl).2.2 rfl nofun⟩

/-! The callback of a unary call is executing, on either kind of driver. -/

def busy (own : Bool) : Threads Nat Nat Unit Nat where
  own := own
  handle := own
  driver := .executing 1
  scene := ({} : Scene Nat Nat Unit Nat).run [.create .unary,
    .start 1 {} (.unary 5) fun _ => { ended := .returned (.ok 1) }, .finish 0 true (.outcome (.ok 6)), .turn]

theorem reach_busy (own : Bool) : Reach own (busy own) := by
  have h₀ : Reach own (begin own : Threads Nat Nat Unit Nat) := .begin
  have h₁ := h₀.step (.create _ .unary)
  have h₂ := h₁.step (.start _ 1 {} (.unary 5) fun _ => { ended := .returned (.ok 1) })
  have h₃ := h₂.step (.finish _ 0 true (.outcome (.ok 6)))
  have h₄ := h₃.step (.look rfl)
  have h₅ := h₄.step (.pop rfl rfl)
  have h₆ := h₅.step (.begins rfl rfl)
  exact h₆

/-- A shutdown can return while a callback is executing whose future waits: on the pump's own
    thread, if that callback did the shutdown, and always on a caller's. -/
theorem returns_early :
    (¬ ∀ s : Threads Nat Nat Unit Nat, Reach true s → ∀ n, s.stage (.other n) = .back → s.Finished) ∧
      ¬ ∀ s : Threads Nat Nat Unit Nat, Reach false s → ∀ n, s.stage (.other n) = .back → s.Finished := by
  constructor
  · intro h
    have h₁ := (reach_busy true).step (.request (w := .driver) ⟨.inl rfl, fun _ => ⟨1, rfl⟩⟩)
    have h₂ := h₁.step (.enter (w := .driver) rfl rfl)
    have h₃ := h₂.step (.refuse (w := .driver) rfl rfl)
    have h₄ := h₃.step (.list (w := .driver) rfl)
    have h₅ := h₄.step (.cancelNext (w := .driver) rfl)
    have h₆ := h₅.step (.close (w := .driver) rfl)
    have h₇ := h₆.step (.skip (w := .driver) rfl (.inr rfl))
    have h₈ := h₇.step (.forget (w := .driver) rfl rfl)
    have h₉ := h₈.step (.finishes (w := .driver) rfl)
    -- the callback has not ended, and another thread finds the shutdown done
    have h₁₀ := h₉.step (.request (w := .other 0) ⟨.inl rfl, nofun⟩)
    have h₁₁ := h₁₀.step (.enter (w := .other 0) rfl rfl)
    have h₁₂ := h₁₁.step (.leave (w := .other 0) rfl nofun)
    cases (h _ h₁₂ 0 rfl).1
  · intro h
    have h₁ := (reach_busy false).step (.request (w := .other 0) ⟨.inl rfl, nofun⟩)
    have h₂ := h₁.step (.enter (w := .other 0) rfl rfl)
    have h₃ := h₂.step (.refuse (w := .other 0) rfl rfl)
    have h₄ := h₃.step (.list (w := .other 0) rfl)
    have h₅ := h₄.step (.cancelNext (w := .other 0) rfl)
    have h₆ := h₅.step (.close (w := .other 0) rfl)
    have h₇ := h₆.step (.skip (w := .other 0) rfl (.inl rfl))
    have h₈ := h₇.step (.forget (w := .other 0) rfl rfl)
    have h₉ := h₈.step (.finishes (w := .other 0) rfl)
    cases (h _ h₉ 0 rfl).1

end Threads

end CallPump
