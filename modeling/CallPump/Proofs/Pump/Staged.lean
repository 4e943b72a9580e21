/-
  CallPump.Proofs.Pump.Staged — what a call can go through by itself, a live pump can take it
  through.

  Every live run leads the round of a call over the call's touches (`Scene.beside_run`).
  This is the way back. Wherever a live pump stands, each step of the round is what some
  events come to for the call: an operation ends or dies under its ticket, a caller starts
  or cancels, and turns take to other calls what is queued before the call's own.

  - `Scene.occasion`: the events of one step of the round.
  - `Scene.staged`: the events of a run.
  - `Stay.Shows.staged`: a stay, carried on so, and past the callback that began meanwhile.
-/

import CallPump.Proofs.Pump.Stay

namespace CallPump

variable {Req Resp I E T : Type}

namespace Scene

variable {w : Scene Req Resp E T} {id : CallId} {r r' q : Round Req Resp (Callback Resp E T)}
  {t : Touch Req Resp (Callback Resp E T)} {ts : List (Touch Req Resp (Callback Resp E T))}

/-! ## One step -/

theorem ready_turn (hw : Alive w) {c : Completion (Payload Resp)} {cs : List (Completion (Payload Resp))}
    (hq : w.pump.queue.ready = c :: cs) : w.turn.pump.queue.ready = cs := by
  have ht := Pump.turn_of_ready hw.running.running hq
  simp only [turn, ht, take_pump]
  exact (Pump.dispatch_queue (w.pump.keeping cs) c).2

/-- However much is queued before it, turns take the call the oldest of its completions. -/
theorem turns (hw : Alive w) (hr : Beside w id r) {ok : Bool} {x : Payload Resp} {rest : List (Bool × Payload Resp)}
    (hd : r.queued = (ok, x) :: rest) : ∃ es, Follows Live w es ∧ w.touches id es = [.take ok x] := by
  generalize hq : w.pump.queue.ready = cs
  induction cs generalizing w with
  | nil =>
    have h := hr.queued
    rw [hd, Queue.queued, hq] at h
    cases h
  | cons c cs ih =>
    have ht := touch?_turn hq id
    obtain ⟨r', hp⟩ := beside_step hw hr (e := .turn) trivial
    have hR := hp.run
    rw [ht] at hR
    by_cases hc : c.tag = id
    · rw [if_pos hc] at ht hR
      cases hR with
      | cons hs _ =>
        cases hs with
        | take hd' =>
          cases hd.symm.trans hd'
          exact ⟨[.turn], ⟨trivial, trivial⟩, touches_one ht⟩
    · rw [if_neg hc] at ht hR
      cases hR
      obtain ⟨es, he, hts⟩ := ih (alive_step .turn trivial hw) hp.beside (ready_turn hw hq)
      refine ⟨.turn :: es, ⟨trivial, he⟩, ?_⟩
      rw [← hts, ← List.singleton_append, touches_append, touches_one ht]
      rfl

/-- Each step of the round is what some events come to. -/
theorem occasion (hw : Alive w) (hr : Beside w id r) (hs : Round.Step r t r')
    (hk : ∀ ctx l cb, t = .start ctx l cb → r.call.machine.kind = l.kind) :
    ∃ es, Follows Live w es ∧ w.touches id es = [t] := by
  have one {e : Event Req Resp E T} (he : Live w e) (ht : w.touch? id e = some t) :
      ∃ es, Follows Live w es ∧ w.touches id es = [t] := ⟨[e], ⟨he, trivial⟩, touches_one ht⟩
  have among {as bs : List (Op Req Resp)} {op : Op Req Resp} (hf : r.flying = as ++ op :: bs) :
      op ∈ w.pump.queue.flying id := by
    rw [hr.flying, hf]
    exact List.mem_append_right _ List.mem_cons_self
  obtain ⟨h, hb⟩ := hr.machine
  cases hs with
  | start ctx l cb =>
    refine one (e := .start id ctx l cb) trivial ?_
    simp only [touch?, hb, Option.any_some, hk ctx l cb rfl, decide_true, and_self, if_true]
  | cancel =>
    refine one (e := .cancel id) trivial ?_
    simp only [touch?, hb, Option.isSome_some, and_self, if_true]
  | back ok x hf =>
    obtain ⟨o, ho, rfl, rfl⟩ := Queue.find?_of_flying hw.running.ticketed (among hf)
    refine one (e := .finish o.ticket ok x) trivial ?_
    simp only [touch?, ho, Option.bind_some, if_true]
  | lost hf =>
    obtain ⟨o, ho, rfl, rfl⟩ := Queue.find?_of_flying hw.running.ticketed (among hf)
    refine one (e := .abandon o.ticket) trivial ?_
    simp only [touch?, ho, Option.bind_some, if_true]
  | take hd => exact turns hw hr hd

/-! ## A run -/

/-- Each run of the round is what some events come to. -/
theorem staged (hw : Alive w) (hq : Beside w id q) (ha : r.Alike q) (hR : Round.Runs r ts r')
    (hk : ∀ ctx l cb, .start ctx l cb ∈ ts → r.call.machine.kind = l.kind) :
    ∃ es, Follows Live w es ∧ w.touches id es = ts := by
  induction hR generalizing w q with
  | nil r => exact ⟨[], trivial, rfl⟩
  | @cons r r₁ r' t ts hs _ ih =>
    obtain ⟨q₁, hs₁⟩ := ha.steps hs
    have hkind : q.call.machine.kind = r.call.machine.kind := congrArg (·.machine.kind) ha.call
    obtain ⟨es, he, hts⟩ := occasion hw hq hs₁ fun ctx l cb e => hkind.trans (hk ctx l cb (e ▸ List.mem_cons_self))
    -- the pump's round need not be the given one any more, but for the order of its operations it is
    obtain ⟨hv, q₂, hR₂, hb, -⟩ := beside_run es hw hq he
    rw [hts] at hR₂
    cases hR₂ with
    | cons hs₂ hn =>
      cases hn
      obtain ⟨es', he', hts'⟩ := ih hv hb (ha.step hs hs₂)
        fun ctx l cb hm => hs.kind.trans (hk ctx l cb (List.mem_cons_of_mem _ hm))
      refine ⟨es ++ es', follows_append.mpr ⟨he, he'⟩, ?_⟩
      rw [touches_append, hts, hts']
      rfl

/-- A callback that is executing ends. -/
theorem replies_conclude (w : Scene Req Resp E T) (id : CallId) : (w.run [.conclude id]).replies id = [] := by
  show (w.conclude id).replies id = []
  cases hx : w.executing.find? (·.call == id) with
  | none =>
    rw [conclude_none hx, replies, List.map_eq_nil_iff, List.filter_eq_nil_iff]
    exact List.find?_eq_none.mp hx
  | some x => exact (conclude_some hx).2.1

end Scene

namespace Stay

open Scene (Follows Live)

variable {k : CallKind} {t : Stay I I E T k}

/-! ## A stay, carried on -/

/-- The run, carried on. -/
def more (t : Stay I I E T k) (es : List (Event I I E T)) (h : Follows Live t.scene es) : Stay I I E T k where
  before := t.before
  after := t.after ++ es
  live := by
    have h' := Scene.follows_append.mpr ⟨t.live, h⟩
    rwa [List.append_assoc] at h'

theorem more_touches (t : Stay I I E T k) {es : List (Event I I E T)} (h : Follows Live t.scene es) :
    (t.more es h).touches = t.touches ++ t.scene.touches t.id es := by
  rw [t.scene_eq]
  exact Scene.touches_append t.birth t.id t.after es

theorem more_scene (t : Stay I I E T k) {es : List (Event I I E T)} (h : Follows Live t.scene es) :
    (t.more es h).scene = t.scene.run es := by
  rw [scene_eq, t.scene_eq]
  exact Scene.run_append t.birth t.after es

/-- The round has come to what can be seen of the call. -/
structure Shows (t : Stay I I E T k) (r : Round I I (Callback I E T)) : Prop where
  runs : Round.Runs ⟨.fresh k, [], []⟩ t.touches r
  beside : t.scene.Beside t.id r
  asked : r.call.asked = t.asked
  given : r.call.given = t.given

theorem shows (t : Stay I I E T k) : ∃ r, t.Shows r ∧ ∀ ctx l cb, .start ctx l cb ∈ t.touches → l.kind = k := by
  obtain ⟨-, r, hR, hb, ha, hg, hk⟩ := t.beside
  exact ⟨r, ⟨hR, hb, ha, hg⟩, hk⟩

variable {ctx : Context} {l : Launch I} {cb : Callback I E T} {ts : List (Touch I I (Callback I E T))}

/-- A call is started with what its kind takes. -/
theorem kind_of_started (h : ∃ cs, t.cues = .start ctx l cb :: cs ∧ .cancel ∉ cs) : l.kind = k := by
  obtain ⟨cs, hs, -⟩ := h
  obtain ⟨-, -, -, -, -, -, hk⟩ := t.beside
  refine hk ctx l cb (Touch.start_of_cue ?_)
  show _ ∈ t.cues
  rw [hs]
  exact List.mem_cons_self

/-- Carried on without its caller, a call that was not cancelled is not. -/
theorem uncancelled_more (hc : .cancel ∉ t.cues) {es : List (Event I I E T)} {he : Follows Live t.scene es}
    (ht : (t.more es he).touches = t.touches ++ ts) (hn : ∀ u ∈ ts, u.byCaller = false) :
    .cancel ∉ (t.more es he).cues := by
  rw [cues, ht, List.filterMap_append, List.mem_append]
  rintro (hm | hm)
  · exact hc hm
  · cases Touch.cues_unasked hn hm

theorem started_more (h : ∃ cs, t.cues = .start ctx l cb :: cs ∧ .cancel ∉ cs) {es : List (Event I I E T)}
    {he : Follows Live t.scene es} (ht : (t.more es he).touches = t.touches ++ ts)
    (hn : ∀ u ∈ ts, u.byCaller = false) : ∃ cs, (t.more es he).cues = .start ctx l cb :: cs ∧ .cancel ∉ cs := by
  obtain ⟨cs, hs, hc⟩ := h
  have hs' : (t.more es he).cues = .start ctx l cb :: (cs ++ ts.filterMap Touch.cue?) := by
    rw [cues, ht, List.filterMap_append]
    exact congrArg (· ++ _) hs
  have hc' := uncancelled_more (by rw [hs]; simpa using hc) ht hn
  rw [hs'] at hc'
  exact ⟨_, hs', fun hm => hc' (List.mem_cons_of_mem _ hm)⟩

namespace Shows

variable {r r' : Round I I (Callback I E T)} {ts : List (Touch I I (Callback I E T))}

/-- Carried on, the run is that of the round carried on. -/
theorem more (h : t.Shows r) {es : List (Event I I E T)} (he : Follows Live t.scene es) :
    ∃ r', Round.Runs r (t.scene.touches t.id es) r' ∧ (t.more es he).Shows r' ∧
      ∀ ctx l cb, .start ctx l cb ∈ t.scene.touches t.id es → r.call.machine.kind = l.kind := by
  obtain ⟨-, r', hR', hb', -, -, hk⟩ := Scene.beside_run es t.beside.1 h.beside he
  obtain ⟨-, r₂, hR₂, -, ha, hg, -⟩ := (t.more es he).beside
  have hR := h.runs.append hR'
  rw [← more_touches t he] at hR
  have hcall : r'.call = r₂.call := hR.call.trans hR₂.call.symm
  exact ⟨r', hR', ⟨hR, by rw [more_scene]; exact hb', hcall ▸ ha, hcall ▸ hg⟩, hk⟩

/-- Where the round can go without its caller, the stay can be carried on to, and past the
    end of a callback that began. -/
theorem staged (h : t.Shows r) (hR : Round.Runs r ts r') (hn : ∀ u ∈ ts, u.byCaller = false) :
    ∃ es he q, (t.more es he).touches = t.touches ++ ts ∧ (t.more es he).Shows q ∧ r'.Alike q ∧
      (t.more es he).scene.replies t.id = [] := by
  obtain ⟨es, he, hts⟩ := Scene.staged t.beside.1 h.beside (.refl r) hR
    fun ctx l cb hm => Bool.noConfusion (hn _ hm)
  have he' : Follows Live t.scene (es ++ [.conclude t.id]) := Scene.follows_append.mpr ⟨he, trivial, trivial⟩
  have hts' : t.scene.touches t.id (es ++ [.conclude t.id]) = ts := by
    rw [Scene.touches_append, hts]
    exact List.append_nil ts
  obtain ⟨q, hRq, hq, -⟩ := h.more he'
  rw [hts'] at hRq
  refine ⟨_, he', q, ?_, hq, (Round.Alike.refl r).runs hR hRq, ?_⟩
  · rw [more_touches, hts']
  · rw [more_scene, Scene.run_append]
    exact Scene.replies_conclude _ _

end Shows

end Stay

end CallPump
