/-
  CallPump.Proofs.Pump.Apart — calls on one pump do not influence each other.

  A call is taken from two live runs that may have nothing else in common: other calls of
  any kinds, other handles and tickets, other orders in which operations end and completions
  are taken, callbacks that panic. All that the call's own part of the two runs has to share
  is what its caller and the transport decide (`Stay.cues`, `Stay.brought`).

  - `apart`: then the call asks the same of the transport, its callback is given the same,
    and its future comes to the same.
-/

import CallPump.Proofs.Pump.Stay

namespace CallPump.Stay

variable {Req Resp E T : Type} {k : CallKind}

/-- A call that was started and has nothing under way any more is settled. -/
theorem settled {s : Stay Req Resp E T k} (ht : s.Through) {ctx : Context} {l : Launch Req} {cb : Callback Resp E T}
    (hs : .start ctx l cb ∈ s.cues) (hn : s.scene.replies s.id = []) :
    ∃ m o, s.scene.pump.get? s.id = some ⟨m, .ready o⟩ := by
  obtain ⟨r, -, hb, -, hr, hz⟩ := s.through_cases ht
  have hc := hb.call (s.beside.1.life s.id) hn
  refine ⟨r.call.machine, ?_⟩
  rw [hc, Solo.result]
  have hcb : s.touches.findSome? Touch.callback? ≠ none := by
    rw [ne_eq, List.findSome?_eq_none_iff]
    intro h
    cases h _ (Touch.start_of_cue hs)
  generalize s.touches.findSome? Touch.callback? = o at hr hcb
  generalize s.touches.any Touch.cancels = c at hr
  cases hr with
  | unstarted h₁ h₂ => exact absurd rfl hcb
  | waiting cb h₁ h₂ h₃ => omega
  | givenUp o h₁ h₂ =>
    have hs : r.call.machine.state = .cancelled := congrArg Resolver.state h₁
    exact ⟨_, by rw [h₂, hs]; rfl⟩
  | spent cb c x h₁ h₂ => exact ⟨_, by rw [h₂]⟩

/-- Two live runs, with a call of the same kind in each. Where the call is started (with the
    same context, requests and callback), cancelled and turned to at the same points of its
    own history, and its operations bring the same, in order, it asks the same of the
    transport and its callback is given the same, whatever else happens on the two pumps.
    Its future comes to the same; to an outcome, if the call was started and all that it
    posted came back. -/
theorem apart (s s' : Stay Req Resp E T k) (hc : s.cues = s'.cues) (hb : s.brought = s'.brought)
    (hq : s.scene.pump.queue.queued s.id = []) (hq' : s'.scene.pump.queue.queued s'.id = []) :
    s.asked = s'.asked ∧ s.given = s'.given ∧
      ∃ c c', s.scene.pump.get? s.id = some c ∧ s'.scene.pump.get? s'.id = some c' ∧ c.machine = c'.machine ∧
        (s.scene.replies s.id = [] → s'.scene.replies s'.id = [] → c.handoff = c'.handoff ∧
          ((∃ ctx l cb, .start ctx l cb ∈ s.cues) → s.Through → ∃ o, c.handoff = .ready o)) := by
  obtain ⟨hw, r, hR, hr, ha, hg, -⟩ := s.beside
  obtain ⟨hw', r', hR', hr', ha', hg', -⟩ := s'.beside
  have he : r.call = r'.call := by
    rw [hR.replayed rfl (hr.queued.symm.trans hq), hR'.replayed rfl (hr'.queued.symm.trans hq')]
    exact congrArg₂ _ hc hb
  obtain ⟨h, hm⟩ := hr.machine
  obtain ⟨h', hm'⟩ := hr'.machine
  refine ⟨by rw [← ha, he, ha'], by rw [← hg, he, hg'], _, _, hm, hm', congrArg Solo.machine he, fun hn hn' => ⟨?_, ?_⟩⟩
  · have e := hm.symm.trans (hr.call (hw.life _) hn)
    have e' := hm'.symm.trans (hr'.call (hw'.life _) hn')
    simp only [Option.some.injEq, Call.mk.injEq, true_and] at e e'
    rw [e, e', he]
  · rintro ⟨ctx, l, cb, hs⟩ ht
    obtain ⟨m, o, ho⟩ := settled ht hs hn
    cases hm.symm.trans ho
    exact ⟨o, rfl⟩

/-! A unary call by itself, and the same call beside one whose callback panics while it is
    turned to and one that is cancelled, its own answer overtaken by theirs. -/

def answered : Callback Unit Unit Nat := fun x => { ended := .returned (.ok (if x.isOk then 1 else 0)) }

def alone : Stay Unit Unit Unit Nat .unary where
  before := []
  after := [.start 1 {} (.unary ()) answered, .finish 0 true (.outcome (.ok ())), .turn, .conclude 1]
  live := ⟨trivial, trivial, trivial, trivial, trivial, trivial⟩

def crowded : Stay Unit Unit Unit Nat .unary where
  before := [.create .unary, .create .responseStream,
    .start 1 {} (.unary ()) fun _ => { ended := .panicked none }, .start 2 {} (.responseStream ()) answered]
  after := [.start 3 {} (.unary ()) answered, .finish 1 true (.opened (.ok ())), .finish 0 true (.outcome (.ok ())),
    .finish 2 true (.outcome (.ok ())), .turn, .turn, .cancel 2, .turn, .conclude 3]
  live := ⟨trivial, trivial, trivial, trivial, trivial, trivial, trivial, trivial, trivial, trivial, trivial, trivial,
    trivial, trivial, trivial⟩

theorem apart_crowded : alone.asked = crowded.asked ∧ alone.asked = [.run (.exchange {} ())] ∧ alone.id ≠ crowded.id :=
  ⟨(apart alone crowded rfl rfl rfl rfl).1, rfl, by decide⟩

end CallPump.Stay
