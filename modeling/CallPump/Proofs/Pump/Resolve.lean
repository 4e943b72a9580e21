/-
  CallPump.Proofs.Pump.Resolve — what a served call resolves to, on any live pump.

  The call is one of many on a pump that stays live. Its requests reach a service; of the
  other calls nothing is known. Nobody can make the call come to anything but what its
  callback makes of the service's reply, and from wherever it stands the pump's turns bring
  it there.

  - `Served.given`: what the callback is given, and the future's outcome, once nothing is
    under way for the call.
  - `Served.finishes`: from every point of such a run, there are events that get it there.
  - `served_begun`: such a run begins with a start on any live pump.
-/

import CallPump.Proofs.Call.Served
import CallPump.Proofs.Pump.Staged

namespace CallPump

variable {I E T : Type}

namespace Stay

open Scene (Follows Live)

variable {k : CallKind} {t : Stay I I E T k} {s : Service I} {ctx : Context} {l : Launch I} {cb : Callback I E T}

/-- The call is started so before anything else is done with it, it is not cancelled, and the
    service serves it. -/
structure Served (t : Stay I I E T k) (s : Service I) (ctx : Context) (l : Launch I) (cb : Callback I E T) : Prop where
  started : ∃ cs, t.cues = .start ctx l cb :: cs ∧ .cancel ∉ cs
  served : s.ServesAll {} t.touches

/-- Where the call stands then. -/
theorem Served.round (h : t.Served s ctx l cb) :
    ∃ r, t.Shows r ∧ r.Served s cb (s.reply l) (s.afterAll {} t.touches) := by
  obtain rfl := kind_of_started h.started
  obtain ⟨cs, hs, hc⟩ := h.started
  obtain ⟨r, hr, hk⟩ := t.shows
  exact ⟨r, hr, .launched hr.runs hs hc h.served hk⟩

/-- Once nothing is under way for it, its callback was given the service's reply, and the
    future has what the callback made of it when it ended. -/
theorem Served.given (h : t.Served s ctx l cb) (hz : t.scene.pump.queue.outstanding t.id = 0) :
    t.given = [(cb, s.reply l)] ∧ (t.scene.replies t.id = [] →
      ∃ m, t.scene.pump.get? t.id = some ⟨m, .ready (cb (s.reply l)).ended.outcome⟩) := by
  obtain ⟨r, hr, hserved⟩ := h.round
  rw [Queue.outstanding_eq, hr.beside.flying, hr.beside.queued] at hz
  have ha : r.Answered cb (s.reply l) := by
    generalize s.afterAll {} t.touches = far at hserved
    cases hserved with
    | underway hu => rw [hu.flying] at hz; simp at hz
    | due hd => rw [hd.queued] at hz; simp at hz
    | answered _ ha => exact ha
  refine ⟨hr.given.symm.trans ha.given, fun hn => ⟨r.call.machine, ?_⟩⟩
  rw [hr.beside.call (t.beside.1.life t.id) hn, Solo.result, ha.given]

/-- From every point of a run in which it is served, events get the call to its callback and
    past it. -/
theorem Served.finishes (h : t.Served s ctx l cb) :
    ∃ es he, (t.more es he).Served s ctx l cb ∧ (t.more es he).scene.pump.queue.outstanding t.id = 0 ∧
      (t.more es he).scene.replies t.id = [] := by
  obtain ⟨r, hr, hserved⟩ := h.round
  obtain ⟨ts, r', hR, hn, hv, ha⟩ := hserved.arrives
  obtain ⟨es, he, q, hts, hq, hqr, hx⟩ := hr.staged hR hn
  refine ⟨es, he, ⟨started_more h.started hts hn, ?_⟩, ?_, hx⟩
  · rw [hts]
    exact Service.servesAll_append.mpr ⟨h.served, hv⟩
  · have hz := ha.alike hqr
    show (t.more es he).scene.pump.queue.outstanding (t.more es he).id = 0
    rw [Queue.outstanding_eq, hq.beside.flying, hq.beside.queued, hz.flying, hz.queued]
    rfl

/-- After any live run, the call is created and at once started. -/
def begun (before : List (Event I I E T)) (h : Follows Live {} before) (ctx : Context) (l : Launch I)
    (cb : Callback I E T) : Stay I I E T l.kind where
  before := before
  after := [.start ((({} : Scene I I E T).run before).pump.calls.length + 1) ctx l cb]
  live := Scene.follows_append.mpr ⟨h, trivial, trivial, trivial⟩

/-- At its start the call is new and of the kind that its requests are for. -/
theorem begun_birth {before : List (Event I I E T)} (h : Follows Live {} before) (ctx : Context) (l : Launch I)
    (cb : Callback I E T) :
    let t := begun before h ctx l cb
    ∃ c, t.birth.pump.get? t.id = some c ∧ c.machine.kind = l.kind := by
  obtain ⟨o, ho⟩ := (begun before h ctx l cb).beside_birth.machine
  exact ⟨_, ho, by cases l <;> rfl⟩

theorem served_begun {before : List (Event I I E T)} (h : Follows Live {} before) :
    (begun before h ctx l cb).Served s ctx l cb := by
  obtain ⟨c, ho, hk⟩ := begun_birth h ctx l cb
  have ht : (begun before h ctx l cb).birth.touch? (begun before h ctx l cb).id
      (.start (begun before h ctx l cb).id ctx l cb) = some (.start ctx l cb) := by
    simp only [Scene.touch?, ho, Option.any_some, hk, decide_true, and_self, if_true]
  have hts : (begun before h ctx l cb).touches = [.start ctx l cb] :=
    Scene.touches_one ht
  refine ⟨⟨[], ?_, List.not_mem_nil⟩, ?_⟩
  · rw [cues, hts]; rfl
  · rw [hts]; exact ⟨trivial, trivial⟩

end Stay

end CallPump
