/-
  CallPump.Proofs.Pump.Upload — the requests of a request stream call reach its channel in
  order.

  The call is one of many on a pump that stays live, and its operations come to what the
  line has for them. It may be cancelled at any point, before its start and after its end too.

  - `Stay.requests_in_order`: what it writes, what of it is accepted, when it closes its
    channel and that it gets there, and when and with what its callback begins.
-/

import CallPump.Proofs.Call.Upload
import CallPump.Proofs.Pump.LetGo
import CallPump.Proofs.Pump.Stranded

namespace CallPump

variable {I C E T : Type}

theorem Touch.cancelled_iff {ts : List (Touch I I C)} : .cancel ∈ ts.filterMap cue? ↔ ts.any cancels = true := by
  rw [List.mem_filterMap, List.any_eq_true]
  refine exists_congr fun t => and_congr_right fun _ => ?_
  cases t <;> simp [cue?, cancels]

namespace Stay

open Scene (Follows Live)

variable {k : CallKind} {t : Stay I I E T k}

/-- The requests that the call's channel accepted, oldest first. -/
def accepted (t : Stay I I E T k) : List I := t.touches.filterMap Touch.accepted?

/-- The requests that the call wrote, oldest first. -/
def written (t : Stay I I E T k) : List I := t.posted.filterMap Op.request?

/-- The requests whose writes are under way. -/
def writing (t : Stay I I E T k) : List I := (t.scene.pump.queue.flying t.id).filterMap Op.request?

/-- The call has given up its writing end. -/
def HungUp (t : Stay I I E T k) : Prop := .hangUp ∈ t.asked

namespace Shows

variable {r : Round I I (Callback I E T)}

theorem written (h : t.Shows r) : r.call.written = t.written :=
  congrArg (fun as => (as.filterMap Ask.op?).filterMap Op.request?) h.asked

theorem writing (h : t.Shows r) : t.writing = r.writing := congrArg (List.filterMap Op.request?) h.beside.flying

theorem hungUp (h : t.Shows r) : r.call.HungUp ↔ t.HungUp := by rw [Solo.HungUp, h.asked, HungUp]

end Shows

/-- The call's first start, at whatever point of its life, is with these requests, and its
    operations come to what the line has for them. -/
structure Uploads (t : Stay I I E T .requestStream) (ℓ : Line I) (ctx : Context) (qs : List I) (cb : Callback I E T) :
    Prop where
  started : t.touches.findSome? Touch.launch? = some (ctx, .requestStream qs, cb)
  played : ℓ.PlaysAll {} t.touches

/-- The requests reach the channel in order, on a line that grants some of them. -/
structure InOrder (t : Stay I I E T .requestStream) (ℓ : Line I) (ctx : Context) (qs : List I)
    (cb : Callback I E T) : Prop where
  /-- One write is under way at a time, at the most. -/
  single : t.writing.length ≤ 1
  accepted : t.accepted <+: ℓ.granted 0 qs
  written : t.written <+: ℓ.tries 0 qs
  /-- Until it hangs up, the call waits for what the line brings back, or for its turn, and
      has written a request with every turn. -/
  goesOn : .cancel ∉ t.cues → ¬ t.HungUp →
    t.taken = t.written.length ∧ ∃ op, t.Waits op ∧ ∃ x, ℓ.Brings t.place op (some x)
  /-- From wherever it is, it can get to where it hangs up. -/
  arrives : .cancel ∉ t.cues → ∃ es he, (t.more es he).Uploads ℓ ctx qs cb ∧ .cancel ∉ (t.more es he).cues ∧
    (t.more es he).HungUp
  /-- It hangs up of itself after the last write only. -/
  closes : .cancel ∉ t.cues → t.HungUp → t.accepted = ℓ.granted 0 qs ∧ t.written = ℓ.tries 0 qs ∧ t.writing = []
  /-- After a cancel nothing more is written, and accepted only what was being written. -/
  cancelled : .cancel ∈ t.cues → ∀ (es : List (Event I I E T)) (he : Follows Live t.scene es),
    (t.more es he).written = t.written ∧ (t.more es he).given = t.given ∧
      ∃ got, got <+: t.writing ∧ (t.more es he).accepted = t.accepted ++ got
  /-- The callback is given, once, what the body comes to. -/
  given : t.given = [] ∨ t.HungUp ∧ t.accepted = ℓ.granted 0 qs ∧
    ∃ a, ℓ.single.joined = .comes a ∧ t.given = [(cb, a.map .one)]
  /-- The callback begins only for a call that was not cancelled and has hung up. -/
  begins : ∀ (e : Event I I E T) (he : Follows Live t.scene [e]), (t.more [e] he).given ≠ t.given →
    .cancel ∉ t.cues ∧ t.HungUp
  /-- It began if nothing is under way any more. -/
  ends : .cancel ∉ t.cues → t.scene.pump.queue.outstanding t.id = 0 → t.given ≠ []

variable {t : Stay I I E T .requestStream} {ℓ : Line I} {ctx : Context} {qs : List I} {cb : Callback I E T}

theorem Uploads.round (h : t.Uploads ℓ ctx qs cb) :
    ∃ r, t.Shows r ∧ r.Uploading ℓ ctx.deadline qs cb ⟨t.place, t.accepted, t.taken, t.touches.any Touch.cancels⟩ := by
  obtain ⟨r, hr, hk⟩ := t.shows
  have hu := Round.Uploading.launched hr.runs h.started h.played hk
  rw [Tally.foldl_after, List.nil_append, Nat.zero_add, Bool.false_or] at hu
  exact ⟨r, hr, hu⟩

variable {r : Round I I (Callback I E T)} {d : Option Instant} {y : Tally I}

/-- A call that is still writing waits for an operation that comes back on every line. -/
theorem Shows.goesOn (hr : t.Shows r) (hu : r.Uploading ℓ d qs cb y) (hc : y.cancelled = false) (hh : ¬ t.HungUp) :
    y.taken = t.written.length ∧ ∃ op, t.Waits op ∧ ∃ x, ℓ.Brings t.place op (some x) := by
  obtain ⟨htaken, op, hop, hp⟩ := hu.goesOn hc fun hh' => hh (hr.hungUp.mp hh')
  refine ⟨hr.written ▸ htaken, op, ?_, ?_⟩
  · rcases hp with hp | ⟨ok, x, hd⟩
    · exact waits_of_waiting hr.beside hr.given hp.waiting hp.given (.inl ⟨hp.flying, hp.queued⟩)
    · exact waits_of_waiting hr.beside hr.given hd.waiting hd.given (.inr ⟨hd.flying, _, hd.queued⟩)
  · rcases hop with rfl | ⟨q, rfl⟩
    · exact ⟨_, .settled true .unit⟩
    · exact ⟨_, .written _ q⟩

/-- A call that is not cancelled can be carried on to where it hangs up. -/
theorem Uploads.arrives (h : t.Uploads ℓ ctx qs cb) (hc : .cancel ∉ t.cues) :
    ∃ es he, (t.more es he).Uploads ℓ ctx qs cb ∧ .cancel ∉ (t.more es he).cues ∧ (t.more es he).HungUp := by
  obtain ⟨r, hr, hu⟩ := h.round
  obtain ⟨ts, r', hR, hn, hp, hh⟩ := hu.arrives (Touch.uncancelled_of_cues hc)
  obtain ⟨es, he, q, hts, hq, ha, -⟩ := hr.staged hR hn
  refine ⟨es, he, ⟨?_, ?_⟩, uncancelled_more hc hts hn, hq.hungUp.mp (ha.call ▸ hh)⟩
  · rw [hts, List.findSome?_append, h.started]
    rfl
  · rw [hts]
    exact h.played.append hp

/-- What comes after a cancel. -/
theorem Shows.over (hr : t.Shows r) (ho : r.call.machine.state.isOpen = false) (hw : r.writing.length ≤ 1)
    {es : List (Event I I E T)} (he : Follows Live t.scene es) :
    (t.more es he).written = t.written ∧ (t.more es he).given = t.given ∧
      ∃ got, got <+: t.writing ∧ (t.more es he).accepted = t.accepted ++ got := by
  obtain ⟨r', hR', hr', hk⟩ := hr.more he
  obtain ⟨hg, hwr, hp⟩ := Round.over_run ho hw hR' hk
  refine ⟨hr'.written.symm.trans (hwr.trans hr.written), hr'.given.symm.trans (hg.trans hr.given),
    (t.scene.touches t.id es).filterMap Touch.accepted?, ?_, ?_⟩
  · rw [hr.writing]
    exact (List.prefix_append _ _).trans hp
  · rw [accepted, more_touches, List.filterMap_append]
    rfl

/-- The event with which a callback begins finds the call hung up, and not cancelled. -/
theorem Shows.begins (hr : t.Shows r) (hu : r.Uploading ℓ d qs cb y) {e : Event I I E T} (he : Follows Live t.scene [e])
    (hg : (t.more [e] he).given ≠ t.given) : y.cancelled = false ∧ t.HungUp := by
  obtain ⟨r', hR', hr', -⟩ := hr.more he
  rw [← hr'.given, ← hr.given] at hg
  rw [Scene.touches_one rfl] at hR'
  cases ht : t.scene.touch? t.id e with
  | none =>
    rw [ht] at hR'
    cases hR'
    exact absurd rfl hg
  | some τ =>
    rw [ht] at hR'
    cases hR' with
    | cons hs hn =>
      cases hn
      exact (hu.begins hs hg).imp_right hr.hungUp.mp

/-- Whatever the line makes of the writes and of the body, and whenever it is cancelled, a
    request stream call writes its requests one at a time and in order, up to the first that
    fails; then it closes its channel, and its callback is given what the body comes to. -/
theorem requests_in_order (h : t.Uploads ℓ ctx qs cb) :
    ℓ.granted 0 qs <+: qs ∧
      ((∀ j < qs.length, ℓ.accepts j = true) → ℓ.granted 0 qs = qs ∧ ℓ.tries 0 qs = qs) ∧
      (∀ k, ℓ.FailsFirst qs k → ℓ.granted 0 qs = qs.take (k - 1) ∧ ℓ.tries 0 qs = qs.take k) ∧
      t.InOrder ℓ ctx qs cb := by
  refine ⟨(ℓ.granted_prefix 0 qs).trans (ℓ.tries_prefix 0 qs), fun ha => ?_,
    fun k hk => ⟨hk.prefixes.2.2, hk.prefixes.2.1⟩, ?_⟩
  · have ht := Line.takes_iff.mpr fun j hj => (Nat.zero_add j).symm ▸ ha j hj
    exact ⟨Line.granted_of_takes ht, Line.tries_of_takes ht⟩
  · obtain ⟨r, hr, hu⟩ := h.round
    exact {
      single := hr.writing ▸ hu.sent.single
      accepted := hu.sent.accepted
      written := hr.written ▸ hu.sent.written
      goesOn := fun hc hh => hr.goesOn hu (Touch.uncancelled_of_cues hc) hh
      arrives := h.arrives
      closes := fun hc hh => by
        rw [← hr.written, hr.writing]
        exact hu.closes (Touch.uncancelled_of_cues hc) (hr.hungUp.mpr hh)
      cancelled := fun hc es he => hr.over (hu.over (Touch.cancelled_iff.mp hc)) hu.sent.single he
      given := by
        rw [← hr.given, ← hr.hungUp]
        exact hu.given
      begins := fun e he hg => by
        obtain ⟨hc, hh⟩ := hr.begins hu he hg
        exact ⟨fun hm => Bool.noConfusion ((Touch.cancelled_iff.mp hm).symm.trans hc), hh⟩
      ends := fun hc hz => by
        rw [Queue.outstanding_eq, hr.beside.flying, hr.beside.queued, Nat.add_eq_zero_iff, List.length_eq_zero_iff,
          List.length_eq_zero_iff] at hz
        exact hr.given ▸ hu.ends (Touch.uncancelled_of_cues hc) hz.1 hz.2 }

/-! The call is cancelled while it writes its second request, which is accepted all the same. -/

def granting : Line Nat := ⟨fun _ => true, .hangs, .hangs, fun _ => .hangs⟩

def quitting : Stay Nat Nat Unit Nat .requestStream where
  before := []
  after := [.start 1 {} (.requestStream [4, 5, 6]) fun _ => { ended := .returned (.ok 0) }, .finish 0 true .unit, .turn,
    .finish 1 true .unit, .turn, .cancel 1, .finish 2 true .unit, .turn]
  live := ⟨trivial, trivial, trivial, trivial, trivial, trivial, trivial, trivial, trivial, trivial⟩

theorem quitting_uploads :
    quitting.Uploads granting {} [4, 5, 6] fun _ => { ended := .returned (.ok 0) } := by
  have ht : quitting.touches = [.start {} (.requestStream [4, 5, 6]) fun _ => { ended := .returned (.ok 0) },
      .back (.nudge true) true .unit, .take true .unit, .back (.write none 4) true .unit, .take true .unit, .cancel,
      .back (.write none 5) true .unit, .take true .unit] := rfl
  refine ⟨by rw [ht]; rfl, ?_⟩
  rw [ht]
  exact ⟨trivial, .settled true _, trivial, .written none 4, trivial, trivial, .written none 5, trivial, trivial⟩

theorem requests_in_order_cancelled :
    quitting.accepted = [4, 5] ∧ quitting.given = [] ∧
      quitting.InOrder granting {} [4, 5, 6] fun _ => { ended := .returned (.ok 0) } :=
  ⟨rfl, rfl, (requests_in_order quitting_uploads).2.2.2⟩

end Stay

end CallPump
