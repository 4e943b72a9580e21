/-
  CallPump.Proofs.Pump.Lasting — how many completions a call takes, and what it comes to.

  The call is one of many on a pump that stays live, it is not cancelled, and the transport
  answers each of its operations. So it takes the operations of its route (`Line.Route`)
  one by one, each posted when the completion of the one before it was taken, and it is
  over when all of them are.

  - `Stay.Played.route`: how far the call is, by the number of completions that it took, and
    that from there it gets to its end.
  - `Stay.responses_in_order`: what a response stream call collects, and how often it reads.
  - `Stay.over_in_time`: the number of completions that a call takes, for all four kinds
    (`Line.Completions`).
-/

import CallPump.Proofs.Call.Trail
import CallPump.Proofs.Pump.LetGo
import CallPump.Proofs.Pump.Stranded

namespace CallPump

variable {I E T : Type}

namespace Stay

variable {k : CallKind} {t : Stay I I E T k} {ℓ : Line I} {ctx : Context} {l : Launch I} {cb : Callback I E T}
  {ops : List (Op I I)} {a : Except GrpcStatus (Answer I)}

/-- The call takes `n` completions, and its callback is given `a`. -/
structure Lasts (t : Stay I I E T k) (ℓ : Line I) (ctx : Context) (l : Launch I) (cb : Callback I E T) (n : Nat)
    (a : Except GrpcStatus (Answer I)) : Prop where
  /-- Until it has taken them it waits, for an operation that the line brings back or for a
      turn; then it is over. -/
  stands : (t.taken < n ∧ ∃ op, t.Waits op ∧
      (t.scene.pump.queue.flying t.id = [op] → ∃ x, ℓ.Brings t.place op (some x))) ∨
    t.taken = n ∧ t.Ended cb a
  /-- From wherever it stands, events get it there, and past the end of its callback. -/
  arrives : ∃ es he, (t.more es he).Played ℓ ctx l cb ∧ (t.more es he).taken = n ∧ (t.more es he).Ended cb a ∧
    (t.more es he).scene.replies t.id = []

theorem Played.onWay (h : t.Played ℓ ctx l cb) (hr : ℓ.Route ctx l ops a) :
    ∃ r, t.Shows r ∧ r.OnWay ℓ.backing cb (fun os b => os = ops ∧ b = a) t.taken t.place :=
  Stay.onWay (hr.sure ⟨rfl, rfl⟩) h.started (Line.carries_iff.mpr ⟨h.played, rfl⟩)

/-- Where a call with a route stands. -/
theorem Played.stands (h : t.Played ℓ ctx l cb) (hr : ℓ.Route ctx l ops a) :
    t.posted = ops.take (t.taken + 1) ∧
      ((t.taken < ops.length ∧ ∃ op, t.Waits op ∧
          (t.scene.pump.queue.flying t.id = [op] → ∃ x, ℓ.Brings t.place op (some x))) ∨
        t.taken = ops.length ∧ t.Ended cb a) := by
  obtain ⟨r, hs, hway⟩ := h.onWay hr
  rcases hs.waits_or_ended hway with ⟨done, op, more, b, hlen, hp, ⟨rfl, -⟩, hw, ha⟩ | ⟨b, hlen, ⟨rfl, rfl⟩, he⟩
  · refine ⟨?_, .inl ⟨?_, op, hw, ha⟩⟩
    · rw [hp, List.append_cons done op more, List.take_left' (by rw [List.length_append, hlen]; rfl)]
    · rw [← hlen, List.length_append, List.length_cons]
      omega
  · exact ⟨(List.take_of_length_le (by omega)).symm, .inr ⟨hlen.symm, he⟩⟩

/-- A call posts the operations of its route, each when the one before it is taken. -/
theorem Played.route (h : t.Played ℓ ctx l cb) (hr : ℓ.Route ctx l ops a) :
    t.posted = ops.take (t.taken + 1) ∧ t.Lasts ℓ ctx l cb ops.length a := by
  obtain ⟨r, hs, hway⟩ := h.onWay hr
  obtain ⟨hposted, hstands⟩ := h.stands hr
  refine ⟨hposted, hstands, ?_⟩
  obtain ⟨es, he, ts, p, hts, hn, hc, -, hg, hx⟩ := hs.arrives (P := fun _ => True)
    (fun _ ha => by obtain ⟨ok, x, p, hb⟩ := ℓ.backing.answers ha; exact ⟨ok, x, p, hb, trivial⟩) hway trivial
  have hm : (t.more es he).Played ℓ ctx l cb := by
    refine ⟨started_more h.started hts hn, ?_⟩
    rw [hts]
    exact h.played.append (Line.carries_iff.mp hc).1
  rcases (hm.stands hr).2 with ⟨-, op, hw, -⟩ | ⟨ht, hend⟩
  · exact absurd hw.given hg
  · exact ⟨es, he, hm, ht, hend, hx⟩

/-! ## What a response stream call collects -/

/-- The callback of a response stream call is given, once, what its stream is to a reader: all
    responses in order if the stream ends, the error if it is not opened or breaks. The call
    opens the stream and reads it once for each response and once for what comes after them,
    each read posted when the completion before it was taken. -/
theorem responses_in_order {q : I} {s : Stream I} (h : t.Played ℓ ctx (.responseStream q) cb)
    (hs : ℓ.Has ℓ.opening s) :
    t.posted = List.take (t.taken + 1)
        (.openStream ctx q :: (List.replicate s.polls (.read ctx.deadline) ++ [s.closing]) : List (Op I I)) ∧
      t.Lasts ℓ ctx (.responseStream q) cb (s.polls + 2) (s.heard.map .many) := by
  have hr := h.route (.responseStream q hs)
  rw [List.length_cons, Stream.length_trail] at hr
  exact hr

/-! A stream with one response is opened, read and closed. -/

def oneResponse : Line Nat :=
  ⟨fun _ => true, .hangs, .comes (.ok ()), fun n => .comes (if n = 0 then some (.ok 5) else none)⟩

def reading : Stay Nat Nat Unit Nat .responseStream where
  before := []
  after := [.start 1 {} (.responseStream 7) fun _ => { ended := .returned (.ok 0) }, .finish 0 true (.opened (.ok ())),
    .turn, .finish 1 true (.item (some (.ok 5))), .turn, .finish 2 false (.item none), .turn,
    .finish 3 true (.closed (.ok ())), .turn, .conclude 1]
  live := ⟨trivial, trivial, trivial, trivial, trivial, trivial, trivial, trivial, trivial, trivial, trivial, trivial⟩

theorem reading_played : reading.Played oneResponse {} (.responseStream 7) fun _ => { ended := .returned (.ok 0) } := by
  refine ⟨⟨[.turn, .turn, .turn, .turn], rfl, by simp⟩, ?_⟩
  have ht : reading.touches = [.start {} (.responseStream 7) fun _ => { ended := .returned (.ok 0) },
      .back (.openStream {} 7) true (.opened (.ok ())), .take true (.opened (.ok ())),
      .back (.read none) true (.item (some (.ok 5))), .take true (.item (some (.ok 5))),
      .back (.read none) false (.item none), .take false (.item none),
      .back (.settled true (.closed (.ok ()))) true (.closed (.ok ())), .take true (.closed (.ok ()))] := rfl
  rw [ht]
  exact ⟨trivial, .opened (o := some (.ok ())) {} 7 rfl, trivial, .item (o := some (some (.ok 5))) none rfl, trivial,
    .item (o := some none) none rfl, trivial, .settled true _, trivial, trivial⟩

theorem responses_in_order_one :
    reading.taken = 4 ∧
      reading.Lasts oneResponse {} (.responseStream 7) (fun _ => { ended := .returned (.ok 0) }) 4 (.ok (.many [5])) :=
  ⟨rfl, (responses_in_order reading_played (s := .yields [5] none) ⟨rfl, rfl, rfl⟩).2⟩

/-! ## How many completions a call takes -/

end Stay

namespace Line

variable (ℓ : Line I)

/-- The transport answers each operation of the call, and its response stream is finite. -/
def Responds : Launch I → Prop
  | .unary _ => ∃ r, ℓ.single = .comes r
  | .requestStream _ => ∃ r, ℓ.single.joined = .comes r
  | .responseStream _ => ∃ s, ℓ.Has ℓ.opening s
  | .bidi _ => ∃ s, ℓ.Has ℓ.opening.joined s

/-- The number of completions that a call takes: if nothing fails, if the opening of its
    stream fails, if the item after some responses is an error, and if a write fails. -/
inductive Completions : Launch I → Nat → Prop
  | unary (q : I) : ℓ.Responds (.unary q) → Completions (.unary q) 1
  | requestStream (qs : List I) : ℓ.Responds (.requestStream qs) → ℓ.takes 0 qs = true →
      Completions (.requestStream qs) (qs.length + 3)
  | requestStreamFailing {qs : List I} {k : Nat} : ℓ.Responds (.requestStream qs) → ℓ.FailsFirst qs k →
      Completions (.requestStream qs) (k + 2)
  | responseStream (q : I) {is : List I} : ℓ.Has ℓ.opening (.yields is none) →
      Completions (.responseStream q) (is.length + 3)
  | responseStreamRefused (q : I) {e : GrpcStatus} : ℓ.Has ℓ.opening (.refused e) → Completions (.responseStream q) 2
  | responseStreamBroken (q : I) {is : List I} {e : GrpcStatus} {j : Nat} : ℓ.Has ℓ.opening (.yields is (some e)) →
      j = is.length + 1 → Completions (.responseStream q) (j + 2)
  | bidi {qs is : List I} : ℓ.takes 0 qs = true → ℓ.Has ℓ.opening.joined (.yields is none) →
      Completions (.bidi qs) (qs.length + is.length + 5)
  | bidiRefused {qs : List I} {e : GrpcStatus} : ℓ.takes 0 qs = true → ℓ.Has ℓ.opening.joined (.refused e) →
      Completions (.bidi qs) (qs.length + 4)
  | bidiBroken {qs is : List I} {e : GrpcStatus} {j : Nat} : ℓ.takes 0 qs = true →
      ℓ.Has ℓ.opening.joined (.yields is (some e)) → j = is.length + 1 → Completions (.bidi qs) (qs.length + j + 4)
  | bidiFailing {qs : List I} {k : Nat} : ℓ.Responds (.bidi qs) → ℓ.FailsFirst qs k → Completions (.bidi qs) (k + 2)

variable {ℓ}

theorem Responds.completions {l : Launch I} (h : ℓ.Responds l) : ∃ n, ℓ.Completions l n := by
  cases l with
  | unary q => exact ⟨1, .unary q h⟩
  | requestStream qs =>
    cases ht : ℓ.takes 0 qs with
    | true => exact ⟨_, .requestStream qs h ht⟩
    | false =>
      obtain ⟨k, hk⟩ := failsFirst_of_takes ht
      exact ⟨_, .requestStreamFailing h hk⟩
  | responseStream q =>
    obtain ⟨e | ⟨is, _ | e⟩, hs⟩ := h
    · exact ⟨_, .responseStreamRefused q hs⟩
    · exact ⟨_, .responseStream q hs⟩
    · exact ⟨_, .responseStreamBroken q hs rfl⟩
  | bidi qs =>
    cases ht : ℓ.takes 0 qs with
    | false =>
      obtain ⟨k, hk⟩ := failsFirst_of_takes ht
      exact ⟨_, .bidiFailing h hk⟩
    | true =>
      obtain ⟨e | ⟨is, _ | e⟩, hs⟩ := h
      · exact ⟨_, .bidiRefused ht hs⟩
      · exact ⟨_, .bidi ht hs⟩
      · exact ⟨_, .bidiBroken ht hs rfl⟩

/-- The number is that of the operations on the call's route. -/
theorem Completions.route {l : Launch I} {n : Nat} (h : ℓ.Completions l n) (ctx : Context) :
    ∃ ops a, ℓ.Route ctx l ops a ∧ ops.length = n := by
  have single (qs : List I) (hr : ℓ.Responds (.requestStream qs)) :
      ∃ ops a, ℓ.Route ctx (.requestStream qs) ops a ∧
        ops.length = (ℓ.tries 0 qs).length + if ℓ.takes 0 qs then 3 else 2 := by
    obtain ⟨r, hr⟩ := hr
    refine ⟨_, _, .requestStream qs hr, ?_⟩
    cases ℓ.takes 0 qs <;> simp
  have many (qs : List I) {s : Stream I} (hs : ℓ.Has ℓ.opening.joined s) :
      ∃ ops a, ℓ.Route ctx (.bidi qs) ops a ∧
        ops.length = (ℓ.tries 0 qs).length + if ℓ.takes 0 qs then s.polls + 4 else 2 := by
    refine ⟨_, _, .bidi qs hs, ?_⟩
    rw [List.length_append, List.length_cons, List.length_map]
    cases ℓ.takes 0 qs with
    | false => rfl
    | true =>
      simp only [if_true, List.length_cons, Stream.length_trail]
      omega
  have open? (q : I) {s : Stream I} (hs : ℓ.Has ℓ.opening s) :
      ∃ ops a, ℓ.Route ctx (.responseStream q) ops a ∧ ops.length = s.polls + 2 :=
    ⟨_, _, .responseStream q hs, by rw [List.length_cons, Stream.length_trail]⟩
  cases h with
  | unary q hr =>
    obtain ⟨r, hr⟩ := hr
    exact ⟨_, _, .unary q hr, rfl⟩
  | requestStream qs hr ht =>
    have h := single qs hr
    rwa [tries_of_takes ht, ht] at h
  | requestStreamFailing hr hk =>
    have h := single _ hr
    rwa [hk.prefixes.1, hk.length_tries] at h
  | responseStream q hs => exact open? q hs
  | responseStreamRefused q hs => exact open? q hs
  | responseStreamBroken q hs hj => subst hj; exact open? q hs
  | @bidi qs is ht hs =>
    have h := many qs hs
    rw [tries_of_takes ht, ht] at h
    exact h
  | @bidiRefused qs e ht hs =>
    have h := many qs hs
    rw [tries_of_takes ht, ht] at h
    exact h
  | @bidiBroken qs is e j ht hs hj =>
    have h := many qs hs
    rw [tries_of_takes ht, ht] at h
    subst hj
    exact h
  | @bidiFailing qs k hr hk =>
    obtain ⟨s, hs⟩ := hr
    have h := many qs hs
    rwa [hk.prefixes.1, hk.length_tries] at h

end Line

namespace Stay

variable {k : CallKind} {t : Stay I I E T k} {ℓ : Line I} {ctx : Context} {l : Launch I} {cb : Callback I E T}

/-- A call whose transport answers each operation is over, and let go of, after a number of
    completions that is known beforehand, and not before. -/
theorem over_in_time (h : t.Played ℓ ctx l cb) :
    (ℓ.Responds l → ∃ n, ℓ.Completions l n) ∧ ∀ n, ℓ.Completions l n → ∃ a, t.Lasts ℓ ctx l cb n a := by
  refine ⟨Line.Responds.completions, fun n hn => ?_⟩
  obtain ⟨ops, a, hr, rfl⟩ := hn.route ctx
  exact ⟨a, (h.route hr).2⟩

/-! The second of two writes fails, and the body's error arrives after it. -/

def closingEarly : Line Nat := ⟨fun j => j == 0, .comes (.error ⟨.unavailable, "gone"⟩), .hangs, fun _ => .hangs⟩

def refused : Stay Nat Nat Unit Nat .requestStream where
  before := []
  after := [.start 1 {} (.requestStream [4, 5]) fun _ => { ended := .returned (.ok 0) }, .finish 0 true .unit, .turn,
    .finish 1 true .unit, .turn, .finish 2 false .unit, .turn,
    .finish 3 true (.outcome (.error ⟨.unavailable, "gone"⟩)), .turn, .conclude 1]
  live := ⟨trivial, trivial, trivial, trivial, trivial, trivial, trivial, trivial, trivial, trivial, trivial, trivial⟩

theorem refused_played :
    refused.Played closingEarly {} (.requestStream [4, 5]) fun _ => { ended := .returned (.ok 0) } := by
  refine ⟨⟨[.turn, .turn, .turn, .turn], rfl, by simp⟩, ?_⟩
  have ht : refused.touches = [.start {} (.requestStream [4, 5]) fun _ => { ended := .returned (.ok 0) },
      .back (.nudge true) true .unit, .take true .unit, .back (.write none 4) true .unit, .take true .unit,
      .back (.write none 5) false .unit, .take false .unit,
      .back .join true (.outcome (.error ⟨.unavailable, "gone"⟩)),
      .take true (.outcome (.error ⟨.unavailable, "gone"⟩))] := rfl
  rw [ht]
  exact ⟨trivial, .settled true _, trivial, .written none 4, trivial, .written none 5, trivial,
    .joined (o := some (.error ⟨.unavailable, "gone"⟩)) rfl, trivial, trivial⟩

theorem closingEarly_fails : closingEarly.FailsFirst [4, 5] 2 := by
  refine ⟨⟨by decide, by decide⟩, fun j hj => ?_, rfl⟩
  obtain rfl : j = 0 := by omega
  rfl

theorem over_in_time_refused :
    refused.taken = 4 ∧
      ∃ a, refused.Lasts closingEarly {} (.requestStream [4, 5]) (fun _ => { ended := .returned (.ok 0) }) 4 a :=
  ⟨rfl, (over_in_time refused_played).2 4 (.requestStreamFailing ⟨_, rfl⟩ closingEarly_fails)⟩

end Stay

end CallPump
