/-
  CallPump.Proofs.Pump.Stranded — what becomes of a call whose transport panics.

  The call is one of many on a pump that stays live, and the transport has for it what its
  line has (`Line`). A panic in a body is told to the call by the operation that joins the
  body. A panic in what an operation polls itself takes the operation along: no completion
  comes of it, and the pump does not know that there was one to come. The call stays called
  with nothing under way, and nobody is told.

  - `Round.Played.step`, `Round.Played.launched`: from its start on the call is on the way
    that the line makes for it, as long as nobody cancels it; it is under way, answered, or
    stranded.
  - `Stay.Played.rests`: with nothing under way for it any more, it was answered or it waits
    for good.
  - `Stay.only_joined_panics_arrive`: the panics after which a call is stranded, and those
    that its callback is given, for all four kinds.
-/

import CallPump.Proofs.Call.Line
import CallPump.Proofs.Pump.Stay

namespace CallPump

variable {I C E T : Type}

/-! ## A call on its line -/

namespace Round

variable {ℓ : Line I} {cb : C} {G : Option (Except GrpcStatus (Answer I)) → Prop} {r r' : Round I I C} {p : Place}
  {t : Touch I I C} {ts : List (Touch I I C)}

/-- Wherever the call is led from where it stands, `G` holds of it. -/
inductive Played (ℓ : Line I) (cb : C) (G : Option (Except GrpcStatus (Answer I)) → Prop) (r : Round I I C) :
    Place → Prop
  | underway {op : Op I I} {p : Place} : r.Underway cb op → (∀ o, ℓ.Leads cb r.call.machine op p o → G o) →
      Played ℓ cb G r p
  | due {op : Op I I} {ok : Bool} {x : Payload I} {p : Place} : r.Due cb ok x → ℓ.Brings p op (some (ok, x)) →
      (∀ o, ℓ.Leads cb r.call.machine op p o → G o) → Played ℓ cb G r (p.after op)
  | answered {a : Except GrpcStatus (Answer I)} (p : Place) : r.Answered cb a → G (some a) → Played ℓ cb G r p
  | stranded (p : Place) : r.Stranded cb → G none → Played ℓ cb G r p

theorem Played.called (h : r.Played ℓ cb G p) :
    r.call.machine.state = .called ∨ r.call.machine.state = .completed := by
  cases h with
  | underway h => exact .inl (congrArg Resolver.state h.waiting)
  | due h => exact .inl (congrArg Resolver.state h.waiting)
  | answered p h => exact .inr (congrArg Resolver.state h.spent)
  | stranded p h => exact .inl (congrArg Resolver.state h.waiting)

/-- The call stays on its way. -/
theorem Played.step (h : r.Played ℓ cb G p) (hs : Step r t r') (hv : ℓ.Plays p t) (hc : t ≠ .cancel)
    (hk : ∀ ctx l cb, t = .start ctx l cb → r.call.machine.kind = l.kind) : r'.Played ℓ cb G (p.past t) := by
  cases t with
  | start ctx l cb' =>
    have hst := h.called
    cases hs
    rw [moved_again (hk ctx l cb' rfl) hst]
    exact h
  | cancel => exact absurd rfl hc
  | lost op' =>
    cases h with
    | underway h hl =>
      obtain ⟨rfl, -, hd⟩ := h.lost hs
      exact .stranded _ hd (hl none (.dies hv))
    | due h => exact ((grounded h.flying).2 _ hs).elim
    | answered p h => exact ((grounded h.flying).2 _ hs).elim
    | stranded p h => exact ((grounded h.flying).2 _ hs).elim
  | back op' ok x =>
    cases h with
    | underway h hl =>
      obtain ⟨rfl, hcall, hd⟩ := h.back hs
      rw [← hcall] at hl
      exact .due hd hv hl
    | due h => exact ((grounded h.flying).1 _ _ _ hs).elim
    | answered p h => exact ((grounded h.flying).1 _ _ _ hs).elim
    | stranded p h => exact ((grounded h.flying).1 _ _ _ hs).elim
  | take ok x =>
    cases h with
    | underway h => exact (unfed h.queued hs).elim
    | answered p h => exact (unfed h.queued hs).elim
    | stranded p h => exact (unfed h.queued hs).elim
    | due h hb hl =>
      obtain ⟨rfl, rfl, rfl⟩ := h.take hs
      -- the completion ends the call, or it is followed by another operation
      rcases Machine.advance_waiting h.waiting ok x with ⟨-, -, -, op', hp⟩ | ⟨-, ⟨a, ha⟩, -, hz⟩
      · obtain ⟨hm, hu⟩ := h.goesOn ⟨rfl, hp⟩
        refine .underway hu fun o ho => hl o (.goesOn hb ⟨rfl, hp⟩ ?_)
        rw [← hm]
        exact ho
      · exact .answered _ (h.ends ha) (hl _ (.ends hb ha hz))

theorem Played.run (h : r.Played ℓ cb G p) (hR : Runs r ts r') (hv : ℓ.PlaysAll p ts) (hc : .cancel ∉ ts)
    (hk : ∀ ctx l cb, .start ctx l cb ∈ ts → r.call.machine.kind = l.kind) : ∃ p', r'.Played ℓ cb G p' := by
  induction hR generalizing p with
  | nil => exact ⟨p, h⟩
  | @cons r r₁ r' t ts hs _ ih =>
    have h₁ := h.step hs hv.1 (fun e => hc (e ▸ List.mem_cons_self))
      fun ctx l cb e => hk ctx l cb (e ▸ List.mem_cons_self)
    exact ih h₁ hv.2 (fun hm => hc (List.mem_cons_of_mem _ hm))
      fun ctx l cb hm => hs.kind.trans (hk ctx l cb (List.mem_cons_of_mem _ hm))

/-- A call that is started before anything else is done with it, and not cancelled, is on its
    way from its start on. -/
theorem Played.launched {ctx : Context} {l : Launch I} {cs : List (Cue I C)}
    (hR : Runs ⟨.fresh l.kind, [], []⟩ ts r') (hs : ts.filterMap Touch.cue? = .start ctx l cb :: cs)
    (hc : .cancel ∉ cs) (hv : ℓ.PlaysAll {} ts) (hk : ∀ ctx l' cb, .start ctx l' cb ∈ ts → l'.kind = l.kind) :
    ∃ p, r'.Played ℓ cb (ℓ.Answers ctx l cb) p := by
  obtain ⟨ts, rfl, rfl, hR⟩ := hR.launched hs
  obtain ⟨hu, hm⟩ := underway_begun ctx l cb
  have h₁ : (moved ⟨.fresh l.kind, [], []⟩ (.start ctx l cb)).Played ℓ cb (ℓ.Answers ctx l cb) {} :=
    .underway hu fun o ho => by rwa [hm] at ho
  have hn : .cancel ∉ ts := fun hm => hc (List.mem_filterMap.mpr ⟨_, hm, rfl⟩)
  refine h₁.run hR hv.2 hn ?_
  intro ctx' l' cb' ht
  rw [hk ctx' l' cb' (List.mem_cons_of_mem _ ht), hm]
  cases l <;> rfl

end Round

/-! ## Where a panic goes -/

/-- A transport that panics on the way of a call, and whether the panic happens in a body,
    to be joined, or in what an operation polls itself. -/
inductive Line.Panics (ℓ : Line I) (text : String) : Launch I → (joined : Bool) → Prop
  | exchange (q : I) : ℓ.single = .panics text → Panics ℓ text (.unary q) false
  | body (qs : List I) : ℓ.single = .panics text → Panics ℓ text (.requestStream qs) true
  | opening (q : I) : ℓ.opening = .panics text → Panics ℓ text (.responseStream q) false
  | bodyOpening (qs : List I) : ℓ.opening = .panics text → Panics ℓ text (.bidi qs) true
  | item {l : Launch I} (n : Nat) : l.kind.streams = true → ℓ.opening = .comes (.ok ()) →
      (∀ j < n, ∃ i, ℓ.item j = .comes (some (.ok i))) → ℓ.item n = .panics text → Panics ℓ text l false

namespace Line

variable {ℓ : Line I} {ctx : Context} {l : Launch I} {cb : C}

/-- Reading dies with the first item that panics. -/
theorem reads_dead {n : Nat} {is : List I} :
    ℓ.Reads n is none ↔
      ∃ m text, n ≤ m ∧ (∀ j, n ≤ j → j < m → ∃ i, ℓ.item j = .comes (some (.ok i))) ∧ ℓ.item m = .panics text := by
  constructor
  · intro h
    generalize ho : (none : Option (Except GrpcStatus (List I))) = o at h
    induction h with
    | atEnd hi => cases ho
    | broken hi => cases ho
    | @dies n is text hi => exact ⟨n, text, Nat.le_refl n, fun j h₁ h₂ => by omega, hi⟩
    | @more n is i o hi _ ih =>
      obtain ⟨m, text, hm, hj, ht⟩ := ih ho
      refine ⟨m, text, by omega, ?_, ht⟩
      intro j h₁ h₂
      rcases Nat.eq_or_lt_of_le h₁ with rfl | h₁
      · exact ⟨i, hi⟩
      · exact hj j h₁ h₂
  · rintro ⟨m, text, hm, hj, ht⟩
    obtain ⟨d, rfl⟩ := Nat.exists_eq_add_of_le hm
    induction d generalizing n is with
    | zero => exact .dies ht
    | succ d ih =>
      obtain ⟨i, hi⟩ := hj n (Nat.le_refl n) (by omega)
      refine .more hi (ih (by omega) (fun j h₁ h₂ => hj j (by omega) (by omega)) ?_)
      rw [show n + 1 + d = n + (d + 1) by omega]
      exact ht

theorem streams_dead {f : Fate (Except GrpcStatus Unit)} :
    ℓ.Streams f none ↔ (∃ text, f = .panics text) ∨ f = .comes (.ok ()) ∧
      ∃ n text, (∀ j < n, ∃ i, ℓ.item j = .comes (some (.ok i))) ∧ ℓ.item n = .panics text := by
  constructor
  · intro h
    cases h with
    | dies he => exact .inl ⟨_, he⟩
    | read he hr =>
      obtain ⟨n, text, -, hj, ht⟩ := reads_dead.mp hr
      exact .inr ⟨he, n, text, fun j => hj j (Nat.zero_le j), ht⟩
  · rintro (⟨text, he⟩ | ⟨he, n, text, hj, ht⟩)
    · exact .dies he
    · exact .read he (reads_dead.mpr ⟨n, text, Nat.zero_le n, fun j _ => hj j, ht⟩)

/-- No answer comes of a panic that is not joined, and of nothing else that ends. -/
theorem answers_none : ℓ.Answers ctx l cb none ↔ ∃ text, ℓ.Panics text l false := by
  rw [leads_begun]
  constructor
  · intro h
    cases l with
    | unary q =>
      obtain ⟨_ | r, hr, h⟩ := h
      · obtain ⟨text, ht⟩ := Fate.panics_of_end hr
        exact ⟨text, .exchange q ht⟩
      · cases h
    | requestStream qs =>
      obtain ⟨_ | r, hr, h⟩ := h
      · obtain ⟨text, ht⟩ := Fate.panics_of_end hr
        exact absurd ht Fate.joined_calm
      · cases h
    | responseStream q =>
      obtain ⟨_ | r, hr, h⟩ := h
      · rcases streams_dead.mp hr with ⟨text, ht⟩ | ⟨ho, n, text, hj, ht⟩
        · exact ⟨text, .opening q ht⟩
        · exact ⟨text, .item n rfl ho hj ht⟩
      · cases h
    | bidi qs =>
      obtain ⟨_ | r, hr, h⟩ := h
      · rcases streams_dead.mp hr with ⟨text, ht⟩ | ⟨ho, n, text, hj, ht⟩
        · exact absurd ht Fate.joined_calm
        · exact ⟨text, .item n rfl (Fate.joined_ok ho) hj ht⟩
      · cases h
  · rintro ⟨text, h⟩
    cases h with
    | exchange q ht => exact ⟨none, by rw [ht]; rfl, rfl⟩
    | opening q ht => exact ⟨none, .dies ht, rfl⟩
    | item n hl ho hj ht =>
      have hs (f : Fate (Except GrpcStatus Unit)) (hf : f = .comes (.ok ())) : ℓ.Streams f none :=
        streams_dead.mpr (.inr ⟨hf, n, text, hj, ht⟩)
      cases l with
      | unary q => cases hl
      | requestStream qs => cases hl
      | responseStream q => exact ⟨none, hs _ ho, rfl⟩
      | bidi qs => exact ⟨none, hs _ (by rw [ho]; rfl), rfl⟩

/-- A panic that is joined is the call's error. -/
theorem answers_joined {text : String} (h : ℓ.Panics text l true) :
    ℓ.Answers ctx l cb (some (.error (.bodyPanicked text))) := by
  rw [leads_begun]
  cases h with
  | body qs ht => exact ⟨some (.error _), by rw [ht]; rfl, rfl⟩
  | bodyOpening qs ht => exact ⟨some (.error _), .refused (by rw [ht]; rfl), rfl⟩

end Line

/-! ## On a live pump -/

namespace Stay

open Scene (Follows Live gather)

variable {k : CallKind} {t : Stay I I E T k} {ℓ : Line I} {ctx : Context} {l : Launch I} {cb : Callback I E T}

/-- How far the line of the call is. -/
def place (t : Stay I I E T k) : Place := t.touches.foldl Place.past {}

/-- The call is started so before anything else is done with it, it is not cancelled, and its
    operations come to what the line has for them. -/
structure Played (t : Stay I I E T k) (ℓ : Line I) (ctx : Context) (l : Launch I) (cb : Callback I E T) : Prop where
  started : ∃ cs, t.cues = .start ctx l cb :: cs ∧ .cancel ∉ cs
  played : ℓ.PlaysAll {} t.touches

/-- A call with nothing under way any more was answered, or it waits for good. -/
theorem Played.rests (h : t.Played ℓ ctx l cb) (hz : t.scene.pump.queue.outstanding t.id = 0) :
    (∃ a c, ℓ.Answers ctx l cb (some a) ∧ t.given = [(cb, a)] ∧ t.scene.pump.get? t.id = some c ∧
        c.machine.state = .completed) ∨
      ℓ.Answers ctx l cb none ∧ t.given = [] ∧ ∃ m, t.scene.pump.get? t.id = some ⟨m, {}⟩ ∧ m.state = .called := by
  obtain ⟨cs, hs, hc⟩ := h.started
  obtain ⟨hw, r, hR, hb, -, hg, hk⟩ := t.beside
  have hm : .start ctx l cb ∈ t.cues := by rw [hs]; exact List.mem_cons_self
  obtain rfl : l.kind = k := hk ctx l cb (Touch.start_of_cue hm)
  obtain ⟨p, hp⟩ := Round.Played.launched hR hs hc h.played hk
  rw [Queue.outstanding_eq, hb.flying, hb.queued] at hz
  obtain ⟨o, ho⟩ := hb.machine
  cases hp with
  | underway hu => rw [hu.flying] at hz; simp at hz
  | due hd => rw [hd.queued] at hz; simp at hz
  | answered _ ha ho' =>
    exact .inl ⟨_, _, ho', hg.symm.trans ha.given, ho, congrArg Resolver.state ha.spent⟩
  | stranded _ hn ho' =>
    refine .inr ⟨ho', hg.symm.trans hn.given, r.call.machine, ?_, congrArg Resolver.state hn.waiting⟩
    have hl := (Scene.lifeAt_some ho).mp (hw.life t.id)
    rw [show (⟨r.call.machine, o⟩ : Call I I E T).machine.resolver = _ from hn.waiting] at hl
    generalize t.scene.told t.id = ds at hl
    generalize t.scene.replies t.id = rs at hl
    cases hl
    exact ho

/-- With nothing under way for it, a call whose body panicked has given its callback the
    panic. A call waits for good, its promise unset and its callback not run, exactly if a
    panic was not joined. -/
theorem only_joined_panics_arrive (h : t.Played ℓ ctx l cb) (hz : t.scene.pump.queue.outstanding t.id = 0) :
    (∀ text, ℓ.Panics text l true → t.given = [(cb, .error (.bodyPanicked text))] ∧
        ∃ c, t.scene.pump.get? t.id = some c ∧ c.machine.state = .completed) ∧
      ((∃ text, ℓ.Panics text l false) ↔ ∃ m, t.scene.pump.get? t.id = some ⟨m, {}⟩ ∧ m.state = .called) ∧
      ((∃ text, ℓ.Panics text l false) → t.given = []) := by
  rcases h.rests hz with ⟨a, c, ha, hg, hc, hs⟩ | ⟨ha, hg, m, hm, hs⟩
  · -- the call was answered, so that no panic went unjoined
    have hn : ¬ ∃ text, ℓ.Panics text l false := by
      intro hp
      cases ha.unique (Line.answers_none.mpr hp)
    refine ⟨?_, ?_, fun hp => absurd hp hn⟩
    · intro text hp
      cases ha.unique (Line.answers_joined hp)
      exact ⟨hg, c, hc, hs⟩
    · constructor
      · intro hp
        exact absurd hp hn
      · rintro ⟨m, hm, hs'⟩
        cases hc.symm.trans hm
        cases hs.symm.trans hs'
  · -- the call waits for good
    have hp := Line.answers_none.mp ha
    refine ⟨?_, ⟨fun _ => ⟨m, hm, hs⟩, fun _ => hp⟩, fun _ => hg⟩
    intro text hj
    cases ha.unique (Line.answers_joined hj)

/-! The exchange of a unary call panics. -/

def boom : Line Nat := ⟨fun _ => true, .panics "boom", .hangs, fun _ => .hangs⟩

def stranding : Stay Nat Nat Unit Nat .unary where
  before := []
  after := [.start 1 {} (.unary 7) fun _ => { ended := .returned (.ok 0) }, .abandon 0]
  live := ⟨trivial, trivial, trivial, trivial⟩

theorem stranding_played : stranding.Played boom {} (.unary 7) fun _ => { ended := .returned (.ok 0) } := by
  refine ⟨⟨[], rfl, List.not_mem_nil⟩, ?_⟩
  have ht : stranding.touches =
      [.start {} (.unary 7) fun _ => { ended := .returned (.ok 0) }, .lost (.exchange {} 7)] := rfl
  rw [ht]
  exact ⟨trivial, .exchanged (o := none) {} 7 rfl, trivial⟩

theorem only_joined_panics_arrive_boom :
    stranding.scene.pump.queue.outstanding stranding.id = 0 ∧
      ∃ m, stranding.scene.pump.get? 1 = some ⟨m, {}⟩ ∧ m.state = .called :=
  ⟨rfl, (only_joined_panics_arrive stranding_played rfl).2.1.mp ⟨"boom", .exchange 7 rfl⟩⟩

/-- Not every panic of the transport reaches the callback, though nothing is on its way any
    more and nothing is queued. -/
theorem panics_strand_calls :
    ¬ ∀ (k : CallKind) (t : Stay Nat Nat Unit Nat k) (ℓ : Line Nat) (ctx : Context) (l : Launch Nat)
        (cb : Callback Nat Unit Nat) (text : String) (joined : Bool),
      t.Played ℓ ctx l cb → ℓ.Panics text l joined → t.scene.pump.queue.inFlight = [] →
        t.scene.pump.queue.ready = [] →
        (∀ c, t.scene.pump.get? t.id = some c → c.machine.state ≠ .called) ∧ ∃ e, t.given = [(cb, .error e)] := by
  intro h
  obtain ⟨-, e, he⟩ := h _ stranding boom _ _ _ "boom" false stranding_played (.exchange 7 rfl) rfl rfl
  have hg : stranding.given = [] := rfl
  cases hg.symm.trans he

end Stay

end CallPump
