/-
  CallPump.Proofs.Call.Upload — how a request stream call uploads its requests.

  The call writes its requests one at a time, each after the one before it was accepted. A
  write that fails, or the last one, ends the writing; then the call hangs up and joins its
  body. A call that is cancelled hangs up at once, and a write that is under way then goes
  on without it.

  - `Round.Uploading`: where such a call is, by what came of its operations (`Tally`).
  - `Uploading.step`, `Uploading.run`: it is there whatever happens to it, as long as its
    operations come to what the line has for them.
  - `Uploading.arrives`: from wherever it is, it can get to where it hangs up.
  - `Round.over_run`: a call that is over, or was cancelled, writes no more, and what is
    still accepted was being written.
-/

import CallPump.Proofs.Call.Trail

namespace CallPump

variable {I C : Type}

/-! ## Requests on the channel -/

def Op.request? : Op I I → Option I
  | .write _ q => some q
  | .settled _ _ | .exchange _ _ | .openStream _ _ | .join | .joinStream | .read _ | .drain _ => none

theorem Op.eq_write {op : Op I I} {q : I} (h : op.request? = some q) : ∃ d, op = .write d q := by
  cases op with
  | write d q => cases h; exact ⟨d, rfl⟩
  | settled ok x => cases h
  | exchange ctx q => cases h
  | openStream ctx q => cases h
  | join => cases h
  | joinStream => cases h
  | read d => cases h
  | drain d => cases h

/-- The request that the channel accepted. -/
def Touch.accepted? : Touch I I C → Option I
  | .back op true _ => op.request?
  | .back _ false _ | .lost _ | .start _ _ _ | .cancel | .take _ _ => none

def Touch.launch? : Touch I I C → Option (Context × Launch I × C)
  | .start ctx l cb => some (ctx, l, cb)
  | .cancel | .back _ _ _ | .lost _ | .take _ _ => none

namespace Solo

variable {s : Solo I I C} {t : Touch I I C} {v : Move (Machine I I C) I I C}

/-- The requests that the call has written so far, oldest first. -/
def written (s : Solo I I C) : List I := s.posted.filterMap Op.request?

/-- The call has given up its writing end. -/
def HungUp (s : Solo I I C) : Prop := .hangUp ∈ s.asked

theorem written_step (s : Solo I I C) (t : Touch I I C) :
    (s.step t).written = s.written ++ (s.posts t).filterMap Op.request? := by
  rw [written, posted_step, List.filterMap_append]
  rfl

theorem hungUp_step (h : s.move t = some v) : (s.step t).HungUp ↔ s.HungUp ∨ .hangUp ∈ v.cmds := by
  have hask : .hangUp ∈ v.cmds.map Cmd.ask ↔ .hangUp ∈ v.cmds := by
    constructor
    · intro hm
      obtain ⟨c, hc, he⟩ := List.mem_map.mp hm
      cases c with
      | hangUp => exact hc
      | spawn ctx => cases he
      | post op => cases he
    · exact fun hm => List.mem_map.mpr ⟨_, hm, rfl⟩
  have hdrop : .hangUp ∉ t.drops v := by
    cases t with
    | take ok x => rw [Touch.drops]; split <;> simp
    | start ctx l cb => exact List.not_mem_nil
    | cancel => exact List.not_mem_nil
    | back op ok x => exact List.not_mem_nil
    | lost op => exact List.not_mem_nil
  rw [HungUp, (step_some h).1, List.mem_append, List.mem_append, hask, or_iff_left hdrop]
  rfl

end Solo

/-! ## What came of it -/

/-- What came of a call's operations so far. -/
structure Tally (I : Type) where
  place : Place := {}
  /-- The requests that the channel accepted, oldest first. -/
  accepted : List I := []
  /-- How many completions the call took. -/
  taken : Nat := 0
  cancelled : Bool := false

def Tally.after (y : Tally I) (t : Touch I I C) : Tally I where
  place := y.place.past t
  accepted := y.accepted ++ t.accepted?.toList
  taken := y.taken + t.taken?.toList.length
  cancelled := y.cancelled || t.cancels

namespace Tally

variable {y : Tally I} {ℓ : Line I} {qs left : List I}

@[simp] theorem after_start (y : Tally I) (ctx : Context) (l : Launch I) (cb : C) : y.after (.start ctx l cb) = y := by
  simp [after, Touch.accepted?, Touch.taken?, Touch.cancels, Place.past]

@[simp] theorem after_cancel (y : Tally I) : y.after (.cancel : Touch I I C) = { y with cancelled := true } := by
  simp [after, Touch.accepted?, Touch.taken?, Touch.cancels, Place.past]

@[simp] theorem after_take (y : Tally I) (ok : Bool) (x : Payload I) :
    y.after (.take ok x : Touch I I C) = { y with taken := y.taken + 1 } := by
  simp [after, Touch.accepted?, Touch.taken?, Touch.cancels, Place.past]

@[simp] theorem after_back (y : Tally I) (op : Op I I) (ok : Bool) (x : Payload I) :
    y.after (.back op ok x : Touch I I C) =
      { y with place := y.place.after op, accepted := y.accepted ++ if ok then op.request?.toList else [] } := by
  cases ok <;> simp [after, Touch.accepted?, Touch.taken?, Touch.cancels, Place.past]

theorem foldl_after (y : Tally I) (ts : List (Touch I I C)) :
    ts.foldl after y = ⟨ts.foldl Place.past y.place, y.accepted ++ ts.filterMap Touch.accepted?,
      y.taken + (ts.filterMap Touch.taken?).length, y.cancelled || ts.any Touch.cancels⟩ := by
  induction ts generalizing y with
  | nil => simp
  | cons t ts ih =>
    rw [List.foldl_cons, ih, Touch.filterMap_cons Touch.accepted?, Touch.filterMap_cons Touch.taken?, List.any_cons,
      List.length_append]
    simp only [after, List.foldl_cons, List.append_assoc, Nat.add_assoc, Bool.or_assoc]

/-- With what was accepted, the requests that are left make up what the line accepts of all. -/
structure Left (y : Tally I) (ℓ : Line I) (qs left : List I) : Prop where
  granted : ℓ.granted 0 qs = y.accepted ++ ℓ.granted y.place.writes left
  tries : ℓ.tries 0 qs = y.accepted ++ ℓ.tries y.place.writes left

theorem Left.same {y' : Tally I} (h : y.Left ℓ qs left) (ha : y'.accepted = y.accepted)
    (hw : y'.place.writes = y.place.writes) : y'.Left ℓ qs left := by
  obtain ⟨hg, ht⟩ := h
  rw [← ha, ← hw] at hg ht
  exact ⟨hg, ht⟩

theorem Left.done (h : y.Left ℓ qs []) : y.accepted = ℓ.granted 0 qs ∧ y.accepted = ℓ.tries 0 qs := by
  rw [h.granted, h.tries]
  exact ⟨(List.append_nil _).symm, (List.append_nil _).symm⟩

theorem Left.accepted {q : I} (h : y.Left ℓ qs (q :: left)) (ha : ℓ.accepts y.place.writes = true) (d : Option Instant)
    (x : Payload I) : (y.after (.back (.write d q) true x : Touch I I C)).Left ℓ qs left := by
  obtain ⟨hg, ht⟩ := h
  rw [Line.granted, if_pos ha] at hg
  rw [Line.tries, if_pos ha] at ht
  rw [after_back]
  exact ⟨hg.trans (List.append_cons _ _ _), ht.trans (List.append_cons _ _ _)⟩

theorem Left.refused {q : I} (h : y.Left ℓ qs (q :: left)) (ha : ℓ.accepts y.place.writes = false) :
    y.accepted = ℓ.granted 0 qs ∧ y.accepted ++ [q] = ℓ.tries 0 qs := by
  obtain ⟨hg, ht⟩ := h
  rw [hg, ht, Line.granted, Line.tries, ha, if_neg Bool.false_ne_true, if_neg Bool.false_ne_true]
  exact ⟨(List.append_nil _).symm, rfl⟩

/-- The next request is among those that are tried. -/
theorem Left.prefixes {q : I} (h : y.Left ℓ qs (q :: left)) :
    y.accepted <+: ℓ.granted 0 qs ∧ y.accepted ++ [q] <+: ℓ.tries 0 qs := by
  rw [h.granted, h.tries, Line.tries]
  refine ⟨List.prefix_append _ _, (List.prefix_append_right_inj _).mpr ?_⟩
  exact List.cons_prefix_cons.mpr ⟨rfl, List.nil_prefix⟩

end Tally

namespace Round

/-- The requests whose writes are under way. -/
def writing (r : Round I I C) : List I := r.flying.filterMap Op.request?

variable {r r' : Round I I C} {t : Touch I I C} {ts : List (Touch I I C)}

/-! ## A call that is over -/

/-- With one write under way at the most, the one that is no longer is the first. -/
theorem writing_without {as bs : List (Op I I)} {op : Op I I} (hf : r.flying = as ++ op :: bs)
    (hw : r.writing.length ≤ 1) {got : List I} (hg : got <+: op.request?.toList) :
    got ++ (as ++ bs).filterMap Op.request? <+: r.writing := by
  have hr : r.writing = as.filterMap Op.request? ++ (op.request?.toList ++ bs.filterMap Op.request?) := by
    rw [writing, hf, List.filterMap_append]
    cases ho : op.request? <;> simp [ho]
  rw [hr] at hw ⊢
  rw [List.filterMap_append]
  cases ho : op.request? with
  | none =>
    rw [ho] at hg
    obtain rfl := List.prefix_nil.mp hg
    exact List.prefix_refl _
  | some q =>
    rw [ho] at hg hw
    rw [List.length_append, List.length_append, Option.toList_some, List.length_singleton] at hw
    have ha : as.filterMap Op.request? = [] := List.length_eq_zero_iff.mp (by omega)
    have hb : bs.filterMap Op.request? = [] := List.length_eq_zero_iff.mp (by omega)
    rw [ha, hb, List.append_nil, List.append_nil]
    exact hg

/-- Nothing more comes of a call that is over or was cancelled: its callback is given nothing,
    it writes no more, and what is accepted still was being written. -/
theorem over_step (ho : r.call.machine.state.isOpen = false) (hw : r.writing.length ≤ 1) (hs : Step r t r')
    (hk : ∀ ctx l cb, t = .start ctx l cb → r.call.machine.kind = l.kind) :
    r'.call.machine.resolver = r.call.machine.resolver ∧ r'.call.given = r.call.given ∧
      r'.call.written = r.call.written ∧ t.accepted?.toList ++ r'.writing <+: r.writing := by
  cases hs with
  | start ctx l cb =>
    cases hst : r.call.machine.state with
    | notStarted => rw [hst] at ho; cases ho
    | called => rw [hst] at ho; cases ho
    | completed =>
      rw [moved_again (hk ctx l cb rfl) (.inr hst)]
      exact ⟨rfl, rfl, rfl, List.prefix_refl _⟩
    | cancelled =>
      obtain ⟨hm, hp⟩ := Solo.step_some (s := r.call) (t := .start ctx l cb)
        (Machine.start_cancelled true ctx cb (hk ctx l cb rfl) hst)
      refine ⟨?_, ?_, ?_, ?_⟩
      · rw [moved, hm]
      · rw [moved, hm]; exact List.append_nil _
      · rw [moved, Solo.written_step, hp]; exact List.append_nil _
      · rw [moved, writing, hp, List.filterMap_append]
        exact (List.append_nil _).symm ▸ List.prefix_refl _
  | cancel =>
    obtain ⟨hm, hp⟩ := Solo.step_some (s := r.call) (t := .cancel) rfl
    have hst : r.call.machine.state = .cancelled ∨ r.call.machine.state = .completed := by
      cases h : r.call.machine.state <;> simp [h, CallState.isOpen] at ho ⊢
    rw [Machine.cancel_posts] at hp
    refine ⟨?_, ?_, ?_, ?_⟩
    · rw [moved, hm]; exact (Machine.cancel_settled hst).1
    · rw [moved, hm, Machine.cancel_answer]; exact List.append_nil _
    · rw [moved, Solo.written_step, hp]; exact List.append_nil _
    · rw [writing, moved, hp]; exact (List.append_nil r.flying).symm ▸ List.prefix_refl _
  | @take ok x rest _ =>
    obtain ⟨hm, hp⟩ := Solo.step_some (s := r.call) (t := .take ok x) rfl
    have hn : r.call.machine.state ≠ .called := by rintro h; rw [h] at ho; cases ho
    rw [Machine.advance_idle hn] at hm hp
    refine ⟨?_, ?_, ?_, ?_⟩
    · rw [moved, hm]; rfl
    · rw [moved, hm]; exact List.append_nil _
    · rw [moved, Solo.written_step, hp]; exact List.append_nil _
    · rw [writing, moved, hp]; exact (List.append_nil r.flying).symm ▸ List.prefix_refl _
  | @back as bs op ok x hf =>
    refine ⟨rfl, rfl, rfl, ?_⟩
    refine writing_without hf hw ?_
    cases ok with
    | true => exact List.prefix_refl _
    | false => exact List.nil_prefix
  | lost hf => exact ⟨rfl, rfl, rfl, writing_without hf hw List.nil_prefix⟩

theorem over_run (ho : r.call.machine.state.isOpen = false) (hw : r.writing.length ≤ 1) (hR : Runs r ts r')
    (hk : ∀ ctx l cb, .start ctx l cb ∈ ts → r.call.machine.kind = l.kind) :
    r'.call.given = r.call.given ∧ r'.call.written = r.call.written ∧
      ts.filterMap Touch.accepted? ++ r'.writing <+: r.writing := by
  induction hR with
  | nil => exact ⟨rfl, rfl, List.prefix_refl _⟩
  | @cons r r₁ r' t ts hs _ ih =>
    obtain ⟨hr, hg, hp, ha⟩ := over_step ho hw hs fun ctx l cb e => hk ctx l cb (e ▸ List.mem_cons_self)
    have hlen := ha.length_le
    rw [List.length_append] at hlen
    obtain ⟨hg', hp', ha'⟩ := ih (by rwa [show r₁.call.machine.state = _ from congrArg Resolver.state hr]) (by omega)
      fun ctx l cb hm => hs.kind.trans (hk ctx l cb (List.mem_cons_of_mem _ hm))
    refine ⟨hg'.trans hg, hp'.trans hp, ?_⟩
    rw [Touch.filterMap_cons, List.append_assoc]
    exact ((List.prefix_append_right_inj _).mpr ha').trans ha

/-! ## Where the upload is -/

/-- The writing end is held, and so much was written, a request for each completion. -/
structure Holds (r : Round I I C) (y : Tally I) (qs : List I) : Prop where
  held : ¬ r.call.HungUp
  written : r.call.written = qs
  taken : y.taken = qs.length
  kept : y.cancelled = false

/-- The writing end was given up after the last write that was to be tried. -/
structure Uploaded (ℓ : Line I) (qs : List I) (r : Round I I C) (y : Tally I) : Prop where
  hungUp : r.call.HungUp
  accepted : y.accepted = ℓ.granted 0 qs
  written : r.call.written = ℓ.tries 0 qs

/-- What is accepted and written so far is what the line makes of the first requests, and the
    write that is under way, if there is one, is the next. -/
structure Sent (ℓ : Line I) (qs : List I) (r : Round I I C) (y : Tally I) : Prop where
  accepted : y.accepted <+: ℓ.granted 0 qs
  written : r.call.written <+: ℓ.tries 0 qs
  next : r.writing = [] ∨ ∃ q left, r.writing = [q] ∧ y.Left ℓ qs (q :: left)

/-- The call was cancelled before it was over; a write may be under way still. -/
structure Quit (ℓ : Line I) (qs : List I) (r : Round I I C) (y : Tally I) : Prop extends Sent ℓ qs r y where
  cancelled : y.cancelled = true
  givenUp : r.call.machine.resolver = .givenUp
  given : r.call.given = []
  hungUp : r.call.HungUp

/-- The operation is under way, or its completion, with the flag, is due. -/
def Pends (r : Round I I C) (cb : C) (op : Op I I) (ok : Bool) : Prop := r.Underway cb op ∨ ∃ x, r.Due cb ok x

/-- Where a call is that was started with the requests, by what came of its operations. -/
inductive Uploading (ℓ : Line I) (d : Option Instant) (qs : List I) (cb : C) (r : Round I I C) (y : Tally I) : Prop
  /-- The next request can be written. -/
  | ready {b : Bool} {left : List I} : (b = true → left = []) → y.Left ℓ qs left → r.Holds y y.accepted →
      r.call.machine = .requestStream (.writing cb d b left) → r.Pends cb (.nudge true) true → Uploading ℓ d qs cb r y
  | writing {q : I} {left : List I} : y.Left ℓ qs (q :: left) → r.Holds y (y.accepted ++ [q]) →
      r.call.machine = .requestStream (.writing cb d left.isEmpty left) → r.Underway cb (.write d q) →
      Uploading ℓ d qs cb r y
  | refused {b : Bool} {left : List I} {x : Payload I} : y.accepted = ℓ.granted 0 qs → r.Holds y (ℓ.tries 0 qs) →
      r.call.machine = .requestStream (.writing cb d b left) → r.Due cb false x → Uploading ℓ d qs cb r y
  | closing : r.Uploaded ℓ qs y → y.cancelled = false → r.call.machine = .requestStream (.closed cb d) →
      r.Pends cb (.nudge true) true → Uploading ℓ d qs cb r y
  | joining : r.Uploaded ℓ qs y → y.cancelled = false → r.call.machine = .requestStream (.awaiting cb d) →
      (r.Underway cb .join ∨ ∃ a, ℓ.single.joined = .comes a ∧ r.Due cb true (.outcome a)) → Uploading ℓ d qs cb r y
  | answered {a : Except GrpcStatus I} : r.Uploaded ℓ qs y → ℓ.single.joined = .comes a → r.Answered cb (a.map .one) →
      Uploading ℓ d qs cb r y
  | quit : r.Quit ℓ qs y → Uploading ℓ d qs cb r y

variable {ℓ : Line I} {d : Option Instant} {qs : List I} {cb : C} {y : Tally I}

theorem Pends.waiting {op : Op I I} {ok : Bool} (h : r.Pends cb op ok) : r.call.machine.resolver = .waiting cb := by
  rcases h with h | ⟨x, h⟩
  · exact h.waiting
  · exact h.waiting

theorem Pends.given {op : Op I I} {ok : Bool} (h : r.Pends cb op ok) : r.call.given = [] := by
  rcases h with h | ⟨x, h⟩
  · exact h.given
  · exact h.given

theorem Pends.writing {op : Op I I} {ok : Bool} (h : r.Pends cb op ok) (ho : op.request? = none) : r.writing = [] := by
  rcases h with h | ⟨x, h⟩
  · rw [Round.writing, h.flying, List.filterMap_cons, ho]
    rfl
  · rw [Round.writing, h.flying]
    rfl

theorem Sent.single (h : r.Sent ℓ qs y) : r.writing.length ≤ 1 := by
  rcases h.next with hw | ⟨q, left, hw, -⟩ <;> rw [hw] <;> simp

theorem Uploaded.sent (h : r.Uploaded ℓ qs y) (hw : r.writing = []) : r.Sent ℓ qs y :=
  ⟨h.accepted ▸ List.prefix_refl _, h.written ▸ List.prefix_refl _, .inl hw⟩

/-- What the call does next writes nothing more. -/
theorem Uploaded.step {y' : Tally I} (h : r.Uploaded ℓ qs y) (hc : r'.call = r.call.step t)
    (hp : (r.call.posts t).filterMap Op.request? = []) (ha : y'.accepted = y.accepted) : r'.Uploaded ℓ qs y' := by
  refine ⟨hc ▸ (Solo.asked_prefix r.call [t]).subset h.hungUp, ha.trans h.accepted, ?_⟩
  rw [hc, Solo.written_step, hp, h.written]
  exact List.append_nil _

theorem Uploading.sent (h : Uploading ℓ d qs cb r y) : r.Sent ℓ qs y := by
  cases h with
  | ready _ hl hh _ hp =>
    refine ⟨?_, ?_, .inl (hp.writing rfl)⟩
    · rw [hl.granted]; exact List.prefix_append _ _
    · rw [hh.written, hl.tries]; exact List.prefix_append _ _
  | @writing q left hl hh _ hu =>
    refine ⟨hl.prefixes.1, ?_, .inr ⟨q, left, ?_, hl⟩⟩
    · rw [hh.written]; exact hl.prefixes.2
    · rw [Round.writing, hu.flying]; rfl
  | refused ha hh _ hd =>
    refine ⟨ha ▸ List.prefix_refl _, hh.written ▸ List.prefix_refl _, .inl ?_⟩
    rw [Round.writing, hd.flying]; rfl
  | closing hu _ _ hp => exact hu.sent (hp.writing rfl)
  | joining hu _ _ hp =>
    refine hu.sent ?_
    rcases hp with hp | ⟨a, -, hp⟩ <;> rw [Round.writing, hp.flying] <;> rfl
  | answered hu _ ha => exact hu.sent (by rw [Round.writing, ha.flying]; rfl)
  | quit hq => exact hq.toSent

/-! ## One step -/

/-- The write that was under way comes back, and nothing is written then. -/
theorem Sent.back {q : I} {ok : Bool} {x : Payload I} (h : r.Sent ℓ qs y) (hs : Step r (.back (.write d q) ok x) r')
    (hp : ℓ.Brings y.place (.write d q) (some (ok, x))) :
    (y.after (.back (.write d q) ok x : Touch I I C)).accepted <+: ℓ.granted 0 qs ∧ r'.writing = [] := by
  cases hs with
  | @back as bs _ _ _ hf =>
    have hone := writing_without hf h.single (List.prefix_refl [q])
    rcases h.next with hw | ⟨q', left, hw, hl⟩
    · rw [hw] at hone
      cases List.prefix_nil.mp hone
    · rw [hw] at hone
      obtain ⟨rfl, hnone⟩ := List.cons_prefix_cons.mp hone
      refine ⟨?_, List.prefix_nil.mp hnone⟩
      cases hp with
      | written _ _ =>
        cases hacc : ℓ.accepts y.place.writes with
        | true =>
          rw [(hl.accepted (C := C) hacc d .unit).granted]
          exact List.prefix_append _ _
        | false =>
          rw [Tally.after_back]
          exact (List.append_nil y.accepted).symm ▸ h.accepted

/-- Nothing is accepted, and the write that is under way stays the next. -/
theorem Sent.idle (h : r.Sent ℓ qs y) (hw : r'.call.written = r.call.written) (ha : r'.writing <+: r.writing)
    (hacc : t.accepted? = none) (hpl : (y.place.past t).writes = y.place.writes) : r'.Sent ℓ qs (y.after t) := by
  have hy : (y.after t).accepted = y.accepted := by rw [Tally.after, hacc]; exact List.append_nil _
  refine ⟨hy ▸ h.accepted, hw ▸ h.written, ?_⟩
  rcases h.next with hn | ⟨q, left, hn, hl⟩
  · exact .inl (List.prefix_nil.mp (hn ▸ ha))
  · rw [hn] at ha
    rcases List.prefix_cons_iff.mp ha with ha | ⟨qs', ha, hnil⟩
    · exact .inl ha
    · rw [List.prefix_nil.mp hnil] at ha
      exact .inr ⟨q, left, ha, hl.same hy hpl⟩

/-- A call that was cancelled stays so, and a request that it was writing may be accepted. -/
theorem Quit.step (h : r.Quit ℓ qs y) (hs : Step r t r') (hp : ℓ.Plays y.place t)
    (hk : ∀ ctx l cb, t = .start ctx l cb → r.call.machine.kind = l.kind) : r'.Quit ℓ qs (y.after t) := by
  have hover : r.call.machine.state.isOpen = false := by
    rw [show r.call.machine.state = _ from congrArg Resolver.state h.givenUp]
    rfl
  obtain ⟨hr, hg, hw, ha⟩ := over_step hover h.single hs hk
  have quit (hsent : r'.Sent ℓ qs (y.after t)) : r'.Quit ℓ qs (y.after t) := by
    refine ⟨hsent, ?_, hr.trans h.givenUp, hg.trans h.given, ?_⟩
    · rw [Tally.after, h.cancelled]
      rfl
    · exact hs.call ▸ (Solo.asked_prefix r.call [t]).subset h.hungUp
  have idle (hacc : t.accepted? = none) (hpl : (y.place.past t).writes = y.place.writes) :
      r'.Quit ℓ qs (y.after t) := by
    rw [hacc] at ha
    exact quit (h.idle hw ha hacc hpl)
  cases t with
  | start ctx l cb => exact idle rfl rfl
  | cancel => exact idle rfl rfl
  | take ok x => exact idle rfl rfl
  | lost op => exact idle rfl rfl
  | back op ok x =>
    cases ho : op.request? with
    | none => exact idle (by cases ok <;> first | rfl | exact ho) (by cases op <;> first | rfl | cases ho)
    | some q =>
      obtain ⟨d, rfl⟩ := Op.eq_write ho
      obtain ⟨hacc, hnone⟩ := h.back hs hp
      exact quit ⟨hacc, hw ▸ h.written, .inl hnone⟩

/-- Another start changes nothing of the writing. -/
theorem Uploading.start (h : Uploading ℓ d qs cb r y) {ctx : Context} {l : Launch I} {cb' : C}
    (hk : r.call.machine.kind = l.kind) : Uploading ℓ d qs cb (r.moved (.start ctx l cb')) y := by
  have again (hs : r.call.machine.state = .called ∨ r.call.machine.state = .completed) :
      Uploading ℓ d qs cb (r.moved (.start ctx l cb')) y := by
    rw [moved_again hk hs]
    exact h
  cases h with
  | ready _ _ _ _ hp => exact again (.inl (congrArg Resolver.state hp.waiting))
  | writing _ _ _ hu => exact again (.inl (congrArg Resolver.state hu.waiting))
  | refused _ _ _ hd => exact again (.inl (congrArg Resolver.state hd.waiting))
  | closing _ _ _ hp => exact again (.inl (congrArg Resolver.state hp.waiting))
  | joining _ _ hm _ => exact again (.inl (by rw [hm]; rfl))
  | answered _ _ ha => exact again (.inr (congrArg Resolver.state ha.spent))
  | quit hq =>
    have hq' := hq.step (.start r ctx l cb') trivial fun _ _ _ e => by cases e; exact hk
    rw [Tally.after_start] at hq'
    exact .quit hq'

/-- A call that is cancelled before it is over hangs up at once. -/
theorem Sent.cancel {s : RequestStreamCall I C} (h : r.Sent ℓ qs y) (hm : r.call.machine = .requestStream s)
    (hr : s.resolver = .fresh ∨ ∃ cb, s.resolver = .waiting cb) (hg : r.call.given = []) :
    (r.moved .cancel).Quit ℓ qs (y.after (.cancel : Touch I I C)) := by
  obtain ⟨hs, hp⟩ := Solo.step_some (s := r.call) (t := .cancel) rfl
  rw [Machine.cancel_posts] at hp
  have hwritten : (r.moved .cancel).call.written = r.call.written := by
    rw [moved, Solo.written_step, hp]
    exact List.append_nil _
  have hwriting : (r.moved .cancel).writing = r.writing := by rw [Round.writing, moved, hp, List.append_nil]; rfl
  refine ⟨h.idle hwritten (hwriting ▸ List.prefix_refl _) rfl rfl, ?_, ?_, ?_, ?_⟩
  · rw [Tally.after_cancel]
  · rw [moved, hs]
    exact (Machine.cancel_open (by rw [hm]; exact hr)).1
  · rw [moved, hs, Machine.cancel_answer, hg]
    rfl
  · rw [moved, Solo.hungUp_step (s := r.call) (t := .cancel) rfl, hm]
    exact .inr List.mem_cons_self

theorem Uploading.cancel (h : Uploading ℓ d qs cb r y) :
    Uploading ℓ d qs cb (r.moved .cancel) (y.after (.cancel : Touch I I C)) := by
  have quit {s : RequestStreamCall I C} (hm : r.call.machine = .requestStream s) (hr : s.resolver = .waiting cb)
      (hg : r.call.given = []) : Uploading ℓ d qs cb (r.moved .cancel) (y.after (.cancel : Touch I I C)) :=
    .quit (h.sent.cancel hm (.inr ⟨cb, hr⟩) hg)
  cases h with
  | ready _ _ _ hm hp => exact quit hm rfl hp.given
  | writing _ _ hm hu => exact quit hm rfl hu.given
  | refused _ _ hm hd => exact quit hm rfl hd.given
  | closing _ _ hm hp => exact quit hm rfl hp.given
  | joining _ _ hm hp => exact quit hm rfl (by rcases hp with hp | ⟨a, -, hp⟩ <;> exact hp.given)
  | quit hq => exact .quit (hq.step (.cancel r) trivial nofun)
  | answered hu ha h =>
    obtain ⟨hs, hp⟩ := Solo.step_some (s := r.call) (t := .cancel) rfl
    rw [Machine.cancel_posts] at hp
    rw [Tally.after_cancel]
    refine .answered (hu.step (t := .cancel) rfl (by rw [hp]; rfl) rfl) ha ⟨?_, ?_, ?_, h.queued⟩
    · rw [moved, hs]
      exact (Machine.cancel_settled (.inr (congrArg Resolver.state h.spent))).1.trans h.spent
    · rw [moved, hs, Machine.cancel_answer, h.given]
      rfl
    · rw [moved, hp, h.flying]
      rfl

/-- What a waiting call does with the completion that was due. -/
theorem Due.goes {ok : Bool} {x : Payload I} {m : Machine I I C} {op : Op I I} (h : r.Due cb ok x)
    (hm : r.call.machine.Goes ok x m op) :
    let r' : Round I I C := { r.moved (.take ok x) with queued := [] }
    r'.call.machine = m ∧ r'.Underway cb op ∧ r'.call.written = r.call.written ++ op.request?.toList ∧
      (r'.call.HungUp ↔ r.call.HungUp ∨ .hangUp ∈ (r.call.machine.advance ok x).cmds) := by
  obtain ⟨hm', hu⟩ := h.goesOn hm
  refine ⟨hm', hu, ?_, Solo.hungUp_step rfl⟩
  refine (Solo.written_step r.call (.take ok x)).trans ?_
  rw [(Solo.step_some (s := r.call) (t := .take ok x) rfl).2, hm.2, List.filterMap_cons]
  cases op.request? <;> rfl

/-- The next request is written, or the channel closed behind the last. -/
theorem Uploading.onward {b : Bool} {left : List I} {x : Payload I} (hb : b = true → left = []) (hl : y.Left ℓ qs left)
    (hh : r.Holds y y.accepted) (hm : r.call.machine = .requestStream (.writing cb d b left)) (hd : r.Due cb true x) :
    Uploading ℓ d qs cb { r.moved (.take true x) with queued := [] } { y with taken := y.taken + 1 } := by
  have hw := RequestStreamCall.authors (I := I) cb d
  cases left with
  | nil =>
    obtain ⟨hm', hu, hwr, hhu⟩ := hd.goes (by rw [hm]; exact hw.close b x)
    refine .closing ⟨hhu.mpr (.inr ?_), hl.done.1, ?_⟩ hh.kept hm' (.inl hu)
    · rw [hm]; cases b <;> exact List.mem_cons_self
    · rw [hwr, hh.written]; exact (List.append_nil _).trans hl.done.2
  | cons q left =>
    obtain rfl : b = false := by
      cases b with
      | false => rfl
      | true => cases hb rfl
    obtain ⟨hm', hu, hwr, hhu⟩ := hd.goes (by rw [hm]; exact hw.next q left x)
    refine .writing (hl.same rfl rfl) ⟨?_, ?_, ?_, hh.kept⟩ hm' hu
    · rw [hhu, hm, not_or]
      exact ⟨hh.held, fun h => nomatch List.mem_singleton.mp h⟩
    · rw [hwr, hh.written]; rfl
    · rw [List.length_append, List.length_singleton, hh.taken]

theorem Uploading.take {ok : Bool} {x : Payload I} (h : Uploading ℓ d qs cb r y) (hs : Step r (.take ok x) r') :
    Uploading ℓ d qs cb r' (y.after (.take ok x : Touch I I C)) := by
  rw [Tally.after_take]
  cases h with
  | writing _ _ _ hu => exact (unfed hu.queued hs).elim
  | answered _ _ ha => exact (unfed ha.queued hs).elim
  | quit hq =>
    have hq' := hq.step hs trivial nofun
    rw [Tally.after_take] at hq'
    exact .quit hq'
  | ready hb hl hh hm hp =>
    rcases hp with hu | ⟨x', hd⟩
    · exact (unfed hu.queued hs).elim
    · obtain ⟨rfl, rfl, rfl⟩ := hd.take hs
      exact onward hb hl hh hm hd
  | @refused b left x' ha hh hm hd =>
    obtain ⟨rfl, rfl, rfl⟩ := hd.take hs
    obtain ⟨hm', hu, hwr, hhu⟩ := hd.goes (by rw [hm]; exact (RequestStreamCall.authors cb d).fail b left x)
    refine .joining ⟨hhu.mpr (.inr ?_), ha, ?_⟩ hh.kept hm' (.inl hu)
    · rw [hm]; cases b <;> exact List.mem_cons_self
    · rw [hwr, hh.written]; exact List.append_nil _
  | closing hu hc hm hp =>
    rcases hp with hu' | ⟨x', hd⟩
    · exact (unfed hu'.queued hs).elim
    · obtain ⟨rfl, rfl, rfl⟩ := hd.take hs
      obtain ⟨hm', hu', -, -⟩ := hd.goes (m := .requestStream (.awaiting cb d)) (by rw [hm]; exact ⟨rfl, rfl⟩)
      refine .joining (hu.step hs.call ?_ rfl) hc hm' (.inl hu')
      rw [(Solo.step_some (s := r.call) (t := .take true x) rfl).2, hm]
      rfl
  | joining hu hc hm hp =>
    rcases hp with hu' | ⟨a, ha, hd⟩
    · exact (unfed hu'.queued hs).elim
    · obtain ⟨rfl, rfl, rfl⟩ := hd.take hs
      refine .answered (hu.step hs.call ?_ rfl) ha (hd.ends (by rw [hm]; rfl))
      rw [(Solo.step_some (s := r.call) (t := .take true (.outcome a)) rfl).2, hm]
      rfl

theorem Uploading.back {op : Op I I} {ok : Bool} {x : Payload I} (h : Uploading ℓ d qs cb r y)
    (hs : Step r (.back op ok x) r') (hp : ℓ.Brings y.place op (some (ok, x))) :
    Uploading ℓ d qs cb r' (y.after (.back op ok x : Touch I I C)) := by
  have grounded (hf : r.flying = []) : Uploading ℓ d qs cb r' (y.after (.back op ok x : Touch I I C)) :=
    ((Round.grounded hf).1 _ _ _ hs).elim
  -- a nudge says nothing of the writing
  have nudged (hu : r.Underway cb op) (ho : op = .nudge true) :
      r'.call = r.call ∧ r'.Pends cb (.nudge true) true ∧ y.after (.back op ok x : Touch I I C) = y := by
    obtain ⟨-, hcall, hd⟩ := hu.back hs
    subst ho
    cases hp
    refine ⟨hcall, .inr ⟨_, hd⟩, ?_⟩
    rw [Tally.after_back]
    simp [Place.after, Op.nudge, Op.request?]
  cases h with
  | refused _ _ _ hd => exact grounded hd.flying
  | answered _ _ ha => exact grounded ha.flying
  | quit hq => exact .quit (hq.step hs hp nofun)
  | ready hb hl hh hm hpd =>
    rcases hpd with hu | ⟨x', hd⟩
    · obtain rfl := (hu.back hs).1
      obtain ⟨hcall, hpd, hy⟩ := nudged hu rfl
      rw [hy]
      exact .ready hb hl ⟨hcall ▸ hh.held, hcall ▸ hh.written, hh.taken, hh.kept⟩ (hcall ▸ hm) hpd
    · exact grounded hd.flying
  | closing hu hc hm hpd =>
    rcases hpd with hu' | ⟨x', hd⟩
    · obtain rfl := (hu'.back hs).1
      obtain ⟨hcall, hpd, hy⟩ := nudged hu' rfl
      rw [hy]
      exact .closing ⟨hcall ▸ hu.hungUp, hu.accepted, hcall ▸ hu.written⟩ hc (hcall ▸ hm) hpd
    · exact grounded hd.flying
  | joining hu hc hm hpd =>
    rcases hpd with hu' | ⟨a, -, hd⟩
    · obtain ⟨rfl, hcall, hd⟩ := hu'.back hs
      obtain ⟨o, ho, he⟩ := Line.brings_join.mp hp
      cases o with
      | none => cases he
      | some a =>
        cases he
        refine .joining ⟨hcall ▸ hu.hungUp, ?_, hcall ▸ hu.written⟩ ?_ (hcall ▸ hm) (.inr ⟨a, Fate.comes_of_end ho, hd⟩)
        · rw [Tally.after_back]
          exact (List.append_nil y.accepted).trans hu.accepted
        · rw [Tally.after_back]
          exact hc
    · exact grounded hd.flying
  | writing hl hh hm hu =>
    obtain ⟨rfl, hcall, hd⟩ := hu.back hs
    cases hp with
    | written _ _ =>
      cases hacc : ℓ.accepts y.place.writes with
      | true =>
        rw [hacc] at hd
        refine .ready List.isEmpty_iff.mp (hl.accepted hacc d .unit) ?_ (hcall ▸ hm) (.inr ⟨_, hd⟩)
        rw [Tally.after_back]
        exact ⟨hcall ▸ hh.held, hcall ▸ hh.written, hh.taken, hh.kept⟩
      | false =>
        rw [hacc] at hd
        obtain ⟨hg, ht⟩ := hl.refused hacc
        rw [ht] at hh
        rw [Tally.after_back]
        refine .refused ((List.append_nil y.accepted).trans hg) ?_ (hcall ▸ hm) hd
        exact ⟨hcall ▸ hh.held, hcall ▸ hh.written, hh.taken, hh.kept⟩

/-- None of the call's operations dies. -/
theorem Uploading.lost {op : Op I I} (h : Uploading ℓ d qs cb r y) (hs : Step r (.lost op) r')
    (hp : ℓ.Brings y.place op none) : Uploading ℓ d qs cb r' (y.after (.lost op : Touch I I C)) := by
  have grounded (hf : r.flying = []) : Uploading ℓ d qs cb r' (y.after (.lost op : Touch I I C)) :=
    ((Round.grounded hf).2 _ hs).elim
  cases h with
  | refused _ _ _ hd => exact grounded hd.flying
  | answered _ _ ha => exact grounded ha.flying
  | quit hq => exact .quit (hq.step hs hp nofun)
  | ready _ _ _ _ hpd =>
    rcases hpd with hu | ⟨x', hd⟩
    · obtain rfl := (hu.lost hs).1
      cases hp
    · exact grounded hd.flying
  | closing _ _ _ hpd =>
    rcases hpd with hu | ⟨x', hd⟩
    · obtain rfl := (hu.lost hs).1
      cases hp
    · exact grounded hd.flying
  | writing _ _ _ hu =>
    obtain rfl := (hu.lost hs).1
    cases hp
  | joining _ _ _ hpd =>
    rcases hpd with hu | ⟨a, -, hd⟩
    · obtain rfl := (hu.lost hs).1
      obtain ⟨o, ho, he⟩ := Line.brings_join.mp hp
      cases o with
      | none =>
        obtain ⟨text, hd⟩ := Fate.panics_of_end ho
        exact absurd hd Fate.joined_calm
      | some a => cases he
    · exact grounded hd.flying

theorem Uploading.step (h : Uploading ℓ d qs cb r y) (hs : Step r t r') (hp : ℓ.Plays y.place t)
    (hk : ∀ ctx l cb', t = .start ctx l cb' → r.call.machine.kind = l.kind) : Uploading ℓ d qs cb r' (y.after t) := by
  cases t with
  | start ctx l cb' =>
    cases hs
    rw [Tally.after_start]
    exact h.start (hk ctx l cb' rfl)
  | cancel =>
    cases hs
    exact h.cancel
  | take ok x => exact h.take hs
  | back op ok x => exact h.back hs hp
  | lost op => exact h.lost hs hp

/-! ## A whole run -/

theorem Uploading.run (h : Uploading ℓ d qs cb r y) (hR : Runs r ts r') (hp : ℓ.PlaysAll y.place ts)
    (hk : ∀ ctx l cb', .start ctx l cb' ∈ ts → r.call.machine.kind = l.kind) :
    Uploading ℓ d qs cb r' (ts.foldl Tally.after y) := by
  induction hR generalizing y with
  | nil => exact h
  | @cons r r₁ r' t ts hs _ ih =>
    have h₁ := h.step hs hp.1 fun ctx l cb' e => hk ctx l cb' (e ▸ List.mem_cons_self)
    exact ih h₁ hp.2 fun ctx l cb' hm => hs.kind.trans (hk ctx l cb' (List.mem_cons_of_mem _ hm))

/-- From the creation of the call on, whatever was done with it before its first start. -/
theorem Uploading.launched {ctx : Context} (hR : Runs ⟨.fresh .requestStream, [], []⟩ ts r')
    (hf : ts.findSome? Touch.launch? = some (ctx, .requestStream qs, cb)) (hp : ℓ.PlaysAll {} ts)
    (hk : ∀ ctx l cb', .start ctx l cb' ∈ ts → l.kind = .requestStream) :
    Uploading ℓ ctx.deadline qs cb r' (ts.foldl Tally.after {}) := by
  cases hR with
  | nil => cases hf
  | @cons _ r₁ _ t ts hs hR =>
    have h₁ : Uploading ℓ ctx.deadline qs cb r₁ (({} : Tally I).after t) := by
      cases t with
      | back op ok x => exact ((grounded rfl).1 _ _ _ hs).elim
      | lost op => exact ((grounded rfl).2 _ hs).elim
      | take ok x => exact (unfed rfl hs).elim
      | cancel =>
        cases hs
        have hsent : Sent ℓ qs (⟨.fresh .requestStream, [], []⟩ : Round I I C) {} :=
          ⟨List.nil_prefix, List.nil_prefix, .inl rfl⟩
        exact .quit (hsent.cancel rfl (.inl rfl) rfl)
      | start ctx' l cb' =>
        cases hf
        cases hs
        obtain ⟨hu, hm⟩ := underway_begun ctx (.requestStream qs) cb
        have hstart := Launch.start_new ctx (.requestStream qs) cb
        rw [Tally.after_start]
        refine .ready (b := false) nofun ⟨rfl, rfl⟩ ⟨?_, ?_, rfl, rfl⟩ hm (.inl hu)
        · rw [moved, Solo.hungUp_step (s := .fresh .requestStream) (t := .start ctx (.requestStream qs) cb) hstart]
          simp [Solo.HungUp, Solo.fresh, Launch.writes]
        · rw [moved, Solo.written_step,
            (Solo.step_some (s := .fresh .requestStream) (t := .start ctx (.requestStream qs) cb) hstart).2]
          rfl
    refine h₁.run hR hp.2 fun ctx l cb' hm => ?_
    rw [hs.kind, hk ctx l cb' (List.mem_cons_of_mem _ hm)]
    rfl

/-! ## What can be seen of it -/

/-- A call that was not cancelled and has not hung up waits for the write of a request, or for
    a nudge to write one. -/
theorem Uploading.goesOn (h : Uploading ℓ d qs cb r y) (hc : y.cancelled = false) (hh : ¬ r.call.HungUp) :
    y.taken = r.call.written.length ∧ ∃ op, (op = .nudge true ∨ ∃ q, op = .write d q) ∧
      (r.Underway cb op ∨ ∃ ok x, r.Due cb ok x) := by
  cases h with
  | ready _ _ hk _ hp =>
    refine ⟨hk.written ▸ hk.taken, _, .inl rfl, ?_⟩
    rcases hp with hp | ⟨x, hd⟩
    · exact .inl hp
    · exact .inr ⟨_, x, hd⟩
  | @writing q _ _ hk _ hu => exact ⟨hk.written ▸ hk.taken, _, .inr ⟨q, rfl⟩, .inl hu⟩
  | refused _ hk _ hd => exact ⟨hk.written ▸ hk.taken, _, .inl rfl, .inr ⟨_, _, hd⟩⟩
  | closing hu => exact absurd hu.hungUp hh
  | joining hu => exact absurd hu.hungUp hh
  | answered hu => exact absurd hu.hungUp hh
  | quit hq => cases hq.cancelled.symm.trans hc

/-- Such a call can get to where it hangs up without its caller: each request is written, or
    refused, and there are no more of them than the line lets it try. -/
theorem Uploading.arrives (h : Uploading ℓ d qs cb r y) (hc : y.cancelled = false) :
    ∃ ts r', Runs r ts r' ∧ (∀ t ∈ ts, t.byCaller = false) ∧ ℓ.PlaysAll y.place ts ∧ r'.call.HungUp := by
  generalize hn : (ℓ.tries 0 qs).length + 1 - y.taken = n
  induction n using Nat.strongRecOn generalizing r y with
  | ind n ih =>
    by_cases hh : r.call.HungUp
    · exact ⟨[], r, .nil r, fun _ ht => absurd ht List.not_mem_nil, trivial, hh⟩
    · obtain ⟨htaken, op, hop, hp⟩ := h.goesOn hc hh
      have hlen := h.sent.written.length_le
      -- once something is due to it, it is taken, and the rest is the rest
      have due {r : Round I I C} {y : Tally I} {ok : Bool} {x : Payload I} (h : Uploading ℓ d qs cb r y)
          (hc : y.cancelled = false) (hd : r.Due cb ok x) (hlt : (ℓ.tries 0 qs).length + 1 - (y.taken + 1) < n) :
          ∃ ts r', Runs r ts r' ∧ (∀ t ∈ ts, t.byCaller = false) ∧ ℓ.PlaysAll y.place ts ∧ r'.call.HungUp := by
        have hs := Step.take hd.queued
        have h₁ := h.step hs trivial nofun
        rw [Tally.after_take] at h₁
        obtain ⟨ts, r', hR, hb, hp, hh⟩ := ih _ hlt h₁ hc rfl
        exact ⟨.take ok x :: ts, r', .cons hs hR, List.forall_mem_cons.mpr ⟨rfl, hb⟩, ⟨trivial, hp⟩, hh⟩
      rcases hp with hu | ⟨ok, x, hd⟩
      · obtain ⟨⟨ok, x⟩, hbr⟩ : ∃ b, ℓ.Brings y.place op (some b) := by
          rcases hop with rfl | ⟨q, rfl⟩
          · exact ⟨_, .settled true .unit⟩
          · exact ⟨_, .written d q⟩
        obtain ⟨r₁, hs, -, hd⟩ := hu.backs ok x
        have h₁ := h.step hs hbr nofun
        rw [Tally.after_back] at h₁
        obtain ⟨ts, r', hR, hb, hp, hh⟩ := due h₁ hc hd (by show _ - (y.taken + 1) < n; omega)
        exact ⟨.back op ok x :: ts, r', .cons hs hR, List.forall_mem_cons.mpr ⟨rfl, hb⟩, ⟨hbr, hp⟩, hh⟩
      · exact due h hc hd (by omega)

theorem Uploading.closes (h : Uploading ℓ d qs cb r y) (hc : y.cancelled = false) (hh : r.call.HungUp) :
    y.accepted = ℓ.granted 0 qs ∧ r.call.written = ℓ.tries 0 qs ∧ r.writing = [] := by
  cases h with
  | ready _ _ hk => exact absurd hh hk.held
  | writing _ hk => exact absurd hh hk.held
  | refused _ hk => exact absurd hh hk.held
  | closing hu _ _ hp => exact ⟨hu.accepted, hu.written, hp.writing rfl⟩
  | joining hu _ _ hp =>
    refine ⟨hu.accepted, hu.written, ?_⟩
    rcases hp with hp | ⟨a, -, hp⟩ <;> rw [Round.writing, hp.flying] <;> rfl
  | answered hu _ ha => exact ⟨hu.accepted, hu.written, by rw [Round.writing, ha.flying]; rfl⟩
  | quit hq => cases hq.cancelled.symm.trans hc

theorem Uploading.over (h : Uploading ℓ d qs cb r y) (hc : y.cancelled = true) :
    r.call.machine.state.isOpen = false := by
  cases h with
  | ready _ _ hk => cases hk.kept.symm.trans hc
  | writing _ hk => cases hk.kept.symm.trans hc
  | refused _ hk => cases hk.kept.symm.trans hc
  | closing _ hn => cases hn.symm.trans hc
  | joining _ hn => cases hn.symm.trans hc
  | answered _ _ ha => exact congrArg (fun r => r.state.isOpen) ha.spent
  | quit hq => exact congrArg (fun r => r.state.isOpen) hq.givenUp

theorem Uploading.given (h : Uploading ℓ d qs cb r y) :
    r.call.given = [] ∨ r.call.HungUp ∧ y.accepted = ℓ.granted 0 qs ∧
      ∃ a, ℓ.single.joined = .comes a ∧ r.call.given = [(cb, a.map .one)] := by
  cases h with
  | ready _ _ _ _ hp => exact .inl hp.given
  | writing _ _ _ hu => exact .inl hu.given
  | refused _ _ _ hd => exact .inl hd.given
  | closing _ _ _ hp => exact .inl hp.given
  | joining _ _ _ hp => exact .inl (by rcases hp with hp | ⟨a, -, hp⟩ <;> exact hp.given)
  | answered hu ha hr => exact .inr ⟨hu.hungUp, hu.accepted, _, ha, hr.given⟩
  | quit hq => exact .inl hq.given

/-- With nothing under way the callback began, unless the call was cancelled. -/
theorem Uploading.ends (h : Uploading ℓ d qs cb r y) (hc : y.cancelled = false) (hf : r.flying = [])
    (hq : r.queued = []) : r.call.given ≠ [] := by
  have pending {op : Op I I} {ok : Bool} (h : r.Pends cb op ok) : r.call.given ≠ [] := by
    rcases h with h | ⟨x, h⟩
    · cases h.flying.symm.trans hf
    · cases h.queued.symm.trans hq
  cases h with
  | ready _ _ _ _ hp => exact pending hp
  | writing _ _ _ hu => cases hu.flying.symm.trans hf
  | refused _ _ _ hd => cases hd.queued.symm.trans hq
  | closing _ _ _ hp => exact pending hp
  | joining _ _ _ hp =>
    rcases hp with hp | ⟨a, -, hp⟩
    · cases hp.flying.symm.trans hf
    · cases hp.queued.symm.trans hq
  | answered _ _ ha => rw [ha.given]; exact List.cons_ne_nil _ _
  | quit hq => cases hq.cancelled.symm.trans hc

theorem writing_answer (b : Bool) (left : List I) (ok : Bool) (x : Payload I) :
    ((.requestStream (.writing cb d b left) : Machine I I C).advance ok x).answer = none := by
  cases b <;> cases ok <;> cases left <;> rfl

/-- The callback begins with the turn of a call that has hung up, and was not cancelled. -/
theorem Uploading.begins (h : Uploading ℓ d qs cb r y) (hs : Step r t r') (hg : r'.call.given ≠ r.call.given) :
    y.cancelled = false ∧ r.call.HungUp := by
  cases hs with
  | back ok x hf => exact absurd rfl hg
  | lost hf => exact absurd rfl hg
  | cancel =>
    refine absurd ?_ hg
    rw [moved, (Solo.step_some (s := r.call) (t := .cancel) rfl).1, Machine.cancel_answer]
    exact List.append_nil _
  | start ctx l cb' =>
    refine absurd ?_ hg
    cases hm : r.call.move (.start ctx l cb') with
    | none => rw [moved, (Solo.step_none hm).1]
    | some v =>
      rw [moved, (Solo.step_some hm).1, Machine.start_answer hm]
      exact List.append_nil _
  | @take ok x rest hq =>
    have silent (ha : (r.call.machine.advance ok x).answer = none) : False := by
      refine hg ?_
      rw [moved, (Solo.step_some (s := r.call) (t := .take ok x) rfl).1, ha]
      exact List.append_nil _
    cases h with
    | ready _ _ _ hm => exact (silent (by rw [hm]; exact writing_answer _ _ _ _)).elim
    | writing _ _ _ hu => cases hu.queued.symm.trans hq
    | refused _ _ hm hd => exact (silent (by rw [hm]; exact writing_answer _ _ _ _)).elim
    | closing _ _ hm => exact (silent (by rw [hm]; rfl)).elim
    | joining hu hc => exact ⟨hc, hu.hungUp⟩
    | answered _ _ ha => cases ha.queued.symm.trans hq
    | quit hq' =>
      have hn : r.call.machine.state ≠ .called := by
        intro hs
        cases (congrArg Resolver.state hq'.givenUp).symm.trans hs
      exact (silent (by rw [Machine.advance_idle hn]; rfl)).elim

end Round

end CallPump
