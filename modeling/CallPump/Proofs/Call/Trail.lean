/-
  CallPump.Proofs.Call.Trail — the operations that a call issues, one after the other.

  Where the transport answers each operation of a call, what it has for the call settles
  which operations there are and what the callback is given (`Line.Route`): a nudge to
  begin with and another once all is written, the writes that are tried (`Line.tries`), a
  read for each item of the response stream and one for its end (`Stream.trail`).

  - `Route.sure`: the call takes this route, whatever else happens.
-/

import CallPump.Proofs.Call.Line
import CallPump.Proofs.Call.Way

namespace CallPump

variable {I C : Type}

/-! ## Response streams that end -/

/-- A response stream that is not opened, or that has some responses and then ends or fails. -/
inductive Stream (I : Type) where
  | refused (e : GrpcStatus)
  | yields (is : List I) (broken : Option GrpcStatus)

namespace Stream

/-- What it is to a reader. -/
def heard : Stream I → Except GrpcStatus (List I)
  | .refused e => .error e
  | .yields is none => .ok is
  | .yields _ (some e) => .error e

/-- How often it is read: once for each response, and once for its end or its error. -/
def polls : Stream I → Nat
  | .refused _ => 0
  | .yields is _ => is.length + 1

def closing (s : Stream I) : Op I I := .settled true (.closed (s.heard.map fun _ => ()))

/-- The operations that follow on its opening. -/
def trail (d : Option Instant) (s : Stream I) : List (Op I I) := .replicate s.polls (.read d) ++ [s.closing]

theorem closing_cons (i : I) (is : List I) (b : Option GrpcStatus) :
    (yields (i :: is) b).closing = (yields is b).closing := by cases b <;> rfl

theorem trail_cons (d : Option Instant) (i : I) (is : List I) (b : Option GrpcStatus) :
    (yields (i :: is) b).trail d = .read d :: (yields is b).trail d := by
  rw [trail, trail, closing_cons]
  rfl

theorem length_trail (d : Option Instant) (s : Stream I) : (s.trail d).length = s.polls + 1 := by
  rw [trail, List.length_append, List.length_replicate]
  rfl

end Stream

namespace Line

variable (ℓ : Line I)

/-- From the item of the number on, the responses come, and then the end or the error. -/
def Yields : Nat → List I → Option GrpcStatus → Prop
  | n, [], b => ℓ.item n = .comes (b.map .error)
  | n, i :: is, b => ℓ.item n = .comes (some (.ok i)) ∧ Yields (n + 1) is b

/-- Opened as `f` says, the response stream is this one. -/
def Has (f : Fate (Except GrpcStatus Unit)) : Stream I → Prop
  | .refused e => f = .comes (.error e)
  | .yields is b => f = .comes (.ok ()) ∧ ℓ.Yields 0 is b

/-- The requests whose writes are tried, when so many were tried before: up to the first
    write that fails. -/
def tries : Nat → List I → List I
  | _, [] => []
  | n, q :: qs => q :: if ℓ.accepts n then tries (n + 1) qs else []

/-- The requests that are accepted: those before the first write that fails. -/
def granted : Nat → List I → List I
  | _, [] => []
  | n, q :: qs => if ℓ.accepts n then q :: granted (n + 1) qs else []

variable {ℓ} in
theorem takes_iff {n : Nat} {qs : List I} : ℓ.takes n qs = true ↔ ∀ j < qs.length, ℓ.accepts (n + j) = true := by
  induction qs generalizing n with
  | nil => exact ⟨fun _ _ h => absurd h (Nat.not_lt_zero _), fun _ => rfl⟩
  | cons q qs ih =>
    rw [takes, Bool.and_eq_true, ih]
    constructor
    · rintro ⟨h₀, h⟩ (_ | j) hj
      · exact h₀
      · rw [show n + (j + 1) = n + 1 + j by omega]
        exact h j (Nat.lt_of_succ_lt_succ hj)
    · intro h
      refine ⟨h 0 (Nat.succ_pos _), fun j hj => ?_⟩
      rw [show n + 1 + j = n + (j + 1) by omega]
      exact h (j + 1) (Nat.succ_lt_succ hj)

variable {ℓ} in
theorem tries_of_takes {n : Nat} {qs : List I} (h : ℓ.takes n qs = true) : ℓ.tries n qs = qs := by
  induction qs generalizing n with
  | nil => rfl
  | cons q qs ih =>
    obtain ⟨ha, ht⟩ := (Bool.and_eq_true _ _).mp h
    rw [tries, if_pos ha, ih ht]

variable {ℓ} in
/-- The writes go on up to the first that fails. -/
theorem tries_of_fails {n i : Nat} {qs : List I} (hi : i < qs.length) (h : ∀ j < i, ℓ.accepts (n + j) = true)
    (hf : ℓ.accepts (n + i) = false) :
    ℓ.takes n qs = false ∧ ℓ.tries n qs = qs.take (i + 1) ∧ ℓ.granted n qs = qs.take i := by
  induction qs generalizing n i with
  | nil => cases hi
  | cons q qs ih =>
    cases i with
    | zero =>
      have ha : ℓ.accepts n = false := hf
      rw [takes, tries, granted, ha]
      exact ⟨rfl, by simp, by simp⟩
    | succ i =>
      have ha : ℓ.accepts n = true := h 0 (Nat.succ_pos _)
      obtain ⟨ht, hq, hg⟩ := ih (n := n + 1) (Nat.lt_of_succ_lt_succ hi)
        (fun j hj => by rw [show n + 1 + j = n + (j + 1) by omega]; exact h (j + 1) (Nat.succ_lt_succ hj))
        (by rw [show n + 1 + i = n + (i + 1) by omega]; exact hf)
      rw [takes, tries, granted, ha, ht, if_pos rfl, hq, if_pos rfl, hg]
      exact ⟨rfl, rfl, rfl⟩

variable {ℓ} in
/-- If not all are accepted, there is a first that is not. -/
theorem fails_of_takes {n : Nat} {qs : List I} (h : ℓ.takes n qs = false) :
    ∃ i < qs.length, (∀ j < i, ℓ.accepts (n + j) = true) ∧ ℓ.accepts (n + i) = false := by
  induction qs generalizing n with
  | nil => cases h
  | cons q qs ih =>
    cases ha : ℓ.accepts n with
    | false => exact ⟨0, Nat.succ_pos _, fun j hj => absurd hj (Nat.not_lt_zero j), ha⟩
    | true =>
      rw [takes, ha, Bool.true_and] at h
      obtain ⟨i, hi, hj, hf⟩ := ih h
      refine ⟨i + 1, Nat.succ_lt_succ hi, ?_, ?_⟩
      · rintro (_ | j) hlt
        · exact ha
        · rw [show n + (j + 1) = n + 1 + j by omega]
          exact hj j (Nat.lt_of_succ_lt_succ hlt)
      · rw [show n + (i + 1) = n + 1 + i by omega]
        exact hf

variable {ℓ} in
theorem granted_of_takes {n : Nat} {qs : List I} (h : ℓ.takes n qs = true) : ℓ.granted n qs = qs := by
  induction qs generalizing n with
  | nil => rfl
  | cons q qs ih =>
    obtain ⟨ha, ht⟩ := (Bool.and_eq_true _ _).mp h
    rw [granted, if_pos ha, ih ht]

theorem granted_prefix (n : Nat) (qs : List I) : ℓ.granted n qs <+: ℓ.tries n qs := by
  induction qs generalizing n with
  | nil => exact List.prefix_refl _
  | cons q qs ih =>
    rw [granted, tries]
    cases ℓ.accepts n with
    | true => exact List.cons_prefix_cons.mpr ⟨rfl, ih (n + 1)⟩
    | false => exact List.nil_prefix

theorem tries_prefix (n : Nat) (qs : List I) : ℓ.tries n qs <+: qs := by
  induction qs generalizing n with
  | nil => exact List.prefix_refl _
  | cons q qs ih =>
    rw [tries]
    refine List.cons_prefix_cons.mpr ⟨rfl, ?_⟩
    cases ℓ.accepts n with
    | true => exact ih (n + 1)
    | false => exact List.nil_prefix

/-- The write of this number, counted from one, is the first that fails. -/
structure FailsFirst (qs : List I) (k : Nat) : Prop where
  inside : 1 ≤ k ∧ k ≤ qs.length
  before : ∀ j, j + 1 < k → ℓ.accepts j = true
  fails : ℓ.accepts (k - 1) = false

variable {ℓ} in
/-- Up to it the requests are written, and those before it accepted. -/
theorem FailsFirst.prefixes {qs : List I} {k : Nat} (h : ℓ.FailsFirst qs k) :
    ℓ.takes 0 qs = false ∧ ℓ.tries 0 qs = qs.take k ∧ ℓ.granted 0 qs = qs.take (k - 1) := by
  obtain ⟨⟨h₁, h₂⟩, hb, hf⟩ := h
  have hi : k - 1 < qs.length := by omega
  have hp := tries_of_fails (ℓ := ℓ) (n := 0) hi (fun j hj => by rw [Nat.zero_add]; exact hb j (by omega))
    (by rw [Nat.zero_add]; exact hf)
  rwa [Nat.sub_add_cancel h₁] at hp

variable {ℓ} in
theorem FailsFirst.length_tries {qs : List I} {k : Nat} (h : ℓ.FailsFirst qs k) : (ℓ.tries 0 qs).length = k := by
  rw [h.prefixes.2.1, List.length_take, Nat.min_eq_left h.inside.2]

variable {ℓ} in
theorem failsFirst_of_takes {qs : List I} (h : ℓ.takes 0 qs = false) : ∃ k, ℓ.FailsFirst qs k := by
  obtain ⟨i, hi, hj, hf⟩ := fails_of_takes h
  rw [Nat.zero_add] at hf
  refine ⟨i + 1, ⟨by omega, by omega⟩, fun j h => ?_, hf⟩
  rw [← Nat.zero_add j]
  exact hj j (by omega)

/-- What the line makes of a call: its operations, in order, and what the callback is given. -/
inductive Route (ctx : Context) : Launch I → List (Op I I) → Except GrpcStatus (Answer I) → Prop
  | unary (q : I) {r : Except GrpcStatus I} : ℓ.single = .comes r →
      Route ctx (.unary q) [.exchange ctx q] (r.map .one)
  | requestStream (qs : List I) {r : Except GrpcStatus I} : ℓ.single.joined = .comes r →
      Route ctx (.requestStream qs) (.nudge true :: (ℓ.tries 0 qs).map (.write ctx.deadline) ++
        if ℓ.takes 0 qs then [.nudge true, .join] else [.join]) (r.map .one)
  | responseStream (q : I) {s : Stream I} : ℓ.Has ℓ.opening s →
      Route ctx (.responseStream q) (.openStream ctx q :: s.trail ctx.deadline) (s.heard.map .many)
  | bidi (qs : List I) {s : Stream I} : ℓ.Has ℓ.opening.joined s →
      Route ctx (.bidi qs) (.nudge true :: (ℓ.tries 0 qs).map (.write ctx.deadline) ++
        if ℓ.takes 0 qs then .nudge true :: .joinStream :: s.trail ctx.deadline else [.drain ctx.deadline])
        (s.heard.map fun is => .many (if ℓ.takes 0 qs then is else []))

/-! ## The line as a backing -/

def backing : Backing I Place where
  brings p op ok x p' := ℓ.Brings p op (some (ok, x)) ∧ p' = p.after op
  loses p op := ℓ.Brings p op none
  awaits p op := ∃ b, ℓ.Brings p op (some b)
  answers := by
    rintro p op ⟨⟨ok, x⟩, hb⟩
    exact ⟨ok, x, _, hb, rfl⟩
  kept := by
    rintro p op ⟨b, hb⟩ hn
    cases hb.unique hn

variable {ℓ} {cb : C} {G : List (Op I I) → Except GrpcStatus (Answer I) → Prop} {done : List (Op I I)}
  {m m' : Machine I I C} {op op' : Op I I} {p : Place} {ok : Bool} {x : Payload I}

theorem bears_iff {p' : Place} {t : Touch I I C} : ℓ.backing.Bears p t p' ↔ ℓ.Plays p t ∧ p' = p.past t := by
  cases t with
  | back op ok x => exact Iff.rfl
  | lost op => exact Iff.rfl
  | start ctx l cb => exact (iff_of_eq (true_and _)).symm
  | cancel => exact (iff_of_eq (true_and _)).symm
  | take ok x => exact (iff_of_eq (true_and _)).symm

theorem carries_iff {ts : List (Touch I I C)} {p' : Place} :
    ℓ.backing.Carries p ts p' ↔ ℓ.PlaysAll p ts ∧ p' = ts.foldl Place.past p := by
  constructor
  · intro h
    induction h with
    | nil => exact ⟨trivial, rfl⟩
    | cons ht _ ih =>
      obtain ⟨hv, rfl⟩ := bears_iff.mp ht
      exact ⟨⟨hv, ih.1⟩, ih.2⟩
  · rintro ⟨h, rfl⟩
    induction ts generalizing p with
    | nil => exact .nil p
    | cons t ts ih => exact .cons (bears_iff.mpr ⟨h.1, rfl⟩) (ih h.2)

theorem PlaysAll.append {ts ts' : List (Touch I I C)} (h : ℓ.PlaysAll p ts)
    (h' : ℓ.PlaysAll (ts.foldl Place.past p) ts') : ℓ.PlaysAll p (ts ++ ts') :=
  (carries_iff.mp ((carries_iff.mpr ⟨h, rfl⟩).append (carries_iff.mpr ⟨h', rfl⟩))).1

theorem sure_last {a : Except GrpcStatus (Answer I)} (hb : ℓ.Brings p op (some (ok, x)))
    (ha : (m.advance ok x).answer = some (cb, a)) (hp : (m.advance ok x).posts = []) (hG : G (done ++ [op]) a) :
    ℓ.backing.Sure cb G done m op p := by
  refine .last ⟨_, hb⟩ ?_
  rintro ok' x' p' ⟨hb', -⟩
  cases hb.unique hb'
  exact ⟨a, ha, hp, hG⟩

theorem sure_next (hb : ℓ.Brings p op (some (ok, x))) (hg : m.Goes ok x m' op')
    (h : ℓ.backing.Sure cb G (done ++ [op]) m' op' (p.after op)) : ℓ.backing.Sure cb G done m op p := by
  refine .next ⟨_, hb⟩ ?_
  rintro ok' x' p' ⟨hb', rfl⟩
  cases hb.unique hb'
  exact ⟨m', op', hg, h⟩

/-! ## Streams -/

theorem Yields.reads {n : Nat} {is : List I} {b : Option GrpcStatus} (h : ℓ.Yields n is b) (before : List I) :
    ℓ.Reads n before (some ((Stream.yields is b).heard.map (before ++ ·))) := by
  induction is generalizing n before with
  | nil =>
    cases b with
    | none =>
      rw [show (Stream.yields [] none).heard.map (before ++ ·) = .ok before from congrArg _ (List.append_nil _)]
      exact .atEnd h
    | some e => exact .broken h
  | cons i is ih =>
    have hr := ih h.2 (before ++ [i])
    have he : (Stream.yields is b).heard.map ((before ++ [i]) ++ ·) =
        (Stream.yields (i :: is) b).heard.map (before ++ ·) := by
      cases b with
      | none => exact congrArg Except.ok (List.append_cons before i is).symm
      | some e => rfl
    rw [he] at hr
    exact .more h.1 hr

theorem Has.streams {f : Fate (Except GrpcStatus Unit)} {s : Stream I} (h : ℓ.Has f s) :
    ℓ.Streams f (some s.heard) := by
  cases s with
  | refused e => exact .refused h
  | yields is b =>
    have hr := h.2.reads []
    rw [show (Stream.yields is b).heard.map ([] ++ ·) = (Stream.yields is b).heard by cases b <;> rfl] at hr
    exact .read h.1 hr

end Line

namespace Listener

variable {ℓ : Line I} {cb : C} {G : List (Op I I) → Except GrpcStatus (Answer I) → Prop} {done : List (Op I I)}
  {d : Option Instant} {opening : Machine I I C} {reading ended : List I → Machine I I C} {p : Place}

theorem sure_ended (hl : Listener cb d opening reading ended) (is : List I) (r : Except GrpcStatus Unit)
    (hG : G (done ++ [.settled true (.closed r)]) (r.map fun () => .many is)) :
    ℓ.backing.Sure cb G done (ended is) (.settled true (.closed r)) p :=
  Line.sure_last (.settled true _) (hl.answer is true r) (hl.silent is true _) hG

/-- One read for each response, and one for what comes after them. -/
theorem sure_reading (hl : Listener cb d opening reading ended) {is left : List I} {b : Option GrpcStatus}
    (hy : ℓ.Yields p.reads left b)
    (hG : G (done ++ (Stream.yields left b).trail d) ((Stream.yields (is ++ left) b).heard.map .many)) :
    ℓ.backing.Sure cb G done (reading is) (.read d) p := by
  induction left generalizing is done p with
  | nil =>
    have hb := Line.brings_read (d := d).mpr (.inr ⟨_, hy, rfl⟩)
    rw [List.append_nil] at hG
    have hG' : G ((done ++ [.read d]) ++ [(Stream.yields [] b : Stream I).closing])
        ((Stream.yields is b).heard.map .many) := by
      rw [← List.append_cons]
      exact hG
    cases b with
    | none => exact Line.sure_next hb (hl.last is _) (hl.sure_ended is (.ok ()) hG')
    | some e => exact Line.sure_next hb (hl.broken is _ e) (hl.sure_ended is (.error e) hG')
  | cons i left ih =>
    have hb := Line.brings_read (d := d).mpr (.inr ⟨_, hy.1, rfl⟩)
    rw [Stream.trail_cons, List.append_cons, List.append_cons is] at hG
    exact Line.sure_next hb (hl.item is i _) (ih hy.2 hG)

/-- From the operation on that waits for the stream to open. -/
theorem sure_opening (hl : Listener cb d opening reading ended) {op : Op I I} {f : Fate (Except GrpcStatus Unit)}
    {s : Stream I} (hop : ∀ {b}, ℓ.Brings p op b ↔ ∃ r, f.end? = some r ∧ b = r.map fun r => (r.toBool, .opened r))
    (hp : (p.after op).reads = 0) (hs : ℓ.Has f s) (hG : G (done ++ op :: s.trail d) (s.heard.map .many)) :
    ℓ.backing.Sure cb G done opening op p := by
  rw [List.append_cons] at hG
  cases s with
  | refused e =>
    have hb := hop.mpr ⟨some (.error e), congrArg Fate.end? hs, rfl⟩
    exact Line.sure_next hb (hl.refused _ e) (hl.sure_ended [] (.error e) hG)
  | yields is b =>
    have hb := hop.mpr ⟨some (.ok ()), congrArg Fate.end? hs.1, rfl⟩
    exact Line.sure_next hb (hl.opened _) (hl.sure_reading (by rw [hp]; exact hs.2) hG)

end Listener

/-! ## Requests -/

/-- The requests are written up to the first write that fails. -/
theorem Author.sure_writing {ℓ : Line I} {cb : C} {G : List (Op I I) → Except GrpcStatus (Answer I) → Prop}
    {done : List (Op I I)} {d : Option Instant} {writing : Bool → List I → Machine I I C}
    {closed givenUp : Machine I I C} {last op : Op I I} {p : Place} {n : Nat} {x : Payload I} {qs : List I} {b : Bool}
    (hw : Author d writing closed givenUp last) (hb : b = true → qs = []) (hop : ℓ.Brings p op (some (true, x)))
    (hp : (p.after op).reads = 0) (hn : (p.after op).writes = n)
    (hc : ∀ p' : Place, p'.reads = 0 → ℓ.takes n qs = true →
      ℓ.backing.Sure cb G (done ++ op :: (ℓ.tries n qs).map (.write d)) closed (.nudge true) p')
    (hg : ∀ p' : Place, p'.reads = 0 → ℓ.takes n qs = false →
      ℓ.backing.Sure cb G (done ++ op :: (ℓ.tries n qs).map (.write d)) givenUp last p') :
    ℓ.backing.Sure cb G done (writing b qs) op p := by
  induction qs generalizing b op p n x done with
  | nil => exact Line.sure_next hop (hw.close b x) (hc _ hp rfl)
  | cons q qs ih =>
    obtain rfl : b = false := by
      cases b with
      | false => rfl
      | true => cases hb rfl
    refine Line.sure_next hop (hw.next q qs x) ?_
    have hq := Line.Brings.written (ℓ := ℓ) (p := p.after op) d q
    simp only [Line.takes, Line.tries, List.map_cons] at hc hg
    rw [List.append_cons] at hc hg
    rw [hn] at hq
    -- the write of `q` is accepted, and the rest is written, or it is the last that is tried
    cases ha : ℓ.accepts n with
    | true =>
      simp only [ha, Bool.true_and, if_true] at hc hg
      rw [ha] at hq
      exact ih List.isEmpty_iff.mp hq hp (congrArg (· + 1) hn) hc hg
    | false =>
      simp only [ha, Bool.false_and, Bool.false_eq_true, if_false, List.map_nil] at hg
      rw [ha] at hq
      exact Line.sure_next hq (hw.fail _ qs _) (hg _ hp trivial)

/-! ## The four kinds -/

namespace Line

variable {ℓ : Line I} {cb : C} {G : List (Op I I) → Except GrpcStatus (Answer I) → Prop} {ctx : Context}
  {l : Launch I} {ops : List (Op I I)} {a : Except GrpcStatus (Answer I)}

/-- A call comes to its callback over the operations of its route. -/
theorem Route.sure (h : ℓ.Route ctx l ops a) (hG : G ops a) :
    ℓ.backing.Sure cb G [] (l.begun ctx cb) (l.first ctx) {} := by
  cases h with
  | @unary q r hr =>
    exact sure_last (brings_exchange.mpr ⟨some r, congrArg Fate.end? hr, rfl⟩) rfl rfl hG
  | @responseStream q s hs =>
    exact (ResponseStreamCall.listens cb ctx.deadline).sure_opening brings_openStream rfl hs hG
  | @requestStream qs r hr =>
    have hj {done : List (Op I I)} {p : Place} (hG : G (done ++ [.join]) (r.map .one)) :
        ℓ.backing.Sure cb G done (.requestStream (.awaiting cb ctx.deadline)) .join p :=
      sure_last (brings_join.mpr ⟨some r, congrArg Fate.end? hr, rfl⟩) rfl rfl hG
    show ℓ.backing.Sure cb G [] (.requestStream (.writing cb ctx.deadline false qs)) (.nudge true) {}
    have hw := RequestStreamCall.authors (I := I) cb ctx.deadline
    refine hw.sure_writing (n := 0) nofun (.settled true .unit) rfl rfl (fun p _ ht => ?_) fun p _ ht => hj ?_
    · rw [ht, if_pos rfl, List.append_cons] at hG
      exact sure_next (.settled true .unit) ⟨rfl, rfl⟩ (hj hG)
    · rw [ht, if_neg Bool.false_ne_true] at hG
      exact hG
  | @bidi qs s hs =>
    show ℓ.backing.Sure cb G [] (.bidi (.writing cb ctx.deadline false qs)) (.nudge true) {}
    have hw := BidiCall.authors (I := I) cb ctx.deadline
    refine hw.sure_writing (n := 0) nofun (.settled true .unit) rfl rfl (fun p hp ht => ?_) fun p _ ht => ?_
    · simp only [ht, if_true] at hG
      rw [List.append_cons] at hG
      refine sure_next (.settled true .unit) ⟨rfl, rfl⟩ ?_
      exact (BidiCall.listens cb ctx.deadline).sure_opening brings_joinStream hp hs hG
    · have hd : ℓ.Brings p (.drain ctx.deadline) (some (true, .closed (s.heard.map fun _ => ()))) :=
        brings_drain.mpr ⟨_, drains_iff.mpr ⟨_, hs.streams, rfl⟩, rfl⟩
      simp only [ht, Bool.false_eq_true, if_false] at hG
      refine sure_last hd rfl rfl ?_
      generalize s.heard = r at hG ⊢
      cases r <;> exact hG

end Line

end CallPump
