/-
  CallPump.Proofs.Call.Clocked — a call, its deadline, and a transport on a virtual clock.

  What the transport has for one call depends on the clock (`Clocked`): polled at an
  instant, a future is ready or still pending, whatever it was before. A future that is
  polled against a deadline is polled first, and fails once the deadline has passed while
  it is pending (`within`). An operation that polls a future itself does so under its own
  deadline; the body of a call runs under the deadline that it was spawned with, and the
  operation that joins it has none.

  A transport that stalls (`Clocked.Stalls`) may write, may open the stream and have some
  responses for it, and nothing else ever comes of it.

  - `Clocked.brings_late`: once the deadline has passed, every operation under it comes back.
  - `Clocked.sure_begun`: over a transport that stalls, a call of any kind comes to its
    callback with the deadline's error, after a bounded number of operations.
  - `Clocked.Stalls.in_time`: none of them need be waited for beyond the deadline.
-/

import CallPump.Proofs.Call.Line
import CallPump.Proofs.Call.Way

namespace CallPump

variable {I C : Type}

/-- A future polled against a deadline: what it is ready with, or the failure once the
    deadline has passed. -/
def within {α : Type} (deadline : Option Instant) (now : Instant) (late : α) (ready : Option α) : Option α :=
  ready.or (if deadline.any (· ≤ now) then some late else none)

theorem within_late {α : Type} {d now : Instant} (h : d ≤ now) (late : α) (ready : Option α) :
    ∃ a, within (some d) now late ready = some a := by
  rw [within, if_pos (by simpa using h)]
  cases ready with
  | none => exact ⟨late, rfl⟩
  | some a => exact ⟨a, rfl⟩

/-- What is not ready comes of the deadline alone. -/
theorem within_pending {α : Type} {deadline : Option Instant} {now : Instant} {late a : α}
    (h : within deadline now late none = some a) : a = late := by
  rw [within, Option.none_or] at h
  split at h
  · cases h; rfl
  · cases h

structure Clocked (I : Type) where
  /-- The deadline under which the body of the call was spawned. -/
  body : Option Instant
  /-- Whether the write, by its number, is accepted when it is polled at the instant. -/
  write : Nat → Instant → Option Bool
  /-- An RPC with one response. -/
  single : Instant → Option (Except GrpcStatus I)
  /-- The opening of a response stream. -/
  opening : Instant → Option (Except GrpcStatus Unit)
  /-- The items of the stream, by number; none is its end. -/
  item : Nat → Instant → Option (Option (Except GrpcStatus I))

namespace Clocked

variable (K : Clocked I)

/-- The loop of a drain from the item of the number on, as far as it has come by now: with
    nothing if it is pending. -/
inductive Skims (now : Instant) : Nat → Option (Except GrpcStatus Unit) → Prop
  | atEnd {n : Nat} {s : Instant} : s ≤ now → K.item n s = some none → Skims now n (some (.ok ()))
  | broken {n : Nat} {s : Instant} {e : GrpcStatus} : s ≤ now → K.item n s = some (some (.error e)) →
      Skims now n (some (.error e))
  | skips {n : Nat} {s : Instant} {i : I} {o : Option (Except GrpcStatus Unit)} : s ≤ now →
      K.item n s = some (some (.ok i)) → Skims now (n + 1) o → Skims now n o
  | pending {n : Nat} : K.item n now = none → Skims now n none

/-- What an operation that is polled now comes back with. -/
inductive Brings (now : Instant) (p : Place) : Op I I → Bool → Payload I → Prop
  | settled (ok : Bool) (x : Payload I) : Brings now p (.settled ok x) ok x
  | written {b : Bool} (d : Option Instant) (q : I) : within d now false (K.write p.writes now) = some b →
      Brings now p (.write d q) b .unit
  | exchanged {r : Except GrpcStatus I} (ctx : Context) (q : I) :
      within ctx.deadline now (.error .deadlineExceeded) (K.single now) = some r →
      Brings now p (.exchange ctx q) r.toBool (.outcome r)
  | opened {r : Except GrpcStatus Unit} (ctx : Context) (q : I) :
      within ctx.deadline now (.error .deadlineExceeded) (K.opening now) = some r →
      Brings now p (.openStream ctx q) r.toBool (.opened r)
  | joined {s : Instant} {r : Except GrpcStatus I} : s ≤ now →
      within K.body s (.error .deadlineExceeded) (K.single s) = some r → Brings now p .join true (.outcome r)
  | joinedStream {s : Instant} {r : Except GrpcStatus Unit} : s ≤ now →
      within K.body s (.error .deadlineExceeded) (K.opening s) = some r →
      Brings now p .joinStream r.toBool (.opened r)
  | item {i : Option (Except GrpcStatus I)} (d : Option Instant) :
      within d now (some (.error .deadlineExceeded)) (K.item p.reads now) = some i →
      Brings now p (.read d) (i.any Except.toBool) (.item i)
  | unopened {s : Instant} {e : GrpcStatus} (d : Option Instant) : s ≤ now →
      within K.body s (.error .deadlineExceeded) (K.opening s) = some (.error e) →
      Brings now p (.drain d) true (.closed (.error e))
  | drained {s : Instant} {o : Option (Except GrpcStatus Unit)} {r : Except GrpcStatus Unit} (d : Option Instant) :
      s ≤ now → within K.body s (.error .deadlineExceeded) (K.opening s) = some (.ok ()) → K.Skims now 0 o →
      within d now (.error .deadlineExceeded) o = some r → Brings now p (.drain d) true (.closed r)

/-- From the one instant to the other, what happens to the call's operations is what the
    transport has for them at the time, and none dies. -/
inductive Plays : Instant → Place → List (Touch I I C) → Instant → Prop
  | nil {now later : Instant} (p : Place) : now ≤ later → Plays now p [] later
  | back {now s later : Instant} {p : Place} {op : Op I I} {ok : Bool} {x : Payload I} {ts : List (Touch I I C)} :
      now ≤ s → K.Brings s p op ok x → Plays s (p.after op) ts later → Plays now p (.back op ok x :: ts) later
  | start {now later : Instant} {p : Place} {ts : List (Touch I I C)} (ctx : Context) (l : Launch I) (cb : C) :
      Plays now p ts later → Plays now p (.start ctx l cb :: ts) later
  | cancel {now later : Instant} {p : Place} {ts : List (Touch I I C)} :
      Plays now p ts later → Plays now p (.cancel :: ts) later
  | take {now later : Instant} {p : Place} {ts : List (Touch I I C)} (ok : Bool) (x : Payload I) :
      Plays now p ts later → Plays now p (.take ok x :: ts) later

/-! ## A transport that stalls -/

/-- An RPC with one response never ends; a stream may be opened, and have less than `m`
    responses or `m`, and neither more of them nor an end. Writes may do anything. -/
structure Stalls (m : Nat) : Prop where
  single : ∀ s, K.single s = none
  opening : ∀ s, K.opening s = none ∨ K.opening s = some (.ok ())
  item : ∀ j s, K.item j s = none ∨ j < m ∧ ∃ i, K.item j s = some (some (.ok i))

variable {K} {m : Nat}

/-- The loop of a drain does not end. -/
theorem Stalls.skims (hK : K.Stalls m) {now : Instant} {n : Nat} {o : Option (Except GrpcStatus Unit)}
    (h : K.Skims now n o) : o = none := by
  induction h with
  | pending _ => rfl
  | skips _ _ _ ih => exact ih
  | @atEnd n s _ hi => rcases hK.item n s with hn | ⟨-, i, hn⟩ <;> cases hi.symm.trans hn
  | @broken n s e _ hi => rcases hK.item n s with hn | ⟨-, i, hn⟩ <;> cases hi.symm.trans hn

/-- However many responses there are, a drain has them all and is pending then. -/
theorem Stalls.skims_pending (hK : K.Stalls m) (now : Instant) (n : Nat) : K.Skims now n none := by
  generalize hd : m - n = d
  induction d generalizing n with
  | zero =>
    rcases hK.item n now with hn | ⟨hlt, -⟩
    · exact .pending hn
    · omega
  | succ d ih =>
    rcases hK.item n now with hn | ⟨hlt, i, hi⟩
    · exact .pending hn
    · exact .skips (Nat.le_refl now) hi (ih (n + 1) (by omega))

/-- What a stream that opens late, or not, comes to. -/
theorem Stalls.opened (hK : K.Stalls m) {d : Option Instant} {s : Instant} {r : Except GrpcStatus Unit}
    (h : within d s (.error .deadlineExceeded) (K.opening s) = some r) : r = .ok () ∨ r = .error .deadlineExceeded := by
  rcases hK.opening s with ho | ho
  · rw [ho] at h
    exact .inr (within_pending h)
  · rw [ho] at h
    cases h
    exact .inl rfl

/-- Nor does a drain, but for the deadline. -/
theorem Stalls.drained (hK : K.Stalls m) {t : Option Instant} {now : Instant} {p : Place} {ok : Bool} {x : Payload I}
    (h : K.Brings now p (.drain t) ok x) : ok = true ∧ x = .closed (.error .deadlineExceeded) := by
  cases h with
  | unopened _ _ hr =>
    rcases hK.opened hr with he | he
    · cases he
    · cases he
      exact ⟨rfl, rfl⟩
  | drained _ _ _ hs hr =>
    obtain rfl := hK.skims hs
    cases within_pending hr
    exact ⟨rfl, rfl⟩

end Clocked

/-- The operation is under the deadline, itself and through the body that it joins. -/
def Op.under (body : Option Instant) (d : Instant) : Op I I → Prop
  | .exchange ctx _ | .openStream ctx _ => ctx.deadline = some d
  | .write t _ | .read t => t = some d
  | .drain t => t = some d ∧ body = some d
  | .join | .joinStream => body = some d
  | .settled _ _ => True

namespace Clocked

variable {K : Clocked I} {m : Nat} {d : Instant}

/-- Once the deadline has passed, whatever is under it comes back. -/
theorem brings_late (hK : K.Stalls m) {now : Instant} (hn : d ≤ now) (p : Place) {op : Op I I}
    (ho : op.under K.body d) : ∃ ok x, K.Brings now p op ok x := by
  cases op with
  | settled ok x => exact ⟨ok, x, .settled ok x⟩
  | exchange ctx q =>
    obtain ⟨r, hr⟩ := within_late hn (.error .deadlineExceeded) (K.single now)
    exact ⟨_, _, .exchanged ctx q (by rw [show ctx.deadline = some d from ho]; exact hr)⟩
  | openStream ctx q =>
    obtain ⟨r, hr⟩ := within_late hn (.error .deadlineExceeded) (K.opening now)
    exact ⟨_, _, .opened ctx q (by rw [show ctx.deadline = some d from ho]; exact hr)⟩
  | write t q =>
    obtain rfl : t = some d := ho
    obtain ⟨b, hr⟩ := within_late hn false (K.write p.writes now)
    exact ⟨_, _, .written _ q hr⟩
  | join =>
    obtain ⟨r, hr⟩ := within_late hn (.error .deadlineExceeded) (K.single now)
    exact ⟨_, _, .joined (Nat.le_refl now) (by rw [show K.body = some d from ho]; exact hr)⟩
  | joinStream =>
    obtain ⟨r, hr⟩ := within_late hn (.error .deadlineExceeded) (K.opening now)
    exact ⟨_, _, .joinedStream (Nat.le_refl now) (by rw [show K.body = some d from ho]; exact hr)⟩
  | read t =>
    obtain rfl : t = some d := ho
    obtain ⟨i, hr⟩ := within_late hn (some (.error .deadlineExceeded)) (K.item p.reads now)
    exact ⟨_, _, .item _ hr⟩
  | drain t =>
    obtain ⟨rfl, hb⟩ := ho
    obtain ⟨r, hr⟩ := within_late hn (.error .deadlineExceeded) (K.opening now)
    rw [← hb] at hr
    cases r with
    | error e => exact ⟨_, _, .unopened _ (Nat.le_refl now) hr⟩
    | ok u =>
      obtain ⟨r', hr'⟩ := within_late hn (.error .deadlineExceeded) (none : Option (Except GrpcStatus Unit))
      exact ⟨_, _, .drained _ (Nat.le_refl now) hr (hK.skims_pending now 0) hr'⟩

/-- A stalling transport and its clock as what stands behind a call: whatever is under the
    deadline comes back, at the latest when it has passed, and the clock may run on then. -/
def Stalls.backing (hK : K.Stalls m) (d : Instant) : Backing I (Instant × Place) where
  brings s op ok x s' := (∃ polled, s.1 ≤ polled ∧ polled ≤ s'.1 ∧ K.Brings polled s.2 op ok x) ∧ s'.2 = s.2.after op
  loses _ _ := False
  awaits _ op := op.under K.body d
  answers := by
    rintro ⟨now, p⟩ op ho
    obtain ⟨ok, x, h⟩ := brings_late hK (Nat.le_max_right now d) p ho
    exact ⟨ok, x, (max now d, p.after op), ⟨max now d, Nat.le_max_left now d, Nat.le_refl _, h⟩, rfl⟩
  kept _ h := h

/-- Nothing of that need be waited for once the deadline has passed. -/
theorem Stalls.in_time (hK : K.Stalls m) {late : Instant} (hd : d ≤ late) {s : Instant × Place} {op : Op I I}
    (hs : s.1 ≤ late) (ha : (hK.backing d).awaits s op) :
    ∃ ok x s', (hK.backing d).brings s op ok x s' ∧ s'.1 ≤ late := by
  obtain ⟨ok, x, h⟩ := brings_late hK hd s.2 ha
  exact ⟨ok, x, (late, s.2.after op), ⟨⟨late, hs, Nat.le_refl _, h⟩, rfl⟩, Nat.le_refl _⟩

theorem carries (hK : K.Stalls m) (d : Instant) {now later : Instant} {p : Place} {ts : List (Touch I I C)}
    (h : K.Plays now p ts later) :
    ∃ last, last ≤ later ∧ (hK.backing d).Carries (now, p) ts (last, ts.foldl Place.past p) := by
  induction h with
  | @nil now later p hl => exact ⟨now, hl, .nil _⟩
  | back hs hbr _ ih =>
    obtain ⟨last, hl, hc⟩ := ih
    exact ⟨last, hl, .cons ⟨⟨_, hs, Nat.le_refl _, hbr⟩, rfl⟩ hc⟩
  | start ctx l cb _ ih =>
    obtain ⟨last, hl, hc⟩ := ih
    exact ⟨last, hl, .cons rfl hc⟩
  | cancel _ ih =>
    obtain ⟨last, hl, hc⟩ := ih
    exact ⟨last, hl, .cons rfl hc⟩
  | take ok x _ ih =>
    obtain ⟨last, hl, hc⟩ := ih
    exact ⟨last, hl, .cons rfl hc⟩

section

variable {before now later after : Instant} {p : Place} {ts ts' : List (Touch I I C)}

theorem Plays.widen (h : K.Plays now p ts later) (hb : before ≤ now) (ha : later ≤ after) :
    K.Plays before p ts after := by
  induction h generalizing before with
  | nil p hl => exact .nil p (Nat.le_trans hb (Nat.le_trans hl ha))
  | back hs hbr _ ih => exact .back (Nat.le_trans hb hs) hbr (ih (Nat.le_refl _) ha)
  | start ctx l cb _ ih => exact .start ctx l cb (ih hb ha)
  | cancel _ ih => exact .cancel (ih hb ha)
  | take ok x _ ih => exact .take ok x (ih hb ha)

theorem Plays.append (h : K.Plays before p ts now) (h' : K.Plays now (ts.foldl Place.past p) ts' later) :
    K.Plays before p (ts ++ ts') later := by
  induction h with
  | nil p hl => exact h'.widen hl (Nat.le_refl _)
  | back hs hbr _ ih => exact .back hs hbr (ih h')
  | start ctx l cb _ ih => exact .start ctx l cb (ih h')
  | cancel _ ih => exact .cancel (ih h')
  | take ok x _ ih => exact .take ok x (ih h')

/-- What the backing carries can happen on the clock. -/
theorem plays_of_carries (hK : K.Stalls m) {s s' : Instant × Place} (h : (hK.backing d).Carries s ts s') :
    K.Plays s.1 s.2 ts s'.1 := by
  induction h with
  | nil s => exact .nil s.2 (Nat.le_refl _)
  | @cons s s₁ s' t ts ht _ ih =>
    cases t with
    | back op ok x =>
      obtain ⟨⟨polled, h₁, h₂, hb⟩, hs⟩ := ht
      rw [hs] at ih
      exact .back h₁ hb (ih.widen h₂ (Nat.le_refl _))
    | lost op => exact ht.1.elim
    | start ctx l cb => obtain rfl : s₁ = s := ht; exact .start ctx l cb ih
    | cancel => obtain rfl : s₁ = s := ht; exact .cancel ih
    | take ok x => obtain rfl : s₁ = s := ht; exact .take ok x ih

end

variable {hK : K.Stalls m} {cb : C} {G : List (Op I I) → Except GrpcStatus (Answer I) → Prop} {now later : Instant}
  {p : Place}

/-- A call that is sure of its callback is so at any later time. -/
theorem sure_later {done : List (Op I I)} {mc : Machine I I C} {op : Op I I}
    (h : (hK.backing d).Sure cb G done mc op (now, p)) (hl : now ≤ later) :
    (hK.backing d).Sure cb G done mc op (later, p) := by
  cases h with
  | intro ha he hg =>
    have back {ok : Bool} {x : Payload I} {s' : Instant × Place} (hb : (hK.backing d).brings (later, p) op ok x s') :
        (hK.backing d).brings (now, p) op ok x s' := by
      obtain ⟨⟨polled, h₁, h₂, hb⟩, hs⟩ := hb
      exact ⟨⟨polled, Nat.le_trans hl h₁, h₂, hb⟩, hs⟩
    exact .intro ha (fun ok x s' hb => he ok x s' (back hb)) fun ok x s' m' op' hb => hg ok x s' m' op' (back hb)

theorem onWay_later {r : Round I I C} {n : Nat} (h : r.OnWay (hK.backing d) cb G n (now, p)) (hl : now ≤ later) :
    r.OnWay (hK.backing d) cb G n (later, p) := by
  generalize hs : (now, p) = s at h
  cases h with
  | underway hn hu hp hsure =>
    subst hs
    exact .underway hn hu hp (sure_later hsure hl)
  | due hn hd hp hb hsure =>
    subst hs
    obtain ⟨⟨polled, h₁, h₂, hb⟩, hs⟩ := hb
    exact .due hn hd hp ⟨⟨polled, h₁, Nat.le_trans h₂ hl, hb⟩, hs⟩ hsure
  | answered _ hn ha hp hG => exact .answered _ hn ha hp hG

end Clocked

/-! ## How a call comes to the deadline's error -/

/-- A call over this many operations, at the most, is given the deadline's error. -/
def Overdue (n : Nat) (ops : List (Op I I)) (a : Except GrpcStatus (Answer I)) : Prop :=
  ops.length ≤ n ∧ a = .error .deadlineExceeded

theorem Overdue.of_append {done : List (Op I I)} {op : Op I I} {n : Nat} (h : done.length + 1 ≤ n) :
    Overdue n (done ++ [op]) (.error .deadlineExceeded) :=
  ⟨by rwa [List.length_append], rfl⟩

section

variable {K : Clocked I} {m n : Nat} {d : Instant} {cb : C} {done : List (Op I I)} {s : Instant × Place}

namespace Listener

variable {opening : Machine I I C} {reading ended : List I → Machine I I C}

theorem sure_late (hK : K.Stalls m) (hl : Listener cb (some d) opening reading ended) (is : List I)
    (hn : done.length + 1 ≤ n) :
    (hK.backing d).Sure cb (Overdue n) done (ended is) (.settled true (.closed (.error .deadlineExceeded))) s := by
  refine .last trivial ?_
  rintro ok x s' ⟨⟨now, -, -, hb⟩, -⟩
  cases hb
  exact ⟨_, hl.answer is true _, hl.silent is true _, .of_append hn⟩

/-- Each of the responses there are is read once, and one read fails. -/
theorem sure_reading_late (hK : K.Stalls m) (hl : Listener cb (some d) opening reading ended) (is : List I)
    (hn : done.length + (m - s.2.reads) + 2 ≤ n) :
    (hK.backing d).Sure cb (Overdue n) done (reading is) (.read (some d)) s := by
  generalize hj : m - s.2.reads = j at hn
  induction j generalizing done is s with
  | zero =>
    refine .next rfl ?_
    rintro ok x s' ⟨⟨now, -, -, hb⟩, -⟩
    cases hb with
    | @item i _ hi =>
      rcases hK.item s.2.reads now with hp | ⟨hlt, -⟩
      · rw [hp] at hi
        cases within_pending hi
        exact ⟨_, _, hl.broken is _ _, hl.sure_late hK is (by rw [List.length_append]; exact hn)⟩
      · omega
  | succ j ih =>
    refine .next rfl ?_
    rintro ok x s' ⟨⟨now, -, -, hb⟩, hs⟩
    cases hb with
    | @item i _ hi =>
      rcases hK.item s.2.reads now with hp | ⟨hlt, a, hp⟩
      · rw [hp] at hi
        cases within_pending hi
        refine ⟨_, _, hl.broken is _ _, hl.sure_late hK is ?_⟩
        rw [List.length_append, List.length_singleton]
        omega
      · rw [hp] at hi
        cases hi
        refine ⟨_, _, hl.item is a _, ih (is ++ [a]) ?_ ?_⟩
        · rw [hs]
          show m - (s.2.reads + 1) = j
          omega
        · rw [List.length_append, List.length_singleton]
          omega

/-- From the operation on that waits for the stream to open. -/
theorem sure_opening_late (hK : K.Stalls m) (hl : Listener cb (some d) opening reading ended) {op : Op I I}
    (ha : op.under K.body d)
    (hop : ∀ {now ok x}, K.Brings now s.2 op ok x → ∃ r, x = .opened r ∧ (r = .ok () ∨ r = .error .deadlineExceeded))
    (hp : (s.2.after op).reads = 0) (hn : done.length + m + 3 ≤ n) :
    (hK.backing d).Sure cb (Overdue n) done opening op s := by
  refine .next ha ?_
  rintro ok x s' ⟨⟨now, -, -, hb⟩, hs⟩
  obtain ⟨r, rfl, rfl | rfl⟩ := hop hb
  · refine ⟨_, _, hl.opened ok, hl.sure_reading_late hK [] ?_⟩
    rw [hs, hp, List.length_append, List.length_singleton]
    omega
  · refine ⟨_, _, hl.refused ok _, hl.sure_late hK [] ?_⟩
    rw [List.length_append, List.length_singleton]
    omega

end Listener

/-- The requests are written until a write fails or none is left. -/
theorem Author.sure_late {writing : Bool → List I → Machine I I C} {closed givenUp : Machine I I C} {last op : Op I I}
    {qs : List I} {b : Bool} {c : Nat} (hK : K.Stalls m) (hw : Author (some d) writing closed givenUp last)
    (hb : b = true → qs = []) (ha : op.under K.body d) (hp : (s.2.after op).reads = 0)
    (hc : ∀ {done : List (Op I I)} {s : Instant × Place}, done.length ≤ c → s.2.reads = 0 →
      (hK.backing d).Sure cb (Overdue n) done closed (.nudge true) s)
    (hg : ∀ {done : List (Op I I)} {s : Instant × Place}, done.length ≤ c → s.2.reads = 0 →
      (hK.backing d).Sure cb (Overdue n) done givenUp last s)
    (hn : done.length + qs.length + 1 ≤ c) :
    (hK.backing d).Sure cb (Overdue n) done (writing b qs) op s := by
  induction qs generalizing b op s done with
  | nil =>
    have hlen : (done ++ [op]).length ≤ c := by rwa [List.length_append]
    refine .next ha ?_
    rintro ok x s' ⟨-, hs⟩
    rw [← hs] at hp
    cases ok with
    | true => exact ⟨_, _, hw.close b x, hc hlen hp⟩
    | false => exact ⟨_, _, hw.fail b [] x, hg hlen hp⟩
  | cons q qs ih =>
    obtain rfl : b = false := by
      cases b with
      | false => rfl
      | true => cases hb rfl
    rw [List.length_cons] at hn
    refine .next ha ?_
    rintro ok x s' ⟨-, hs⟩
    rw [← hs] at hp
    cases ok with
    | true =>
      refine ⟨_, _, hw.next q qs x, ih List.isEmpty_iff.mp rfl hp ?_⟩
      rw [List.length_append, List.length_singleton]
      omega
    | false =>
      refine ⟨_, _, hw.fail false (q :: qs) x, hg ?_ hp⟩
      rw [List.length_append, List.length_singleton]
      omega

end

/-- The operations of a call whose stream has so many responses, at the most. -/
def Launch.most (m : Nat) : Launch I → Nat
  | .unary _ => 1
  | .requestStream qs => qs.length + 3
  | .responseStream _ => m + 3
  | .bidi qs => qs.length + m + 5

namespace Clocked

variable {K : Clocked I} {m : Nat} {d : Instant} {ctx : Context} {cb : C}

/-- Over a transport that stalls, a call of any kind comes to the deadline's error. -/
theorem sure_begun (hK : K.Stalls m) (l : Launch I) (hd : ctx.deadline = some d)
    (hb : l.writes = true → K.body = some d) (now : Instant) :
    (hK.backing d).Sure cb (Overdue (l.most m)) [] (l.begun ctx cb) (l.first ctx) (now, {}) := by
  cases l with
  | unary q =>
    refine .last hd ?_
    rintro ok x s' ⟨⟨now, -, -, hbr⟩, -⟩
    cases hbr with
    | exchanged _ _ hr =>
      rw [hK.single] at hr
      cases within_pending hr
      exact ⟨_, rfl, rfl, .of_append (Nat.le_refl 1)⟩
  | responseStream q =>
    have hl := ResponseStreamCall.listens (I := I) cb ctx.deadline
    rw [hd] at hl
    show (hK.backing d).Sure cb _ [] (.responseStream (.reading cb ctx.deadline .startRead [])) _ _
    rw [hd]
    refine hl.sure_opening_late hK hd ?_ rfl ?_
    · intro now ok x hbr
      cases hbr with
      | opened _ _ hr => exact ⟨_, rfl, hK.opened hr⟩
    · simp [Launch.most]
  | requestStream qs =>
    have hw := RequestStreamCall.authors (I := I) cb ctx.deadline
    show (hK.backing d).Sure cb _ [] (.requestStream (.writing cb ctx.deadline false qs)) (.nudge true) _
    rw [hd] at hw ⊢
    have hjoin {done : List (Op I I)} {s : Instant × Place} (hn : done.length ≤ qs.length + 2) :
        (hK.backing d).Sure cb (Overdue (qs.length + 3)) done (.requestStream (.awaiting cb (some d))) .join s := by
      refine .last (hb rfl) ?_
      rintro ok x s' ⟨⟨now, -, -, hbr⟩, -⟩
      cases hbr with
      | joined _ hr =>
        rw [hK.single] at hr
        cases within_pending hr
        exact ⟨_, rfl, rfl, .of_append (Nat.succ_le_succ hn)⟩
    refine hw.sure_late (c := qs.length + 1) hK nofun trivial rfl (fun hn hp => ?_) (fun hn _ => hjoin (by omega))
      (by simp)
    refine .next trivial ?_
    rintro ok x s' -
    exact ⟨_, _, ⟨rfl, rfl⟩, hjoin (by rw [List.length_append]; exact Nat.succ_le_succ hn)⟩
  | bidi qs =>
    have hw := BidiCall.authors (I := I) cb ctx.deadline
    have hl := BidiCall.listens (I := I) cb ctx.deadline
    show (hK.backing d).Sure cb _ [] (.bidi (.writing cb ctx.deadline false qs)) (.nudge true) _
    rw [hd] at hw hl ⊢
    refine hw.sure_late (c := qs.length + 1) hK nofun trivial rfl (fun hn hp => ?_) (fun hn _ => ?_) (by simp)
    · refine .next trivial ?_
      rintro ok x s' ⟨-, hs⟩
      refine ⟨_, _, ⟨rfl, rfl⟩, hl.sure_opening_late hK (hb rfl) ?_ ?_ ?_⟩
      · intro now ok x hbr
        cases hbr with
        | joinedStream _ hr => exact ⟨_, rfl, hK.opened hr⟩
      · rw [hs]
        exact hp
      · rw [List.length_append, List.length_singleton]
        show _ ≤ qs.length + m + 5
        omega
    · -- the writing is given up, and the drain comes to nothing
      refine .last ⟨rfl, hb rfl⟩ ?_
      rintro ok x s' ⟨⟨now, -, -, hbr⟩, -⟩
      obtain ⟨rfl, rfl⟩ := hK.drained hbr
      refine ⟨_, rfl, rfl, .of_append ?_⟩
      show _ ≤ qs.length + m + 5
      omega

end Clocked

end CallPump
