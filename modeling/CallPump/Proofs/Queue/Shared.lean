/-
  CallPump.Proofs.Queue.Shared — the completion queue between threads.

  Threads without number post operations, wait for completions and shut the queue down. They
  share a flag, the operations in flight, a channel, and its one receiver, which whoever takes
  from the channel holds. A step is what happens to these at once:
  - a post is one: nothing of what follows its look at the flag is seen by another thread;
  - so is the end of an operation, from its look for the signal to its queued completion;
  - a wait (`Next`) takes the receiver and looks at the flag. Then it drains the channel,
    parcel by parcel, or waits at it until its deadline, and looks again when it was woken;
  - a shutdown (`Close`) raises the flag, gives the signal that ends what is in flight, and
    sends a parcel that wakes whoever waits. Who finds the flag raised has nothing to do.

  - `SharedQueue.Step`: the steps of the threads, and those of no thread.
  - `SharedQueue.Sound`: who holds the receiver, how far the shutdown is, and why nobody is
    left waiting. It holds in every run (`Run.sound`).
  - `SharedQueue.view_finish`, `SharedQueue.shutdown_alone`, `SharedQueue.Sound.next_open`,
    `SharedQueue.Sound.answered_holding`: what nobody disturbs comes to the queue's own
    functions. A post is written with its own.
-/

import CallPump.Proofs.Queue
import CallPump.Context

namespace CallPump

variable {O P : Type}

/-- What goes through the channel. -/
inductive Parcel (P : Type) where
  | completion (c : Completion P)
  /-- It says nothing, and whoever takes it looks at the flag. -/
  | wake

def Parcel.completion? : Parcel P → Option (Completion P)
  | .completion c => some c
  | .wake => none

/-- Where a thread is in the queue's functions. -/
inductive Standing where
  | away
  /-- It wants the receiver. -/
  | asking (timeout : Span)
  | entered (timeout : Span)
  | waiting (deadline : Instant)
  | woken (deadline : Instant)
  | draining
  /-- It has raised the flag. -/
  | signalling
  | waking

namespace Standing

/-- It has the receiver. -/
def holds : Standing → Bool
  | .entered _ | .waiting _ | .woken _ | .draining => true
  | .away | .asking _ | .signalling | .waking => false

/-- It found the flag down, and waits for a parcel. -/
def waits : Standing → Bool
  | .waiting _ | .woken _ => true
  | .away | .asking _ | .entered _ | .draining | .signalling | .waking => false

/-- It is where a wait comes only when the flag is raised. -/
def knows : Standing → Bool
  | .woken _ | .draining => true
  | .away | .asking _ | .entered _ | .waiting _ | .signalling | .waking => false

/-- It is doing the shutdown. -/
def closes : Standing → Bool
  | .signalling | .waking => true
  | .away | .asking _ | .entered _ | .waiting _ | .woken _ | .draining => false

end Standing

/-- How an operation ended. -/
structure Ending (P : Type) where
  ticket : Nat
  ok : Bool
  payload : P

/-- What is remembered of the steps. -/
inductive Mark (O P : Type) where
  | posted (o : Posted O)
  | refused (tag : CallId)
  | finished (x : Ending P)
  | gaveUp (ticket : Nat)
  | answered (thread : Nat) (e : QueueEvent P)
  | faulted (thread : Nat)
  | shut (thread : Nat)

structure SharedQueue (O P : Type) where
  now : Instant := 0
  /-- The flag. -/
  closed : Bool := false
  issued : Nat := 0
  inFlight : List (Posted O) := []
  channel : List (Parcel P) := []
  /-- The thread that has the receiver. -/
  receiver : Option Nat := none
  standing : Nat → Standing := fun _ => .away

namespace SharedQueue

/-- The queue, without what is there to wake a thread. -/
def view (s : SharedQueue O P) : Queue O P :=
  { closed := s.closed, issued := s.issued, inFlight := s.inFlight, ready := s.channel.filterMap Parcel.completion? }

/-- All but the channel is as the queue has it. -/
def adopt (s : SharedQueue O P) (q : Queue O P) : SharedQueue O P :=
  { s with closed := q.closed, issued := q.issued, inFlight := q.inFlight }

def put (s : SharedQueue O P) (k : Nat) (st : Standing) : SharedQueue O P :=
  { s with standing := fun j => if j = k then st else s.standing j }

/-- A thread goes away with what it took and leaves the rest, and the receiver. -/
def leave (s : SharedQueue O P) (k : Nat) (rest : List (Parcel P)) : SharedQueue O P :=
  { s.put k .away with channel := rest, receiver := none }

/-- The steps of a wait. -/
inductive Next (k : Nat) : SharedQueue O P → List (Mark O P) → SharedQueue O P → Prop
  | ask {s : SharedQueue O P} {t : Span} : s.standing k = .away → Next k s [] (s.put k (.asking t))
  | enter {s : SharedQueue O P} {t : Span} : s.standing k = .asking t → s.receiver = none →
      Next k s [] { s.put k (.entered t) with receiver := some k }
  | drain {s : SharedQueue O P} {t : Span} : s.standing k = .entered t → s.closed = true →
      Next k s [] (s.put k .draining)
  | wait {s : SharedQueue O P} {t : Span} {d : Instant} : s.standing k = .entered t → s.closed = false →
      s.now.add? t = some d → Next k s [] (s.put k (.waiting d))
  | fault {s : SharedQueue O P} {t : Span} : s.standing k = .entered t → s.closed = false →
      s.now.add? t = none → Next k s [.faulted k] (s.leave k s.channel)
  | take {s : SharedQueue O P} {d : Instant} {c : Completion P} {rest : List (Parcel P)} : s.standing k = .waiting d →
      s.channel = .completion c :: rest → Next k s [.answered k (.ready c)] (s.leave k rest)
  | wakeUp {s : SharedQueue O P} {d : Instant} {rest : List (Parcel P)} : s.standing k = .waiting d →
      s.channel = .wake :: rest → Next k s [] { s.put k (.woken d) with channel := rest }
  | sleepOn {s : SharedQueue O P} {d : Instant} : s.standing k = .woken d → s.closed = false →
      Next k s [] (s.put k (.waiting d))
  | rise {s : SharedQueue O P} {d : Instant} : s.standing k = .woken d → s.closed = true →
      Next k s [] (s.put k .draining)
  | timeOut {s : SharedQueue O P} {d : Instant} : s.standing k = .waiting d → s.channel = [] → d ≤ s.now →
      Next k s [.answered k .timeout] (s.leave k [])
  | takeLeft {s : SharedQueue O P} {c : Completion P} {rest : List (Parcel P)} : s.standing k = .draining →
      s.channel = .completion c :: rest → Next k s [.answered k (.ready c)] (s.leave k rest)
  | skip {s : SharedQueue O P} {rest : List (Parcel P)} : s.standing k = .draining → s.channel = .wake :: rest →
      Next k s [] { s with channel := rest }
  | nothingLeft {s : SharedQueue O P} : s.standing k = .draining → s.channel = [] →
      Next k s [.answered k .shutdown] (s.leave k [])

/-- The steps of a shutdown. -/
inductive Close (k : Nat) : SharedQueue O P → List (Mark O P) → SharedQueue O P → Prop
  | already {s : SharedQueue O P} : s.standing k = .away → s.closed = true → Close k s [] s
  | raise {s : SharedQueue O P} : s.standing k = .away → s.closed = false →
      Close k s [] { s.put k .signalling with closed := true }
  | signal {s : SharedQueue O P} : s.standing k = .signalling →
      Close k s (s.inFlight.map fun o => .gaveUp o.ticket) ((s.adopt s.view.shutdown).put k .waking)
  | wake {s : SharedQueue O P} : s.standing k = .waking →
      Close k s [.shut k] { s.put k .away with channel := s.channel ++ [.wake] }

/-- The steps of a thread. -/
inductive Act (k : Nat) : SharedQueue O P → List (Mark O P) → SharedQueue O P → Prop
  | refuse {s : SharedQueue O P} {tag : CallId} (op : O) : s.standing k = .away → s.view.post tag op = none →
      Act k s [.refused tag] s
  | post {s : SharedQueue O P} {tag : CallId} {op : O} {t : Nat} {q : Queue O P} : s.standing k = .away →
      s.view.post tag op = some (t, q) → Act k s [.posted ⟨t, tag, op⟩] (s.adopt q)
  | next {s t : SharedQueue O P} {ms : List (Mark O P)} : Next k s ms t → Act k s ms t
  | close {s t : SharedQueue O P} {ms : List (Mark O P)} : Close k s ms t → Act k s ms t

/-- What happens without a thread. An operation can be given up at any time, for its own
    reasons; and time goes by. -/
inductive Env : SharedQueue O P → List (Mark O P) → SharedQueue O P → Prop
  | finish {s : SharedQueue O P} {t : Nat} {o : Posted O} (ok : Bool) (p : P) : s.view.find? t = some o →
      Env s [.finished ⟨t, ok, p⟩]
        { s.adopt (s.view.abandon t) with channel := s.channel ++ [.completion ⟨o.tag, ok, p⟩] }
  | giveUp {s : SharedQueue O P} {t : Nat} {o : Posted O} : s.view.find? t = some o →
      Env s [.gaveUp t] (s.adopt (s.view.abandon t))
  | tick {s : SharedQueue O P} (n : Nat) : Env s [] { s with now := s.now + n }

inductive Step : SharedQueue O P → List (Mark O P) → SharedQueue O P → Prop
  | act {s t : SharedQueue O P} {ms : List (Mark O P)} (k : Nat) : Act k s ms t → Step s ms t
  | env {s t : SharedQueue O P} {ms : List (Mark O P)} : Env s ms t → Step s ms t

/-- Some steps, and what is remembered of them. -/
inductive Steps (R : SharedQueue O P → List (Mark O P) → SharedQueue O P → Prop) :
    SharedQueue O P → List (Mark O P) → SharedQueue O P → Prop
  | none (s : SharedQueue O P) : Steps R s [] s
  | more {s t u : SharedQueue O P} {ms ns : List (Mark O P)} : Steps R s ms t → R t ns u → Steps R s (ms ++ ns) u

/-- All threads have a part in it. -/
abbrev Run : SharedQueue O P → List (Mark O P) → SharedQueue O P → Prop := Steps Step

/-- Nobody but one thread does anything, and no time goes by. -/
abbrev Alone (k : Nat) : SharedQueue O P → List (Mark O P) → SharedQueue O P → Prop := Steps (Act k)

section

variable {R : SharedQueue O P → List (Mark O P) → SharedQueue O P → Prop} {s t u : SharedQueue O P}
  {ms ns : List (Mark O P)}

theorem Steps.one (h : R s ms t) : Steps R s ms t := (Steps.none s).more h

theorem Steps.trans (h : Steps R s ms t) (h' : Steps R t ns u) : Steps R s (ms ++ ns) u := by
  induction h' with
  | none => rw [List.append_nil]; exact h
  | more _ hr ih => rw [← List.append_assoc]; exact ih.more hr

theorem Steps.after (h : R s ms t) (h' : Steps R t ns u) : Steps R s (ms ++ ns) u := (Steps.one h).trans h'

end

/-! ## What a step leaves as it was -/

section

variable {s t : SharedQueue O P} {ms : List (Mark O P)} {j k : Nat}

theorem put_self (s : SharedQueue O P) (k : Nat) (st : Standing) : (s.put k st).standing k = st := if_pos rfl

theorem put_other (s : SharedQueue O P) {j k : Nat} (st : Standing) (h : j ≠ k) :
    (s.put k st).standing j = s.standing j := if_neg h

theorem view_post_some {tag : CallId} {op : O} {n : Nat} {q : Queue O P} (h : s.view.post tag op = some (n, q)) :
    s.closed = false ∧ n = s.issued ∧
      q = { s.view with issued := s.issued + 1, inFlight := s.inFlight ++ [⟨s.issued, tag, op⟩] } := by
  rw [Queue.post] at h
  split at h
  · cases h
  · rename_i hc
    cases h
    exact ⟨Bool.eq_false_iff.mpr hc, rfl, rfl⟩

theorem Next.others (h : Next k s ms t) (hj : j ≠ k) : t.standing j = s.standing j := by
  cases h with
  | skip => rfl
  | _ => exact put_other s _ hj

theorem Next.frame (h : Next k s ms t) :
    t.closed = s.closed ∧ t.issued = s.issued ∧ t.inFlight = s.inFlight := by
  cases h <;> exact ⟨rfl, rfl, rfl⟩

/-- A wait is not a shutdown. -/
theorem Next.closes (h : Next k s ms t) : (s.standing k).closes = false ∧ (t.standing k).closes = false := by
  cases h with
  | skip hk => exact ⟨by rw [hk]; rfl, by rw [show _ = _ from hk]; rfl⟩
  | _ hk => exact ⟨by rw [hk]; rfl, congrArg Standing.closes (put_self s k _)⟩

theorem Close.others (h : Close k s ms t) (hj : j ≠ k) : t.standing j = s.standing j := by
  cases h with
  | already => rfl
  | _ => exact put_other _ _ hj

theorem Act.others (h : Act k s ms t) (hj : j ≠ k) : t.standing j = s.standing j := by
  cases h with
  | refuse | post => rfl
  | next h => exact h.others hj
  | close h => exact h.others hj

/-- The flag is never taken down. -/
theorem Step.closed (h : Step s ms t) (hc : s.closed = true) : t.closed = true := by
  cases h with
  | act k h =>
    cases h with
    | refuse => exact hc
    | post _ hq => exact absurd hc (by rw [(view_post_some hq).1]; simp)
    | next h => exact h.frame.1.trans hc
    | close h =>
      cases h with
      | already | wake => exact hc
      | raise | signal => rfl
  | env h => cases h <;> exact hc

end

/-! ## What holds of every run -/

/-- Somebody is doing the shutdown. -/
def Closing (s : SharedQueue O P) : Prop := ∃ k, (s.standing k).closes = true

/-- The shutdown is done. -/
def Shut (s : SharedQueue O P) : Prop := s.closed = true ∧ ¬ s.Closing

/-- Nobody but one thread is doing the shutdown. -/
def Lone (s : SharedQueue O P) (k : Nat) : Prop := ∀ j, j ≠ k → (s.standing j).closes = false

/-- How far the shutdown is. -/
inductive Progress (s : SharedQueue O P) : Prop
  | before : s.closed = false → ¬ s.Closing → Progress s
  | signalling (k : Nat) : s.closed = true → s.standing k = .signalling → s.Lone k → Progress s
  | waking (k : Nat) : s.closed = true → s.inFlight = [] → s.standing k = .waking → s.Lone k → Progress s
  /-- Who still waits has a parcel to take. -/
  | done : s.Shut → s.inFlight = [] → (∀ k d, s.standing k = .waiting d → Parcel.wake ∈ s.channel) → Progress s

structure Sound (s : SharedQueue O P) : Prop where
  holder : ∀ k, (s.standing k).holds = true ↔ s.receiver = some k
  known : ∀ k, (s.standing k).knows = true → s.closed = true
  wakes : Parcel.wake ∈ s.channel → s.closed = true
  progress : Progress s

theorem sound_begin : Sound ({} : SharedQueue O P) :=
  ⟨by simp [Standing.holds], by simp [Standing.knows], by simp, .before rfl (by simp [Closing, Standing.closes])⟩

section

variable {s t : SharedQueue O P} {ms : List (Mark O P)} {j k : Nat}

theorem Next.standing_closes (h : Next k s ms t) (j : Nat) : (t.standing j).closes = (s.standing j).closes := by
  by_cases hj : j = k
  · subst hj
    rw [h.closes.1, h.closes.2]
  · rw [h.others hj]

theorem Next.closing (h : Next k s ms t) : t.Closing ↔ s.Closing := by simp only [Closing, h.standing_closes]

theorem Next.closer_stays {st : Standing} (h : Next k s ms t) (hj : s.standing j = st) (hc : st.closes = true) :
    t.standing j = st := by
  have other : j ≠ k := by
    rintro rfl
    rw [← hj, h.closes.1] at hc
    cases hc
  rw [h.others other, hj]

/-- A wait touches the channel only with the receiver. -/
theorem Next.channel (h : Next k s ms t) : (s.standing k).holds = true ∨ t.channel = s.channel := by
  cases h with
  | ask | enter => exact .inr rfl
  | _ hk => exact .inl (by rw [hk]; rfl)

theorem Next.waiting {d : Instant} (h : Next k s ms t) (hw : t.standing k = .waiting d) : s.closed = false := by
  cases h with
  | wait _ hc | sleepOn _ hc => exact hc
  | skip hk => exact nomatch hk.symm.trans hw
  | _ => exact nomatch (put_self s k _).symm.trans hw

theorem Next.holder (h : Next k s ms t) (hs : ∀ k, (s.standing k).holds = true ↔ s.receiver = some k) (j : Nat) :
    (t.standing j).holds = true ↔ t.receiver = some j := by
  cases h <;> grind [put, leave, Standing.holds]

theorem Next.known (h : Next k s ms t) (hs : Sound s) (hj : (t.standing j).knows = true) : s.closed = true := by
  by_cases e : j = k
  · subst e
    cases h with
    | drain _ hc | rise _ hc => exact hc
    | wakeUp _ hch => exact hs.wakes (by rw [hch]; exact List.mem_cons_self)
    | skip => exact hs.known j hj
    | _ => exact nomatch (congrArg Standing.knows (put_self s j _)).symm.trans hj
  · rw [h.others e] at hj
    exact hs.known j hj

theorem Next.wakes (h : Next k s ms t) (hw : Parcel.wake ∈ t.channel) : Parcel.wake ∈ s.channel := by
  cases h with
  | take _ hch | wakeUp _ hch | takeLeft _ hch | skip _ hch =>
    rw [hch]
    exact List.mem_cons_of_mem _ hw
  | timeOut | nothingLeft => cases hw
  | _ => exact hw

/-- After the shutdown, whoever still waits had a parcel to take, and nobody but the one with
    the receiver could take it away. -/
theorem Next.roused (h : Next k s ms t) (hs : Sound s) (hc : s.closed = true)
    (hw : ∀ j d, s.standing j = .waiting d → Parcel.wake ∈ s.channel) {d : Instant} (hj : t.standing j = .waiting d) :
    Parcel.wake ∈ t.channel := by
  have other : j ≠ k := by
    rintro rfl
    rw [h.waiting hj] at hc
    cases hc
  rw [h.others other] at hj
  have mine : s.receiver = some j := (hs.holder j).mp (by rw [hj]; rfl)
  rcases h.channel with hk | he
  · exact absurd (Option.some.inj (mine.symm.trans ((hs.holder k).mp hk))) other
  · rw [he]
    exact hw j d hj

theorem Next.progress (h : Next k s ms t) (hs : Sound s) : Progress t := by
  obtain ⟨hc, -, hf⟩ := h.frame
  have lone {i : Nat} (hl : s.Lone i) : t.Lone i := fun j hj => (h.standing_closes j).trans (hl j hj)
  cases hs.progress with
  | before ho hn => exact .before (hc.trans ho) (mt h.closing.mp hn)
  | signalling i ho hi hl => exact .signalling i (hc.trans ho) (h.closer_stays hi rfl) (lone hl)
  | waking i ho he hi hl => exact .waking i (hc.trans ho) (hf.trans he) (h.closer_stays hi rfl) (lone hl)
  | done hd he hw =>
    exact .done ⟨hc.trans hd.1, mt h.closing.mp hd.2⟩ (hf.trans he) fun j d hj => h.roused hs hd.1 hw hj

theorem Sound.next (hs : Sound s) (h : Next k s ms t) : Sound t where
  holder := h.holder hs.holder
  known _ hj := h.frame.1.trans (h.known hs hj)
  wakes hw := h.frame.1.trans (hs.wakes (h.wakes hw))
  progress := h.progress hs

theorem Sound.not_closing (hs : Sound s) (hc : s.closed = false) : ¬ s.Closing := by
  cases hs.progress with
  | before _ hn => exact hn
  | signalling _ ho | waking _ ho => exact nomatch hc.symm.trans ho
  | done hd => exact nomatch hc.symm.trans hd.1

/-- Nobody takes the shutdown over from the one who began it. -/
theorem Sound.alone (hs : Sound s) (hk : (s.standing k).closes = true) :
    s.closed = true ∧ s.Lone k ∧ (s.standing k = .waking → s.inFlight = []) := by
  have one {i : Nat} (hl : s.Lone i) : i = k := by
    refine Decidable.byContradiction fun e => ?_
    rw [hl k (Ne.symm e)] at hk
    cases hk
  cases hs.progress with
  | before _ hn => exact absurd ⟨k, hk⟩ hn
  | signalling i ho hi hl =>
    cases one hl
    exact ⟨ho, hl, fun hw => nomatch hi.symm.trans hw⟩
  | waking i ho he hi hl =>
    cases one hl
    exact ⟨ho, hl, fun _ => he⟩
  | done hd => exact absurd ⟨k, hk⟩ hd.2

end

section

variable {s t : SharedQueue O P} {ms : List (Mark O P)} {k : Nat}

/-- The receiver is where it was when a thread goes from one place without it to another. -/
theorem Sound.put_holder (hs : Sound s) {st : Standing} (hk : (s.standing k).holds = false) (hst : st.holds = false)
    (j : Nat) : ((s.put k st).standing j).holds = true ↔ s.receiver = some j := by
  by_cases hj : j = k
  · subst hj
    rw [put_self, hst, ← hs.holder, hk]
  · rw [put_other s st hj]
    exact hs.holder j

theorem Lone.put {st : Standing} (hl : s.Lone k) : (s.put k st).Lone k := fun j hj => by
  rw [put_other s st hj, hl j hj]

/-- A shutdown is done when its last parcel is sent. -/
theorem Sound.wake_shut (hs : Sound s) (hk : s.standing k = .waking) :
    ({ s.put k .away with channel := s.channel ++ [.wake] } : SharedQueue O P).Shut := by
  obtain ⟨hc, hl, -⟩ := hs.alone (k := k) (by rw [hk]; rfl)
  refine ⟨hc, ?_⟩
  rintro ⟨j, hj⟩
  by_cases e : j = k
  · subst e
    exact nomatch (congrArg Standing.closes (put_self s j _)).symm.trans hj
  · exact nomatch (hl.put j e).symm.trans hj

theorem Sound.close (hs : Sound s) (h : Close k s ms t) : Sound t := by
  cases h with
  | already => exact hs
  | raise hk hc =>
    have lone : s.Lone k := fun j _ => Bool.eq_false_iff.mpr fun hj => hs.not_closing hc ⟨j, hj⟩
    refine ⟨hs.put_holder (by rw [hk]; rfl) rfl, fun _ _ => rfl, fun _ => rfl, ?_⟩
    exact .signalling k rfl (put_self s k _) lone.put
  | signal hk =>
    obtain ⟨-, hl, -⟩ := hs.alone (k := k) (by rw [hk]; rfl)
    refine ⟨hs.put_holder (by rw [hk]; rfl) rfl, fun _ _ => rfl, fun _ => rfl, ?_⟩
    exact .waking k rfl rfl (put_self s k _) hl.put
  | wake hk =>
    obtain ⟨hc, -, hf⟩ := hs.alone (k := k) (by rw [hk]; rfl)
    refine ⟨hs.put_holder (by rw [hk]; rfl) rfl, fun _ _ => hc, fun _ => hc, ?_⟩
    exact .done (hs.wake_shut hk) (hf hk) fun _ _ _ => List.mem_append_right _ List.mem_cons_self

theorem Sound.act (hs : Sound s) (h : Act k s ms t) : Sound t := by
  cases h with
  | refuse => exact hs
  | post _ hq =>
    obtain ⟨hc, -, rfl⟩ := view_post_some hq
    exact ⟨hs.holder, hs.known, hs.wakes, .before hc (hs.not_closing hc)⟩
  | next h => exact hs.next h
  | close h => exact hs.close h

/-- Time, and operations that end, change what is in flight and what is queued. -/
theorem Sound.frame (hs : Sound s) (hc : t.closed = s.closed) (hf : s.inFlight = [] → t.inFlight = [])
    (hst : t.standing = s.standing) (hr : t.receiver = s.receiver)
    (hw : Parcel.wake ∈ t.channel ↔ Parcel.wake ∈ s.channel) : Sound t := by
  have lone {i : Nat} (hl : s.Lone i) : t.Lone i := by rw [Lone, hst]; exact hl
  have nobody (hn : ¬ s.Closing) : ¬ t.Closing := by rw [Closing, hst]; exact hn
  refine ⟨by rw [hst, hr]; exact hs.holder, by rw [hst, hc]; exact hs.known, by rw [hw, hc]; exact hs.wakes, ?_⟩
  cases hs.progress with
  | before ho hn => exact .before (hc.trans ho) (nobody hn)
  | signalling i ho hi hl => exact .signalling i (hc.trans ho) (by rw [hst]; exact hi) (lone hl)
  | waking i ho he hi hl => exact .waking i (hc.trans ho) (hf he) (by rw [hst]; exact hi) (lone hl)
  | done hd he hwt => exact .done ⟨hc.trans hd.1, nobody hd.2⟩ (hf he) (by rw [hst, hw]; exact hwt)

theorem Sound.env (hs : Sound s) (h : Env s ms t) : Sound t := by
  have none (n : Nat) (he : s.inFlight = []) : (s.view.abandon n).inFlight = [] := by rw [Queue.abandon, view, he]; rfl
  cases h with
  | finish => exact hs.frame rfl (none _) rfl rfl (by simp)
  | giveUp => exact hs.frame rfl (none _) rfl rfl Iff.rfl
  | tick => exact hs.frame rfl id rfl rfl Iff.rfl

theorem Sound.step (hs : Sound s) (h : Step s ms t) : Sound t := by
  cases h with
  | act k h => exact hs.act h
  | env h => exact hs.env h

theorem Run.sound (h : Run s ms t) (hs : Sound s) : Sound t := by
  induction h with
  | none => exact hs
  | more _ hr ih => exact ih.step hr

theorem Sound.after (hs : Sound s) (hd : s.Shut) :
    s.inFlight = [] ∧ ∀ k d, s.standing k = .waiting d → Parcel.wake ∈ s.channel := by
  cases hs.progress with
  | before ho => exact nomatch ho.symm.trans hd.1
  | signalling i _ hi => exact absurd ⟨i, by rw [hi]; rfl⟩ hd.2
  | waking i _ _ hi => exact absurd ⟨i, by rw [hi]; rfl⟩ hd.2
  | done _ he hw => exact ⟨he, hw⟩

/-- Whoever has done the shutdown has left the queue shut. -/
theorem Sound.shut (hs : Sound s) (h : Step s ms t) (hk : .shut k ∈ ms) : t.Shut := by
  cases h with
  | act j h =>
    cases h with
    | refuse | post => simp at hk
    | next h => cases h <;> simp at hk
    | close h =>
      cases h with
      | already | raise => cases hk
      | signal => simp at hk
      | wake hj => exact hs.wake_shut hj
  | env h => cases h <;> simp at hk

/-- Nobody can begin another. -/
theorem Step.shut (h : Step s ms t) (hd : s.Shut) : t.Shut := by
  refine ⟨h.closed hd.1, ?_⟩
  cases h with
  | act k h =>
    cases h with
    | refuse | post => exact hd.2
    | next h => exact mt h.closing.mp hd.2
    | close h =>
      cases h with
      | already => exact hd.2
      | raise _ ho => exact nomatch ho.symm.trans hd.1
      | signal hk | wake hk => exact absurd ⟨k, by rw [hk]; rfl⟩ hd.2
  | env h => cases h <;> exact hd.2

end

/-! ## Undisturbed -/

section

variable {s : SharedQueue O P} {k : Nat} {rest : List (Parcel P)}

theorem view_next_nil (h : s.channel = []) :
    s.view.next = (if s.closed then .shutdown else .timeout, s.view) := by
  simp [Queue.next, view, h]

theorem view_next_completion {c : Completion P} (h : s.channel = .completion c :: rest) :
    s.view.next = (.ready c, (s.leave k rest).view) := by
  simp [Queue.next, view, h, leave, put, Parcel.completion?]

theorem view_wake (h : s.channel = .wake :: rest) : ({ s with channel := rest } : SharedQueue O P).view = s.view := by
  rw [view, view, h]
  rfl

theorem leave_view (h : s.channel = rest) : (s.leave k rest).view = s.view := by rw [← h]; rfl

/-- An operation that finishes does to the queue what finishing does. -/
theorem view_finish {n : Nat} {o : Posted O} (ho : s.view.find? n = some o) (ok : Bool) (p : P) :
    ({ s.adopt (s.view.abandon n) with channel := s.channel ++ [.completion ⟨o.tag, ok, p⟩] } : SharedQueue O P).view =
      s.view.finish n ok p := by
  rw [Queue.finish_some ho]
  simp [view, adopt, Queue.abandon, Parcel.completion?]

theorem shutdown_alone (hs : Sound s) (hk : s.standing k = .away) (ho : s.closed = false) :
    ∃ t, Alone k s ((s.inFlight.map fun o => .gaveUp o.ticket) ++ [.shut k]) t ∧ t.view = s.view.shutdown ∧
      t.now = s.now ∧ t.Shut := by
  have raised : Close k s [] _ := .raise hk ho
  have signalled := Close.signal (put_self { s with closed := true } k .signalling)
  have woken := Close.wake (put_self (({ s with closed := true }.put k .signalling).adopt s.view.shutdown) k .waking)
  have sound := (hs.close raised).close signalled
  have whole := Steps.after (Act.close raised) (.after (.close signalled) (.one (.close woken)))
  refine ⟨_, whole, ?_, rfl, sound.wake_shut (put_self _ k _)⟩
  simp [view, put, adopt, Queue.shutdown, Parcel.completion?]

/-- A thread by itself gets what the queue has next, and no time goes by. -/
def Answered (s : SharedQueue O P) (k : Nat) : Prop :=
  ∃ t, Alone k s [.answered k s.view.next.1] t ∧ t.view = s.view.next.2 ∧ t.now = s.now

theorem Answered.after {t : SharedQueue O P} (h : Next k s [] t) (hv : t.view = s.view) (hn : t.now = s.now)
    (ha : t.Answered k) : s.Answered k := by
  obtain ⟨u, hu, hv', hn'⟩ := ha
  rw [hv] at hu hv'
  exact ⟨u, .after (.next h) hu, hv', hn'.trans hn⟩

/-- What is left is drained parcel by parcel; what is there to wake a thread is passed over. -/
theorem answered_draining (hk : s.standing k = .draining) (hc : s.closed = true) : s.Answered k := by
  induction hch : s.channel generalizing s with
  | nil =>
    rw [Answered, view_next_nil hch, if_pos hc]
    exact ⟨_, .one (.next (.nothingLeft hk hch)), leave_view hch, rfl⟩
  | cons p rest ih =>
    cases p with
    | completion c =>
      rw [Answered, view_next_completion (k := k) hch]
      exact ⟨_, .one (.next (.takeLeft hk hch)), rfl, rfl⟩
    | wake => exact .after (.skip hk hch) (view_wake hch) rfl (ih (s := { s with channel := rest }) hk hc rfl)

theorem answered_woken {d : Instant} (hk : s.standing k = .woken d) (hc : s.closed = true) : s.Answered k :=
  .after (.rise hk hc) rfl rfl (answered_draining (put_self s k _) hc)

/-- Who waits takes what there is, unless it was only woken, and then it drains the rest. -/
theorem Sound.answered_waiting {d : Instant} (hs : Sound s) (hk : s.standing k = .waiting d) (hne : s.channel ≠ []) :
    s.Answered k := by
  cases hch : s.channel with
  | nil => exact absurd hch hne
  | cons p rest =>
    cases p with
    | completion c =>
      rw [Answered, view_next_completion (k := k) hch]
      exact ⟨_, .one (.next (.take hk hch)), rfl, rfl⟩
    | wake =>
      have closed := hs.wakes (by rw [hch]; exact List.mem_cons_self)
      exact .after (.wakeUp hk hch) (view_wake hch) rfl (answered_woken (put_self s k _) closed)

/-- Who is at the channel when something is queued is answered. -/
theorem Sound.answered_queued (hs : Sound s) (hk : (s.standing k).waits = true) (hr : s.view.ready ≠ []) :
    s.Answered k := by
  cases hst : s.standing k with
  | waiting => exact hs.answered_waiting hst fun he => hr (by rw [view, he]; rfl)
  | woken => exact answered_woken hst (hs.known k (by rw [hst]; rfl))
  | away | asking | entered | draining | signalling | waking =>
    rw [hst] at hk
    cases hk

/-- Once the queue is shut, whoever has the receiver is answered. -/
theorem Sound.answered_holding (hs : Sound s) (hd : s.Shut) (hk : s.receiver = some k) : s.Answered k := by
  have holds := (hs.holder k).mpr hk
  cases hst : s.standing k with
  | entered => exact .after (.drain hst hd.1) rfl rfl (answered_draining (put_self s k _) hd.1)
  | waiting d => exact hs.answered_waiting hst (List.ne_nil_of_mem ((hs.after hd).2 k d hst))
  | woken => exact answered_woken hst hd.1
  | draining => exact answered_draining hst hd.1
  | away | asking | signalling | waking =>
    rw [hst] at holds
    cases holds

/-- So is whoever asks for it when nobody has it. -/
theorem Sound.answered_asking {timeout : Span} (hs : Sound s) (hd : s.Shut) (hr : s.receiver = none)
    (hk : s.standing k = .asking timeout) : s.Answered k :=
  have enter := Next.enter hk hr
  .after enter rfl rfl ((hs.next enter).answered_holding (Step.shut (.act k (.next enter)) hd) rfl)

/-- Before the shutdown, a wait comes to the channel. -/
theorem waits_open (hc : s.closed = false) (hr : s.receiver = none) (hk : s.standing k = .away) {timeout : Span}
    {d : Instant} (hd : s.now.add? timeout = some d) :
    ∃ t, Run s [] t ∧ t.standing k = .waiting d ∧ t.channel = s.channel ∧ t.view = s.view ∧ t.now = s.now := by
  have ask : Next k s [] (s.put k (.asking timeout)) := .ask hk
  have enter : Next k (s.put k (.asking timeout)) [] _ := .enter (put_self s k _) hr
  have entered := Steps.after (Step.act k (.next ask)) (.one (.act k (.next enter)))
  exact ⟨_, entered.more (.act k (.next (.wait (put_self _ k _) hc hd))), put_self _ k _, rfl, rfl, rfl⟩

/-- There, an undisturbed one takes what is queued, or ends with its time. -/
theorem Sound.next_open (hs : Sound s) (hc : s.closed = false) (hr : s.receiver = none) (hk : s.standing k = .away)
    {timeout : Span} {d : Instant} (hd : s.now.add? timeout = some d) :
    ∃ t, Run s [.answered k s.view.next.1] t ∧ t.view = s.view.next.2 ∧ s.now ≤ t.now ∧ t.now ≤ d := by
  have time : s.now ≤ d := by
    rw [Instant.add?] at hd
    split at hd
    · exact Option.some.inj hd ▸ Nat.le_add_right _ _
    · cases hd
  obtain ⟨w, waits, hw, hch, hv, hn⟩ := waits_open hc hr hk hd
  rw [← hv, ← hn]
  rw [← hn] at time
  cases hch' : w.channel with
  | nil =>
    have ended : d ≤ w.now + (d - w.now) := Nat.le_of_eq (Nat.add_sub_cancel' time).symm
    have empty : ({ w with now := w.now + (d - w.now) } : SharedQueue O P).channel = [] := hch'
    rw [view_next_nil hch', show w.closed = false from (congrArg Queue.closed hv).trans hc]
    refine ⟨_, (waits.more (.env (.tick (d - w.now)))).more (.act k (.next (.timeOut hw empty ended))), ?_, ?_, ?_⟩
    · exact leave_view empty
    · exact Nat.le_add_right _ _
    · exact Nat.le_of_eq (Nat.add_sub_cancel' time)
  | cons p rest =>
    cases p with
    | completion c =>
      rw [view_next_completion (k := k) hch']
      exact ⟨_, waits.more (.act k (.next (.take hw hch'))), rfl, Nat.le_refl _, time⟩
    | wake => exact nomatch hc.symm.trans (hs.wakes (by rw [← hch, hch']; exact List.mem_cons_self))

end

end SharedQueue

end CallPump
