/-
  CallPump.Proofs.Call.Solo — a call by itself, with the operations it has under way.

  Five things happen to a call (`Touch`): it is started, it is cancelled, a completion
  reaches it, and an operation that it posted ends or dies. The first three move it; what
  it asked of the transport and what its callbacks were given add up (`Solo`). An operation
  that ended waits on the queue until its completion is taken, in the order in which the
  operations ended (`Round`).

  - `run_eq_replay`: what becomes of a call hangs on two lists alone, when it was started,
    cancelled and turned to (`Cue`), and what was taken to it.
  - `Round.Runs.taken`: what was taken to it is what its operations brought, in order.
  - `Round.Alike.runs`: the order of the operations on their way makes no difference.
-/

import CallPump.Proofs.Call.Moves

namespace CallPump

variable {Req Resp C : Type}

/-! ## What passes between a call and the rest -/

/-- What a call asks of the transport, without the names that a pump gives to it. -/
inductive Ask (Req Resp : Type) where
  | spawn (context : Context)
  | hangUp
  | run (op : Op Req Resp)
  | dropStream

def Cmd.ask : Cmd Req Resp → Ask Req Resp
  | .spawn ctx => .spawn ctx
  | .hangUp => .hangUp
  | .post op => .run op

/-- Whether the move reads on from the response stream. -/
def Move.readsOn {S : Type} (m : Move S Req Resp C) : Bool :=
  m.cmds.any fun c => match c with
    | .post (.read _) => true
    | _ => false

inductive Touch (Req Resp C : Type) where
  | start (ctx : Context) (l : Launch Req) (cb : C)
  | cancel
  /-- An operation on its way ends. -/
  | back (op : Op Req Resp) (ok : Bool) (payload : Payload Resp)
  /-- An operation on its way dies. -/
  | lost (op : Op Req Resp)
  /-- A completion reaches the call. -/
  | take (ok : Bool) (payload : Payload Resp)

/-- What of a call's history its caller and the pump decide on. -/
inductive Cue (Req C : Type) where
  | start (ctx : Context) (l : Launch Req) (cb : C)
  | cancel
  | turn

namespace Touch

def cue? : Touch Req Resp C → Option (Cue Req C)
  | .start ctx l cb => some (.start ctx l cb)
  | .cancel => some .cancel
  | .take _ _ => some .turn
  | .back _ _ _ | .lost _ => none

/-- What the transport brings. -/
def brought? : Touch Req Resp C → Option (Bool × Payload Resp)
  | .back _ ok x => some (ok, x)
  | _ => none

def taken? : Touch Req Resp C → Option (Bool × Payload Resp)
  | .take ok x => some (ok, x)
  | _ => none

def callback? : Touch Req Resp C → Option C
  | .start _ _ cb => some cb
  | .cancel | .back _ _ _ | .lost _ | .take _ _ => none

def cancels : Touch Req Resp C → Bool
  | .cancel => true
  | .start _ _ _ | .back _ _ _ | .lost _ | .take _ _ => false

/-- It is its caller's doing. -/
def byCaller : Touch Req Resp C → Bool
  | .start _ _ _ | .cancel => true
  | .back _ _ _ | .lost _ | .take _ _ => false

/-- A stream that comes with a completion and is not read on is dropped. -/
def drops {S : Type} (t : Touch Req Resp C) (m : Move S Req Resp C) : List (Ask Req Resp) :=
  match t with
  | .take _ x => if x.hasStream && !m.readsOn then [.dropStream] else []
  | _ => []

theorem filterMap_cons {α : Type} (f : Touch Req Resp C → Option α) (t : Touch Req Resp C)
    (ts : List (Touch Req Resp C)) : (t :: ts).filterMap f = (f t).toList ++ ts.filterMap f := by
  rw [List.filterMap_cons]
  cases f t <;> rfl

theorem start_of_cue {ts : List (Touch Req Resp C)} {ctx : Context} {l : Launch Req} {cb : C}
    (h : .start ctx l cb ∈ ts.filterMap cue?) : .start ctx l cb ∈ ts := by
  obtain ⟨t, ht, hq⟩ := List.mem_filterMap.mp h
  cases t with
  | start ctx' l' cb' => cases hq; exact ht
  | cancel => cases hq
  | take ok x => cases hq
  | back op ok x => cases hq
  | lost op => cases hq

/-- The first start of a call that is started before anything else is done with it. -/
theorem callback_of_cues {ts : List (Touch Req Resp C)} {ctx : Context} {l : Launch Req} {cb : C}
    {cs : List (Cue Req C)}
    (h : ts.filterMap cue? = .start ctx l cb :: cs) : ts.findSome? callback? = some cb := by
  induction ts with
  | nil => cases h
  | cons t ts ih =>
    cases t with
    | start ctx' l' cb' => cases h; rfl
    | cancel => cases h
    | take ok x => cases h
    | back op ok x => exact ih h
    | lost op => exact ih h

theorem uncancelled_of_cues {ts : List (Touch Req Resp C)} (h : .cancel ∉ ts.filterMap cue?) :
    ts.any cancels = false := by
  rw [List.any_eq_false]
  intro t ht hc
  cases t with
  | cancel => exact h (List.mem_filterMap.mpr ⟨_, ht, rfl⟩)
  | start ctx l cb => cases hc
  | take ok x => cases hc
  | back op ok x => cases hc
  | lost op => cases hc

/-- Without its caller a call is turned to, and that is all. -/
theorem cues_unasked {ts : List (Touch Req Resp C)} (h : ∀ t ∈ ts, t.byCaller = false) {c : Cue Req C}
    (hc : c ∈ ts.filterMap cue?) : c = .turn := by
  obtain ⟨t, ht, hq⟩ := List.mem_filterMap.mp hc
  cases t with
  | start ctx l cb => cases h _ ht
  | cancel => cases h _ ht
  | take ok x => cases hq; rfl
  | back op ok x => cases hq
  | lost op => cases hq

end Touch

/-! ## The call -/

structure Solo (Req Resp C : Type) where
  machine : Machine Req Resp C
  asked : List (Ask Req Resp) := []
  /-- Every callback that began, with what it was given. -/
  given : List (C × Except GrpcStatus (Answer Resp)) := []

namespace Solo

def fresh (k : CallKind) : Solo Req Resp C := { machine := .new k }

/-- The move that the call makes of what happens to it, while the queue takes operations. -/
def move (s : Solo Req Resp C) : Touch Req Resp C → Option (Move (Machine Req Resp C) Req Resp C)
  | .start ctx l cb => s.machine.start true ctx l cb
  | .cancel => some s.machine.cancel
  | .take ok x => some (s.machine.advance ok x)
  | .back _ _ _ | .lost _ => none

def step (s : Solo Req Resp C) (t : Touch Req Resp C) : Solo Req Resp C :=
  match s.move t with
  | none => s
  | some m => { machine := m.next, asked := s.asked ++ (m.cmds.map Cmd.ask ++ t.drops m),
                given := s.given ++ m.answer.toList }

/-- The operations that the call posts. -/
def posts (s : Solo Req Resp C) (t : Touch Req Resp C) : List (Op Req Resp) := ((s.move t).map Move.posts).getD []

def run (s : Solo Req Resp C) (ts : List (Touch Req Resp C)) : Solo Req Resp C := ts.foldl step s

theorem step_none {s : Solo Req Resp C} {t : Touch Req Resp C} (h : s.move t = none) :
    s.step t = s ∧ s.posts t = [] := by
  simp [step, posts, h]

theorem step_some {s : Solo Req Resp C} {t : Touch Req Resp C} {m : Move (Machine Req Resp C) Req Resp C}
    (h : s.move t = some m) :
    s.step t = ⟨m.next, s.asked ++ (m.cmds.map Cmd.ask ++ t.drops m), s.given ++ m.answer.toList⟩ ∧
      s.posts t = m.posts := by
  simp [step, posts, h]

/-- Without its caller a call has no body spawned. -/
theorem spawned_step {s : Solo Req Resp C} {t : Touch Req Resp C} {ctx : Context} (ht : t.byCaller = false)
    (h : .spawn ctx ∈ (s.step t).asked) : .spawn ctx ∈ s.asked := by
  cases t with
  | start ctx' l cb => cases ht
  | cancel => cases ht
  | back op ok x => exact h
  | lost op => exact h
  | take ok x =>
    rw [(step_some (s := s) (t := .take ok x) rfl).1, List.mem_append, List.mem_append] at h
    rcases h with h | h | h
    · exact h
    · obtain ⟨c, hc, he⟩ := List.mem_map.mp h
      cases c <;> cases he
      exact absurd hc (Machine.advance_spawn _ _ _ _)
    · rw [Touch.drops] at h
      split at h <;> simp at h

theorem spawned_run {s : Solo Req Resp C} {ts : List (Touch Req Resp C)} {ctx : Context}
    (hn : ∀ t ∈ ts, t.byCaller = false) (h : .spawn ctx ∈ (s.run ts).asked) : .spawn ctx ∈ s.asked := by
  induction ts generalizing s with
  | nil => exact h
  | cons t ts ih =>
    exact spawned_step (hn t List.mem_cons_self) (ih (fun t ht => hn t (List.mem_cons_of_mem _ ht)) h)

/-- The call led by its cues, with the completions at hand. A cue to turn to it without a
    completion passes over. -/
def replay (s : Solo Req Resp C) : List (Cue Req C) → List (Bool × Payload Resp) → Solo Req Resp C
  | [], _ => s
  | .start ctx l cb :: cs, xs => replay (s.step (.start ctx l cb)) cs xs
  | .cancel :: cs, xs => replay (s.step .cancel) cs xs
  | .turn :: cs, (ok, x) :: xs => replay (s.step (.take ok x)) cs xs
  | .turn :: cs, [] => replay s cs []

theorem run_eq_replay (s : Solo Req Resp C) (ts : List (Touch Req Resp C)) :
    s.run ts = s.replay (ts.filterMap Touch.cue?) (ts.filterMap Touch.taken?) := by
  induction ts generalizing s with
  | nil => rfl
  | cons t ts ih =>
    have h := ih (s.step t)
    cases t with
    | start ctx l cb => exact h
    | cancel => exact h
    | take ok x => exact h
    | back op ok x => exact h
    | lost op => exact h

end Solo

/-! ## The round that its operations make -/

structure Round (Req Resp C : Type) where
  call : Solo Req Resp C
  /-- The operations on their way. -/
  flying : List (Op Req Resp) := []
  /-- What ended and is not taken yet, oldest first. -/
  queued : List (Bool × Payload Resp) := []

namespace Round

/-- The call makes its move and posts its operations. -/
def moved (r : Round Req Resp C) (t : Touch Req Resp C) : Round Req Resp C :=
  { r with call := r.call.step t, flying := r.flying ++ r.call.posts t }

inductive Step : Round Req Resp C → Touch Req Resp C → Round Req Resp C → Prop
  | start (r : Round Req Resp C) (ctx : Context) (l : Launch Req) (cb : C) :
      Step r (.start ctx l cb) (r.moved (.start ctx l cb))
  | cancel (r : Round Req Resp C) : Step r .cancel (r.moved .cancel)
  | back {r : Round Req Resp C} {as bs : List (Op Req Resp)} {op : Op Req Resp} (ok : Bool) (x : Payload Resp) :
      r.flying = as ++ op :: bs →
      Step r (.back op ok x) { r with flying := as ++ bs, queued := r.queued ++ [(ok, x)] }
  | lost {r : Round Req Resp C} {as bs : List (Op Req Resp)} {op : Op Req Resp} :
      r.flying = as ++ op :: bs → Step r (.lost op) { r with flying := as ++ bs }
  | take {r : Round Req Resp C} {ok : Bool} {x : Payload Resp} {rest : List (Bool × Payload Resp)} :
      r.queued = (ok, x) :: rest → Step r (.take ok x) { r.moved (.take ok x) with queued := rest }

inductive Runs : Round Req Resp C → List (Touch Req Resp C) → Round Req Resp C → Prop
  | nil (r : Round Req Resp C) : Runs r [] r
  | cons {r r' r'' : Round Req Resp C} {t : Touch Req Resp C} {ts : List (Touch Req Resp C)} :
      Step r t r' → Runs r' ts r'' → Runs r (t :: ts) r''

variable {r r' r'' : Round Req Resp C} {t : Touch Req Resp C} {ts ts' : List (Touch Req Resp C)}

theorem Step.call (h : Step r t r') : r'.call = r.call.step t := by cases h <;> rfl

/-- Completions are taken in the order in which they were queued. -/
theorem Step.taken (h : Step r t r') : r.queued ++ t.brought?.toList = t.taken?.toList ++ r'.queued := by
  cases h with
  | start ctx l cb => exact List.append_nil _
  | cancel => exact List.append_nil _
  | back ok x _ => rfl
  | lost _ => exact List.append_nil _
  | take hq => rw [hq]; exact List.append_nil _

theorem Runs.append (h : Runs r ts r') (h' : Runs r' ts' r'') : Runs r (ts ++ ts') r'' := by
  induction h with
  | nil => exact h'
  | cons hs _ ih => exact .cons hs (ih h')

theorem Runs.call (h : Runs r ts r') : r'.call = r.call.run ts := by
  induction h with
  | nil => rfl
  | cons hs _ ih => rw [ih, hs.call]; rfl

/-- What was taken, and what is queued still, is what the operations brought. -/
theorem Runs.taken (h : Runs r ts r') :
    r.queued ++ ts.filterMap Touch.brought? = ts.filterMap Touch.taken? ++ r'.queued := by
  induction h with
  | nil r => exact List.append_nil _
  | @cons r r₁ r' t ts hs _ ih =>
    rw [Touch.filterMap_cons, Touch.filterMap_cons, ← List.append_assoc, hs.taken, List.append_assoc, ih,
      List.append_assoc]

/-- A call whose completions were all taken went the way of its cues and of what its
    operations brought. -/
theorem Runs.replayed (h : Runs r ts r') (hq : r.queued = []) (hq' : r'.queued = []) :
    r'.call = r.call.replay (ts.filterMap Touch.cue?) (ts.filterMap Touch.brought?) := by
  have ht := h.taken
  rw [hq, hq', List.nil_append, List.append_nil] at ht
  rw [h.call, Solo.run_eq_replay, ht]

/-- The same call with the same completions queued, and with the same operations on their way
    in whatever order. -/
structure Alike (r q : Round Req Resp C) : Prop where
  call : q.call = r.call
  flying : q.flying.Perm r.flying
  queued : q.queued = r.queued

variable {q q' : Round Req Resp C}

theorem Alike.refl (r : Round Req Resp C) : r.Alike r := ⟨rfl, .refl _, rfl⟩

theorem Alike.moved (h : r.Alike q) (t : Touch Req Resp C) : (r.moved t).Alike (q.moved t) := by
  refine ⟨congrArg (Solo.step · t) h.call, ?_, h.queued⟩
  show (q.flying ++ q.call.posts t).Perm (r.flying ++ r.call.posts t)
  rw [h.call]
  exact h.flying.append_right _

/-- Whatever order its operations are in, the same step leads to the same. -/
theorem Alike.step (h : r.Alike q) (hs : Step r t r') (hs' : Step q t q') : r'.Alike q' := by
  have left {as bs as' bs' : List (Op Req Resp)} {op : Op Req Resp} (hr : r.flying = as ++ op :: bs)
      (hq : q.flying = as' ++ op :: bs') : (as' ++ bs').Perm (as ++ bs) := by
    have hp := h.flying
    rw [hr, hq] at hp
    exact (List.perm_middle.symm.trans (hp.trans List.perm_middle)).cons_inv
  cases hs with
  | start ctx l cb => cases hs'; exact h.moved _
  | cancel => cases hs'; exact h.moved _
  | back ok x hr =>
    cases hs' with
    | back _ _ hq => exact ⟨h.call, left hr hq, congrArg (· ++ [(ok, x)]) h.queued⟩
  | lost hr =>
    cases hs' with
    | lost hq => exact ⟨h.call, left hr hq, h.queued⟩
  | @take ok x _ hr =>
    cases hs' with
    | take hq =>
      obtain ⟨-, rfl⟩ := List.cons.inj (hr.symm.trans (h.queued.symm.trans hq))
      have hm := h.moved (.take ok x)
      exact ⟨hm.call, hm.flying, rfl⟩

theorem Alike.runs (h : r.Alike q) (hR : Runs r ts r') (hR' : Runs q ts q') : r'.Alike q' := by
  induction hR generalizing q with
  | nil =>
    cases hR'
    exact h
  | cons hs _ ih =>
    cases hR' with
    | cons hs' hR' => exact ih (h.step hs hs') hR'

/-- What may happen to the one may happen to the other. -/
theorem Alike.steps (h : r.Alike q) (hs : Step r t r') : ∃ q', Step q t q' := by
  have among {as bs : List (Op Req Resp)} {op : Op Req Resp} (hr : r.flying = as ++ op :: bs) :
      ∃ as' bs', q.flying = as' ++ op :: bs' :=
    List.append_of_mem (h.flying.mem_iff.mpr (by rw [hr]; exact List.mem_append_right _ List.mem_cons_self))
  cases hs with
  | start ctx l cb => exact ⟨_, .start q ctx l cb⟩
  | cancel => exact ⟨_, .cancel q⟩
  | back ok x hr =>
    obtain ⟨as', bs', hq⟩ := among hr
    exact ⟨_, .back ok x hq⟩
  | lost hr =>
    obtain ⟨as', bs', hq⟩ := among hr
    exact ⟨_, .lost hq⟩
  | take hr => exact ⟨_, .take (h.queued.trans hr)⟩

/-! ## Where it stands -/

theorem Step.kind (h : Step r t r') : r'.call.machine.kind = r.call.machine.kind := by
  rw [h.call]
  cases hm : r.call.move t with
  | none => rw [(Solo.step_none hm).1]
  | some m =>
    rw [(Solo.step_some hm).1]
    cases t with
    | start ctx l cb => exact Machine.start_kind hm
    | cancel => cases hm; exact Machine.cancel_kind _
    | take ok x => cases hm; exact Machine.advance_kind _ _ _
    | back op ok x => cases hm
    | lost op => cases hm

theorem Runs.kind (h : Runs r ts r') : r'.call.machine.kind = r.call.machine.kind := by
  induction h with
  | nil => rfl
  | cons hs _ ih => exact ih.trans hs.kind

/-- The call's resolver, what its callback was given, and whether anything is under way for
    it; with the callback that its first start brought, and whether it was cancelled. -/
inductive Standing (r : Round Req Resp C) : Option C → Bool → Prop
  | unstarted : r.call.machine.resolver = .fresh → r.call.given = [] → Standing r none false
  | waiting (cb : C) : r.call.machine.resolver = .waiting cb → r.call.given = [] →
      0 < r.flying.length + r.queued.length → Standing r (some cb) false
  | givenUp (o : Option C) : r.call.machine.resolver = .givenUp → r.call.given = [] → Standing r o true
  | spent (cb : C) (c : Bool) (x : Except GrpcStatus (Answer Resp)) : r.call.machine.resolver = .spent →
      r.call.given = [(cb, x)] → Standing r (some cb) c

/-- Nothing that the move changes is part of the standing. -/
theorem Standing.same {o : Option C} {c : Bool} (h : Standing r o c)
    (hm : r'.call.machine.resolver = r.call.machine.resolver)
    (hg : r'.call.given = r.call.given)
    (hn : r.flying.length + r.queued.length ≤ r'.flying.length + r'.queued.length) : Standing r' o c := by
  cases h with
  | unstarted h₁ h₂ => exact .unstarted (hm.trans h₁) (hg.trans h₂)
  | waiting cb h₁ h₂ h₃ => exact .waiting cb (hm.trans h₁) (hg.trans h₂) (by omega)
  | givenUp o h₁ h₂ => exact .givenUp o (hm.trans h₁) (hg.trans h₂)
  | spent cb c x h₁ h₂ => exact .spent cb _ x (hm.trans h₁) (hg.trans h₂)

/-- A call that was started and not cancelled takes no notice of another start. -/
theorem moved_again {ctx : Context} {l : Launch Req} {cb : C} (hk : r.call.machine.kind = l.kind)
    (hs : r.call.machine.state = .called ∨ r.call.machine.state = .completed) : r.moved (.start ctx l cb) = r := by
  obtain ⟨hs, hp⟩ := Solo.step_none (s := r.call) (t := .start ctx l cb) (Machine.start_again true ctx cb hk hs)
  rw [moved, hs, hp, List.append_nil]

theorem Standing.start {o : Option C} {c : Bool} (h : Standing r o c) {ctx : Context} {l : Launch Req} {cb : C}
    (hk : r.call.machine.kind = l.kind) : Standing (r.moved (.start ctx l cb)) (o.or (some cb)) c := by
  cases h with
  | unstarted h₁ h₂ =>
    obtain ⟨v, hv, hw, -, op, hp⟩ := Machine.start_fresh ctx cb hk h₁
    obtain ⟨hs, hq⟩ := Solo.step_some (s := r.call) (t := .start ctx l cb) hv
    refine .waiting cb ?_ ?_ ?_
    · rw [moved, hs]; exact hw
    · rw [moved, hs, h₂, Machine.start_answer hv]; rfl
    · rw [moved, hq, hp, List.length_append, List.length_singleton]; omega
  | waiting cb' h₁ h₂ h₃ =>
    rw [moved_again hk (.inl (congrArg Resolver.state h₁))]
    exact .waiting cb' h₁ h₂ h₃
  | givenUp o h₁ h₂ =>
    have hv := Machine.start_cancelled true ctx cb hk (congrArg Resolver.state h₁)
    have hs := (Solo.step_some (s := r.call) (t := .start ctx l cb) hv).1
    refine .givenUp _ ?_ ?_
    · rw [moved, hs]; exact h₁
    · rw [moved, hs, h₂]; rfl
  | spent cb' c x h₁ h₂ =>
    rw [moved_again hk (.inr (congrArg Resolver.state h₁))]
    exact .spent cb' c x h₁ h₂

theorem Standing.cancel {o : Option C} {c : Bool} (h : Standing r o c) : Standing (r.moved .cancel) o true := by
  have hs := (Solo.step_some (s := r.call) (t := .cancel) rfl).1
  have hg : (r.moved .cancel).call.given = r.call.given := by
    rw [moved, hs, Machine.cancel_answer]
    exact List.append_nil _
  have openly (ho : r.call.machine.resolver = .fresh ∨ ∃ cb, r.call.machine.resolver = .waiting cb) :
      (r.moved .cancel).call.machine.resolver = .givenUp := by
    rw [moved, hs]
    exact (Machine.cancel_open ho).1
  have settled (ho : r.call.machine.state = .cancelled ∨ r.call.machine.state = .completed) :
      (r.moved .cancel).call.machine.resolver = r.call.machine.resolver := by
    rw [moved, hs]
    exact (Machine.cancel_settled ho).1
  cases h with
  | unstarted h₁ h₂ => exact .givenUp _ (openly (.inl h₁)) (hg.trans h₂)
  | waiting cb h₁ h₂ h₃ => exact .givenUp _ (openly (.inr ⟨cb, h₁⟩)) (hg.trans h₂)
  | givenUp o h₁ h₂ => exact .givenUp o ((settled (.inl (congrArg Resolver.state h₁))).trans h₁) (hg.trans h₂)
  | spent cb c x h₁ h₂ => exact .spent cb _ x ((settled (.inr (congrArg Resolver.state h₁))).trans h₁) (hg.trans h₂)

theorem Standing.take {o : Option C} {c : Bool} (h : Standing r o c) (ok : Bool) (x : Payload Resp)
    (rest : List (Bool × Payload Resp)) :
    Standing { r.moved (.take ok x) with queued := rest } o c := by
  obtain ⟨hs, hp⟩ := Solo.step_some (s := r.call) (t := .take ok x) rfl
  have idle (hn : r.call.machine.state ≠ .called) :
      ((r.moved (.take ok x)).call.machine.resolver = r.call.machine.resolver) ∧
        (r.moved (.take ok x)).call.given = r.call.given := by
    rw [moved, hs, Machine.advance_idle hn]
    exact ⟨rfl, List.append_nil _⟩
  cases h with
  | unstarted h₁ h₂ =>
    obtain ⟨hm, hg⟩ := idle (by rw [show r.call.machine.state = _ from congrArg Resolver.state h₁]; nofun)
    exact .unstarted (hm.trans h₁) (hg.trans h₂)
  | waiting cb h₁ h₂ h₃ =>
    rcases Machine.advance_waiting h₁ ok x with ⟨hm, ha, -, op, hq⟩ | ⟨hm, ⟨y, ha⟩, -, -⟩
    · refine .waiting cb ?_ ?_ ?_
      · rw [moved, hs]; exact hm.trans h₁
      · rw [moved, hs, h₂, ha]; rfl
      · rw [moved, hp, hq, List.length_append, List.length_singleton]; omega
    · refine .spent cb _ y ?_ ?_
      · rw [moved, hs]; exact hm
      · rw [moved, hs, h₂, ha]; rfl
  | givenUp o h₁ h₂ =>
    obtain ⟨hm, hg⟩ := idle (by rw [show r.call.machine.state = _ from congrArg Resolver.state h₁]; nofun)
    exact .givenUp o (hm.trans h₁) (hg.trans h₂)
  | spent cb c y h₁ h₂ =>
    obtain ⟨hm, hg⟩ := idle (by rw [show r.call.machine.state = _ from congrArg Resolver.state h₁]; nofun)
    exact .spent cb c y (hm.trans h₁) (hg.trans h₂)

theorem Standing.step {o : Option C} {c : Bool} (h : Standing r o c) (hs : Step r t r') (hl : ∀ op, t ≠ .lost op)
    (hk : ∀ ctx l cb, t = .start ctx l cb → r.call.machine.kind = l.kind) :
    Standing r' (o.or t.callback?) (c || t.cancels) := by
  cases hs with
  | start ctx l cb => rw [Touch.cancels, Bool.or_false]; exact h.start (hk ctx l cb rfl)
  | cancel => rw [Touch.callback?, Option.or_none, Touch.cancels, Bool.or_true]; exact h.cancel
  | take hq => rw [Touch.callback?, Option.or_none, Touch.cancels, Bool.or_false]; exact h.take _ _ _
  | lost hf => exact absurd rfl (hl _)
  | back ok x hf =>
    rw [Touch.callback?, Option.or_none, Touch.cancels, Bool.or_false]
    refine h.same rfl rfl ?_
    simp only [hf, List.length_append, List.length_cons, List.length_nil]
    omega

/-- Where a call stands after whatever happened to it, as long as no operation was lost. -/
theorem Standing.run {o : Option C} {c : Bool} (h : Standing r o c) (hr : Runs r ts r') (hl : ∀ op, .lost op ∉ ts)
    (hk : ∀ ctx l cb, .start ctx l cb ∈ ts → r.call.machine.kind = l.kind) :
    Standing r' (o.or (ts.findSome? Touch.callback?)) (c || ts.any Touch.cancels) := by
  induction hr generalizing o c with
  | nil => simpa using h
  | @cons r r₁ r' t ts hs _ ih =>
    have h₁ := h.step hs (fun op e => hl op (e ▸ List.mem_cons_self))
      fun ctx l cb e => hk ctx l cb (e ▸ List.mem_cons_self)
    have h₂ := ih h₁ (fun op e => hl op (List.mem_cons_of_mem _ e))
      fun ctx l cb e => hs.kind.trans (hk ctx l cb (List.mem_cons_of_mem _ e))
    rw [Option.or_assoc, Bool.or_assoc] at h₂
    rw [List.any_cons, List.findSome?_cons]
    cases ht : t.callback? with
    | none => rw [ht, Option.none_or] at h₂; exact h₂
    | some cb => rw [ht, Option.some_or] at h₂; exact h₂

end Round

end CallPump
