/-
  CallPump.Proofs.Call.Way — a call on its way to its callback, operation after operation.

  What is behind the operations of a call need not be settled beforehand: a backing may
  bring an operation back in more ways than one, and stands somewhere else then. A call is
  sure to come to its callback if it does so whatever the backing brings (`Sure`), and `G`
  holds then of the operations that it took to get there and of what the callback is given.

  - `OnWay.step`, `OnWay.run`: a call that is sure of its callback stays on its way there,
    one operation further with each completion that it takes, as long as nobody cancels it.
  - `OnWay.launched`: it is on its way from its start on.
  - `OnWay.arrives`: from wherever it is, it can get there.
-/

import CallPump.Proofs.Call.Served

namespace CallPump

variable {I C S : Type}

/-! ## What is asked and what comes of it -/

def Ask.op? {Req Resp : Type} : Ask Req Resp → Option (Op Req Resp)
  | .run op => some op
  | .spawn _ | .hangUp | .dropStream => none

/-- The operations that the call has posted so far, oldest first. -/
def Solo.posted (s : Solo I I C) : List (Op I I) := s.asked.filterMap Ask.op?

theorem Solo.posted_step (s : Solo I I C) (t : Touch I I C) : (s.step t).posted = s.posted ++ s.posts t := by
  cases hm : s.move t with
  | none =>
    obtain ⟨hs, hp⟩ := Solo.step_none hm
    rw [hs, hp, List.append_nil]
  | some m =>
    obtain ⟨hs, hp⟩ := Solo.step_some hm
    have ask : Ask.op? ∘ Cmd.ask = (Cmd.op? : Cmd I I → Option (Op I I)) := by funext c; cases c <;> rfl
    have drops : (t.drops m).filterMap Ask.op? = [] := by
      cases t with
      | take ok x => rw [Touch.drops]; split <;> rfl
      | start ctx l cb => rfl
      | cancel => rfl
      | back op ok x => rfl
      | lost op => rfl
    rw [hs, hp, posted, List.filterMap_append, List.filterMap_append, drops, List.append_nil, List.filterMap_map, ask]
    rfl

/-- What was asked once stays asked. -/
theorem Solo.asked_prefix (s : Solo I I C) (ts : List (Touch I I C)) : s.asked <+: (s.run ts).asked := by
  induction ts generalizing s with
  | nil => exact List.prefix_refl _
  | cons t ts ih =>
    refine List.IsPrefix.trans ?_ (ih (s.step t))
    cases hm : s.move t with
    | none => exact (step_none hm).1.symm ▸ List.prefix_refl _
    | some m => rw [(step_some hm).1]; exact List.prefix_append _ _

/-- What stands behind the operations of a call, in its states `S`. -/
structure Backing (I S : Type) where
  /-- The operation comes back so, which leaves the backing in that state. -/
  brings : S → Op I I → Bool → Payload I → S → Prop
  /-- The operation dies. -/
  loses : S → Op I I → Prop
  /-- The operations that a call can rely on: they come back, in one way or another. -/
  awaits : S → Op I I → Prop
  answers : ∀ {s : S} {op : Op I I}, awaits s op → ∃ ok x s', brings s op ok x s'
  kept : ∀ {s : S} {op : Op I I}, awaits s op → ¬ loses s op

namespace Backing

variable (k : Backing I S)

/-- What happens to the call is the backing's doing, or its caller's and the pump's. -/
def Bears (s : S) : Touch I I C → S → Prop
  | .back op ok x, s' => k.brings s op ok x s'
  | .lost op, s' => k.loses s op ∧ s' = s
  | .start _ _ _, s' | .cancel, s' | .take _ _, s' => s' = s

inductive Carries : S → List (Touch I I C) → S → Prop
  | nil (s : S) : Carries s [] s
  | cons {s s' s'' : S} {t : Touch I I C} {ts : List (Touch I I C)} : k.Bears s t s' → Carries s' ts s'' →
      Carries s (t :: ts) s''

/-- With the operation under way, after the operations `done`, the call comes to its callback
    whatever the backing brings, and `G` holds of all its operations and of the answer. -/
inductive Sure (cb : C) (G : List (Op I I) → Except GrpcStatus (Answer I) → Prop) :
    List (Op I I) → Machine I I C → Op I I → S → Prop
  | intro {done : List (Op I I)} {m : Machine I I C} {op : Op I I} {s : S} : k.awaits s op →
      (∀ ok x s', k.brings s op ok x s' → (m.advance ok x).posts = [] →
        ∃ a, (m.advance ok x).answer = some (cb, a) ∧ G (done ++ [op]) a) →
      (∀ ok x s' m' op', k.brings s op ok x s' → m.Goes ok x m' op' → Sure cb G (done ++ [op]) m' op' s') →
      Sure cb G done m op s

variable {k} {cb : C} {G : List (Op I I) → Except GrpcStatus (Answer I) → Prop} {done : List (Op I I)}
  {m : Machine I I C} {op : Op I I} {s s' s'' : S} {ts ts' : List (Touch I I C)}

theorem Carries.append (h : k.Carries s ts s') (h' : k.Carries s' ts' s'') : k.Carries s (ts ++ ts') s'' := by
  induction h with
  | nil => exact h'
  | cons ht _ ih => exact .cons ht (ih h')

/-- On whatever is brought, the call ends. -/
theorem Sure.last (ha : k.awaits s op)
    (h : ∀ ok x s', k.brings s op ok x s' →
      ∃ a, (m.advance ok x).answer = some (cb, a) ∧ (m.advance ok x).posts = [] ∧ G (done ++ [op]) a) :
    k.Sure cb G done m op s := by
  refine .intro ha ?_ ?_
  · intro ok x s' hb _
    obtain ⟨a, hx, -, hg⟩ := h ok x s' hb
    exact ⟨a, hx, hg⟩
  · intro ok x s' m' op' hb hg
    obtain ⟨a, -, hp, -⟩ := h ok x s' hb
    cases hp.symm.trans hg.2

/-- On whatever is brought, the call goes on and is sure still. -/
theorem Sure.next (ha : k.awaits s op)
    (h : ∀ ok x s', k.brings s op ok x s' → ∃ m' op', m.Goes ok x m' op' ∧ k.Sure cb G (done ++ [op]) m' op' s') :
    k.Sure cb G done m op s := by
  refine .intro ha ?_ ?_
  · intro ok x s' hb hp
    obtain ⟨m', op', hg, -⟩ := h ok x s' hb
    cases hp.symm.trans hg.2
  · intro ok x s' m' op' hb hg
    obtain ⟨m₁, op₁, hg₁, hs⟩ := h ok x s' hb
    obtain rfl : m₁ = m' := hg₁.1.symm.trans hg.1
    cases hg₁.2.symm.trans hg.2
    exact hs

theorem Sure.awaits (h : k.Sure cb G done m op s) : k.awaits s op := by
  cases h with
  | intro ha _ _ => exact ha

/-- There is a way to the callback. -/
theorem Sure.reaches (h : k.Sure cb G done m op s) (hm : m.resolver = .waiting cb) :
    ∃ more a, G (done ++ op :: more) a := by
  induction h with
  | @intro done m op s ha hends hgoes ih =>
    obtain ⟨ok, x, s', hb⟩ := k.answers ha
    rcases Machine.advance_waiting hm ok x with ⟨hk, -, -, op', hp⟩ | ⟨-, -, -, hp⟩
    · obtain ⟨more, a, hg⟩ := ih ok x s' _ op' hb ⟨rfl, hp⟩ (hk.trans hm)
      rw [← List.append_cons] at hg
      exact ⟨op' :: more, a, hg⟩
    · obtain ⟨a, -, hg⟩ := hends ok x s' hb hp
      exact ⟨[], a, hg⟩

end Backing

/-! ## A call on its way -/

namespace Round

variable {k : Backing I S} {cb : C} {G : List (Op I I) → Except GrpcStatus (Answer I) → Prop} {r r' : Round I I C}
  {n : Nat} {s s' : S} {t : Touch I I C} {ts : List (Touch I I C)}

/-- The call is sure of its callback, or has come to it, after it took `n` completions. -/
inductive OnWay (k : Backing I S) (cb : C) (G : List (Op I I) → Except GrpcStatus (Answer I) → Prop)
    (r : Round I I C) (n : Nat) : S → Prop
  | underway {done : List (Op I I)} {op : Op I I} {s : S} : done.length = n → r.Underway cb op →
      r.call.posted = done ++ [op] → k.Sure cb G done r.call.machine op s → OnWay k cb G r n s
  | due {done : List (Op I I)} {op : Op I I} {ok : Bool} {x : Payload I} {s s' : S} : done.length = n →
      r.Due cb ok x → r.call.posted = done ++ [op] → k.brings s op ok x s' →
      k.Sure cb G done r.call.machine op s → OnWay k cb G r n s'
  | answered {done : List (Op I I)} {a : Except GrpcStatus (Answer I)} (s : S) : done.length = n →
      r.Answered cb a → r.call.posted = done → G done a → OnWay k cb G r n s

theorem OnWay.called (h : r.OnWay k cb G n s) :
    r.call.machine.state = .called ∨ r.call.machine.state = .completed := by
  cases h with
  | underway _ h => exact .inl (congrArg Resolver.state h.waiting)
  | due _ h => exact .inl (congrArg Resolver.state h.waiting)
  | answered _ _ h => exact .inr (congrArg Resolver.state h.spent)

/-- An operation that comes back is the one under way, and its completion is due. -/
theorem OnWay.back {op : Op I I} {ok : Bool} {x : Payload I} (h : r.OnWay k cb G n s)
    (hs : Step r (.back op ok x) r') (hb : k.brings s op ok x s') : r'.OnWay k cb G n s' := by
  cases h with
  | underway hn hu hp hl =>
    obtain ⟨rfl, hcall, hd⟩ := hu.back hs
    rw [← hcall] at hp hl
    exact .due hn hd hp hb hl
  | due _ hd => exact ((grounded hd.flying).1 _ _ _ hs).elim
  | answered _ _ ha => exact ((grounded ha.flying).1 _ _ _ hs).elim

/-- The completion that is taken ends the call, or is followed by its next operation. -/
theorem OnWay.take {ok : Bool} {x : Payload I} (h : r.OnWay k cb G n s) (hs : Step r (.take ok x) r') :
    r'.OnWay k cb G (n + 1) s := by
  cases h with
  | underway _ hu => exact (unfed hu.queued hs).elim
  | answered _ _ ha => exact (unfed ha.queued hs).elim
  | @due done op ok₁ x₁ s₀ _ hn hd hp hb hl =>
    obtain ⟨rfl, rfl, rfl⟩ := hd.take hs
    have hlen : (done ++ [op]).length = n + 1 := by rw [List.length_append, hn]; rfl
    have hposts := (Solo.step_some (s := r.call) (t := .take ok x) rfl).2
    have hpost : (r.moved (.take ok x)).call.posted = (done ++ [op]) ++ (r.call.machine.advance ok x).posts := by
      rw [moved, Solo.posted_step, hp, hposts]
    cases hl with
    | intro _ hends hgoes =>
      rcases Machine.advance_waiting hd.waiting ok x with ⟨-, -, -, op', hz⟩ | ⟨-, -, -, hz⟩
      · obtain ⟨hm, hu⟩ := hd.goesOn ⟨rfl, hz⟩
        have hsure := hgoes ok x s _ op' hb ⟨rfl, hz⟩
        rw [← hm] at hsure
        exact .underway hlen hu (hpost.trans (by rw [hz])) hsure
      · obtain ⟨a, ha, hg⟩ := hends ok x s hb hz
        exact .answered s hlen (hd.ends ha) (hpost.trans (by rw [hz, List.append_nil])) hg

theorem OnWay.step (h : r.OnWay k cb G n s) (hs : Step r t r') (hb : k.Bears s t s') (hc : t ≠ .cancel)
    (hk : ∀ ctx l cb, t = .start ctx l cb → r.call.machine.kind = l.kind) :
    r'.OnWay k cb G (n + t.taken?.toList.length) s' := by
  cases t with
  | start ctx l cb' =>
    obtain rfl : s' = s := hb
    have hst := h.called
    cases hs
    rw [moved_again (hk ctx l cb' rfl) hst]
    exact h
  | cancel => exact absurd rfl hc
  | lost op =>
    obtain ⟨hl, rfl⟩ := hb
    cases h with
    | underway _ hu _ hsure =>
      obtain ⟨rfl, -⟩ := hu.lost hs
      exact absurd hl (k.kept hsure.awaits)
    | due _ hd => exact ((grounded hd.flying).2 _ hs).elim
    | answered _ _ ha => exact ((grounded ha.flying).2 _ hs).elim
  | back op ok x => exact h.back hs hb
  | take ok x =>
    obtain rfl : s' = s := hb
    exact h.take hs

/-- Over a run the call gets as many operations further as it took completions. -/
theorem OnWay.run (h : r.OnWay k cb G n s) (hR : Runs r ts r') (hb : k.Carries s ts s') (hc : .cancel ∉ ts)
    (hk : ∀ ctx l cb, .start ctx l cb ∈ ts → r.call.machine.kind = l.kind) :
    r'.OnWay k cb G (n + (ts.filterMap Touch.taken?).length) s' := by
  induction hR generalizing n s with
  | nil => cases hb; exact h
  | @cons r r₁ r' t ts hs _ ih =>
    cases hb with
    | cons hb hbs =>
      have h₁ := h.step hs hb (fun e => hc (e ▸ List.mem_cons_self))
        fun ctx l cb e => hk ctx l cb (e ▸ List.mem_cons_self)
      have h₂ := ih h₁ hbs (fun hm => hc (List.mem_cons_of_mem _ hm))
        fun ctx l cb hm => hs.kind.trans (hk ctx l cb (List.mem_cons_of_mem _ hm))
      rw [Touch.filterMap_cons, List.length_append, ← Nat.add_assoc]
      exact h₂

/-- A call that is sure of its callback at its start, and not cancelled, is on its way there. -/
theorem OnWay.launched {ctx : Context} {l : Launch I} {cs : List (Cue I C)}
    (hl : k.Sure cb G [] (l.begun ctx cb) (l.first ctx) s)
    (hR : Runs ⟨.fresh l.kind, [], []⟩ ts r') (hs : ts.filterMap Touch.cue? = .start ctx l cb :: cs)
    (hc : .cancel ∉ cs) (hb : k.Carries s ts s') (hk : ∀ ctx l' cb, .start ctx l' cb ∈ ts → l'.kind = l.kind) :
    r'.OnWay k cb G (ts.filterMap Touch.taken?).length s' := by
  obtain ⟨ts, rfl, rfl, hR⟩ := hR.launched hs
  obtain ⟨hu, hm⟩ := underway_begun ctx l cb
  obtain ⟨-, hposts⟩ := Solo.step_some (s := (.fresh l.kind : Solo I I C)) (t := .start ctx l cb)
    (Launch.start_new ctx l cb)
  have hp : (moved ⟨.fresh l.kind, [], []⟩ (.start ctx l cb) : Round I I C).call.posted = [] ++ [l.first ctx] := by
    rw [moved, Solo.posted_step, hposts]
    cases l <;> rfl
  have h₁ : (moved ⟨.fresh l.kind, [], []⟩ (.start ctx l cb)).OnWay k cb G 0 s :=
    .underway rfl hu hp (by rw [hm]; exact hl)
  have hn : .cancel ∉ ts := fun hm => hc (List.mem_filterMap.mpr ⟨_, hm, rfl⟩)
  cases hb with
  | cons hb hbs =>
    obtain rfl : _ = s := hb
    have h₂ := h₁.run hR hbs hn fun ctx' l' cb' ht => by
      rw [hk ctx' l' cb' (List.mem_cons_of_mem _ ht), hm]
      cases l <;> rfl
    rw [Nat.zero_add] at h₂
    exact h₂

/-! ## The way on -/

/-- What the backing brings, and turns, take the call from the one to the other. -/
structure Borne (k : Backing I S) (r : Round I I C) (s : S) (ts : List (Touch I I C)) (r' : Round I I C) (s' : S) :
    Prop where
  runs : Runs r ts r'
  unasked : ∀ t ∈ ts, t.byCaller = false
  carries : k.Carries s ts s'

theorem Borne.nil (r : Round I I C) (s : S) : Borne k r s [] r s :=
  ⟨.nil r, fun _ ht => absurd ht List.not_mem_nil, .nil s⟩

theorem Borne.append {r'' : Round I I C} {s'' : S} {ts' : List (Touch I I C)} (h : Borne k r s ts r' s')
    (h' : Borne k r' s' ts' r'' s'') : Borne k r s (ts ++ ts') r'' s'' :=
  ⟨h.runs.append h'.runs, List.forall_mem_append.mpr ⟨h.unasked, h'.unasked⟩, h.carries.append h'.carries⟩

variable {P : S → Prop}

/-- The operation that the call waits for comes back in one way or another. -/
theorem Underway.borne {op : Op I I} (hu : r.Underway cb op) (hb : ∃ ok x s', k.brings s op ok x s' ∧ P s') :
    ∃ ok x r' s', Borne k r s [.back op ok x] r' s' ∧ k.brings s op ok x s' ∧ P s' ∧ r'.call = r.call ∧
      r'.Due cb ok x := by
  obtain ⟨ok, x, s', hb, hp⟩ := hb
  obtain ⟨r', hs, hcall, hd⟩ := hu.backs ok x
  exact ⟨ok, x, r', s', ⟨.cons hs (.nil r'), by simp [Touch.byCaller], .cons hb (.nil s')⟩, hb, hp, hcall, hd⟩

/-- What is due to it is taken. -/
theorem Due.borne {ok : Bool} {x : Payload I} (hd : r.Due cb ok x) (s : S) :
    Borne k r s [.take ok x] { r.moved (.take ok x) with queued := [] } s :=
  ⟨.cons (.take hd.queued) (.nil _), by simp [Touch.byCaller], .cons rfl (.nil s)⟩

theorem Due.arrives (hP : ∀ {s op}, P s → k.awaits s op → ∃ ok x s', k.brings s op ok x s' ∧ P s')
    {done : List (Op I I)} {m : Machine I I C} {op : Op I I} {ok : Bool} {x : Payload I}
    (hl : k.Sure cb G done m op s) (hm : r.call.machine = m) (hd : r.Due cb ok x) (hb : k.brings s op ok x s')
    (hp : P s') : ∃ ts r' s'', Borne k r s' ts r' s'' ∧ P s'' ∧ ∃ a, r'.Answered cb a := by
  induction hl generalizing r ok x s' with
  | @intro done m op s _ hends hgoes ih =>
    subst hm
    rcases Machine.advance_waiting hd.waiting ok x with ⟨-, -, -, op', hz⟩ | ⟨-, -, -, hz⟩
    · obtain ⟨hm, hu⟩ := hd.goesOn ⟨rfl, hz⟩
      have hsure := hgoes ok x s' _ op' hb ⟨rfl, hz⟩
      -- its next operation comes back, and then the same holds of what is due then
      obtain ⟨ok₂, x₂, r₂, s₂, ho₂, hb₂, hp₂, hc₂, hd₂⟩ := hu.borne (hP hp hsure.awaits)
      obtain ⟨ts, r', s'', ho, ha⟩ :=
        ih ok x s' _ op' hb ⟨rfl, hz⟩ ((congrArg Solo.machine hc₂).trans hm) hd₂ hb₂ hp₂
      exact ⟨_, r', s'', (hd.borne s').append (ho₂.append ho), ha⟩
    · obtain ⟨a, hx, -⟩ := hends ok x s' hb hz
      exact ⟨_, _, s', hd.borne s', hp, a, hd.ends hx⟩

/-- A call on its way to its callback can get there without its caller, and `P` holds on to
    the end if it need not be left for what the call relies on. -/
theorem OnWay.arrives (hP : ∀ {s op}, P s → k.awaits s op → ∃ ok x s', k.brings s op ok x s' ∧ P s')
    (h : r.OnWay k cb G n s) (hp : P s) :
    ∃ ts r' s', Borne k r s ts r' s' ∧ P s' ∧ ∃ a, r'.Answered cb a := by
  cases h with
  | underway _ hu _ hl =>
    obtain ⟨ok, x, r₁, s₁, ho₁, hb, hp₁, hc, hd⟩ := hu.borne (hP hp hl.awaits)
    obtain ⟨ts, r', s', ho, ha⟩ := hd.arrives hP hl (congrArg Solo.machine hc) hb hp₁
    exact ⟨_, r', s', ho₁.append ho, ha⟩
  | due _ hd _ hb hl => exact hd.arrives hP hl rfl hb hp
  | @answered done a _ _ ha => exact ⟨[], r, s, .nil r s, hp, a, ha⟩

end Round

end CallPump
