/-
  CallPump.Proofs.Call.Line — a call and the transport that is polled for it.

  What the transport has for one call is settled beforehand (`Line`): which writes are
  accepted, and what its futures come to. A future comes to a value, panics while it is
  polled, or is polled for ever; a deadline that passes is one of the errors that it may
  come to. An operation that polls a future itself dies with it. Where the future is the
  body of a call it runs as a task of its own, and the operation that joins the task is told
  of its panic like of any error (`Fate.joined`).

  A read takes the next item of the response stream. A drain takes item after item in a
  loop of its own and keeps the end alone (`Skims`).

  - `Line.Leads`: the call goes on, operation after operation, until its callback is given
    something or an operation dies.
  - `Line.leads_begun`: where a call of each kind is led from its start, said without the
    call (`Line.Reply`).
-/

import CallPump.Proofs.Call.Served

namespace CallPump

variable {I C : Type}

/-! ## The transport -/

/-- What becomes of a future that is polled. -/
inductive Fate (α : Type) where
  | comes (a : α)
  | panics (text : String)
  | hangs

namespace Fate

variable {α : Type}

/-- How the polling ends, if it does: with a value or, by a panic, with none. -/
def end? : Fate α → Option (Option α)
  | .comes a => some (some a)
  | .panics _ => some none
  | .hangs => none

/-- What joining a task comes to that polls the future. -/
def joined : Fate (Except GrpcStatus α) → Fate (Except GrpcStatus α)
  | .comes r => .comes r
  | .panics text => .comes (.error (.bodyPanicked text))
  | .hangs => .hangs

theorem comes_of_end {f : Fate α} {a : α} (h : f.end? = some (some a)) : f = .comes a := by
  cases f <;> cases h
  rfl

theorem panics_of_end {f : Fate α} (h : f.end? = some none) : ∃ text, f = .panics text := by
  cases f <;> cases h
  exact ⟨_, rfl⟩

theorem joined_ok {f : Fate (Except GrpcStatus α)} {a : α} (h : f.joined = .comes (.ok a)) : f = .comes (.ok a) := by
  cases f with
  | comes r => exact h
  | panics text => cases h
  | hangs => cases h

/-- A join does not end by the panic of what it joins. -/
theorem joined_calm {f : Fate (Except GrpcStatus α)} {text : String} : f.joined ≠ .panics text := by
  cases f <;> nofun

theorem joined_of_calm {f : Fate (Except GrpcStatus α)} (h : ∀ text, f ≠ .panics text) : f.joined = f := by
  cases f with
  | comes r => rfl
  | panics text => exact absurd rfl (h text)
  | hangs => rfl

end Fate

structure Line (I : Type) where
  /-- Whether the write is accepted, by its number. -/
  accepts : Nat → Bool
  /-- An RPC with one response. -/
  single : Fate (Except GrpcStatus I)
  /-- The opening of a response stream. -/
  opening : Fate (Except GrpcStatus Unit)
  /-- The items of the stream, by number; none is its end. -/
  item : Nat → Fate (Option (Except GrpcStatus I))

/-- How many writes were tried and how many items read. -/
structure Place where
  writes : Nat := 0
  reads : Nat := 0

def Place.after (p : Place) : Op I I → Place
  | .write _ _ => { p with writes := p.writes + 1 }
  | .read _ => { p with reads := p.reads + 1 }
  | .settled _ _ | .exchange _ _ | .openStream _ _ | .join | .joinStream | .drain _ => p

namespace Line

variable (ℓ : Line I)

/-- The loop of a drain, from the item of the number on. -/
inductive Skims : Nat → Option (Except GrpcStatus Unit) → Prop
  | atEnd {n : Nat} : ℓ.item n = .comes none → Skims n (some (.ok ()))
  | broken {n : Nat} {e : GrpcStatus} : ℓ.item n = .comes (some (.error e)) → Skims n (some (.error e))
  | skips {n : Nat} {i : I} {o : Option (Except GrpcStatus Unit)} : ℓ.item n = .comes (some (.ok i)) →
      Skims (n + 1) o → Skims n o
  | dies {n : Nat} {text : String} : ℓ.item n = .panics text → Skims n none

/-- A drain waits for the body to open the stream, and skims it. -/
inductive Drains : Option (Except GrpcStatus Unit) → Prop
  | unopened {e : GrpcStatus} : ℓ.opening.joined.end? = some (some (.error e)) → Drains (some (.error e))
  | skimmed {o : Option (Except GrpcStatus Unit)} : ℓ.opening.joined.end? = some (some (.ok ())) → ℓ.Skims 0 o →
      Drains o

/-- What an operation comes back with; with nothing if it dies. -/
inductive Brings (p : Place) : Op I I → Option (Bool × Payload I) → Prop
  | settled (ok : Bool) (x : Payload I) : Brings p (.settled ok x) (some (ok, x))
  | written (d : Option Instant) (q : I) : Brings p (.write d q) (some (ℓ.accepts p.writes, .unit))
  | exchanged {o : Option (Except GrpcStatus I)} (ctx : Context) (q : I) : ℓ.single.end? = some o →
      Brings p (.exchange ctx q) (o.map fun r => (r.toBool, .outcome r))
  | opened {o : Option (Except GrpcStatus Unit)} (ctx : Context) (q : I) : ℓ.opening.end? = some o →
      Brings p (.openStream ctx q) (o.map fun r => (r.toBool, .opened r))
  | joined {o : Option (Except GrpcStatus I)} : ℓ.single.joined.end? = some o →
      Brings p .join (o.map fun r => (true, .outcome r))
  | joinedStream {o : Option (Except GrpcStatus Unit)} : ℓ.opening.joined.end? = some o →
      Brings p .joinStream (o.map fun r => (r.toBool, .opened r))
  | item {o : Option (Option (Except GrpcStatus I))} (d : Option Instant) : (ℓ.item p.reads).end? = some o →
      Brings p (.read d) (o.map fun i => (i.any Except.toBool, .item i))
  | drained {o : Option (Except GrpcStatus Unit)} (d : Option Instant) : ℓ.Drains o →
      Brings p (.drain d) (o.map fun r => (true, .closed r))

variable {ℓ}

theorem Skims.unique {n : Nat} {o o' : Option (Except GrpcStatus Unit)} (h : ℓ.Skims n o) (h' : ℓ.Skims n o') :
    o = o' := by
  induction h with
  | atEnd hi => cases h' <;> simp_all
  | broken hi => cases h' <;> simp_all
  | dies hi => cases h' <;> simp_all
  | skips hi _ ih =>
    cases h' with
    | skips _ h' => exact ih h'
    | atEnd hi' => cases hi.symm.trans hi'
    | broken hi' => cases hi.symm.trans hi'
    | dies hi' => cases hi.symm.trans hi'

theorem Drains.unique {o o' : Option (Except GrpcStatus Unit)} (h : ℓ.Drains o) (h' : ℓ.Drains o') : o = o' := by
  cases h with
  | unopened ho =>
    cases h' with
    | unopened ho' => cases ho.symm.trans ho'; rfl
    | skimmed ho' _ => cases ho.symm.trans ho'
  | skimmed ho hs =>
    cases h' with
    | unopened ho' => cases ho.symm.trans ho'
    | skimmed _ hs' => exact hs.unique hs'

/-- An operation comes back in one way at most. -/
theorem Brings.unique {p : Place} {op : Op I I} {b b' : Option (Bool × Payload I)} (h : ℓ.Brings p op b)
    (h' : ℓ.Brings p op b') : b = b' := by
  cases h with
  | settled ok x => cases h'; rfl
  | written d q => cases h'; rfl
  | drained d hd => cases h' with | drained _ hd' => rw [hd.unique hd']
  | exchanged ctx q ho => cases h' with | exchanged _ _ ho' => cases ho.symm.trans ho'; rfl
  | opened ctx q ho => cases h' with | opened _ _ ho' => cases ho.symm.trans ho'; rfl
  | joined ho => cases h' with | joined ho' => cases ho.symm.trans ho'; rfl
  | joinedStream ho => cases h' with | joinedStream ho' => cases ho.symm.trans ho'; rfl
  | item d ho => cases h' with | item _ ho' => cases ho.symm.trans ho'; rfl

/-! The constructors of `Brings`, the other way round. -/

theorem brings_exchange {p : Place} {ctx : Context} {q : I} {b : Option (Bool × Payload I)} :
    ℓ.Brings p (.exchange ctx q) b ↔ ∃ o, ℓ.single.end? = some o ∧ b = o.map fun r => (r.toBool, .outcome r) := by
  constructor
  · intro h
    cases h with
    | exchanged _ _ ho => exact ⟨_, ho, rfl⟩
  · rintro ⟨o, ho, rfl⟩
    exact .exchanged ctx q ho

theorem brings_openStream {p : Place} {ctx : Context} {q : I} {b : Option (Bool × Payload I)} :
    ℓ.Brings p (.openStream ctx q) b ↔ ∃ o, ℓ.opening.end? = some o ∧ b = o.map fun r => (r.toBool, .opened r) := by
  constructor
  · intro h
    cases h with
    | opened _ _ ho => exact ⟨_, ho, rfl⟩
  · rintro ⟨o, ho, rfl⟩
    exact .opened ctx q ho

theorem brings_join {p : Place} {b : Option (Bool × Payload I)} :
    ℓ.Brings p .join b ↔ ∃ o, ℓ.single.joined.end? = some o ∧ b = o.map fun r => (true, .outcome r) := by
  constructor
  · intro h
    cases h with
    | joined ho => exact ⟨_, ho, rfl⟩
  · rintro ⟨o, ho, rfl⟩
    exact .joined ho

theorem brings_joinStream {p : Place} {b : Option (Bool × Payload I)} :
    ℓ.Brings p .joinStream b ↔ ∃ o, ℓ.opening.joined.end? = some o ∧ b = o.map fun r => (r.toBool, .opened r) := by
  constructor
  · intro h
    cases h with
    | joinedStream ho => exact ⟨_, ho, rfl⟩
  · rintro ⟨o, ho, rfl⟩
    exact .joinedStream ho

theorem brings_drain {p : Place} {d : Option Instant} {b : Option (Bool × Payload I)} :
    ℓ.Brings p (.drain d) b ↔ ∃ o, ℓ.Drains o ∧ b = o.map fun r => (true, .closed r) := by
  constructor
  · intro h
    cases h with
    | drained _ ho => exact ⟨_, ho, rfl⟩
  · rintro ⟨o, ho, rfl⟩
    exact .drained d ho

/-- A read dies with the stream, or comes back with the next item. -/
theorem brings_read {p : Place} {d : Option Instant} {b : Option (Bool × Payload I)} :
    ℓ.Brings p (.read d) b ↔ (∃ text, ℓ.item p.reads = .panics text ∧ b = none) ∨
      ∃ i, ℓ.item p.reads = .comes i ∧ b = some (i.any Except.toBool, .item i) := by
  constructor
  · rintro (_ | _ | _ | _ | _ | _ | ⟨_, h⟩)
    rename_i o
    cases o with
    | none => exact .inl (by obtain ⟨text, ht⟩ := Fate.panics_of_end h; exact ⟨text, ht, rfl⟩)
    | some i => exact .inr ⟨i, Fate.comes_of_end h, rfl⟩
  · rintro (⟨text, hi, rfl⟩ | ⟨i, hi, rfl⟩)
    · exact .item (o := none) d (by rw [hi]; rfl)
    · exact .item (o := some i) d (by rw [hi]; rfl)

/-! ## Where a call is led -/

end Line

theorem Machine.Goes.unique {m m₁ m₂ : Machine I I C} {ok : Bool} {x : Payload I} {op₁ op₂ : Op I I}
    (h₁ : m.Goes ok x m₁ op₁) (h₂ : m.Goes ok x m₂ op₂) : m₁ = m₂ ∧ op₁ = op₂ :=
  ⟨h₁.1.symm.trans h₂.1, (List.cons.inj (h₁.2.symm.trans h₂.2)).1⟩

namespace Line

variable {ℓ : Line I}

variable (ℓ) in
/-- With the operation under way, the call comes to its callback with a result, or to
    nothing more because an operation died. -/
inductive Leads (cb : C) : Machine I I C → Op I I → Place → Option (Except GrpcStatus (Answer I)) → Prop
  | dies {m : Machine I I C} {op : Op I I} {p : Place} : ℓ.Brings p op none → Leads cb m op p none
  | ends {m : Machine I I C} {op : Op I I} {p : Place} {ok : Bool} {x : Payload I}
      {a : Except GrpcStatus (Answer I)} : ℓ.Brings p op (some (ok, x)) → (m.advance ok x).answer = some (cb, a) →
      (m.advance ok x).posts = [] → Leads cb m op p (some a)
  | goesOn {m m' : Machine I I C} {op op' : Op I I} {p : Place} {ok : Bool} {x : Payload I}
      {o : Option (Except GrpcStatus (Answer I))} : ℓ.Brings p op (some (ok, x)) → m.Goes ok x m' op' →
      Leads cb m' op' (p.after op) o → Leads cb m op p o

section

variable {cb : C} {m m' : Machine I I C} {op op' : Op I I} {p : Place} {ok : Bool} {x : Payload I}
  {a : Except GrpcStatus (Answer I)} {o o' : Option (Except GrpcStatus (Answer I))}

theorem leads_dead (hb : ℓ.Brings p op none) : ℓ.Leads cb m op p o ↔ o = none := by
  constructor
  · intro h
    cases h with
    | dies _ => rfl
    | ends hb' _ _ => cases hb.unique hb'
    | goesOn hb' _ _ => cases hb.unique hb'
  · rintro rfl
    exact .dies hb

theorem leads_last (hb : ℓ.Brings p op (some (ok, x))) (ha : (m.advance ok x).answer = some (cb, a))
    (hp : (m.advance ok x).posts = []) : ℓ.Leads cb m op p o ↔ o = some a := by
  constructor
  · intro h
    cases h with
    | dies hb' => cases hb.unique hb'
    | ends hb' ha' _ => cases hb.unique hb'; cases ha.symm.trans ha'; rfl
    | goesOn hb' hg _ => cases hb.unique hb'; cases hp.symm.trans hg.2
  · rintro rfl
    exact .ends hb ha hp

theorem leads_next (hb : ℓ.Brings p op (some (ok, x))) (hg : m.Goes ok x m' op') :
    ℓ.Leads cb m op p o ↔ ℓ.Leads cb m' op' (p.after op) o := by
  constructor
  · intro h
    cases h with
    | dies hb' => cases hb.unique hb'
    | ends hb' _ hp => cases hb.unique hb'; cases hp.symm.trans hg.2
    | goesOn hb' hg' h =>
      cases hb.unique hb'
      obtain ⟨rfl, rfl⟩ := hg.unique hg'
      exact h
  · intro h
    exact .goesOn hb hg h

/-- A call whose callback is given what one operation comes back with. -/
theorem leads_answer {α : Type} {ends : Option (Except GrpcStatus α) → Prop} {flag : Except GrpcStatus α → Bool}
    {payload : Except GrpcStatus α → Payload I} {answer : α → Answer I}
    (hb : ∀ {b}, ℓ.Brings p op b ↔ ∃ r, ends r ∧ b = r.map fun r => (flag r, payload r))
    (ha : ∀ ok r, (m.advance ok (payload r)).answer = some (cb, r.map answer))
    (hp : ∀ ok r, (m.advance ok (payload r)).posts = []) :
    ℓ.Leads cb m op p o ↔ ∃ r, ends r ∧ o = r.map (·.map answer) := by
  constructor
  · intro h
    cases h with
    | dies hd =>
      obtain ⟨r, hr, h⟩ := hb.mp hd
      cases r <;> cases h
      exact ⟨none, hr, rfl⟩
    | ends hd ha' _ =>
      obtain ⟨r, hr, h⟩ := hb.mp hd
      cases r <;> cases h
      cases (ha _ _).symm.trans ha'
      exact ⟨_, hr, rfl⟩
    | goesOn hd hg _ =>
      obtain ⟨r, -, h⟩ := hb.mp hd
      cases r <;> cases h
      cases (hp _ _).symm.trans hg.2
  · rintro ⟨r, hr, rfl⟩
    cases r with
    | none => exact .dies (hb.mpr ⟨none, hr, rfl⟩)
    | some r => exact .ends (hb.mpr ⟨some r, hr, rfl⟩) (ha _ r) (hp _ r)

theorem Leads.unique (h : ℓ.Leads cb m op p o) (h' : ℓ.Leads cb m op p o') : o = o' := by
  induction h with
  | dies hb => exact ((leads_dead hb).mp h').symm
  | ends hb ha hp => exact ((leads_last hb ha hp).mp h').symm
  | goesOn hb hg _ ih => exact ih ((leads_next hb hg).mp h')

end

/-! ## Reading the stream -/

variable (ℓ) in
/-- Item after item is read, from the one of the number on; those before it are at hand. -/
inductive Reads : Nat → List I → Option (Except GrpcStatus (List I)) → Prop
  | atEnd {n : Nat} {is : List I} : ℓ.item n = .comes none → Reads n is (some (.ok is))
  | broken {n : Nat} {is : List I} {e : GrpcStatus} : ℓ.item n = .comes (some (.error e)) →
      Reads n is (some (.error e))
  | more {n : Nat} {is : List I} {i : I} {o : Option (Except GrpcStatus (List I))} :
      ℓ.item n = .comes (some (.ok i)) → Reads (n + 1) (is ++ [i]) o → Reads n is o
  | dies {n : Nat} {is : List I} {text : String} : ℓ.item n = .panics text → Reads n is none

/-- A drain ends as reading does, without what was read. -/
theorem skims_iff {n : Nat} (is : List I) {o : Option (Except GrpcStatus Unit)} :
    ℓ.Skims n o ↔ ∃ r, ℓ.Reads n is r ∧ o = r.map (·.map fun _ => ()) := by
  constructor
  · intro h
    induction h generalizing is with
    | atEnd hi => exact ⟨_, .atEnd hi, rfl⟩
    | broken hi => exact ⟨_, .broken hi, rfl⟩
    | dies hi => exact ⟨_, .dies hi, rfl⟩
    | @skips n i o hi _ ih =>
      obtain ⟨r, hr, rfl⟩ := ih (is ++ [i])
      exact ⟨r, .more hi hr, rfl⟩
  · rintro ⟨r, hr, rfl⟩
    induction hr with
    | atEnd hi => exact .atEnd hi
    | broken hi => exact .broken hi
    | dies hi => exact .dies hi
    | more hi _ ih => exact .skips hi ih

variable (ℓ) in
/-- The stream is opened, and read to its end. -/
inductive Streams (f : Fate (Except GrpcStatus Unit)) : Option (Except GrpcStatus (List I)) → Prop
  | refused {e : GrpcStatus} : f = .comes (.error e) → Streams f (some (.error e))
  | dies {text : String} : f = .panics text → Streams f none
  | read {o : Option (Except GrpcStatus (List I))} : f = .comes (.ok ()) → ℓ.Reads 0 [] o → Streams f o

/-- What a drain tells is how reading the stream would end. -/
theorem drains_iff {o : Option (Except GrpcStatus Unit)} :
    ℓ.Drains o ↔ ∃ r, ℓ.Streams ℓ.opening.joined r ∧ o = r.map (·.map fun _ => ()) := by
  constructor
  · intro h
    cases h with
    | unopened ho => exact ⟨_, .refused (Fate.comes_of_end ho), rfl⟩
    | skimmed ho hs =>
      obtain ⟨r, hr, rfl⟩ := (skims_iff []).mp hs
      exact ⟨r, .read (Fate.comes_of_end ho) hr, rfl⟩
  · rintro ⟨r, hs, rfl⟩
    cases hs with
    | refused he => exact .unopened (by rw [he]; rfl)
    | read ho hr => exact .skimmed (by rw [ho]; rfl) ((skims_iff []).mpr ⟨r, hr, rfl⟩)
    | dies he => exact absurd he Fate.joined_calm

end Line

/-- A reader that is told of a broken stream too, and that posts nothing once it has ended. -/
structure Listener (cb : C) (d : Option Instant) (opening : Machine I I C) (reading ended : List I → Machine I I C) :
    Prop extends Reader cb d opening reading ended where
  broken : ∀ is ok e, (reading is).Goes ok (.item (some (.error e))) (ended is) (.settled true (.closed (.error e)))
  silent : ∀ is ok x, ((ended is).advance ok x).posts = []

namespace Listener

variable {ℓ : Line I} {cb : C} {d : Option Instant} {opening : Machine I I C} {reading ended : List I → Machine I I C}
  {o : Option (Except GrpcStatus (Answer I))}

/-- What a call is given that was told how the stream ended. -/
theorem leads_ended (hl : Listener cb d opening reading ended) (is : List I) (r : Except GrpcStatus Unit) (p : Place) :
    ℓ.Leads cb (ended is) (.settled true (.closed r)) p o ↔ o = some (r.map fun () => .many is) :=
  Line.leads_last (.settled true _) (hl.answer is true r) (hl.silent is true _)

/-- Read after read, the call comes to what the stream has. -/
theorem leads_reading (hl : Listener cb d opening reading ended) {n : Nat} (is : List I) {p : Place}
    (hn : p.reads = n) :
    ℓ.Leads cb (reading is) (.read d) p o ↔ ∃ r, ℓ.Reads n is r ∧ o = r.map (·.map .many) := by
  constructor
  · intro h
    generalize hm : reading is = m at h
    generalize ho : (.read d : Op I I) = op at h
    induction h generalizing n is with
    | dies hb =>
      subst ho hn
      rcases Line.brings_read.mp hb with ⟨text, hi, -⟩ | ⟨i, -, hi⟩
      · exact ⟨none, .dies hi, rfl⟩
      · cases hi
    | ends hb ha hp =>
      subst hm ho hn
      rcases Line.brings_read.mp hb with ⟨text, -, hi⟩ | ⟨i, -, hi⟩
      · cases hi
      · cases hi
        rcases i with _ | e | i
        · cases hp.symm.trans (hl.last is _).2
        · cases hp.symm.trans (hl.broken is _ e).2
        · cases hp.symm.trans (hl.item is i _).2
    | goesOn hb hg h ih =>
      subst hm ho hn
      rcases Line.brings_read.mp hb with ⟨text, -, hi⟩ | ⟨i, hi, hx⟩
      · cases hi
      · cases hx
        rcases i with _ | e | i
        · obtain ⟨rfl, rfl⟩ := hg.unique (hl.last is _)
          exact ⟨_, .atEnd hi, (hl.leads_ended _ _ _).mp h⟩
        · obtain ⟨rfl, rfl⟩ := hg.unique (hl.broken is _ e)
          exact ⟨_, .broken hi, (hl.leads_ended _ _ _).mp h⟩
        · obtain ⟨rfl, rfl⟩ := hg.unique (hl.item is i _)
          obtain ⟨r, hr, rfl⟩ := ih (is ++ [i]) rfl rfl rfl
          exact ⟨r, .more hi hr, rfl⟩
  · rintro ⟨r, hr, rfl⟩
    induction hr generalizing p with
    | dies hi => subst hn; exact .dies (Line.brings_read.mpr (.inl ⟨_, hi, rfl⟩))
    | atEnd hi =>
      subst hn
      exact .goesOn (Line.brings_read.mpr (.inr ⟨_, hi, rfl⟩)) (hl.last _ _) ((hl.leads_ended _ _ _).mpr rfl)
    | broken hi =>
      subst hn
      exact .goesOn (Line.brings_read.mpr (.inr ⟨_, hi, rfl⟩)) (hl.broken _ _ _) ((hl.leads_ended _ _ _).mpr rfl)
    | more hi _ ih =>
      subst hn
      exact .goesOn (Line.brings_read.mpr (.inr ⟨_, hi, rfl⟩)) (hl.item _ _ _) (ih rfl)

/-- From the operation on that waits for the stream to open. -/
theorem leads_opening (hl : Listener cb d opening reading ended) {op : Op I I} {f : Fate (Except GrpcStatus Unit)}
    {p : Place} (hop : ∀ {b}, ℓ.Brings p op b ↔ ∃ r, f.end? = some r ∧ b = r.map fun r => (r.toBool, .opened r))
    (hp : (p.after op).reads = 0) :
    ℓ.Leads cb opening op p o ↔ ∃ r, ℓ.Streams f r ∧ o = r.map (·.map .many) := by
  cases f with
  | hangs =>
    constructor
    · rintro (hb | ⟨hb, -, -⟩ | ⟨hb, -, -⟩) <;> obtain ⟨r, hr, -⟩ := hop.mp hb <;> cases hr
    · rintro ⟨r, hs, -⟩
      cases hs <;> contradiction
  | panics text =>
    rw [Line.leads_dead (hop.mpr ⟨none, rfl, rfl⟩)]
    constructor
    · rintro rfl
      exact ⟨none, .dies rfl, rfl⟩
    · rintro ⟨r, hs, rfl⟩
      cases hs <;> first | rfl | contradiction
  | comes r =>
    cases r with
    | error e =>
      rw [Line.leads_next (hop.mpr ⟨_, rfl, rfl⟩) (hl.refused _ e), hl.leads_ended]
      constructor
      · rintro rfl
        exact ⟨_, .refused rfl, rfl⟩
      · rintro ⟨r, hs, rfl⟩
        cases hs with
        | refused he => cases he; rfl
        | dies he => cases he
        | read he => cases he
    | ok u =>
      rw [Line.leads_next (hop.mpr ⟨_, rfl, rfl⟩) (hl.opened _), hl.leads_reading [] hp]
      constructor
      · rintro ⟨r, hr, rfl⟩
        exact ⟨r, .read rfl hr, rfl⟩
      · rintro ⟨r, hs, rfl⟩
        cases hs with
        | refused he => cases he
        | dies he => cases he
        | read _ hr => exact ⟨r, hr, rfl⟩

end Listener

/-! ## Writing requests -/

/-- A writer that gives up on a write that fails, and goes on to `last` then. -/
structure Author (d : Option Instant) (writing : Bool → List I → Machine I I C) (closed givenUp : Machine I I C)
    (last : Op I I) : Prop extends Writer d writing closed where
  fail : ∀ b qs x, (writing b qs).Goes false x givenUp last

variable (ℓ : Line I) in
/-- Whether all the requests are accepted, when so many writes were tried before. -/
def Line.takes : Nat → List I → Bool
  | _, [] => true
  | n, _ :: qs => ℓ.accepts n && takes (n + 1) qs

namespace Author

variable {ℓ : Line I} {cb : C} {d : Option Instant} {writing : Bool → List I → Machine I I C}
  {closed givenUp : Machine I I C} {last : Op I I} {o : Option (Except GrpcStatus (Answer I))}

/-- Once written, or not, the requests make no difference. -/
theorem leads_writing (hw : Author d writing closed givenUp last) {P Q : Prop}
    (hP : ∀ p : Place, p.reads = 0 → (ℓ.Leads cb closed (.nudge true) p o ↔ P))
    (hQ : ∀ p : Place, p.reads = 0 → (ℓ.Leads cb givenUp last p o ↔ Q)) {qs : List I} {b : Bool}
    (hb : b = true → qs = []) {op : Op I I} {p : Place} {ok : Bool} {x : Payload I}
    (hop : ℓ.Brings p op (some (ok, x))) (hp : (p.after op).reads = 0) :
    ℓ.Leads cb (writing b qs) op p o ↔ if ok && ℓ.takes (p.after op).writes qs then P else Q := by
  induction qs generalizing b op p ok x with
  | nil =>
    cases ok with
    | false => rw [Line.leads_next hop (hw.fail b [] x), hQ _ hp]; simp
    | true => rw [Line.leads_next hop (hw.close b x), hP _ hp]; simp [Line.takes]
  | cons q qs ih =>
    obtain rfl : b = false := by
      cases b with
      | false => rfl
      | true => cases hb rfl
    cases ok with
    | false => rw [Line.leads_next hop (hw.fail false (q :: qs) x), hQ _ hp]; simp
    | true =>
      rw [Line.leads_next hop (hw.next q qs x), ih List.isEmpty_iff.mp (.written d q) hp, Bool.true_and]
      rfl

end Author

/-! ## The four kinds -/

section

variable (cb : C) (d : Option Instant)

theorem ResponseStreamCall.listens :
    Listener (I := I) cb d (.responseStream (reading cb d .startRead []))
      (fun is => .responseStream (reading cb d .readOn is)) fun is => .responseStream (reading cb d .callback is) where
  toReader := ResponseStreamCall.reads cb d
  broken _ _ _ := ⟨rfl, rfl⟩
  silent _ _ _ := rfl

theorem BidiCall.listens :
    Listener (I := I) cb d (.bidi (reading cb d .startRead [])) (fun is => .bidi (reading cb d .readOn is))
      fun is => .bidi (reading cb d .callback is) where
  toReader := BidiCall.reads cb d
  broken _ _ _ := ⟨rfl, rfl⟩
  silent _ _ _ := rfl

/-- A request stream waits for its answer, and a write that failed changes nothing of that. -/
def RequestStreamCall.awaiting : RequestStreamCall I C :=
  { resolver := .waiting cb, step := .callback, deadline := d }

theorem RequestStreamCall.authors :
    Author (I := I) d (fun b qs => .requestStream (writing cb d b qs)) (.requestStream (closed cb d))
      (.requestStream (awaiting cb d)) .join where
  toWriter := RequestStreamCall.writes cb d
  fail b _ _ := by cases b <;> exact ⟨rfl, rfl⟩

theorem BidiCall.authors :
    Author (I := I) d (fun b qs => .bidi (writing cb d b qs)) (.bidi (closed cb d))
      (.bidi (reading cb d .callback [])) (.drain d) where
  toWriter := BidiCall.writes cb d
  fail b _ _ := by cases b <;> exact ⟨rfl, rfl⟩

end

namespace Line

variable (ℓ : Line I)

/-- Where a started call of any kind is led. -/
def Answers (ctx : Context) (l : Launch I) (cb : C) (o : Option (Except GrpcStatus (Answer I))) : Prop :=
  ℓ.Leads cb (l.begun ctx cb) (l.first ctx) {} o

/-- The same, said of the transport alone: what the call's callback is given, or nothing if
    an operation dies on the way to it. -/
def Reply : Launch I → Option (Except GrpcStatus (Answer I)) → Prop
  | .unary _, o => ∃ r, ℓ.single.end? = some r ∧ o = r.map (·.map .one)
  | .requestStream _, o => ∃ r, ℓ.single.joined.end? = some r ∧ o = r.map (·.map .one)
  | .responseStream _, o => ∃ r, ℓ.Streams ℓ.opening r ∧ o = r.map (·.map .many)
  | .bidi qs, o => ∃ r, ℓ.Streams ℓ.opening.joined r ∧
      o = r.map (·.map fun is => .many (if ℓ.takes 0 qs then is else []))

variable {ℓ} {ctx : Context} {cb : C} {o : Option (Except GrpcStatus (Answer I))}

theorem leads_awaiting {d : Option Instant} {p : Place} :
    ℓ.Leads cb (.requestStream (.awaiting cb d)) .join p o ↔
      ∃ r, ℓ.single.joined.end? = some r ∧ o = r.map (·.map .one) :=
  leads_answer brings_join (fun _ _ => rfl) fun _ _ => rfl

/-- A drain tells how the stream ended, and no item. -/
theorem leads_drain {d : Option Instant} {p : Place} :
    ℓ.Leads cb (.bidi (.reading cb d .callback [])) (.drain d) p o ↔
      ∃ r, ℓ.Streams ℓ.opening.joined r ∧ o = r.map (·.map fun _ => .many []) := by
  refine (leads_answer brings_drain (fun _ _ => rfl) fun _ _ => rfl).trans ?_
  constructor
  · rintro ⟨r, hr, rfl⟩
    obtain ⟨r, hs, rfl⟩ := drains_iff.mp hr
    exact ⟨r, hs, by rcases r with _ | _ | _ <;> rfl⟩
  · rintro ⟨r, hs, rfl⟩
    exact ⟨_, drains_iff.mpr ⟨r, hs, rfl⟩, by rcases r with _ | _ | _ <;> rfl⟩

theorem leads_begun (l : Launch I) : ℓ.Answers ctx l cb o ↔ ℓ.Reply l o := by
  cases l with
  | unary q => exact leads_answer brings_exchange (fun _ _ => rfl) fun _ _ => rfl
  | responseStream q => exact (ResponseStreamCall.listens cb ctx.deadline).leads_opening brings_openStream rfl
  | requestStream qs =>
    have hw := RequestStreamCall.authors (I := I) cb ctx.deadline
    have hc (p : Place) : ℓ.Leads cb (.requestStream (.closed cb ctx.deadline)) (.nudge true) p o ↔
        ℓ.Reply (.requestStream qs) o :=
      (leads_next (.settled true .unit) ⟨rfl, rfl⟩).trans leads_awaiting
    refine (hw.leads_writing (b := false) (fun p _ => hc p) (fun _ _ => leads_awaiting) nofun
      (.settled true .unit) rfl).trans ?_
    exact iff_of_eq (ite_self _)
  | bidi qs =>
    have hw := BidiCall.authors (I := I) cb ctx.deadline
    have hc (p : Place) (hp : p.reads = 0) : ℓ.Leads cb (.bidi (.closed cb ctx.deadline)) (.nudge true) p o ↔
        ∃ r, ℓ.Streams ℓ.opening.joined r ∧ o = r.map (·.map .many) :=
      (leads_next (.settled true .unit) ⟨rfl, rfl⟩).trans
        ((BidiCall.listens cb ctx.deadline).leads_opening brings_joinStream hp)
    refine (hw.leads_writing (b := false) hc (fun _ _ => leads_drain) nofun (.settled true .unit) rfl).trans ?_
    show (if ℓ.takes 0 qs = true then _ else _) ↔ ∃ r, _ ∧ _
    cases ℓ.takes 0 qs <;> rfl

end Line

/-! ## What happens to a call on its line -/

namespace Line

variable (ℓ : Line I)

/-- What happens to the call's operations is what the line has for them. -/
def Plays (p : Place) : Touch I I C → Prop
  | .back op ok x => ℓ.Brings p op (some (ok, x))
  | .lost op => ℓ.Brings p op none
  | .start _ _ _ | .cancel | .take _ _ => True

end Line

/-- How far the line is then. -/
def Place.past (p : Place) : Touch I I C → Place
  | .back op _ _ => p.after op
  | .start _ _ _ | .cancel | .lost _ | .take _ _ => p

def Line.PlaysAll (ℓ : Line I) : Place → List (Touch I I C) → Prop
  | _, [] => True
  | p, t :: ts => ℓ.Plays p t ∧ PlaysAll ℓ (p.past t) ts

end CallPump
