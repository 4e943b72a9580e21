/-
  CallPump.Proofs.Queue — the operations that a queue has to account for.

  An operation is outstanding from the moment it is posted until its completion is taken
  off the queue: it is in flight, then queued. Proved:
  - posting adds as many outstanding operations as it posts, under their tag alone
    (`outstanding_postAll`), and nothing once the queue is closed (`postAll_closed`);
  - finishing keeps the number, whatever the outcome (`outstanding_finish`);
  - taking a completion lowers the number of its tag by one (`outstanding_pop`);
  - tickets in flight stay distinct, so finishing ends one operation (`Ticketed`).

  What one call has on its way (`flying`) and on its way back (`queued`), in order, is
  changed by nothing that happens under another tag.
-/

import CallPump.Queue

namespace CallPump.Queue

variable {O P : Type}

/-- How many operations are on their way for a call or back and not taken yet. -/
def outstanding (q : Queue O P) (id : CallId) :
    Nat := q.inFlight.countP (·.tag == id) + q.ready.countP (·.tag == id)

/-- No two operations in flight share a ticket, and all tickets were handed out. -/
structure Ticketed (q : Queue O P) : Prop where
  distinct : (q.inFlight.map (·.ticket)).Nodup
  issued : ∀ o ∈ q.inFlight, o.ticket < q.issued

theorem ticketed_empty : Ticketed ({} : Queue O P) := ⟨List.nodup_nil, fun _ h => nomatch h⟩

theorem outstanding_idle {q : Queue O P} (hf : q.inFlight = []) (hr : q.ready = []) (id : CallId) :
    q.outstanding id = 0 := by simp [outstanding, hf, hr]

theorem ready_outstanding {q : Queue O P} {c : Completion P} (h : c ∈ q.ready) : 0 < q.outstanding c.tag :=
  Nat.add_pos_right _ (List.countP_pos_iff.mpr ⟨c, h, by simp⟩)

/-! ## Posting -/

/-- The queue after some posts for one call; a closed queue stays as it is. -/
def postAll (q : Queue O P) (tag : CallId) (ops : List O) : Queue O P :=
  ops.foldl (fun q op => ((q.post tag op).map (·.2)).getD q) q

theorem postAll_closed {q : Queue O P} (h : q.closed = true) (tag : CallId) (ops : List O) :
    q.postAll tag ops = q := by
  induction ops with
  | nil => rfl
  | cons op ops ih => simpa [postAll, post, h] using ih

theorem post_open {q : Queue O P} (h : q.closed = false) (tag : CallId) (op : O) (ops : List O) :
    q.postAll tag (op :: ops) =
      ({ q with issued := q.issued + 1, inFlight := q.inFlight ++ [⟨q.issued, tag, op⟩] } : Queue O P).postAll tag
        ops := by
  simp [postAll, post, h]

theorem postAll_frame (q : Queue O P) (tag : CallId) (ops : List O) :
    (q.postAll tag ops).closed = q.closed ∧ (q.postAll tag ops).ready = q.ready := by
  cases h : q.closed with
  | true => rw [postAll_closed h]; exact ⟨h, rfl⟩
  | false =>
    induction ops generalizing q with
    | nil => exact ⟨h, rfl⟩
    | cons op ops ih => rw [post_open h]; exact ih _ h

theorem outstanding_postAll {q : Queue O P} (h : q.closed = false) (tag : CallId) (ops : List O) (id : CallId) :
    (q.postAll tag ops).outstanding id = q.outstanding id + if id = tag then ops.length else 0 := by
  induction ops generalizing q with
  | nil => simp [postAll]
  | cons op ops ih =>
    rw [post_open h]
    refine (ih (by exact h)).trans ?_
    by_cases e : id = tag
    · subst e
      simp [outstanding]
      omega
    · have e' : ¬ tag = id := fun h => e h.symm
      simp [outstanding, e, e']

theorem outstanding_postAll_other (q : Queue O P) {tag id : CallId} (ops : List O) (h : id ≠ tag) :
    (q.postAll tag ops).outstanding id = q.outstanding id := by
  cases hc : q.closed with
  | true => rw [postAll_closed hc]
  | false => rw [outstanding_postAll hc, if_neg h, Nat.add_zero]

theorem ticketed_postAll {q : Queue O P} (h : Ticketed q) (tag : CallId) (ops : List O) :
    Ticketed (q.postAll tag ops) := by
  cases hc : q.closed with
  | true => rw [postAll_closed hc]; exact h
  | false =>
    induction ops generalizing q with
    | nil => exact h
    | cons op ops ih =>
      rw [post_open hc]
      refine ih ⟨?_, ?_⟩ hc
      · rw [List.map_append, List.nodup_append]
        refine ⟨h.distinct, by simp, fun a ha b hb => ?_⟩
        obtain ⟨o, ho, rfl⟩ := List.mem_map.mp ha
        simp only [List.map_cons, List.map_nil, List.mem_singleton] at hb
        have := h.issued o ho
        omega
      · intro o ho
        show o.ticket < q.issued + 1
        rcases List.mem_append.mp ho with ho | ho
        · have := h.issued o ho; omega
        · simp only [List.mem_singleton] at ho; subst ho; exact Nat.lt_succ_self _

/-! ## Finishing -/

/-- The operation under a ticket is one element of what is in flight, and it is the one that
    goes away with the ticket. -/
theorem abandon_split {q : Queue O P} (h : Ticketed q) {t : Nat} {o : Posted O} (ho : q.find? t = some o) :
    ∃ as bs, q.inFlight = as ++ o :: bs ∧ (q.abandon t).inFlight = as ++ bs := by
  obtain ⟨ht, as, bs, hq, ha⟩ := List.find?_eq_some_iff_append.mp ho
  have hd := h.distinct
  rw [hq] at hd
  have hb : ∀ b ∈ bs, b.ticket ≠ t := by
    intro b hb e
    simp only [List.map_append, List.map_cons, List.nodup_append, List.nodup_cons] at hd
    refine hd.2.1.1 (List.mem_map.mpr ⟨b, hb, ?_⟩)
    rw [e]; exact (beq_iff_eq.mp ht).symm
  have hfa : as.filter (·.ticket != t) = as := List.filter_eq_self.mpr fun a h => by simpa [bne] using ha a h
  have hfb : bs.filter (·.ticket != t) = bs := List.filter_eq_self.mpr fun b h => by simpa [bne] using hb b h
  have ho' : (o.ticket != t) = false := by simpa [bne] using ht
  refine ⟨as, bs, hq, ?_⟩
  simp only [abandon, hq, List.filter_append, List.filter_cons, ho', Bool.false_eq_true, if_false, hfa, hfb]

theorem countP_abandon {q : Queue O P} (h : Ticketed q) {t : Nat} {o : Posted O} (ho : q.find? t = some o)
    (id : CallId) :
    q.inFlight.countP (·.tag == id) =
      (q.abandon t).inFlight.countP (·.tag == id) + if o.tag = id then 1 else 0 := by
  obtain ⟨as, bs, hq, ha⟩ := abandon_split h ho
  simp only [hq, ha, List.countP_append, List.countP_cons, beq_iff_eq]
  omega

theorem outstanding_finish {q : Queue O P} (h : Ticketed q) (t : Nat) (ok : Bool) (p : P) (id : CallId) :
    (q.finish t ok p).outstanding id = q.outstanding id := by
  unfold finish
  cases ho : q.find? t with
  | none => rfl
  | some o =>
    have := countP_abandon h ho id
    simp only [outstanding, List.countP_append, List.countP_cons, List.countP_nil, beq_iff_eq]
    omega

theorem outstanding_abandon_le (q : Queue O P) (t : Nat) (id : CallId) :
    (q.abandon t).outstanding id ≤ q.outstanding id :=
  Nat.add_le_add_right (List.Sublist.countP_le List.filter_sublist) _

theorem ticketed_abandon {q : Queue O P} (h : Ticketed q) (t : Nat) : Ticketed (q.abandon t) :=
  ⟨h.distinct.sublist (List.Sublist.map _ List.filter_sublist), fun o ho => h.issued o (List.mem_filter.mp ho).1⟩

theorem ticketed_finish {q : Queue O P} (h : Ticketed q) (t : Nat) (ok : Bool) (p : P) :
    Ticketed (q.finish t ok p) := by
  unfold finish
  split
  · exact h
  · obtain ⟨h1, h2⟩ := ticketed_abandon h t
    exact ⟨h1, h2⟩

theorem finish_closed (q : Queue O P) (t : Nat) (ok : Bool) (p : P) : (q.finish t ok p).closed = q.closed := by
  unfold finish
  split <;> rfl

/-! ## Taking -/

theorem outstanding_pop {q : Queue O P} {c : Completion P} {rest : List (Completion P)}
    (h : q.ready = c :: rest) (id : CallId) :
    q.outstanding id = ({ q with ready := rest } : Queue O P).outstanding id + if c.tag = id then 1 else 0 := by
  simp only [outstanding, h, List.countP_cons, beq_iff_eq]
  omega

theorem ticketed_shutdown (q : Queue O P) : Ticketed q.shutdown := ⟨List.nodup_nil, fun _ h => nomatch h⟩

/-! ## One call's share -/

/-- The operations in flight for a call, in the order in which they were posted. -/
def flying (q : Queue O P) (id : CallId) : List O := (q.inFlight.filter (·.tag == id)).map (·.op)

/-- What is queued for a call, in the order in which it comes out. -/
def queued (q : Queue O P) (id : CallId) : List (Bool × P) :=
  (q.ready.filter (·.tag == id)).map fun c => (c.ok, c.payload)

theorem outstanding_eq (q : Queue O P) (id : CallId) :
    q.outstanding id = (q.flying id).length + (q.queued id).length := by
  simp only [outstanding, flying, queued, List.length_map, List.countP_eq_length_filter]

theorem flying_postAll {q : Queue O P} (h : q.closed = false) (tag : CallId) (ops : List O) (id : CallId) :
    (q.postAll tag ops).flying id = q.flying id ++ if tag = id then ops else [] := by
  induction ops generalizing q with
  | nil => simp [postAll]
  | cons op ops ih =>
    rw [post_open h]
    refine (ih (by exact h)).trans ?_
    by_cases e : tag = id <;> simp [flying, e]

theorem queued_postAll (q : Queue O P) (tag : CallId) (ops : List O) (id : CallId) :
    (q.postAll tag ops).queued id = q.queued id := by
  rw [queued, (postAll_frame q tag ops).2, queued]

/-- The operation that goes away is one of its call's and of no other's. -/
theorem flying_abandon {q : Queue O P} (h : Ticketed q) {t : Nat} {o : Posted O} (ho : q.find? t = some o)
    (id : CallId) :
    if o.tag = id then ∃ as bs, q.flying id = as ++ o.op :: bs ∧ (q.abandon t).flying id = as ++ bs
    else (q.abandon t).flying id = q.flying id := by
  obtain ⟨as, bs, hq, ha⟩ := abandon_split h ho
  by_cases e : o.tag = id
  · rw [if_pos e]
    refine ⟨(as.filter (·.tag == id)).map (·.op), (bs.filter (·.tag == id)).map (·.op), ?_, ?_⟩
    · simp [flying, hq, e]
    · simp [flying, ha]
  · rw [if_neg e]
    simp [flying, hq, ha, e]

/-- An operation in flight for a call is found under its ticket. -/
theorem find?_of_flying {q : Queue O P} (h : Ticketed q) {id : CallId} {op : O} (hf : op ∈ q.flying id) :
    ∃ o, q.find? o.ticket = some o ∧ o.tag = id ∧ o.op = op := by
  obtain ⟨o, ho, rfl⟩ := List.mem_map.mp hf
  obtain ⟨hm, ht⟩ := List.mem_filter.mp ho
  refine ⟨o, ?_, by simpa using ht, rfl⟩
  cases hx : q.find? o.ticket with
  | none => exact absurd (List.find?_eq_none.mp hx o hm) (by simp)
  | some o' =>
    obtain ⟨he, as, bs, hq, ha⟩ := List.find?_eq_some_iff_append.mp hx
    rw [hq, List.mem_append, List.mem_cons] at hm
    have hd := h.distinct
    rw [hq, List.map_append, List.nodup_append, List.map_cons, List.nodup_cons] at hd
    rcases hm with hm | rfl | hm
    · simpa using ha o hm
    · rfl
    · have hn := mt (fun e => List.mem_map.mpr ⟨o, hm, e⟩) hd.2.1.1
      exact absurd (by simpa using he) (Ne.symm hn)

theorem abandon_none {q : Queue O P} {t : Nat} (h : q.find? t = none) : q.abandon t = q := by
  have hf : q.inFlight.filter (·.ticket != t) = q.inFlight :=
    List.filter_eq_self.mpr fun o ho => by simpa [bne] using List.find?_eq_none.mp h o ho
  rw [abandon, hf]

theorem finish_some {q : Queue O P} {t : Nat} {o : Posted O} (h : q.find? t = some o) (ok : Bool) (p : P) :
    q.finish t ok p = { q.abandon t with ready := q.ready ++ [⟨o.tag, ok, p⟩] } := by
  simp only [finish, h]

theorem finish_none {q : Queue O P} {t : Nat} (h : q.find? t = none) (ok : Bool) (p : P) : q.finish t ok p = q := by
  simp only [finish, h]

theorem queued_finish {q : Queue O P} {t : Nat} {o : Posted O} (h : q.find? t = some o) (ok : Bool) (p : P)
    (id : CallId) : (q.finish t ok p).queued id = q.queued id ++ if o.tag = id then [(ok, p)] else [] := by
  rw [finish_some h]
  by_cases e : o.tag = id <;> simp [queued, e]

theorem queued_pop {q : Queue O P} {c : Completion P} {rest : List (Completion P)} (h : q.ready = c :: rest)
    (id : CallId) : q.queued id =
      if c.tag = id then (c.ok, c.payload) :: ({ q with ready := rest } : Queue O P).queued id
      else ({ q with ready := rest } : Queue O P).queued id := by
  by_cases e : c.tag = id <;> simp [queued, h, e]

end CallPump.Queue
