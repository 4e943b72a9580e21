/-
  CallPump.Proofs.Pump.Deadline — a call whose transport stalls comes to its deadline.

  The call is one of many on a pump that stays live, it is not cancelled, and its transport
  runs on a clock (`Clocked`). If the transport stalls, nothing but the deadline ends an
  operation that the call waits for. Each of them is under the deadline: an operation that
  has none of its own joins the body, and the body was spawned with the call's.

  - `Stay.stalled_times_out`: once the deadline has passed, whatever the call waits for comes
    back, and after a bounded number of completions the call is over, with the deadline's
    error and nothing else. From wherever it is, it gets there by the deadline.
-/

import CallPump.Proofs.Call.Clocked
import CallPump.Proofs.Pump.LetGo
import CallPump.Proofs.Pump.Stranded

namespace CallPump

variable {I E T : Type}

namespace Stay

open Scene (Follows Live)

variable {k : CallKind} {t : Stay I I E T k} {K : Clocked I} {ctx : Context} {l : Launch I} {cb : Callback I E T}
  {m : Nat} {d now : Instant}

/-- A call that writes its requests has spawned its body with its own context. -/
theorem spawned (hs : ∃ cs, t.cues = .start ctx l cb :: cs ∧ .cancel ∉ cs) (hl : l.writes = true) :
    .spawn ctx ∈ t.asked := by
  obtain rfl := kind_of_started hs
  obtain ⟨cs, hs, -⟩ := hs
  obtain ⟨r, hr, -⟩ := t.shows
  obtain ⟨ts, -, -, hR⟩ := hr.runs.launched hs
  rw [← hr.asked, hR.call]
  refine (Solo.asked_prefix _ ts).subset ?_
  have hstep := (Solo.step_some (s := (.fresh l.kind : Solo I I (Callback I E T))) (t := .start ctx l cb)
    (Launch.start_new ctx l cb)).1
  rw [Round.moved, hstep, if_pos hl]
  exact List.mem_cons_self

/-- Carried on without its caller, it has spawned no other. -/
theorem spawned_more {es : List (Event I I E T)} {he : Follows Live t.scene es} {ts : List (Touch I I (Callback I E T))}
    (ht : (t.more es he).touches = t.touches ++ ts) (hn : ∀ u ∈ ts, u.byCaller = false)
    (h : .spawn ctx ∈ (t.more es he).asked) : .spawn ctx ∈ t.asked := by
  obtain ⟨r, hr, -⟩ := t.shows
  obtain ⟨q, hq, -⟩ := (t.more es he).shows
  rw [← hq.asked, hq.runs.call, ht, Solo.run, List.foldl_append] at h
  rw [← hr.asked, hr.runs.call]
  exact Solo.spawned_run hn h

/-- The call is started so before anything else is done with it, it is not cancelled, and by
    now its operations came to what the transport had for them, its body under the deadline
    with which it was spawned. -/
structure Timed (t : Stay I I E T k) (K : Clocked I) (ctx : Context) (l : Launch I) (cb : Callback I E T)
    (now : Instant) : Prop where
  started : ∃ cs, t.cues = .start ctx l cb :: cs ∧ .cancel ∉ cs
  spawned : ∀ ctx', .spawn ctx' ∈ t.asked → K.body = ctx'.deadline
  played : K.Plays 0 {} t.touches now

theorem Timed.onWay (h : t.Timed K ctx l cb now) (hK : K.Stalls m) (hd : ctx.deadline = some d) :
    ∃ r, t.Shows r ∧ r.OnWay (hK.backing d) cb (Overdue (l.most m)) t.taken (now, t.place) := by
  have hb (hl : l.writes = true) : K.body = some d := (h.spawned ctx (t.spawned h.started hl)).trans hd
  obtain ⟨last, hlast, hc⟩ := K.carries hK d h.played
  obtain ⟨r, hr, hway⟩ := Stay.onWay (Clocked.sure_begun hK l hd hb 0) h.started hc
  exact ⟨r, hr, Clocked.onWay_later hway hlast⟩

/-- Where the call stands then. -/
theorem Timed.stands (h : t.Timed K ctx l cb now) (hK : K.Stalls m) (hd : ctx.deadline = some d) :
    (t.taken < l.most m ∧ ∃ op, t.Waits op ∧
        (t.scene.pump.queue.flying t.id = [op] → d ≤ now → ∃ ok x, K.Brings now t.place op ok x)) ∨
      t.taken ≤ l.most m ∧ t.Ended cb (.error .deadlineExceeded) := by
  obtain ⟨r, hr, hway⟩ := h.onWay hK hd
  rcases hr.waits_or_ended hway with ⟨done, op, more, a, hlen, -, ⟨hn, -⟩, hw, ha⟩ | ⟨a, hlen, ⟨hn, rfl⟩, he⟩
  · refine .inl ⟨?_, op, hw, fun hf hlate => K.brings_late hK hlate _ (ha hf)⟩
    rw [List.length_append, hlen, List.length_cons] at hn
    omega
  · exact .inr ⟨hlen ▸ hn, he⟩

/-- Over a transport that stalls, a call with a deadline waits for operations that come back
    once the deadline has passed, and the last of them brings the deadline's error. From
    wherever the call stands, it gets past the end of its callback as the deadline passes, or
    now if it has. -/
theorem stalled_times_out (h : t.Timed K ctx l cb now) (hK : K.Stalls m) (hd : ctx.deadline = some d) :
    ((t.taken < l.most m ∧ ∃ op, t.Waits op ∧
          (t.scene.pump.queue.flying t.id = [op] → d ≤ now → ∃ ok x, K.Brings now t.place op ok x)) ∨
        t.taken ≤ l.most m ∧ t.Ended cb (.error .deadlineExceeded)) ∧
      ∃ es he, (t.more es he).Timed K ctx l cb (max now d) ∧ (t.more es he).Ended cb (.error .deadlineExceeded) ∧
        (t.more es he).scene.replies t.id = [] := by
  refine ⟨h.stands hK hd, ?_⟩
  obtain ⟨r, hr, hway⟩ := h.onWay hK hd
  obtain ⟨es, he, ts, last, hts, hn, hc, hlast, hg, hx⟩ :=
    hr.arrives (P := fun s => s.1 ≤ max now d) (hK.in_time (Nat.le_max_right now d)) hway (Nat.le_max_left now d)
  have hm : (t.more es he).Timed K ctx l cb (max now d) := by
    refine ⟨started_more h.started hts hn, fun ctx' hs => h.spawned ctx' (spawned_more hts hn hs), ?_⟩
    rw [hts]
    exact h.played.append ((Clocked.plays_of_carries hK hc).widen (Nat.le_refl _) hlast)
  rcases hm.stands hK hd with ⟨-, op, hw, -⟩ | ⟨-, hend⟩
  · exact absurd hw.given hg
  · exact ⟨es, he, hm, hend, hx⟩

/-! A write that nobody takes: at its deadline the call gives up writing, and joins a body
    whose deadline is the same. -/

def silent : Clocked Nat := ⟨some 10, fun _ _ => none, fun _ => none, fun _ => none, fun _ _ => none⟩

theorem silent_stalls : silent.Stalls 0 := ⟨fun _ => rfl, fun _ => .inl rfl, fun _ _ => .inl rfl⟩

def unheard : Stay Nat Nat Unit Nat .requestStream where
  before := []
  after := [.start 1 { deadline := some 10 } (.requestStream [4]) fun _ => { ended := .returned (.ok 0) },
    .finish 0 true .unit, .turn, .finish 1 false .unit, .turn, .finish 2 true (.outcome (.error .deadlineExceeded)),
    .turn, .conclude 1]
  live := ⟨trivial, trivial, trivial, trivial, trivial, trivial, trivial, trivial, trivial, trivial⟩

theorem unheard_timed :
    unheard.Timed silent { deadline := some 10 } (.requestStream [4]) (fun _ => { ended := .returned (.ok 0) }) 12 := by
  refine ⟨⟨[.turn, .turn, .turn], rfl, by simp⟩, fun ctx h => ?_, ?_⟩
  · have ha : unheard.asked = [.spawn { deadline := some 10 }, .run (.nudge true), .run (.write (some 10) 4), .hangUp,
        .run .join] := rfl
    rw [ha] at h
    obtain rfl : ctx = { deadline := some 10 } := by simpa using h
    rfl
  · have ht : unheard.touches = [
        .start { deadline := some 10 } (.requestStream [4]) fun _ => { ended := .returned (.ok 0) },
        .back (.nudge true) true .unit, .take true .unit, .back (.write (some 10) 4) false .unit, .take false .unit,
        .back .join true (.outcome (.error .deadlineExceeded)), .take true (.outcome (.error .deadlineExceeded))] := rfl
    rw [ht]
    exact .start _ _ _ (.back (s := 1) (by decide) (.settled true .unit) (.take _ _ (.back (s := 11) (by decide)
      (.written _ 4 rfl) (.take _ _ (.back (s := 12) (by decide) (.joined (s := 10) (by decide) rfl)
        (.take _ _ (.nil _ (by decide))))))))

theorem stalled_times_out_writing :
    unheard.taken = 3 ∧ unheard.Ended (fun _ => { ended := .returned (.ok 0) }) (.error .deadlineExceeded) := by
  refine ⟨rfl, ?_⟩
  rcases (stalled_times_out unheard_timed silent_stalls rfl).1 with ⟨-, op, hw, -⟩ | ⟨-, he⟩
  · exact absurd hw.given (List.cons_ne_nil _ _)
  · exact he

end Stay

end CallPump
