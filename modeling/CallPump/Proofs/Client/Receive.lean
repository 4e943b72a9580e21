/-
  CallPump.Proofs.Client.Receive — what becomes of a call's answer.

  What the transport brought is judged in stages, and the first that fails is the result:
  the transport, the typed answer in it (chunks have to make a message), the response chain
  on each response in turn, and for a leased call the lease (`Judged`). Only an answer that
  every stage passed is given to the handler. A wallet hears of the lease result of a leased
  call, whatever the verdict on it, and of nothing else (`Verdict.heard`).

  - `receive_eq`: the callback of every operation does what the verdict says.
  - `judged_iff`: there is exactly one verdict on what the transport brought.
  - `first_failure_decides`: a started call that is not cancelled resolves with it.
-/

import CallPump.Bench.Item
import CallPump.Proofs.Client.Prepare
import CallPump.Proofs.Pump.Stay

namespace CallPump

variable {E Req Resp I T : Type}

def Answer.all {α : Type} : Answer α → List α
  | .one a => [a]
  | .many as => as

/-! ## Items and messages -/

namespace Carries

variable {M : Type} [Carries I M]

theorem take_ok {i : I} {m : M} (h : unwrap? i = some m) : take i = .ok m := by simp only [take, h]

theorem take_error {i : I} (h : unwrap? (M := M) i = none) :
    (take i : Except GrpcStatus M) = .error .wrongPayload := by
  simp only [take, h]

theorem takeAll_ok {is : List I} {ms : List M} (h : is.map unwrap? = ms.map some) : takeAll is = .ok ms := by
  induction is generalizing ms with
  | nil =>
    cases List.map_eq_nil_iff.mp h.symm
    rfl
  | cons i is ih =>
    cases ms with
    | nil => cases h
    | cons m ms =>
      obtain ⟨hi, his⟩ := List.cons.inj h
      simp only [takeAll, take_ok hi, ih his]
      rfl

theorem takeAll_error {is : List I} {i : I} (hm : i ∈ is) (h : unwrap? (M := M) i = none) :
    (takeAll is : Except GrpcStatus (List M)) = .error .wrongPayload := by
  induction is with
  | nil => cases hm
  | cons j is ih =>
    cases hj : unwrap? (M := M) j with
    | none =>
      simp only [takeAll, take_error hj]
      rfl
    | some m =>
      rcases List.mem_cons.mp hm with rfl | hm
      · rw [h] at hj; cases hj
      · simp only [takeAll, take_ok hj, ih hm]
        rfl

/-- Items are all messages of the type, or one of them is not. -/
theorem all_or_none (is : List I) :
    (∃ ms : List M, is.map unwrap? = ms.map some) ∨ ∃ i ∈ is, unwrap? (M := M) i = none := by
  induction is with
  | nil => exact .inl ⟨[], rfl⟩
  | cons i is ih =>
    cases hi : unwrap? (M := M) i with
    | none => exact .inr ⟨i, List.mem_cons_self, hi⟩
    | some m =>
      rcases ih with ⟨ms, h⟩ | ⟨j, hj, h⟩
      · exact .inl ⟨m :: ms, by rw [List.map_cons, hi, h, List.map_cons]⟩
      · exact .inr ⟨j, List.mem_cons_of_mem _ hj, h⟩

end Carries

namespace Client

open Carries (unwrap?)

variable [LeaseResponse Resp] [Carries I Resp] [Carries I DataChunk]

/-! ## The stages -/

/-- The typed answer in what the transport brought. An item that is no message of the call's
    is a failure of the transport. -/
inductive Opens (chunked : Bool) : Answer I → Outcome (Answer Resp) → Prop
  | one {i : I} {r : Resp} : unwrap? i = some r → Opens chunked (.one i) (.ok (.one r))
  | many {is : List I} {rs : List Resp} : chunked = false → is.map unwrap? = rs.map some →
      Opens chunked (.many is) (.ok (.many rs))
  | whole {is : List I} {cs : List DataChunk} {r : Resp} : chunked = true → is.map unwrap? = cs.map some →
      Chunk.toMessage cs = .ok r → Opens chunked (.many is) (.ok (.one r))
  | broken {is : List I} {cs : List DataChunk} {e : Chunk.JoinError} : chunked = true →
      is.map unwrap? = cs.map some → Chunk.toMessage (M := Resp) cs = .error e →
      Opens chunked (.many is) (.error e.status)
  | foreignOne {i : I} : unwrap? (M := Resp) i = none → Opens chunked (.one i) (.error (.ofGrpc .wrongPayload))
  | foreignMany {is : List I} {i : I} : chunked = false → i ∈ is → unwrap? (M := Resp) i = none →
      Opens chunked (.many is) (.error (.ofGrpc .wrongPayload))
  | foreignChunk {is : List I} {i : I} : chunked = true → i ∈ is → unwrap? (M := DataChunk) i = none →
      Opens chunked (.many is) (.error (.ofGrpc .wrongPayload))

/-- What the chain is given of a response; a missing header counts as an empty one. -/
def arrival (r : Resp) : Arrival Resp := { header := (ResponseMessage.header r).getD {}, response := some r }

/-- The chain passes on the responses before one, and on that one it passes up to a processor
    that fails; `notes` are what the chain had to say until then. -/
def Rejects (c : Client E Req Resp) (rs : List Resp) (notes : List E) (s : Status) : Prop :=
  ∃ before r after mid, rs = before ++ r :: after ∧ Passes c.check before [] mid ∧
    Stops (fun p => p (arrival r)) c.responseChain.processors mid notes s

/-- What comes of an answer: what the chain had to say, which lease results the wallet hears
    of, and the answer that the handler is given, or what failed before. -/
structure Verdict (E Resp : Type) where
  notes : List E := []
  heard : List LeaseUseResult := []
  result : Outcome (Answer Resp)

/-- The first stage that fails, or none. -/
inductive Judged (c : Client E Req Resp) (chunked leased : Bool) :
    Except GrpcStatus (Answer I) → Verdict E Resp → Prop
  | transport (e : GrpcStatus) : Judged c chunked leased (.error e)
      { result := .error ⟨.transport, e.code.toNat, e.message⟩ }
  | opening {a : Answer I} {s : Status} : Opens chunked a (.error s : Outcome (Answer Resp)) →
      Judged c chunked leased (.ok a) { result := .error s }
  | chain {a : Answer I} {b : Answer Resp} {notes : List E} {s : Status} : Opens chunked a (.ok b) →
      c.Rejects b.all notes s → Judged c chunked leased (.ok a) { notes := notes, result := .error s }
  | lease {a : Answer I} {r : Resp} {notes : List E} {u : LeaseUseResult} {s : Status} :
      Opens chunked a (.ok (.one r)) → Passes c.check [r] [] notes → leased = true →
      LeaseResponse.leaseUse r = some u → u.check = .error s →
      Judged c chunked leased (.ok a) { notes := notes, heard := [u], result := .error s }
  | leased {a : Answer I} {r : Resp} {notes : List E} {u : LeaseUseResult} : Opens chunked a (.ok (.one r)) →
      Passes c.check [r] [] notes → leased = true → LeaseResponse.leaseUse r = some u → u.check = .ok () →
      Judged c chunked leased (.ok a) { notes := notes, heard := [u], result := .ok (.one r) }
  | passed {a : Answer I} {b : Answer Resp} {notes : List E} : Opens chunked a (.ok b) → Passes c.check b.all [] notes →
      (leased = true → ∀ r, b = .one r → LeaseResponse.leaseUse r = none) →
      Judged c chunked leased (.ok a) { notes := notes, result := .ok b }

/-- What the callback of an operation does on a verdict. -/
def Verdict.reply (v : Verdict E Resp) (wallet : Option (LeaseUseResult → E)) (handler : Answer Resp → Reply E T) :
    Reply E T :=
  let before := v.notes ++ v.heard.flatMap fun u => (wallet.map (· u)).toList
  match v.result with
  | .error s => { effects := before, ended := .returned (.error s) }
  | .ok a => { effects := before ++ (handler a).effects, ended := (handler a).ended }

/-! ## Judging -/

/-- The verdict, worked out. -/
def judge (c : Client E Req Resp) (chunked leased : Bool) (x : Except GrpcStatus (Answer I)) : Verdict E Resp :=
  match unpack chunked x with
  | .error s => { result := .error s }
  | .ok a =>
    match c.checkAnswer a with
    | (notes, .error s) => { notes := notes, result := .error s }
    | (notes, .ok ()) =>
      match a with
      | .many rs => { notes := notes, result := .ok (.many rs) }
      | .one r =>
        match if leased then LeaseResponse.leaseUse r else none with
        | none => { notes := notes, result := .ok (.one r) }
        | some u => { notes := notes, heard := [u], result := u.check.map fun () => .one r }

theorem receive_eq (c : Client E Req Resp) (chunked leased : Bool) (handler : Answer Resp → Reply E T)
    (x : Except GrpcStatus (Answer I)) :
    c.receive chunked leased handler x = (c.judge chunked leased x).reply c.wallet handler := by
  rw [receive, judge]
  rcases unpack chunked x with s | a
  · rfl
  rcases hc : c.checkAnswer a with ⟨notes, s | _⟩
  · simp only [Verdict.reply, hc, List.flatMap_nil, List.append_nil]
  cases a with
  | many rs => simp [hc, checkLease, Verdict.reply]
  | one r =>
    cases leased with
    | false => simp [hc, checkLease, Verdict.reply]
    | true =>
      cases hu : LeaseResponse.leaseUse r with
      | none => simp [hc, checkLease, LeaseUseResult.processResponse, hu, Verdict.reply]
      | some u =>
        rcases hk : u.check with s | _ <;>
          simp [hc, checkLease, LeaseUseResult.processResponse, LeaseUseResult.process, hu, hk, Verdict.reply,
            Except.map]

theorem unpack_of_opens {chunked : Bool} {a : Answer I} {o : Outcome (Answer Resp)} (h : Opens chunked a o) :
    unpack chunked (.ok a) = o := by
  cases h with
  | one hi => simp only [unpack, Carries.take_ok hi]; rfl
  | many hc his => simp only [unpack, hc, Carries.takeAll_ok his]; rfl
  | whole hc his hm => simp only [unpack, hc, Carries.takeAll_ok his, hm]; rfl
  | broken hc his hm => simp only [unpack, hc, Carries.takeAll_ok his, hm]; rfl
  | foreignOne hi => simp only [unpack, Carries.take_error hi]; rfl
  | foreignMany hc hm hi => simp only [unpack, hc, Carries.takeAll_error hm hi]; rfl
  | foreignChunk hc hm hi => simp only [unpack, hc, Carries.takeAll_error hm hi]; rfl

theorem opens_unpack (chunked : Bool) (a : Answer I) :
    Opens chunked a (unpack chunked (.ok a) : Outcome (Answer Resp)) := by
  have of {o : Outcome (Answer Resp)} (h : Opens chunked a o) :
      Opens chunked a (unpack chunked (.ok a) : Outcome (Answer Resp)) := by
    rw [unpack_of_opens h]; exact h
  cases a with
  | one i =>
    cases hi : unwrap? (M := Resp) i with
    | none => exact of (.foreignOne hi)
    | some r => exact of (.one hi)
  | many is =>
    cases hc : chunked with
    | false =>
      rw [← hc]
      rcases Carries.all_or_none (M := Resp) is with ⟨rs, h⟩ | ⟨i, hi, h⟩
      · exact of (.many hc h)
      · exact of (.foreignMany hc hi h)
    | true =>
      rw [← hc]
      rcases Carries.all_or_none (M := DataChunk) is with ⟨cs, h⟩ | ⟨i, hi, h⟩
      · cases hm : Chunk.toMessage (M := Resp) cs with
        | error e => exact of (.broken hc h hm)
        | ok r => exact of (.whole hc h hm)
      · exact of (.foreignChunk hc hi h)

theorem checkEach_eq_walk (c : Client E Req Resp) (rs : List Resp) (notes : List E) :
    c.checkEach rs notes = walk c.check rs notes := by
  induction rs generalizing notes with
  | nil => rfl
  | cons r rs ih =>
    rw [checkEach, walk]
    rcases c.check r notes with ⟨notes', _ | _⟩
    · rfl
    · exact ih notes'

theorem checkAnswer_eq_walk (c : Client E Req Resp) (a : Answer Resp) : c.checkAnswer a = walk c.check a.all [] := by
  cases a with
  | one r => exact (walk_one (f := c.check) r []).symm
  | many rs => exact c.checkEach_eq_walk rs []

theorem rejects_iff (c : Client E Req Resp) {rs : List Resp} {notes : List E} {s : Status} :
    c.Rejects rs notes s ↔ Stops c.check rs [] notes s := by
  have one (r : Resp) (mid : List E) :
      c.check r mid = (notes, .error s) ↔ Stops (fun p => p (arrival r)) c.responseChain.processors mid notes s := by
    show c.responseChain.process (arrival r) mid = _ ↔ _
    rw [Chain.process_eq_walk]
    refine ⟨fun h => ?_, walk_stops⟩
    rcases walk_cases (fun p => p (arrival r)) c.responseChain.processors mid with ⟨v, -, hw⟩ | ⟨v, s', hs, hw⟩
    · cases h.symm.trans hw
    · cases h.symm.trans hw; exact hs
  constructor
  · rintro ⟨before, r, after, mid, hr, hp, hs⟩
    exact ⟨before, r, after, mid, hr, hp, (one r mid).mpr hs⟩
  · rintro ⟨before, r, after, mid, hr, hp, hf⟩
    exact ⟨before, r, after, mid, hr, hp, (one r mid).mp hf⟩

theorem judge_of_judged {c : Client E Req Resp} {chunked leased : Bool} {x : Except GrpcStatus (Answer I)}
    {v : Verdict E Resp} (h : c.Judged chunked leased x v) : c.judge chunked leased x = v := by
  cases h with
  | transport e => rfl
  | opening ho => simp only [judge, unpack_of_opens ho]
  | chain ho hs =>
    simp only [judge, unpack_of_opens ho, checkAnswer_eq_walk, walk_stops (c.rejects_iff.mp hs)]
  | lease ho hp hl hu hk =>
    simp only [judge, unpack_of_opens ho, checkAnswer_eq_walk, Answer.all, walk_passes hp, hl, if_true, hu, hk]
    rfl
  | leased ho hp hl hu hk =>
    simp only [judge, unpack_of_opens ho, checkAnswer_eq_walk, Answer.all, walk_passes hp, hl, if_true, hu, hk]
    rfl
  | @passed a b notes ho hp hn =>
    simp only [judge, unpack_of_opens ho, checkAnswer_eq_walk, walk_passes hp]
    cases b with
    | many rs => rfl
    | one r =>
      cases leased with
      | false => rfl
      | true => simp only [if_true, hn rfl r rfl]

theorem judged_judge (c : Client E Req Resp) (chunked leased : Bool) (x : Except GrpcStatus (Answer I)) :
    c.Judged chunked leased x (c.judge chunked leased x) := by
  have of {v : Verdict E Resp} (h : c.Judged chunked leased x v) :
      c.Judged chunked leased x (c.judge chunked leased x) := by
    rw [judge_of_judged h]; exact h
  cases x with
  | error e => exact of (.transport e)
  | ok a =>
    have ho : Opens chunked a (unpack chunked (.ok a) : Outcome (Answer Resp)) := opens_unpack chunked a
    rcases hb : (unpack chunked (.ok a) : Outcome (Answer Resp)) with s | b <;> rw [hb] at ho
    · exact of (.opening ho)
    rcases passes_or_stops c.check b.all [] with ⟨notes, hp⟩ | ⟨notes, s, hs⟩
    · cases b with
      | many rs => exact of (.passed ho hp nofun)
      | one r =>
        cases hl : leased with
        | false => rw [← hl]; exact of (.passed ho hp fun h => by rw [hl] at h; cases h)
        | true =>
          rw [← hl]
          cases hu : LeaseResponse.leaseUse r with
          | none =>
            refine of (.passed ho hp fun _ r' hr => ?_)
            cases hr
            exact hu
          | some u =>
            rcases hk : u.check with s | _
            · exact of (.lease ho hp hl hu hk)
            · exact of (.leased ho hp hl hu hk)
    · exact of (.chain ho (c.rejects_iff.mpr hs))

/-- There is exactly one verdict on what the transport brought. -/
theorem judged_iff (c : Client E Req Resp) {chunked leased : Bool} {x : Except GrpcStatus (Answer I)}
    {v : Verdict E Resp} : c.Judged chunked leased x v ↔ v = c.judge chunked leased x :=
  ⟨fun h => (judge_of_judged h).symm, fun h => h ▸ c.judged_judge chunked leased x⟩

/-- The wallet hears of the lease result of a leased call whose answer came whole and passed
    the chain, and of nothing else. -/
theorem heard_iff {c : Client E Req Resp} {chunked leased : Bool} {x : Except GrpcStatus (Answer I)}
    {v : Verdict E Resp} (h : c.Judged chunked leased x v) (u : LeaseUseResult) :
    v.heard = [u] ↔ leased = true ∧ ∃ a r notes, x = .ok a ∧ Opens chunked a (.ok (.one r)) ∧
      Passes c.check [r] [] notes ∧ LeaseResponse.leaseUse r = some u := by
  constructor
  · intro hv
    cases h with
    | lease ho hp hl hu hk => cases hv; exact ⟨hl, _, _, _, rfl, ho, hp, hu⟩
    | leased ho hp hl hu hk => cases hv; exact ⟨hl, _, _, _, rfl, ho, hp, hu⟩
    | transport e => cases hv
    | opening ho => cases hv
    | chain ho hs => cases hv
    | passed ho hp hn => cases hv
  · rintro ⟨hl, a, r, notes, rfl, ho, hp, hu⟩
    rcases hk : u.check with s | _
    · rw [← judge_of_judged h, judge_of_judged (.lease ho hp hl hu hk)]
    · rw [← judge_of_judged h, judge_of_judged (.leased ho hp hl hu hk)]

theorem heard_once {c : Client E Req Resp} {chunked leased : Bool} {x : Except GrpcStatus (Answer I)}
    {v : Verdict E Resp} (h : c.Judged chunked leased x v) : v.heard = [] ∨ ∃ u, v.heard = [u] := by
  cases h with
  | lease => exact .inr ⟨_, rfl⟩
  | leased => exact .inr ⟨_, rfl⟩
  | transport e => exact .inl rfl
  | opening => exact .inl rfl
  | chain => exact .inl rfl
  | passed => exact .inl rfl

end Client

open Client

/-- For every operation of every client. Whatever the transport brings is judged, in exactly
    one way, and the callback does what the verdict says: the first stage that fails is the
    result, the handler's is it if none does, and the wallet hears of a lease result, once,
    if the call is leased, its answer passed the chain and has one. A call that was started
    and not cancelled resolves with that, in any live run in which all that it posted came
    back. -/
theorem first_failure_decides [RequestMessage Req] [LeaseResponse Resp] [Carries I Req] [Carries I Resp]
    [Carries I DataChunk] (c : Client E Req Resp) (m : Moment) (params : Params) (issue : Issue Req)
    (handler : Answer Resp → Reply E T) {notes : List E} {pl : Plan I E T}
    (hp : c.plan m params issue handler = .ok (notes, .ok pl)) :
    (∀ x, ∃ v, c.Judged issue.chunked issue.leased x v ∧ (∀ v', c.Judged issue.chunked issue.leased x v' → v' = v) ∧
      pl.callback x = v.reply c.wallet handler ∧ (v.heard = [] ∨ ∃ u, v.heard = [u]) ∧
      ∀ u, v.heard = [u] ↔ issue.leased = true ∧ ∃ a r before, x = .ok a ∧ Opens issue.chunked a (.ok (.one r)) ∧
        Passes c.check [r] [] before ∧ LeaseResponse.leaseUse r = some u) ∧
    ∀ (s : Stay I I E T pl.launch.kind) cs, s.cues = .start pl.context pl.launch pl.callback :: cs → .cancel ∉ cs →
      s.Through → s.scene.replies s.id = [] →
      ∃ x v b, s.given = [(pl.callback, x)] ∧
        ((Solo.fresh pl.launch.kind).replay s.cues s.brought).given = [(pl.callback, x)] ∧
        c.Judged issue.chunked issue.leased x v ∧
        s.scene.pump.get? s.id = some ⟨b, .ready (match v.result with
          | .error s => .error s
          | .ok a => (handler a).ended.outcome)⟩ := by
  have hcb : pl.callback = c.receive issue.chunked issue.leased handler := by
    obtain ⟨ctx, d, -, -, -, rfl⟩ := c.plan_ok m hp
    rfl
  have judged (x : Except GrpcStatus (Answer I)) := c.judged_judge issue.chunked issue.leased x
  refine ⟨fun x => ⟨_, judged x, fun v' h => (judge_of_judged h).symm, ?_, heard_once (judged x), heard_iff (judged x)⟩,
    fun s cs hs hc ht hn => ?_⟩
  · rw [hcb, receive_eq]
  · obtain ⟨x, hg, hr, hf⟩ := s.completes hs hc ht
    obtain ⟨b, hb⟩ := hf hn
    refine ⟨x, _, b, hg, hr, judged x, ?_⟩
    rw [hb, hcb, receive_eq, Verdict.reply]
    rcases (c.judge issue.chunked issue.leased x).result with s | a <;> rfl

/-! A leased call whose lease was revoked: the wallet hears of it, and the call fails. -/

def revoked : Bench.Item :=
  .response { header := some { error := some { code := 1 } }, leaseUseResult := some { status := 4 } }

def leasing : Client LeaseUseResult EchoRequest EchoResponse :=
  { responseChain := ResponseChain.defaults, wallet := some id }

def leasingPlan : Plan Bench.Item LeaseUseResult Nat :=
  ⟨{}, .unary (.request { header := some {} }), leasing.receive false true fun _ => { ended := .returned (.ok 7) }⟩

def leasingStay : Stay Bench.Item Bench.Item LeaseUseResult Nat .unary where
  before := []
  after := [.start 1 leasingPlan.context leasingPlan.launch leasingPlan.callback,
    .finish 0 true (.outcome (.ok revoked)), .turn, .conclude 1]
  live := ⟨trivial, trivial, trivial, trivial, trivial, trivial⟩

theorem first_failure_decides_revoked :
    ∃ m b s, leasing.plan m {} (.one .leased {}) (fun _ => { ended := .returned (.ok 7) }) = .ok ([], .ok leasingPlan) ∧
      leasingStay.scene.pump.get? 1 = some ⟨b, .ready (.error s)⟩ ∧ s.domain = .lease := by
  let m : Moment := ⟨0, {}, fun _ => none⟩
  have hp : leasing.plan m {} (.one .leased {}) (fun _ => { ended := .returned (.ok 7) }) = .ok ([], .ok leasingPlan) := rfl
  have hk : ∀ op, .lost op ∉ leasingStay.touches := by
    have ht : leasingStay.touches =
        [.start {} leasingPlan.launch leasingPlan.callback,
          .back (.exchange {} (.request { header := some {} })) true (.outcome (.ok revoked)),
          .take true (.outcome (.ok revoked))] := rfl
    simp [ht]
  obtain ⟨x, v, b, hg, -, hj, hb⟩ :=
    (first_failure_decides leasing m {} (.one .leased {}) _ hp).2 leasingStay [.turn] rfl (by simp) ⟨hk, rfl⟩ rfl
  have hx : [(leasingPlan.callback, .ok (.one revoked))] = [(leasingPlan.callback, x)] := hg
  cases hx
  cases (leasing.judged_iff).mp hj
  exact ⟨m, b, _, hp, hb, rfl⟩

end CallPump
