/-
  CallPump.Proofs.Client.Defaults — what the default request chain makes of requests.

  With a name to fill in the default chain never fails and has nothing to say, and what it
  makes of a header depends on that header alone (`RequestHeader.stamped`). So a client that
  has this chain prepares each request by itself: none sees the header of another, and the
  context stays as it was.

  - `prepareRun_defaults`, `walk_defaults`: one run of the chain, then all of them.
  - `default_chain_prepares`: what every field of every request is in the end, and the
    context that the call gets.
-/

import CallPump.Bench.Item
import CallPump.Proofs.Client.Prepare

namespace CallPump

variable {E Req Resp I T : Type}

/-- The place for a header is a field of the message, apart from all else in it. -/
class LawfulRequest (M : Type) [RequestMessage M] : Prop where
  header_setHeader (m : M) (h : Option RequestHeader) : RequestMessage.header (RequestMessage.setHeader m h) = h
  setHeader_setHeader (m : M) (h h' : Option RequestHeader) :
    RequestMessage.setHeader (RequestMessage.setHeader m h) h' = RequestMessage.setHeader m h'
  setHeader_header (m : M) : RequestMessage.setHeader m (RequestMessage.header m) = m

instance : LawfulRequest EchoRequest where
  header_setHeader _ _ := rfl
  setHeader_setHeader _ _ _ := rfl
  setHeader_header _ := rfl

/-- What an explicit choice puts into a header. -/
def Logging.flag? : Logging → Option Bool
  | .default => none
  | .enabled => some false
  | .disabled => some true

theorem Logging.flag?_combine (lower upper : Logging) : (lower.combine upper).flag? = upper.flag?.or lower.flag? := by
  cases upper <;> rfl

theorem Logging.apply_eq (l : Logging) (h : RequestHeader) :
    l.apply h = { h with disableRpcLogging := l.flag?.getD h.disableRpcLogging } := by
  cases l <;> rfl

/-! ## The default chain -/

/-- The header with the time, and with the name where it had none. -/
def RequestHeader.stamped (h : RequestHeader) (name : String) (time : Timestamp) : RequestHeader :=
  { h with clientName := if h.clientName = "" then name else h.clientName, requestTimestamp := some time }

theorem RequestChain.process_defaults {name : String} (hn : name ≠ "") (i : Sending Req) (d : Draft E) :
    (RequestChain.defaults name).process i d = ({ d with header := d.header.stamped name i.time }, .ok ()) := by
  by_cases h : d.header.clientName = "" <;>
    simp [RequestChain.defaults, Chain.process, Chain.run, RequestProcessor.clientName, RequestProcessor.timestamp,
      RequestHeader.stamped, h, hn]

/-- A request that keeps everything but its header, which is the default chain's. -/
structure Stamped [RequestMessage Req] (name : String) (time : Timestamp) (client call : Logging) (q q' : Req) :
    Prop where
  rest : RequestMessage.setHeader q' (RequestMessage.header q) = q
  header : ∃ h, RequestMessage.header q' = some h ∧
    let own := (RequestMessage.header q).getD {}
    h.clientName = (if own.clientName = "" then name else own.clientName) ∧
    h.requestTimestamp = some time ∧
    h.disableRpcLogging = (call.flag?.or client.flag?).getD own.disableRpcLogging

namespace Client

variable [RequestMessage Req] {c : Client E Req Resp} {name : String} (m : Moment) (l : Logging)

/-- A request as it is sent. -/
def sent (name : String) (m : Moment) (l : Logging) (q : Req) : Req :=
  RequestMessage.setHeader q (some ((l.apply ((RequestMessage.header q).getD {})).stamped name m.time))

theorem sent_stamped [LawfulRequest Req] (client call : Logging) (q : Req) :
    Stamped name m.time client call q (sent name m (client.combine call) q) where
  rest := by rw [sent, LawfulRequest.setHeader_setHeader, LawfulRequest.setHeader_header]
  header := by
    refine ⟨_, LawfulRequest.header_setHeader _ _, ?_⟩
    rw [Logging.apply_eq, Logging.flag?_combine]
    exact ⟨rfl, rfl, rfl⟩

/-- A run of the default chain passes and leaves the context alone. -/
theorem prepareRun_defaults (hc : c.requestChain = .defaults name) (hn : name ≠ "") (run : Option Req)
    (d : Prepared E Req) :
    c.prepareRun m l run d = ({ d with done := d.done ++ (run.map (sent name m l)).toList }, .ok ()) := by
  rw [prepareRun, hc, RequestChain.process_defaults hn]
  cases run <;> rfl

theorem walk_defaults (hc : c.requestChain = .defaults name) (hn : name ≠ "") (runs : List (Option Req))
    (d : Prepared E Req) :
    walk (c.prepareRun m l) runs d = ({ d with done := d.done ++ runs.reduceOption.map (sent name m l) }, .ok ()) := by
  induction runs generalizing d with
  | nil => simp [walk, List.reduceOption]
  | cons run runs ih =>
    simp only [walk, prepareRun_defaults m l hc hn, ih]
    cases run <;> simp [List.reduceOption]

section

variable [LeaseResponse Resp] [Carries I Req] [Carries I Resp] [Carries I DataChunk]

/-- Every operation is planned, with its requests as they are sent. -/
theorem plan_defaults (hc : c.requestChain = .defaults name) (hn : name ≠ "") {params : Params} {ctx : Context}
    (h : Context.setTimeout {} m.now (c.defaults.combine params).timeout = .ok ctx) (issue : Issue Req)
    (handler : Answer Resp → Reply E T) :
    (c.plan m params issue handler : Except Fault (List E × Outcome (Plan I E T))) =
      .ok ([], .ok ⟨ctx, issue.launch c (issue.requests.map (sent name m (c.defaults.combine params).logging)),
        c.receive issue.chunked issue.leased handler⟩) := by
  rw [c.plan_eq_walk m issue handler h, walk_defaults m _ hc hn, Issue.requests_runs]
  rfl

end

theorem prepareMany_defaults (hc : c.requestChain = .defaults name) (hn : name ≠ "") (qs : List Req) (ctx : Context) :
    c.prepareMany m l qs ctx = (ctx, [], .ok (qs.map (sent name m l))) := by
  have hw := walk_defaults m l hc hn (Issue.many .bidi qs).runs ⟨ctx, [], []⟩
  rw [Issue.requests_runs] at hw
  exact c.prepareMany_ok m l hw

end Client

theorem Context.setTimeout_fits {now : Instant} {t : Span} (h : now + t < Instant.limit) (ctx : Context) :
    ctx.setTimeout now t = .ok { ctx with deadline := if t = 0 then none else some (now + t) } := by
  by_cases ht : t = 0
  · rw [setTimeout, if_pos ht, if_pos ht]
  · rw [setTimeout, if_neg ht, if_neg ht, Instant.add?, if_pos h]

theorem Params.timeout_combine_ne (lower upper : Params) :
    (lower.combine upper).timeout ≠ 0 ↔ upper.timeout ≠ 0 ∨ lower.timeout ≠ 0 := by
  by_cases h : upper.timeout = 0 <;> simp [combine, h]

open Client

/-- A client with the default chain prepares any requests, whatever their headers and
    whatever the parameters, as far as the clock can form the deadline. They
    stay what they are and in their order, but for their headers: each has its own name or
    else the client's, the time, and the logging choice of the call, else of the client,
    else its own. The call has a deadline if it or else the client has a timeout, and no
    metadata. And all operations send these requests, with that context. -/
theorem default_chain_prepares [RequestMessage Req] [LawfulRequest Req] [LeaseResponse Resp] [Carries I Req]
    [Carries I Resp] [Carries I DataChunk] (c : Client E Req Resp) {name : String}
    (hc : c.requestChain = .defaults name) (hn : name ≠ "") (m : Moment) (params : Params) (qs : List Req)
    (ht : m.now + (c.defaults.combine params).timeout < Instant.limit) :
    let effective := c.defaults.combine params
    ∃ ctx qs', Context.setTimeout {} m.now effective.timeout = .ok ctx ∧
      c.prepareMany m effective.logging qs ctx = (ctx, [], .ok qs') ∧
      List.Forall₂ (Stamped name m.time c.defaults.logging params.logging) qs qs' ∧
      (ctx.deadline.isSome ↔ params.timeout ≠ 0 ∨ c.defaults.timeout ≠ 0) ∧ ctx.metadata = {} ∧
      ∀ (issue : Issue Req) (handler : Answer Resp → Reply E T), issue.requests = qs →
        (c.plan m params issue handler : Except Fault (List E × Outcome (Plan I E T))) =
          .ok ([], .ok ⟨ctx, issue.launch c qs', c.receive issue.chunked issue.leased handler⟩) := by
  intro effective
  have hs := Context.setTimeout_fits ht {}
  refine ⟨_, qs.map (sent name m effective.logging), hs, prepareMany_defaults m _ hc hn qs _, ?_, ?_, rfl,
    fun issue handler hi => ?_⟩
  · rw [List.forall₂_map_right_iff, List.forall₂_same]
    exact fun q _ => sent_stamped m _ _ q
  · rw [← Params.timeout_combine_ne]
    by_cases h : (c.defaults.combine params).timeout = 0 <;> simp [h]
  · rw [plan_defaults m hc hn hs issue handler, hi]

/-! Two requests in one call: one has no header, and one has a name and a flag of its own. -/

def stamping : Client Unit EchoRequest EchoResponse :=
  { defaults := ⟨.ofSeconds 5, .enabled⟩, requestChain := .defaults "arm" }

def named : EchoRequest := { header := some { clientName := "leg", disableRpcLogging := true }, text := "q" }

theorem default_chain_prepares_two :
    let m : Moment := ⟨0, ⟨7, 0⟩, fun _ => none⟩
    stamping.requestChain = .defaults "arm" ∧ "arm" ≠ "" ∧
      m.now + (stamping.defaults.combine {}).timeout < Instant.limit ∧
      ∃ ctx q q', stamping.prepareMany m .enabled [{}, named] ctx = (ctx, [], .ok [q, q']) ∧ ctx.deadline.isSome ∧
        Stamped "arm" m.time .enabled .default {} q ∧ Stamped "arm" m.time .enabled .default named q' := by
  intro m
  have hn : "arm" ≠ "" := by decide
  have ht : m.now + (stamping.defaults.combine {}).timeout < Instant.limit := by decide
  obtain ⟨ctx, qs, -, hp, hq, hd, -⟩ :=
    default_chain_prepares (I := Bench.Item) (T := Nat) stamping rfl hn m {} [{}, named] ht
  cases hq with
  | @cons _ q _ _ h₁ hq =>
    cases hq with
    | @cons _ q' _ _ h₂ hq =>
      cases hq
      exact ⟨rfl, hn, ht, ctx, q, q', hp, hd.mpr (.inr (by decide)), h₁, h₂⟩

end CallPump
