/-
  CallPump.Proofs.Client.Chunked — a large message that goes in chunks arrives as if it had
  gone whole.

  A server applies one function to the request that reaches it. The server of a chunked
  operation puts the request together from the chunks of the client, or cuts its response
  into chunks, or both, each side with chunks of a size of its own; the server of the plain
  operation takes and gives whole messages.

  - `unpack_reply`: whichever way they travel, the client finds the same in the answer.
  - `chunking_is_transparent`: so the chunked operation comes to what the plain one comes to.
-/

import CallPump.Proofs.Chunk
import CallPump.Proofs.Client.Receive
import CallPump.Proofs.Pump.Resolve
import CallPump.Proofs.Wire.Messages

namespace CallPump

open Wire

variable {E Req Resp I T : Type}

namespace Carries

variable {M : Type} [Carries I M]

theorem take_wrap (m : M) : take (wrap m : I) = .ok m := take_ok (unwrap?_wrap m)

theorem takeAll_wrap (ms : List M) : takeAll (ms.map fun m => (wrap m : I)) = .ok ms := by
  refine takeAll_ok ?_
  rw [List.map_map]
  exact List.map_congr_left fun m _ => unwrap?_wrap m

end Carries

/-! ## What a planned call resolves to -/

open Scene (Follows Live)

/-- A call that is issued was created and then started. -/
theorem Pump.issue_call {p p₁ p₂ : Pump I I E T} {pl : Plan I E T} {id j : CallId} {os : List (Order I I)}
    (hc : p.create pl.launch.kind = some (id, p₁)) (h : p.issue (.ok pl) = (.call j, p₂, os)) :
    j = id ∧ (p₁.start id pl.context pl.launch pl.callback).2.1 = p₂ := by
  simp only [issue, hc] at h
  rcases hs : p₁.start id pl.context pl.launch pl.callback with ⟨_ | _, q, os'⟩ <;> rw [hs] at h
  · cases h
  · cases h
    exact ⟨rfl, rfl⟩

/-- To issue a plan on a live pump is to create its call and to start it. -/
theorem issue_begun {before : List (Event I I E T)} (h : Follows Live {} before) (pl : Plan I E T) :
    let t := Stay.begun before h pl.context pl.launch pl.callback
    ∃ os, (({} : Scene I I E T).run before).pump.issue (.ok pl) = (.call t.id, t.scene.pump, os) := by
  intro t
  have hw : (({} : Scene I I E T).run before).Alive := Scene.alive_run h
  have hi := Pump.issue_live hw.running.running hw.taking pl
  have hc := Pump.create_open hw.running.running pl.launch.kind
  obtain ⟨b, hb, hk⟩ := Stay.begun_birth h pl.context pl.launch pl.callback
  have hp : t.scene.pump = (t.birth.pump.start t.id pl.context pl.launch pl.callback).2.1 := by
    rw [t.scene_eq]
    show (t.birth.start t.id pl.context pl.launch pl.callback).pump = _
    simp only [Scene.start, t, hb, hk, if_true, Scene.tell_pump]
  have he : t.scene.pump = (({} : Scene I I E T).run before).pump.withCall pl := by
    rw [hp, ← (Pump.issue_call hc hi).2, Stay.birth, show t.before = before from rfl]
    simp only [Scene.create, hc]
    rfl
  rw [he]
  exact ⟨_, hi⟩

/-- A planned call, served and not cancelled, resolves to the reply, on every live pump: it
    can be issued there, from every point it can be brought to its end, and at its end the
    reply is what its callback did and what its future holds. -/
structure Resolves (s : Service I) (pl : Plan I E T) (reply : Reply E T) : Prop where
  issued : ∀ before : List (Event I I E T), Follows Live {} before → ∃ (t : Stay I I E T pl.launch.kind) (os : _),
    t.before = before ∧ (({} : Scene I I E T).run before).pump.issue (.ok pl) = (.call t.id, t.scene.pump, os) ∧
      t.Served s pl.context pl.launch pl.callback
  finishes : ∀ t : Stay I I E T pl.launch.kind, t.Served s pl.context pl.launch pl.callback →
    ∃ es he, (t.more es he).Served s pl.context pl.launch pl.callback ∧
      (t.more es he).scene.pump.queue.outstanding t.id = 0 ∧ (t.more es he).scene.replies t.id = []
  comes : ∀ t : Stay I I E T pl.launch.kind, t.Served s pl.context pl.launch pl.callback →
    t.scene.pump.queue.outstanding t.id = 0 →
    ∃ x, t.given = [(pl.callback, x)] ∧ pl.callback x = reply ∧ (t.scene.replies t.id = [] →
      ∃ m, t.scene.pump.get? t.id = some ⟨m, .ready reply.ended.outcome⟩)

/-- Every served call resolves to what its callback makes of the service's reply. -/
theorem resolves (s : Service I) (pl : Plan I E T) : Resolves s pl (pl.callback (s.reply pl.launch)) where
  issued before h := by
    obtain ⟨os, ho⟩ := issue_begun h pl
    exact ⟨_, os, rfl, ho, Stay.served_begun h⟩
  finishes _ h := h.finishes
  comes _ h hz := ⟨s.reply pl.launch, (h.given hz).1, rfl, (h.given hz).2⟩

/-- To no other reply. -/
theorem Resolves.unique {s : Service I} {pl : Plan I E T} {reply reply' : Reply E T} (h : Resolves s pl reply)
    (h' : Resolves s pl reply') : reply = reply' := by
  obtain ⟨t, -, -, -, ht⟩ := h.issued [] trivial
  obtain ⟨es, he, hs, hz, -⟩ := h.finishes t ht
  obtain ⟨x, hx, rfl, -⟩ := h.comes _ hs hz
  obtain ⟨x', hx', rfl, -⟩ := h'.comes _ hs hz
  cases hx.symm.trans hx'
  rfl

namespace Client

/-! ## The server -/

/-- Whether the operation sends its request in chunks. -/
def OneRequest.uploads : OneRequest → Bool
  | .chunkedRequest | .chunkedBidi => true
  | .unary | .leased | .responseStream | .chunkedResponse => false

/-- The request among what reached the server. Chunks that make no message are refused in a
    way of the server's own. -/
def requestIn [Message Req] [Carries I Req] [Carries I DataChunk] (refuse : Chunk.JoinError → GrpcStatus)
    (inChunks : Bool) (got : List I) : Except GrpcStatus Req :=
  if inChunks then do
    let cs ← Carries.takeAll got
    (Chunk.toMessage cs).mapError refuse
  else match got with
    | [i] => Carries.take i
    | _ => .error .wrongPayload

/-- What serves a function to the operation: the request comes as the operation sends it, and
    a stream of responses is the one response in chunks of the size. -/
def server [Message Req] [Message Resp] [Carries I Req] [Carries I Resp] [Carries I DataChunk]
    (f : Req → Except GrpcStatus Resp) (refuse : Chunk.JoinError → GrpcStatus) (size : Nat) (k : OneRequest) :
    Service I where
  single got := do
    let q ← requestIn refuse (OneRequest.uploads k) got
    let r ← f q
    pure (Carries.wrap r)
  stream got := do
    let q ← requestIn refuse (OneRequest.uploads k) got
    let r ← f q
    pure ((Chunk.ofMessage r size).map Carries.wrap)

section

variable [Message Req] [Carries I Req] [Carries I DataChunk] {refuse : Chunk.JoinError → GrpcStatus}

theorem requestIn_whole (q : Req) : requestIn refuse false [(Carries.wrap q : I)] = .ok q := Carries.take_wrap q

theorem requestIn_chunks [Lossless Req] {q : Req} (h : Fits q) (n : Nat) :
    requestIn refuse true ((Chunk.ofMessage q n).map fun c => (Carries.wrap c : I)) = .ok q := by
  have ht := Carries.takeAll_wrap (I := I) (Chunk.ofMessage q n)
  simp only [requestIn, if_true, ht, Bind.bind, Except.bind, Chunk.toMessage_ofMessage h n]
  rfl

end

/-! ## What the client finds in the answer -/

section

variable [LeaseResponse Resp] [Carries I Resp] [Carries I DataChunk] (c : Client E Req Resp)

theorem unpack_whole (r : Resp) :
    unpack false (.ok (.one (Carries.wrap r : I))) = (.ok (.one r) : Outcome (Answer Resp)) := by
  simp only [unpack, Carries.take_wrap]
  rfl

theorem unpack_chunks [Lossless Resp] {r : Resp} (h : Fits r) (size : Nat) :
    unpack true (.ok (.many ((Chunk.ofMessage r size).map fun d => (Carries.wrap d : I)))) =
      (.ok (.one r) : Outcome (Answer Resp)) := by
  simp only [unpack, if_true, Carries.takeAll_wrap, Chunk.toMessage_ofMessage h size]

/-- The callback goes by what it finds in the answer. -/
theorem receive_congr {chunked chunked' leased : Bool} {handler : Answer Resp → Reply E T}
    {x x' : Except GrpcStatus (Answer I)}
    (h : (unpack chunked x : Outcome (Answer Resp)) = unpack chunked' x') :
    c.receive chunked leased handler x = c.receive chunked' leased handler x' := by
  simp only [receive, h]

variable [RequestMessage Req] [Carries I Req]

/-- Whichever way the request and the response travel, the client finds the function's
    response, or its error. -/
theorem unpack_reply [Lossless Req] [Lossless Resp] {k : OneRequest} (hk : k ≠ .responseStream)
    (f : Req → Except GrpcStatus Resp) (refuse : Chunk.JoinError → GrpcStatus) (size : Nat) {q : Req} (hq : Fits q)
    (hr : ∀ r, f q = .ok r → Fits r) :
    unpack (OneRequest.chunked k) ((server f refuse size k : Service I).reply (c.launchOne q k)) =
      match f q with
      | .ok r => .ok (.one r)
      | .error e => .error (.ofGrpc e) := by
  have hw : requestIn refuse false [(Carries.wrap q : I)] = .ok q := requestIn_whole q
  have hc : requestIn refuse true ((Chunk.ofMessage q c.chunkSize).map fun d => (Carries.wrap d : I)) = .ok q :=
    requestIn_chunks hq c.chunkSize
  cases k with
  | responseStream => exact absurd rfl hk
  | unary | leased =>
    simp only [launchOne, Service.reply, server, OneRequest.uploads, hw, Bind.bind, Except.bind]
    cases f q with
    | error e => rfl
    | ok r => exact unpack_whole r
  | chunkedRequest =>
    simp only [launchOne, Service.reply, server, OneRequest.uploads, hc, Bind.bind, Except.bind]
    cases f q with
    | error e => rfl
    | ok r => exact unpack_whole r
  | chunkedResponse =>
    simp only [launchOne, Service.reply, server, OneRequest.uploads, hw, Bind.bind, Except.bind]
    cases hf : f q with
    | error e => rfl
    | ok r => exact unpack_chunks (hr r hf) size
  | chunkedBidi =>
    simp only [launchOne, Service.reply, server, OneRequest.uploads, hc, Bind.bind, Except.bind]
    cases hf : f q with
    | error e => rfl
    | ok r => exact unpack_chunks (hr r hf) size

end

/-! ## Two operations compared -/

/-- Two plans come to the same: the clock can form neither deadline, or the request chain
    refuses both with the same status, or both calls are made and resolve to the same reply. -/
inductive Alike (s s' : Service I) : Except Fault (List E × Outcome (Plan I E T)) →
    Except Fault (List E × Outcome (Plan I E T)) → Prop
  | fault (e : Fault) : Alike s s' (.error e) (.error e)
  | refused (notes : List E) (e : Status) : Alike s s' (.ok (notes, .error e)) (.ok (notes, .error e))
  | made (notes : List E) {pl pl' : Plan I E T} (reply : Reply E T) : pl.context = pl'.context → Resolves s pl reply →
      Resolves s' pl' reply → Alike s s' (.ok (notes, .ok pl)) (.ok (notes, .ok pl'))

end Client

open Client

/-- For every client, with any chains and any size of chunks, every request, parameters and
    handler, and every function and size of chunks at the server: each chunked operation, with
    the server that joins the chunks it is sent and cuts the response, comes to what the plain
    operation comes to with the function itself, at the same reading of the clock. No more is
    asked than that 64 bits can tell the size of the request that is sent and of its response. -/
theorem chunking_is_transparent [RequestMessage Req] [LeaseResponse Resp] [Lossless Req] [Lossless Resp]
    [Carries I Req] [Carries I Resp] [Carries I DataChunk] (c : Client E Req Resp) (m : Moment) (params : Params) (q : Req)
    (handler : Answer Resp → Reply E T) (f : Req → Except GrpcStatus Resp) (refuse : Chunk.JoinError → GrpcStatus)
    (size : Nat) {k : OneRequest} (hk : k ∈ [OneRequest.chunkedRequest, .chunkedResponse, .chunkedBidi])
    (hs : ∀ notes (pl : Plan I E T) sent, c.plan m params (.one .unary q) handler = .ok (notes, .ok pl) →
      pl.launch = .unary (Carries.wrap sent) → Fits sent ∧ ∀ r, f sent = .ok r → Fits r) :
    Alike (server f refuse size k : Service I) (server f refuse size .unary) (c.plan m params (.one k q) handler)
      (c.plan m params (.one .unary q) handler) := by
  cases hc : Context.setTimeout {} m.now (c.defaults.combine params).timeout with
  | error e =>
    rw [c.plan_fault m (.one k q) handler hc, c.plan_fault m (.one .unary q) handler hc]
    exact .fault e
  | ok ctx =>
    have hp := c.plan_eq_walk (I := I) m (.one k q) handler hc
    have hp' := c.plan_eq_walk (I := I) m (.one .unary q) handler hc
    have hk' : k ≠ .responseStream ∧ (Issue.one k q).leased = false := by
      rcases List.mem_cons.mp hk with rfl | hk
      · exact ⟨by decide, rfl⟩
      · rcases List.mem_pair.mp hk with rfl | rfl <;> exact ⟨by decide, rfl⟩
    rcases hw : walk (c.prepareRun m (c.defaults.combine params).logging) [some q] ⟨ctx, [], []⟩ with ⟨d, e | _⟩
    · rw [hp, hp', Issue.runs, Issue.runs, hw]
      exact .refused d.notes e
    · rw [Issue.runs, hw] at hp hp'
      rw [hp, hp', hk'.2]
      -- the request as the chain left it, the same for both
      obtain ⟨hq, hr⟩ := hs _ _ (d.done.headD q) hp' rfl
      have hu := c.unpack_reply (I := I) hk'.1 f refuse size hq hr
      have hu' := c.unpack_reply (I := I) (k := .unary) (by decide) f refuse size hq hr
      have he : c.receive (OneRequest.chunked k) false handler _ =
          c.receive (OneRequest.chunked .unary) false handler _ := receive_congr c (hu.trans hu'.symm)
      have hr := resolves (server f refuse size k : Service I)
        (⟨d.context, c.launchOne (d.done.headD q) k, c.receive (OneRequest.chunked k) false handler⟩ : Plan I E T)
      dsimp only at hr
      rw [he] at hr
      exact .made d.notes _ rfl hr (resolves _ _)

/-! A request that goes in chunks of two bytes, echoed in chunks of three. -/

def echo (q : EchoRequest) : Except GrpcStatus EchoResponse := .ok (Bench.Dialect.echo q.text q.blob)

def malformed (e : Chunk.JoinError) : GrpcStatus := ⟨.invalidArgument, e.status.display⟩

def echoing : Client Unit EchoRequest EchoResponse := { responseChain := ResponseChain.defaults, chunkSize := 2 }

def blobSize : Answer EchoResponse → Reply Unit Nat
  | .one r => { ended := .returned (.ok r.blob.length) }
  | .many rs => { ended := .returned (.ok rs.length) }

theorem chunking_is_transparent_echo :
    ∃ (m : Moment) (pl pl' : Plan Bench.Item Unit Nat) (reply : Reply Unit Nat),
      echoing.plan m {} (.one .chunkedBidi { blob := [1, 2, 3] }) blobSize = .ok ([], .ok pl) ∧
      echoing.plan m {} (.one .unary { blob := [1, 2, 3] }) blobSize = .ok ([], .ok pl') ∧
      Resolves (server echo malformed 3 .chunkedBidi) pl reply ∧ Resolves (server echo malformed 3 .unary) pl' reply ∧
      reply.ended = .returned (.ok 3) := by
  let m : Moment := ⟨0, {}, fun _ => none⟩
  let q : EchoRequest := { blob := [1, 2, 3] }
  let sent : EchoRequest := { q with header := some {} }
  let pl : Plan Bench.Item Unit Nat :=
    ⟨{}, .bidi ((Chunk.ofMessage sent 2).map .chunk), echoing.receive true false blobSize⟩
  let pl' : Plan Bench.Item Unit Nat := ⟨{}, .unary (.request sent), echoing.receive false false blobSize⟩
  have hp : echoing.plan m {} (.one .chunkedBidi q) blobSize = .ok ([], .ok pl) := rfl
  have hp' : echoing.plan m {} (.one .unary q) blobSize = .ok ([], .ok pl') := rfl
  have ha := chunking_is_transparent (I := Bench.Item) echoing m {} q blobSize echo malformed 3 (k := .chunkedBidi)
    (by decide) fun notes p sent h hl => by
      cases hp'.symm.trans h
      cases hl
      exact ⟨by decide, fun r hr => by cases hr; decide⟩
  rw [hp, hp'] at ha
  cases ha with
  | made notes reply _ h h' =>
    have he : reply = pl'.callback ((server echo malformed 3 .unary : Service Bench.Item).reply pl'.launch) :=
      h'.unique (resolves _ _)
    exact ⟨m, pl, pl', reply, hp, hp', h, h', by rw [he]; rfl⟩

end CallPump
