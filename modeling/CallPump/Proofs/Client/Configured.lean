/-
  CallPump.Proofs.Client.Configured — what a configured timeout can do to a call.

  A configuration holds its timeout in 64 bits of milliseconds, and its limits say nothing
  about it (`isValid_timeout`). On its way to the server it goes through the parameters, a
  deadline on the clock and eight digits of some unit. The clock has room for all of it; the
  eight digits end with the hours (`WireTimeout.limit`), and what goes beyond is no failure
  of the call but a fault.

  - `ofSpan?_eq_none`: which spans cannot be told to the server.
  - `configured_call_faults_iff`: a call of a configured client faults exactly when more than
    that is left of its timeout when the request is sent.
  - `valid_timeout_faults`: the configuration that is valid, and whose calls all fault.
-/

import CallPump.Proofs.Client.Defaults

namespace CallPump

variable {E Req Resp I T : Type}

/-- The first span that is too long for eight digits of the coarsest unit. -/
def WireTimeout.limit : Span := 100000000 * (3600 * 1000000000)

/-- If the hours do not do, no finer unit does. -/
theorem WireTimeout.units_fail (t : Nat) :
    (∀ u ∈ units, ¬ t / u.2 < 100000000) ↔ 100000000 * (3600 * 1000000000) ≤ t := by
  constructor
  · intro h
    have hours : ¬ t / (3600 * 1000000000) < 100000000 := h ('H', 3600 * 1000000000) (by simp [units])
    omega
  · intro h u hu
    simp only [units, List.mem_cons, List.not_mem_nil, or_false] at hu
    rcases hu with rfl | rfl | rfl | rfl | rfl | rfl <;> dsimp only <;> omega

theorem WireTimeout.ofSpan?_eq_none (t : Span) : ofSpan? t = none ↔ limit ≤ t := by
  rw [ofSpan?, Option.map_eq_none_iff, List.find?_eq_none]
  simp only [decide_eq_true_eq]
  exact units_fail t

/-- Sending a request faults when too much of its time is left, and never else. -/
theorem Context.requestMetadata_far {ctx : Context} {d now : Instant} (hd : ctx.deadline = some d)
    (h : WireTimeout.limit ≤ d - now) : ctx.requestMetadata now = .error .timeoutTooLong := by
  have hr : ctx.remaining now = some (d - now) := by rw [remaining, hd, Option.map_some]
  rw [requestMetadata, hr]
  simp only [(WireTimeout.ofSpan?_eq_none _).mpr h]

theorem Context.requestMetadata_near {ctx : Context} {d now : Instant} (hd : ctx.deadline = some d)
    (h : ¬ WireTimeout.limit ≤ d - now) : ∃ md, ctx.requestMetadata now = .ok md := by
  have hr : ctx.remaining now = some (d - now) := by rw [remaining, hd, Option.map_some]
  obtain ⟨w, hw⟩ := Option.ne_none_iff_exists'.mp (mt (WireTimeout.ofSpan?_eq_none _).mp h)
  exact ⟨_, by rw [requestMetadata, hr]; simp only [hw]; rfl⟩

theorem Context.requestMetadata_endless {ctx : Context} (hd : ctx.deadline = none) (now : Instant) :
    ctx.requestMetadata now = .ok ctx.metadata := by
  rw [requestMetadata, remaining, hd, Option.map_none]

/-! ## Configurations -/

/-- The middle of the clock, at 62 bits of seconds. -/
def Instant.half : Instant := Span.ofSeconds 0x4000000000000000

/-- No limit is set to the timeout. -/
theorem Config.isValid_timeout (c : Config) (n : UInt64) : { c with defaultTimeoutMs := n }.isValid = c.isValid := rfl

theorem Config.givenName_ne (c : Config) {madeUp : String} (h : madeUp ≠ "") : c.givenName.getD madeUp ≠ "" := by
  rw [givenName]
  split
  · exact h
  · assumption

/-- The clock has room for every timeout of a configuration. -/
theorem Config.timeout_fits (c : Config) {now : Instant} (h : now < Instant.half) :
    now + (c.params.combine {}).timeout < Instant.limit := by
  have room {n ms : Nat} (hn : n < 0x4000000000000000 * 1000000000) (hm : ms < 2 ^ 64) :
      n + ms * 1000000 < 0x8000000000000000 * 1000000000 := by omega
  exact room h c.defaultTimeoutMs.toNat_lt

namespace Client

variable [RequestMessage Req] [LeaseResponse Resp] [Carries I Req] [Carries I Resp] [Carries I DataChunk]

/-- A call of a configured client that says nothing about itself is planned, with the
    deadline that the configuration gives it. -/
theorem plan_configured (config : Config) {madeUp : String} (hm : madeUp ≠ "") {m : Moment}
    (hn : m.now < Instant.half) (issue : Issue Req) (handler : Answer Resp → Reply E T) :
    ∃ pl : Plan I E T, (ofConfig config madeUp).plan m {} issue handler = .ok ([], .ok pl) ∧
      pl.context.deadline =
        if Span.ofMillis config.defaultTimeoutMs.toNat = 0 then none
        else some (m.now + Span.ofMillis config.defaultTimeoutMs.toNat) :=
  ⟨_, plan_defaults m rfl (config.givenName_ne hm) (Context.setTimeout_fits (config.timeout_fits hn) {}) issue handler,
    rfl⟩

end Client

open Client

/-- For every valid configuration, and a call of a client built from it that says nothing
    about itself: the deadline can be formed and the call is planned; and sending its
    request faults exactly when so much of the timeout is left then that eight digits do not
    tell it in hours. Every other timeout would be just as valid. -/
theorem configured_call_faults_iff [RequestMessage Req] [LeaseResponse Resp] [Carries I Req] [Carries I Resp]
    [Carries I DataChunk] (config : Config) (hv : config.isValid = true) {madeUp : String} (hm : madeUp ≠ "")
    (m : Moment) (hn : m.now < Instant.half) (issue : Issue Req) (handler : Answer Resp → Reply E T) :
    (∀ n, { config with defaultTimeoutMs := n }.isValid = true) ∧
      ∃ pl : Plan I E T, (ofConfig config madeUp).plan m {} issue handler = .ok ([], .ok pl) ∧
        ∀ later, m.now ≤ later →
          if WireTimeout.limit + (later - m.now) ≤ Span.ofMillis config.defaultTimeoutMs.toNat then
            pl.context.requestMetadata later = .error .timeoutTooLong
          else ∃ md, pl.context.requestMetadata later = .ok md := by
  obtain ⟨pl, hp, hd⟩ := plan_configured (I := I) config hm hn issue handler
  refine ⟨fun n => (config.isValid_timeout n).trans hv, pl, hp, fun later hl => ?_⟩
  have pos : 0 < WireTimeout.limit := by decide
  by_cases hz : Span.ofMillis config.defaultTimeoutMs.toNat = 0
  · rw [if_pos hz] at hd
    rw [if_neg (by rw [hz]; exact Nat.not_le.mpr (Nat.add_pos_left pos _))]
    exact ⟨_, Context.requestMetadata_endless hd later⟩
  · rw [if_neg hz] at hd
    have left {a b n l : Nat} (ha : 0 < a) (hl : n ≤ l) : a + (l - n) ≤ b ↔ a ≤ n + b - l := by omega
    simp only [left pos hl]
    split
    · exact Context.requestMetadata_far hd ‹_›
    · exact Context.requestMetadata_near hd ‹_›

/-! The longest timeout that a configuration can have, beside the one that it has by default. -/

def longestTimeout : Config := { defaultTimeoutMs := 0xffffffffffffffff }

def plainCall : Issue EchoRequest := .one .unary {}

def countResponses : Answer EchoResponse → Reply Unit Nat
  | .one _ => { ended := .returned (.ok 1) }
  | .many rs => { ended := .returned (.ok rs.length) }

theorem configured_call_faults_iff_longest :
    let m : Moment := ⟨5, {}, fun _ => none⟩
    longestTimeout.isValid = true ∧ ({} : Config).isValid = true ∧ "arm" ≠ "" ∧ m.now < Instant.half ∧
      (∃ pl : Plan Bench.Item Unit Nat,
        (ofConfig longestTimeout "arm").plan m {} plainCall countResponses = .ok ([], .ok pl) ∧
        pl.context.requestMetadata 9 = .error .timeoutTooLong) ∧
      ∃ pl : Plan Bench.Item Unit Nat,
        (ofConfig {} "arm").plan m {} plainCall countResponses = .ok ([], .ok pl) ∧
        ∃ md, pl.context.requestMetadata 9 = .ok md := by
  intro m
  have hv : longestTimeout.isValid = true := by decide
  have hv' : ({} : Config).isValid = true := by decide
  have hm : "arm" ≠ "" := by decide
  have hn : m.now < Instant.half := by decide
  obtain ⟨-, pl, hp, hf⟩ :=
    configured_call_faults_iff (I := Bench.Item) longestTimeout hv hm m hn plainCall countResponses
  obtain ⟨-, pl', hp', hf'⟩ :=
    configured_call_faults_iff (I := Bench.Item) {} hv' hm m hn plainCall countResponses
  have long := hf 9 (by decide)
  have short := hf' 9 (by decide)
  rw [if_pos (by decide)] at long
  rw [if_neg (by decide)] at short
  exact ⟨hv, hv', hm, hn, ⟨pl, hp, long⟩, pl', hp', short⟩

/-- Being valid does not keep a configuration from making its calls fault. -/
theorem valid_timeout_faults :
    ¬ ∀ (config : Config) (madeUp : String), config.isValid = true → madeUp ≠ "" →
      ∀ (m : Moment) (later : Instant), m.now ≤ later → later < Instant.half →
        ∀ (issue : Issue EchoRequest) (handler : Answer EchoResponse → Reply Unit Nat),
          ∃ (notes : List Unit) (pl : Plan Bench.Item Unit Nat) (md : Metadata),
            (ofConfig config madeUp).plan m {} issue handler = .ok (notes, .ok pl) ∧
              pl.context.requestMetadata later = .ok md := by
  intro h
  have hm : "arm" ≠ "" := by decide
  let m : Moment := ⟨5, {}, fun _ => none⟩
  obtain ⟨notes, pl, md, hp, hr⟩ :=
    h longestTimeout "arm" (by decide) hm m 9 (by decide) (by decide) plainCall countResponses
  obtain ⟨pl', hp', hd⟩ :=
    plan_configured (I := Bench.Item) longestTimeout hm (m := m) (by decide) plainCall countResponses
  have same : pl = pl' := Except.ok.inj (Prod.mk.inj (Except.ok.inj (hp.symm.trans hp'))).2
  subst same
  rw [if_neg (by decide)] at hd
  rw [Context.requestMetadata_far hd (by decide)] at hr
  exact absurd hr (by simp)

end CallPump
