/-
  CallPump.Proofs.Verdict — the number that a failed check reports.

  A server says with a number how it went, in a response header and about a lease. Its
  numbers have names from 0 on without a gap, and only 1 is a success. A check looks for
  the name first and reports the number of that name. A newer server can send numbers that
  have no name here: they are all taken for 0, and reported as 0 (`heard`). So two
  failures that a server tells apart can come out as one.

  - `number_of_name`: what naming leaves of a number.
  - `verdicts_by_number`: what both checks make of every number, and which numbers they
    take for each other.
  - `unnamed_numbers_collapse`: numbers beyond the last name.
-/

import CallPump.Lease
import CallPump.Processor

namespace CallPump

/-- What is left of a number when only those from 0 to `count` have names. -/
def heard (count : Nat) (n : Int) : Int := if 0 ≤ n ∧ n < count then n else 0

theorem heard_eq_self {count : Nat} {n : Int} (h₀ : 0 ≤ n) (h : n < count) : heard count n = n := if_pos ⟨h₀, h⟩

theorem heard_eq_one {count : Nat} (h : 1 < count) (n : Int) : heard count n = 1 ↔ n = 1 := by
  unfold heard
  split <;> omega

/-- A number goes to its name, or to the name `zero` if it has none, and the name back to
    its number. -/
theorem number_of_name {K : Type} {all : List K} {toNat : K → Nat} (zero : K)
    (hall : all.map toNat = List.range all.length) (hz : toNat zero = 0) (n : Int) :
    (toNat ((all.find? fun c => (toNat c : Int) == n).getD zero) : Int) = heard all.length n := by
  have named (m : Nat) : m < all.length ↔ ∃ c ∈ all, toNat c = m := by
    rw [← List.mem_map, hall, List.mem_range]
  cases hf : all.find? fun c => (toNat c : Int) == n with
  | some c =>
    have hc : (toNat c : Int) = n := by simpa using List.find?_some hf
    have hlt := (named _).mpr ⟨c, List.mem_of_find?_eq_some hf, rfl⟩
    rw [Option.getD_some, hc, heard_eq_self (by omega) (by omega)]
  | none =>
    have hn : ¬(0 ≤ n ∧ n < all.length) := by
      rintro ⟨h₀, h⟩
      obtain ⟨c, hc, hcn⟩ := (named n.toNat).mp (by omega)
      have hne : (toNat c : Int) ≠ n := by simpa using List.find?_eq_none.mp hf c hc
      omega
    rw [Option.getD_none, hz, heard, if_neg hn, Int.ofNat_zero]

theorem CommonError.number_kind (e : CommonError) : (e.kind.toNat : Int) = heard 4 e.code.toInt :=
  number_of_name ErrorCode.unspecified rfl rfl _

theorem LeaseUseResult.number_kind (r : LeaseUseResult) : (r.kind.toNat : Int) = heard 7 r.status.toInt :=
  number_of_name LeaseStatus.unknown rfl rfl _

theorem ErrorCode.eq_of_toNat {a b : ErrorCode} (h : a.toNat = b.toNat) : a = b := by
  cases a <;> cases b <;> first | rfl | cases h

theorem LeaseStatus.eq_of_toNat {a b : LeaseStatus} (h : a.toNat = b.toNat) : a = b := by
  cases a <;> cases b <;> first | rfl | cases h

/-- A verdict on the number `n`: only 1 passes, and any other fails in the domain `d` with
    what is left of it. -/
structure Judged (d : Domain) (count : Nat) (n : Int) (verdict : Outcome Unit) : Prop where
  passes : verdict = .ok () ↔ n = 1
  fails : n ≠ 1 → ∃ text, verdict = .error ⟨d, heard count n, text⟩

namespace Judged

variable {d : Domain} {count : Nat} {m n : Int}

/-- A check that asks for the name of 1, and otherwise reports the number of the name. -/
theorem of_name {ok : Prop} [Decidable ok] {number : Nat} (text : String) (hc : 1 < count)
    (hn : (number : Int) = heard count n) (hok : ok ↔ number = 1) :
    Judged d count n (if ok then .ok () else .error ⟨d, number, text⟩) := by
  have h₁ : ok ↔ n = 1 := by rw [hok, ← heard_eq_one hc, ← hn]; omega
  constructor
  case passes => by_cases h : ok <;> simp [h, ← h₁]
  case fails =>
    intro hne
    exact ⟨text, by rw [if_neg (mt h₁.mp hne), hn]⟩

/-- Numbers that get one verdict are left with one number. -/
theorem heard_eq {r : Outcome Unit} (hm : Judged d count m r) (hn : Judged d count n r) :
    heard count m = heard count n := by
  by_cases h : m = 1
  · rw [h, hn.passes.mp (hm.passes.mpr h)]
  · obtain ⟨text, ht⟩ := hm.fails h
    obtain ⟨text', ht'⟩ := hn.fails fun h' => h (hm.passes.mp (hn.passes.mpr h'))
    rw [ht, Except.error.injEq, Status.mk.injEq] at ht'
    exact ht'.2.1

end Judged

/-! ## Leases -/

namespace LeaseUseResult

theorem check_judged (r : LeaseUseResult) : Judged .lease 7 r.status.toInt r.check :=
  .of_name _ (by decide) r.number_kind ⟨fun h => by rw [h]; rfl, fun h => LeaseStatus.eq_of_toNat h⟩

theorem check_status (r : LeaseUseResult) (s : Int32) :
    { r with status := s }.check = r.check ↔ heard 7 s.toInt = heard 7 r.status.toInt := by
  constructor
  · intro h
    exact { r with status := s }.check_judged.heard_eq (h ▸ r.check_judged)
  · intro h
    rw [← number_kind r, ← number_kind { r with status := s }] at h
    have hk : { r with status := s }.kind = r.kind := LeaseStatus.eq_of_toNat (by exact_mod_cast h)
    rw [check, check, refusal, refusal, hk]

end LeaseUseResult

/-! ## Headers -/

namespace ResponseHeader

theorem check_judged (h : ResponseHeader) : Judged .responseHeader 4 (h.error.getD {}).code.toInt h.check :=
  .of_name _ (by decide) (h.error.getD {}).number_kind ⟨fun h => by rw [h]; rfl, fun h => ErrorCode.eq_of_toNat h⟩

/-- The header with another code in its error. -/
def withCode (h : ResponseHeader) (c : Int32) : ResponseHeader :=
  { h with error := some { h.error.getD {} with code := c } }

theorem check_withCode (h : ResponseHeader) (c : Int32) :
    (h.withCode c).check = h.check ↔ heard 4 c.toInt = heard 4 (h.error.getD {}).code.toInt := by
  constructor
  · intro he
    exact (h.withCode c).check_judged.heard_eq (he ▸ h.check_judged)
  · intro he
    rw [← CommonError.number_kind (h.error.getD {}), ← CommonError.number_kind { h.error.getD {} with code := c }] at he
    have hk : { h.error.getD {} with code := c }.kind = (h.error.getD {}).kind :=
      ErrorCode.eq_of_toNat (by exact_mod_cast he)
    rw [check, check, withCode, Option.getD_some, hk]

end ResponseHeader

/-- Both checks, on whatever number a server sends. Only 1 passes. Any other fails in the
    domain of the check, with the number as it came if that has a name and with 0 if not.
    Two numbers, all else being equal, get one verdict just if they are left as one: if
    they are equal or both are 0 or without a name. -/
theorem verdicts_by_number {N Resp : Type} :
    (∀ (notify : Option (LeaseUseResult → N)) (r : LeaseUseResult),
      Judged .lease 7 r.status.toInt (r.process notify).2 ∧
      ∀ s : Int32, ({ r with status := s }.process notify).2 = (r.process notify).2 ↔
        heard 7 s.toInt = heard 7 r.status.toInt) ∧
    ∀ (i : Arrival Resp) (notes : List N),
      let code := (i.header.error.getD {}).code
      Judged .responseHeader 4 code.toInt (ResponseProcessor.commonError i notes).2 ∧
      ∀ c : Int32,
        (ResponseProcessor.commonError { i with header := i.header.withCode c } notes).2 =
            (ResponseProcessor.commonError i notes).2 ↔
          heard 4 c.toInt = heard 4 code.toInt :=
  ⟨fun _ r => ⟨r.check_judged, r.check_status⟩, fun i _ => ⟨i.header.check_judged, i.header.check_withCode⟩⟩

/-- The numbers 7 and 8 of a lease, and 4 and 5 of a header, are two failures each. They
    come out as one, with a code that is neither. -/
theorem unnamed_numbers_collapse :
    let lease (n : Int32) := (LeaseUseResult.process (none : Option (LeaseUseResult → Unit)) { status := n }).2
    let header (n : Int32) := ResponseHeader.check { error := some { code := n } }
    lease 7 = .error ⟨.lease, 0, "STATUS_UNKNOWN for resource <none>"⟩ ∧ lease 8 = lease 7 ∧
      header 4 = .error ⟨.responseHeader, 0, "CODE_UNSPECIFIED"⟩ ∧ header 5 = header 4 := by
  refine ⟨?_, ?_, ?_, ?_⟩ <;> rfl

end CallPump
