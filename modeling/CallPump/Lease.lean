/-
  CallPump.Lease — the verdict on a lease that came back with a response.

  Only the status `ok` passes. A wallet, where there is one, hears of every result, also
  of those that fail the call.
-/

import CallPump.Message
import CallPump.Status

namespace CallPump.LeaseUseResult

def refusal (r : LeaseUseResult) : Status :=
  let resource := (r.attemptedLease.map (·.resource)).getD "<none>"
  let owner := match r.owner with
    | some o => if o.clientName = "" then "" else ", owned by " ++ o.clientName
    | none => ""
  ⟨.lease, r.kind.toNat, r.kind.name ++ " for resource " ++ resource ++ owner⟩

def check (r : LeaseUseResult) : Outcome Unit := if r.kind = .ok then .ok () else .error r.refusal

/-- What a wallet hears, in the notes that `notify` makes, and the verdict. -/
def process {N : Type} (notify : Option (LeaseUseResult → N)) (r : LeaseUseResult) : List N × Outcome Unit :=
  ((notify.map (· r)).toList, r.check)

/-- A response without a lease result passes unheard. -/
def processResponse {N R : Type} [LeaseResponse R] (notify : Option (LeaseUseResult → N)) (r : R) :
    List N × Outcome Unit :=
  match LeaseResponse.leaseUse r with
  | some u => process notify u
  | none => ([], .ok ())

end CallPump.LeaseUseResult
