import PickupLedger.Proofs.Programs
import PickupLedger.Service.Receptions

/-!
# Requests

A `Request` is one of the six operations on pickup points, receptions and products with
all that it is given: its arguments, the time and, where it makes a record of its own,
a fresh identifier.  `Request.program` is the operation as the service runs it, with
the results of all of them in one type (`Outcome`).
-/

namespace PickupLedger

/-- What an operation results in. -/
inductive Outcome where
  | point (p : PickupPoint)
  | reception (r : Reception)
  | product (x : Product)
  deriving DecidableEq, Repr

/-- An outcome, or the failure of the operation. -/
abbrev Verdict := Except Failure Outcome

/-- **An operation with its arguments.** -/
inductive Request where
  | create (stamp : Stamp) (id : Uuid) (cityName : String) (registered : Option Instant)
  | get (id : Uuid)
  | openAt (stamp : Stamp) (pickupPoint : Uuid)
  | closeAt (pickupPoint : Uuid)
  | addTo (stamp : Stamp) (pickupPoint : Uuid) (typeName : String)
  | removeFrom (pickupPoint : Uuid)
  deriving DecidableEq, Repr

namespace Request
open Service

/-- The identifier that the operation gives to a record of its own. -/
def fresh? : Request → Option Uuid
  | .openAt stamp _ => some stamp.fresh
  | .addTo stamp _ _ => some stamp.fresh
  | _ => none

/-- **The operation itself.** -/
def operation : Request → Operation Outcome
  | .create stamp id cityName registered =>
    createPickupPoint stamp id cityName registered >>= fun p => pure (.point p)
  | .get id => getPickupPoint id >>= fun p => pure (.point p)
  | .openAt stamp p => openReception stamp p >>= fun r => pure (.reception r)
  | .closeAt p => closeReception p >>= fun r => pure (.reception r)
  | .addTo stamp p typeName => addProduct stamp p typeName >>= fun x => pure (.product x)
  | .removeFrom p => removeLastProduct p >>= fun x => pure (.product x)

/-- The operation as a program. -/
def program (q : Request) : Program Verdict := q.operation.program

/-- Every operation makes a call. -/
theorem program_settled? (q : Request) : q.program.settled? = none := by cases q <;> rfl

/-- **Operations one after the other** over a store. -/
def runAll {σ : Type} [Storage σ] : List Request → Program.World σ → List Verdict × Program.World σ
  | [], w => ([], w)
  | q :: qs, w =>
    let (v, w) := q.program.run w
    let (vs, w) := runAll qs w
    (v :: vs, w)

/-- A list in which no identifier is given twice has no two requests with one identifier. -/
theorem index_unique {qs : List Request} (hids : (qs.filterMap fresh?).Nodup) {i j : Nat}
    {q q' : Request} {id : Uuid} (hi : qs[i]? = some q) (hj : qs[j]? = some q')
    (hq : q.fresh? = some id) (hq' : q'.fresh? = some id) : i = j := by
  rw [List.Nodup, List.pairwise_filterMap, List.pairwise_iff_getElem] at hids
  obtain ⟨hilt, rfl⟩ := List.getElem?_eq_some_iff.mp hi
  obtain ⟨hjlt, rfl⟩ := List.getElem?_eq_some_iff.mp hj
  rcases Nat.lt_trichotomy i j with hlt | heq | hlt
  · exact absurd rfl (hids i j hilt hjlt hlt id hq id hq')
  · exact heq
  · exact absurd rfl (hids j i hjlt hilt hlt id hq' id hq)

end Request
end PickupLedger
