import PickupLedger.Store.Call

/-!
# Rehearsals

A `Rehearsed` store is a store with arrangements for its next calls: a call may fail,
get a reply that was made up, be carried out twice, or find that a reception has just
been closed.  Arrangements for one kind of call are used up in their order, and all
calls are written down in a journal.
-/

namespace PickupLedger

/-- **What is arranged** for the next call of a kind. -/
inductive Arrangement (name : CallName) where
  /-- The call fails. -/
  | fail (failure : StorageFailure)
  /-- The call gets a reply without reaching the store. -/
  | reply (value : name.Reply)
  /-- The call is carried out twice; the second answer counts if the first was no failure. -/
  | twice
  /-- The reception of the product is closed before the call. -/
  | closeFirst

/-- An arrangement with the kind of call it is for. -/
abbrev Arranged := (name : CallName) × Arrangement name

/-- **A store with arrangements**, and the calls so far, the last one first. -/
structure Rehearsed (σ : Type) where
  store : σ
  arranged : List Arranged
  journal : List CallName

namespace Rehearsed

variable {σ : Type} [Storage σ]

/-- A store without arrangements. -/
def plain (store : σ) : Rehearsed σ := ⟨store, [], []⟩

/-- The first arrangement for a kind of call, and the others. -/
def take? (name : CallName) : List Arranged → Option (Arrangement name × List Arranged)
  | [] => none
  | a :: as =>
    if h : a.1 = name then some (h ▸ a.2, as)
    else (take? name as).map fun (found, rest) => (found, a :: rest)

/-- The answer of the store itself. -/
def reach (c : Call) (s : Rehearsed σ) : Answer c × Rehearsed σ :=
  let (answer, store) := Storage.answer c s.store
  (answer, { s with store })

/-- The store after the reception of a product was closed. -/
def closeReceptionOf (c : Call) (s : Rehearsed σ) : Rehearsed σ :=
  match c with
  | .addProduct p => (s.reach (.moveReception p.reception Seed.inProgressId Seed.closedId)).2
  | _ => s

/-- An arrangement carried out. -/
def perform (c : Call) (s : Rehearsed σ) : Arrangement c.name → Answer c × Rehearsed σ
  | .fail failure => (.error failure, s)
  | .reply value => (.ok value, s)
  | .twice =>
    match s.reach c with
    | (.ok _, s) => s.reach c
    | (.error e, s) => (.error e, s)
  | .closeFirst => (s.closeReceptionOf c).reach c

/-- **The answer to a call**, as it is arranged. -/
def answer (c : Call) (s : Rehearsed σ) : Answer c × Rehearsed σ :=
  let s := { s with journal := c.name :: s.journal }
  match take? c.name s.arranged with
  | some (found, rest) => perform c { s with arranged := rest } found
  | none => s.reach c

instance : Storage (Rehearsed σ) := ⟨answer⟩

/-- The store with one more arrangement. -/
def arrange (s : Rehearsed σ) (a : Arranged) : Rehearsed σ :=
  { s with arranged := s.arranged ++ [a] }

end Rehearsed
end PickupLedger
