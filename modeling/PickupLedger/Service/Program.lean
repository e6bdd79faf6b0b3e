import PickupLedger.Store.Call

/-!
# Programs over a store

An operation of the service is a `Program`: it asks the store one call at a time,
goes on with the answer, and may count what it has achieved.  Nothing else happens
between two calls, so a call is the step at which programs that run side by side may
alternate (`Program.step`).  `Program.run` takes all steps of one program in a row;
`Program.rounds` lets several programs take a step each in turn.

An `Operation` is a program that may end in a failure.
-/

namespace PickupLedger

/-- What the service counts. -/
inductive Counter where
  | pointsCreated
  | receptionsCreated
  | receptionsClosed
  | productsAdded
  | productsRemoved
  deriving DecidableEq, Repr

/-- **The counts so far.** -/
structure Counters where
  pointsCreated : Nat
  receptionsCreated : Nat
  receptionsClosed : Nat
  productsAdded : Nat
  productsRemoved : Nat
  deriving DecidableEq, Repr

namespace Counters

/-- Nothing counted. -/
def zero : Counters := ⟨0, 0, 0, 0, 0⟩

/-- One more of something. -/
def add (c : Counters) : Counter → Counters
  | .pointsCreated => { c with pointsCreated := c.pointsCreated + 1 }
  | .receptionsCreated => { c with receptionsCreated := c.receptionsCreated + 1 }
  | .receptionsClosed => { c with receptionsClosed := c.receptionsClosed + 1 }
  | .productsAdded => { c with productsAdded := c.productsAdded + 1 }
  | .productsRemoved => { c with productsRemoved := c.productsRemoved + 1 }

/-- How much of something has been counted. -/
def get (c : Counters) : Counter → Nat
  | .pointsCreated => c.pointsCreated
  | .receptionsCreated => c.receptionsCreated
  | .receptionsClosed => c.receptionsClosed
  | .productsAdded => c.productsAdded
  | .productsRemoved => c.productsRemoved

theorem get_add (c : Counters) (x y : Counter) :
    (c.add x).get y = c.get y + (if x = y then 1 else 0) := by
  cases x <;> cases y <;> simp [add, get]

end Counters

/-- **A program over a store.** -/
inductive Program (α : Type) where
  /-- The end, with its result. -/
  | done (result : α)
  /-- Counts something and goes on. -/
  | count (counter : Counter) (next : Program α)
  /-- Asks the store and goes on with its answer. -/
  | ask (call : Call) (next : Answer call → Program α)

namespace Program

variable {α β : Type}

/-- A program followed by another that takes its result. -/
def andThen : Program α → (α → Program β) → Program β
  | .done a, f => f a
  | .count c next, f => .count c (next.andThen f)
  | .ask c next, f => .ask c fun a => (next a).andThen f

instance : Monad Program where
  pure := .done
  bind := andThen

@[simp] theorem pure_eq (a : α) : (pure a : Program α) = .done a := rfl

@[simp] theorem done_bind (a : α) (f : α → Program β) : (Program.done a >>= f) = f a := rfl

@[simp] theorem count_bind (c : Counter) (p : Program α) (f : α → Program β) :
    (Program.count c p >>= f) = .count c (p >>= f) := rfl

@[simp] theorem ask_bind (c : Call) (k : Answer c → Program α) (f : α → Program β) :
    (Program.ask c k >>= f) = .ask c fun a => k a >>= f := rfl

/-! ## Running -/

/-- A store with the counts so far. -/
structure World (σ : Type) where
  store : σ
  counters : Counters

/-- **One step**: what is counted at once, then one call. -/
def step {σ : Type} [Storage σ] : Program α → World σ → Program α × World σ
  | .done a, w => (.done a, w)
  | .count c next, w => next.step { w with counters := w.counters.add c }
  | .ask c next, w =>
    let (answer, store) := Storage.answer c w.store
    (next answer, { w with store })

/-- **A program run to its end**, with no other in between. -/
def run {σ : Type} [Storage σ] : Program α → World σ → α × World σ
  | .done a, w => (a, w)
  | .count c next, w => next.run { w with counters := w.counters.add c }
  | .ask c next, w =>
    let (answer, store) := Storage.answer c w.store
    (next answer).run { w with store }

/-! ## Side by side -/

/-- The result of a program that is at its end. -/
def result? : Program α → Option α
  | .done a => some a
  | _ => none

/-- **One round**: programs that run side by side take a step each, in their order. -/
def round {σ : Type} [Storage σ] : List (Program α) → World σ → List (Program α) × World σ
  | [], w => ([], w)
  | p :: ps, w =>
    let (p, w) := p.step w
    let (ps, w) := round ps w
    (p :: ps, w)

/-- **So many rounds** of programs that run side by side. -/
def rounds {σ : Type} [Storage σ] : Nat → List (Program α) → World σ → List (Program α) × World σ
  | 0, ps, w => (ps, w)
  | n + 1, ps, w =>
    let (ps, w) := round ps w
    rounds n ps w

end Program

/-- **A program that may end in a failure.** -/
abbrev Operation := ExceptT Failure Program

namespace Operation

variable {α : Type}

/-- The program of an operation. -/
def program (op : Operation α) : Program (Except Failure α) := op

/-- The end of an operation in a failure. -/
def fail (failure : Failure) : Operation α := Program.done (.error failure)

/-- What a step makes of the answer to its call. -/
def reading {ρ : Type} (blame : StorageFailure → Failure) : Except StorageFailure ρ → Except Failure ρ
  | .ok reply => .ok reply
  | .error e => .error (blame e)

/-- **A call made at a named step**: a storage failure ends the operation there. -/
def call (step : String) (c : Call) : Operation c.Reply :=
  Program.ask c fun answer => .done (reading (.internal step) answer)

/-- What an insert at a named step makes of a failure: a duplicate has a meaning of its own. -/
def blame (step : String) (taken : Failure) (e : StorageFailure) : Failure :=
  if e.isDuplicate then taken else .internal step e

/-- A call at a named step that adds a record; a duplicate ends the operation in `taken`. -/
def insert (step : String) (taken : Failure) (c : Call) : Operation c.Reply :=
  Program.ask c fun answer => .done (reading (blame step taken) answer)

/-- The value of a lookup; without one the operation ends in a failure. -/
def require (missing : Failure) : Option α → Operation α
  | some a => pure a
  | none => fail missing

/-- Counts an achievement. -/
def count (counter : Counter) : Operation Unit := Program.count counter (.done (.ok ()))

end Operation

/-- **What an operation is given** from outside: the time and an identifier that no
record has. -/
structure Stamp where
  now : Instant
  fresh : Uuid
  deriving DecidableEq, Repr

end PickupLedger
