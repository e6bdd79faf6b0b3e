import PickupLedger.Service.Program

/-!
# Programs, call by call

An operation is written in `do` notation and proved about as the tree of calls that it
is.  The lemmas here turn the one into the other from the front: a call followed by the
rest is an `ask` whose continuation looks at the answer (`program_call_bind`,
`program_insert_bind`), and a check that passes leaves no trace in the tree
(`program_require_some`).

The result of a program is **settled** once it makes no further call
(`Program.settled?`): whatever it still counts, no other program can change it.
-/

namespace PickupLedger

namespace Program
variable {α β γ : Type}

theorem andThen_done (p : Program α) : p.andThen .done = p := by
  induction p with
  | done a => rfl
  | count c next ih => rw [andThen, ih]
  | ask c next ih =>
    rw [andThen]
    exact congrArg _ (funext ih)

theorem andThen_assoc (p : Program α) (f : α → Program β) (g : β → Program γ) :
    (p.andThen f).andThen g = p.andThen fun a => (f a).andThen g := by
  induction p with
  | done a => rfl
  | count c next ih => simp only [andThen, ih]
  | ask c next ih =>
    simp only [andThen]
    exact congrArg _ (funext ih)

instance : LawfulMonad Program :=
  LawfulMonad.mk' Program andThen_done (fun _ _ => rfl) andThen_assoc

/-- **The result of a program that makes no further call.** -/
def settled? : Program α → Option α
  | .done a => some a
  | .count _ next => next.settled?
  | .ask _ _ => none

/-- The call that a program makes next. -/
def call? : Program α → Option Call
  | .done _ => none
  | .count _ next => next.call?
  | .ask c _ => some c

end Program

namespace Operation
variable {α β : Type}

theorem program_call_bind (step : String) (c : Call) (f : c.Reply → Operation β) :
    (call step c >>= f).program = .ask c fun
      | .ok reply => (f reply).program
      | .error e => .done (.error (.internal step e)) := by
  refine congrArg (Program.ask c) (funext fun a => ?_)
  cases a <;> rfl

theorem program_insert_bind (step : String) (taken : Failure) (c : Call)
    (f : c.Reply → Operation β) :
    (insert step taken c >>= f).program = .ask c fun
      | .ok reply => (f reply).program
      | .error e => .done (.error (blame step taken e)) := by
  refine congrArg (Program.ask c) (funext fun a => ?_)
  cases a <;> rfl

theorem program_require_some (missing : Failure) (a : α) (f : α → Operation β) :
    (require missing (some a) >>= f).program = (f a).program := rfl

end Operation
end PickupLedger
