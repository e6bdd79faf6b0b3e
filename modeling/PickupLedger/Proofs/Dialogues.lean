import PickupLedger.Proofs.Interchange

/-!
# Dialogues

A program and a store have a dialogue: the calls that the program makes, each with the answer
that it is given.  `Program.Dialogue` says which dialogues a program may have, and with which
result, whatever the store is like and whatever it answers; what holds of all dialogues holds
over every store, a failing or lying one included.

The calls that are made in a run over a store are such a dialogue (`Program.dialogue_run`), and
the answers in it are those that the store gives one after the other (`Gives`).
-/

namespace PickupLedger

/-- **A call with its answer.** -/
structure Exchange where
  call : Call
  answer : Answer call

/-- **The dialogues that a program may have**, with their results. -/
inductive Program.Dialogue {α : Type} : Program α → List Exchange → α → Prop where
  | done (a : α) : Dialogue (.done a) [] a
  | count {counter : Counter} {next : Program α} {d : List Exchange} {a : α}
      (h : Dialogue next d a) : Dialogue (.count counter next) d a
  | ask {c : Call} {next : Answer c → Program α} (answer : Answer c) {d : List Exchange} {a : α}
      (h : Dialogue (next answer) d a) : Dialogue (.ask c next) (⟨c, answer⟩ :: d) a

/-- **The answers that a store gives** one after the other, and its state after them. -/
def Gives {σ : Type} [Storage σ] : σ → List Exchange → σ → Prop
  | s, [], s' => s' = s
  | s, e :: es, s' =>
    e.answer = (Storage.answer e.call s).1 ∧ Gives (Storage.answer e.call s).2 es s'

namespace Program
variable {α β : Type}

/-- A program that makes no further call has nothing left to say. -/
theorem Dialogue.eq_of_settled {p : Program α} {d : List Exchange} {a b : α}
    (h : p.Dialogue d a) (hp : p.settled? = some b) : d = [] ∧ a = b := by
  induction h with
  | done a => exact ⟨rfl, Option.some.inj hp⟩
  | count h ih => exact ih hp
  | ask answer h ih => cases hp

/-- The answers decide the result. -/
theorem Dialogue.unique {p : Program α} {d : List Exchange} {a b : α} (h : p.Dialogue d a)
    (h' : p.Dialogue d b) : a = b := by
  induction h with
  | done a => cases h'; rfl
  | count h ih => cases h' with | count h' => exact ih h'
  | ask answer h ih => cases h' with | ask _ h' => exact ih h'

variable {σ : Type} [Storage σ]

/-- **The exchanges of a run** over a store. -/
def exchanges : Program α → World σ → List Exchange
  | .done _, _ => []
  | .count c next, w => next.exchanges { w with counters := w.counters.add c }
  | .ask c next, w =>
    let (answer, store) := Storage.answer c w.store
    ⟨c, answer⟩ :: (next answer).exchanges { w with store }

/-- **A run is a dialogue.** -/
theorem dialogue_run (p : Program α) (w : World σ) : p.Dialogue (p.exchanges w) (p.run w).1 := by
  induction p generalizing w with
  | done a => exact .done a
  | count counter next ih => exact .count (ih _)
  | ask c next ih => exact .ask _ (ih _ _)

/-- Its answers are those of the store. -/
theorem gives_run (p : Program α) (w : World σ) :
    Gives w.store (p.exchanges w) (p.run w).2.store := by
  induction p generalizing w with
  | done a => exact rfl
  | count counter next ih => exact ih { w with counters := w.counters.add counter }
  | ask c next ih => exact ⟨rfl, ih _ { w with store := (Storage.answer c w.store).2 }⟩

theorem run_bind (p : Program α) (f : α → Program β) (w : World σ) :
    (p >>= f).run w = (f (p.run w).1).run (p.run w).2 := by
  induction p generalizing w with
  | done a => rfl
  | count counter next ih => exact ih _
  | ask c next ih => exact ih _ _

theorem exchanges_bind (p : Program α) (f : α → Program β) (w : World σ) :
    (p >>= f).exchanges w = p.exchanges w ++ (f (p.run w).1).exchanges (p.run w).2 := by
  induction p generalizing w with
  | done a => rfl
  | count counter next ih => exact ih _
  | ask c next ih => exact congrArg _ (ih _ _)

end Program

namespace Command

/-- **The dialogues that an operation of the service may have**, with its reports. -/
def Dialogue : Command → List Exchange → Report → Prop
  | .request q, d, .verdict v => q.program.Dialogue d v
  | .listAll, d, .points answer => Service.listPickupPoints.program.Dialogue d answer
  | .overview window page, d, .overview answer =>
    (Service.overview window page).program.Dialogue d answer
  | _, _, _ => False

/-- A dialogue of an operation is one of its program, with a report of its own kind. -/
theorem Dialogue.of_program {c : Command} {d : List Exchange} {report : Report}
    (h : c.Dialogue d report) :
    (∃ q v, c = .request q ∧ report = .verdict v ∧ q.program.Dialogue d v) ∨
    (∃ answer, c = .listAll ∧ report = .points answer ∧
      Service.listPickupPoints.program.Dialogue d answer) ∨
    (∃ window page answer, c = .overview window page ∧ report = .overview answer ∧
      (Service.overview window page).program.Dialogue d answer) := by
  cases c with
  | request q =>
    cases report with
    | verdict v => exact .inl ⟨q, v, rfl, rfl, h⟩
    | _ => exact h.elim
  | listAll =>
    cases report with
    | points answer => exact .inr (.inl ⟨answer, rfl, rfl, h⟩)
    | _ => exact h.elim
  | overview window page =>
    cases report with
    | overview answer => exact .inr (.inr ⟨window, page, answer, rfl, rfl, h⟩)
    | _ => exact h.elim

theorem Dialogue.unique {c : Command} {d : List Exchange} {report report' : Report}
    (h : c.Dialogue d report) (h' : c.Dialogue d report') : report = report' := by
  obtain ⟨q, v, rfl, rfl, hd⟩ | ⟨answer, rfl, rfl, hd⟩ | ⟨window, page, answer, rfl, rfl, hd⟩ :=
    h.of_program
  all_goals
    obtain ⟨_, _, hc, rfl, hd'⟩ | ⟨_, hc, rfl, hd'⟩ | ⟨_, _, _, hc, rfl, hd'⟩ := h'.of_program <;>
      cases hc
    exact congrArg _ (Program.Dialogue.unique hd hd')

variable {σ : Type} [Storage σ]

/-- The exchanges of an operation over a store. -/
def exchanges : Command → Program.World σ → List Exchange
  | .request q, w => q.program.exchanges w
  | .listAll, w => Service.listPickupPoints.program.exchanges w
  | .overview window page, w => (Service.overview window page).program.exchanges w

theorem dialogue_run (c : Command) (w : Program.World σ) :
    c.Dialogue (c.exchanges w) (c.run w).1 := by
  cases c with
  | request q => exact q.program.dialogue_run w
  | listAll => exact Program.dialogue_run _ w
  | overview window page => exact Program.dialogue_run _ w

theorem gives_run (c : Command) (w : Program.World σ) :
    Gives w.store (c.exchanges w) (c.run w).2.store := by
  cases c with
  | request q => exact q.program.gives_run w
  | listAll => exact Program.gives_run _ w
  | overview window page => exact Program.gives_run _ w

end Command
end PickupLedger
