import PickupLedger.Proofs.Moments

/-!
# Operations come to a result

No operation waits for another: its calls are answered at once, and there are at most four of
them (`Request.calls`).  A program that makes at most so many calls, whatever it is answered,
is `Program.Within` that number, and each of its own steps takes one off
(`Program.Within.step`); what the others do in between takes off nothing, but adds nothing
either.  So an operation that has been given as many steps as it can make calls has a result
(`SideBySide.settled_moment`).
-/

namespace PickupLedger
open Operation Service

/-- **A program makes at most so many calls**, whatever it is answered. -/
def Program.Within {α : Type} : Program α → Nat → Prop
  | .done _, _ => True
  | .count _ next, n => next.Within n
  | .ask _ next, n => 0 < n ∧ ∀ answer, (next answer).Within (n - 1)

namespace Program
variable {α : Type} {p : Program α} {n : Nat}

/-- A step of a program is one of its calls. -/
theorem Within.step {σ : Type} [Storage σ] (h : p.Within n) (w : World σ) :
    (p.step w).1.Within (n - 1) := by
  induction p generalizing w with
  | done a => trivial
  | count counter next ih => exact ih h _
  | ask c next ih => exact h.2 _

theorem Within.settled (h : p.Within 0) : p.settled? ≠ none := by
  induction p with
  | done a => exact Option.some_ne_none a
  | count counter next ih => exact ih h
  | ask c next ih => exact absurd h.1 (Nat.lt_irrefl 0)

end Program

namespace Operation
variable {α β : Type} {n : Nat}

theorem within_call (step : String) {c : Call} {f : c.Reply → Operation β}
    (h : ∀ reply, (f reply).program.Within n) : (call step c >>= f).program.Within (n + 1) := by
  rw [program_call_bind]
  refine ⟨Nat.succ_pos n, fun answer => ?_⟩
  cases answer with
  | ok reply => exact h reply
  | error e => trivial

theorem within_insert (step : String) (taken : Failure) {c : Call} {f : c.Reply → Operation β}
    (h : ∀ reply, (f reply).program.Within n) :
    (insert step taken c >>= f).program.Within (n + 1) := by
  rw [program_insert_bind]
  refine ⟨Nat.succ_pos n, fun answer => ?_⟩
  cases answer with
  | ok reply => exact h reply
  | error e => trivial

theorem within_require (missing : Failure) {found : Option α} {f : α → Operation β}
    (h : ∀ a, (f a).program.Within n) : (require missing found >>= f).program.Within n := by
  cases found with
  | none => trivial
  | some a => exact h a

end Operation

namespace Request

/-- **The most calls that an operation makes.** -/
def calls : Request → Nat
  | .create .. => 2
  | .get _ => 1
  | .openAt .. => 4
  | .closeAt _ => 3
  | .addTo .. => 3
  | .removeFrom _ => 4

theorem within_openAt (stamp : Stamp) (p : Uuid) : (openAt stamp p).program.Within 4 := by
  simp only [program, operation, openReception, resolveStatus, bind_assoc]
  refine within_call _ fun _ => within_require _ fun _ => within_call _ fun active => ?_
  cases active with
  | some r => trivial
  | none =>
    simp only [Option.isSome_none, Bool.false_eq_true, if_false, bind_assoc]
    exact within_call _ fun _ => within_require _ fun _ => within_insert _ _ fun _ => trivial

theorem within_removeFrom (p : Uuid) : (removeFrom p).program.Within 4 := by
  simp only [program, operation, removeLastProduct, activeReception, bind_assoc]
  refine within_call _ fun _ => within_require _ fun _ => within_call _ fun _ =>
    within_require _ fun _ => within_call _ fun _ => within_require _ fun _ =>
      within_call _ fun deleted => ?_
  cases deleted <;> trivial

/-- **Every operation makes its calls and no more.** -/
theorem within (q : Request) : q.program.Within q.calls := by
  cases q with
  | create stamp id cityName registered =>
    simp only [program, operation, createPickupPoint, bind_assoc]
    exact within_call _ fun _ => within_require _ fun _ => within_insert _ _ fun _ => trivial
  | get id =>
    simp only [program, operation, getPickupPoint, bind_assoc]
    exact within_call _ fun _ => within_require _ fun _ => trivial
  | openAt stamp p => exact within_openAt stamp p
  | closeAt p =>
    simp only [program, operation, closeReception, activeReception, resolveStatus, bind_assoc]
    exact within_call _ fun _ => within_require _ fun _ => within_call _ fun _ =>
      within_require _ fun _ => within_call _ fun _ => within_require _ fun _ => trivial
  | addTo stamp p typeName =>
    simp only [program, operation, addProduct, activeReception, bind_assoc]
    exact within_call _ fun _ => within_require _ fun _ => within_call _ fun _ =>
      within_require _ fun _ => within_call _ fun _ => within_require _ fun _ => trivial
  | removeFrom p => exact within_removeFrom p

end Request

namespace SideBySide
variable {σ : Type} [Storage σ] {y : SideBySide σ} {i n : Nat} {t : Task}

/-- After a step the operation that took it has a call less to make, and the others as many. -/
theorem tick_within (ht : y.tasks[i]? = some t) (h : t.program.Within n) (j : Nat) :
    ∃ t', (y.tick j).tasks[i]? = some t' ∧ t'.program.Within (n - if j = i then 1 else 0) := by
  cases hj : y.tasks[j]? with
  | none =>
    rw [tick, hj]
    refine ⟨t, ht, ?_⟩
    rw [if_neg fun heq => by rw [heq, ht] at hj; cases hj]
    exact h
  | some u =>
    rw [tick_of_some hj, getElem?_set_task hj]
    by_cases heq : j = i
    · rw [if_pos heq, if_pos heq]
      rw [heq, ht] at hj
      rw [← Option.some.inj hj]
      exact ⟨_, rfl, h.step _⟩
    · rw [if_neg heq, if_neg heq]
      exact ⟨t, ht, h⟩

/-- After some steps it has as many calls less to make as were its own. -/
theorem run_within (schedule : List Nat) (ht : y.tasks[i]? = some t) (h : t.program.Within n) :
    ∃ t', (y.run schedule).tasks[i]? = some t' ∧ t'.program.Within (n - schedule.count i) := by
  induction schedule generalizing y t n with
  | nil => exact ⟨t, ht, h⟩
  | cons j js ih =>
    obtain ⟨u, hu, hwithin⟩ := tick_within ht h j
    obtain ⟨t', ht', hrest⟩ := ih hu hwithin
    have hcount : (j :: js).count i = (if j = i then 1 else 0) + js.count i := by
      rw [List.count_cons, Nat.add_comm]
      simp only [beq_iff_eq]
    refine ⟨t', ht', ?_⟩
    rw [hcount, ← Nat.sub_sub]
    exact hrest

omit [Storage σ] in
theorem start_task? (store : σ) {requests : List Request} {q : Request}
    (hq : requests[i]? = some q) : (start store requests).tasks[i]? = some (.ofRequest q) := by
  simp only [start, List.getElem?_map, hq, Option.map_some]

/-- **An operation that has taken its steps has a result.** -/
theorem settled_moment {schedule : List Nat} {m : Nat} {q : Request}
    (hstart : y.tasks[i]? = some (.ofRequest q)) (hcount : q.calls ≤ (schedule.take m).count i) :
    (y.moment schedule m).result? i ≠ none := by
  obtain ⟨t, ht, hwithin⟩ := run_within (schedule.take m) hstart q.within
  rw [Nat.sub_eq_zero_of_le hcount] at hwithin
  rw [moment, result?, ht]
  exact hwithin.settled

end SideBySide
end PickupLedger
