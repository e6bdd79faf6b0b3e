import PickupLedger.Proofs.ClosedReceptions
import PickupLedger.Proofs.Conservation
import PickupLedger.Proofs.Courses

/-!
# Failures have reasons

Of operations that run side by side each has its course (`SideBySide.course`): the accounts
at all moments of the schedule, its own calls, and the removals of the others.  From its
first call on an operation is at a fair program, whatever the others do in between
(`SideBySide.Regular.fair_moment`); so at its last call it can only fail for a reason that
lies between the two.
-/

namespace PickupLedger

/-! ## One step -/

namespace Program
variable {e : Course} {first n : Nat} {q : Request} {p : Program Verdict}

/-- A program that has a call left may wait with it. -/
theorem Fair.later (h : p.Fair e first q n) (hp : p.settled? = none) {m : Nat} (hle : n ≤ m) :
    p.Fair e first q m := by
  induction p with
  | done v => cases hp
  | count counter next ih => exact ih h hp
  | ask c next ih => exact fun k hk => h k (Nat.le_trans hle hk)

/-- A program that fails in the end has a reason. -/
theorem Fair.reason (h : p.Fair e first q n) {failure : Failure}
    (hp : p.settled? = some (.error failure)) : Reason e first n q failure := by
  induction p with
  | done v => cases hp; exact h
  | count counter next ih => exact ih h hp
  | ask c next ih => cases hp

/-- **A step of a fair program** is a call that the books answer. -/
theorem Fair.step {σ : Type} [Storage σ] [Bookkeeping σ] {w : World σ} (h : p.Fair e first q n)
    (hp : p.settled? = none) (hs : Bookkeeping.Sound w.store)
    (hw : Bookkeeping.books w.store = e.books n)
    (hcall : ∀ c, p.call? = some c → e.asks n c ∧ (e.books n).Proper c) :
    (p.step w).1.Fair e first q n := by
  induction p generalizing w with
  | done v => cases hp
  | count counter next ih => exact ih h hp hs hw hcall
  | ask c next ih =>
    obtain ⟨hasks, hproper⟩ := hcall c rfl
    rw [← hw] at hproper
    have hstep := Bookkeeping.step_answer hs hproper
    rw [hw] at hstep
    exact h n (Nat.le_refl n) hasks _ _ hstep

end Program

namespace SideBySide

/-- An operation that takes a step takes a first one. -/
theorem exists_startsAt {schedule : List Nat} {m i : Nat} (h : schedule[m]? = some i) :
    ∃ n, n ≤ m ∧ StartsAt schedule n i := by
  have hend : ¬ i ∉ schedule.take (m + 1) := by
    rw [List.take_add_one, h]
    simp
  obtain ⟨n, -, hlt, hnot, hmem⟩ := exists_last
    (p := fun n => i ∉ schedule.take n) (Nat.zero_le _) (by simp) hend
  refine ⟨n, Nat.le_of_lt_succ hlt, ?_, hnot⟩
  rw [Classical.not_not, List.take_add_one, List.mem_append] at hmem
  exact Option.mem_toList.mp (hmem.resolve_left hnot)

variable {σ : Type} [Storage σ] {y : SideBySide σ}

theorem tick_task_of_ne {i j : Nat} (hne : i ≠ j) : (y.tick i).tasks[j]? = y.tasks[j]? := by
  cases hi : y.tasks[i]? with
  | none => rw [tick, hi]
  | some t => rw [tick_of_some hi, getElem?_set_task hi, if_neg hne]

/-- An operation that has not taken a step is as it was. -/
theorem run_task_of_not_mem {schedule : List Nat} {i : Nat} (h : i ∉ schedule) :
    (y.run schedule).tasks[i]? = y.tasks[i]? := by
  induction schedule generalizing y with
  | nil => rfl
  | cons j js ih =>
    rw [List.mem_cons, not_or] at h
    exact (ih h.2).trans (tick_task_of_ne (Ne.symm h.1))

variable [Bookkeeping σ]

/-- **The course of an operation** in a schedule. -/
def course (y : SideBySide σ) (schedule : List Nat) (i : Nat) : Course where
  account n := (y.moment schedule n).account
  asks n c := schedule[n]? = some i ∧
    ∃ t, (y.moment schedule n).tasks[i]? = some t ∧ t.program.call? = some c
  takes n x := ∃ i' p, i' ≠ i ∧ y.request? i' = some (.removeFrom p) ∧ y.DeletesAt schedule n i' x

/-- Who makes a call has taken nothing away before: a removal would have been its last call. -/
theorem Regular.course_regular (hy : y.Regular) (schedule : List Nat) (i : Nat) :
    (y.course schedule i).Regular where
  regular n := (hy.moment schedule n).account
  next := hy.moment_next schedule
  taken {n m x} hle hasks hhas hgone := by
    obtain ⟨-, t, ht, hcall⟩ := hasks
    have hnot : ¬ (y.moment schedule m).books.Has x := fun hhas => by
      cases hgone.symm.trans hhas
    obtain ⟨k, hk, hlt, hbefore, hafter⟩ := exists_last
      (p := fun k => (y.moment schedule k).books.Has x) hle hhas hnot
    cases hstep : schedule[k]? with
    | none =>
      rw [moment_succ_of_none hstep] at hafter
      exact absurd hbefore hafter
    | some i' =>
      rw [moment_succ hstep] at hafter
      have hdeletes : y.DeletesAt schedule k i' x := ⟨hstep, hbefore, hafter⟩
      obtain ⟨hsettles, p, hrequest⟩ := hy.deletesAt_iff.mp hdeletes
      refine ⟨k, hk, hlt, i', p, fun heq => ?_, hrequest, hdeletes⟩
      have hresult := moment_result? hlt hsettles.after
      rw [heq, result?, ht, Option.bind_some,
        Program.settled?_eq_none_iff.mpr ⟨_, hcall⟩] at hresult
      cases hresult

/-! ## From the first call on -/

section Moments
variable {schedule : List Nat} {first i : Nat} {q : Request}
include first

/-- A fair program is fair after its next step, too. -/
theorem Regular.fair_tick (hy : y.Regular) {m : Nat} (hstep : schedule[m]? = some i) {t : Task}
    (ht : (y.moment schedule m).tasks[i]? = some t) (hopen : t.program.settled? = none)
    (hfair : t.program.Fair (y.course schedule i) first q m) :
    (t.program.step (y.moment schedule m).world).1.Fair (y.course schedule i) first q m := by
  have hnow := hy.moment schedule m
  refine hfair.step hopen hnow.sound rfl fun c hc => ⟨⟨hstep, t, ht, hc⟩, ?_⟩
  exact (hnow.follows ht hopen).proper hc hnow.account (hnow.unissued ht hopen)

/-- **From its first call to its last an operation is at a fair program.** -/
theorem Regular.fair_moment (hy : y.Regular) (hstart : y.tasks[i]? = some (.ofRequest q))
    (hfirst : StartsAt schedule first i) {m : Nat} (hle : first ≤ m) {t : Task}
    (ht : (y.moment schedule m).tasks[i]? = some t) (hopen : t.program.settled? = none) :
    t.program.Fair (y.course schedule i) first q m := by
  induction hle generalizing t with
  | refl =>
    rw [SideBySide.moment, run_task_of_not_mem hfirst.2, hstart] at ht
    rw [← Option.some.inj ht]
    exact q.fair (hy.course_regular schedule i) first
  | @step m hle ih =>
    cases hstep : schedule[m]? with
    | none =>
      rw [moment_succ_of_none hstep] at ht
      exact (ih ht hopen).later hopen (Nat.le_succ m)
    | some j =>
      rw [moment_succ hstep] at ht
      by_cases hj : j = i
      · -- The step is one of the operation itself.
        rw [hj] at ht hstep
        cases hi : (y.moment schedule m).tasks[i]? with
        | none =>
          rw [SideBySide.tick, hi, hi] at ht
          cases ht
        | some u =>
          rw [tick_of_some hi, getElem?_set_task hi, if_pos rfl] at ht
          have hbefore : u.program.settled? = none := by
            cases hu : u.program.settled? with
            | none => rfl
            | some v =>
              have hsettled := (Program.step_settled (w := (y.moment schedule m).world) hu).1
              rw [← Option.some.inj ht] at hopen
              cases hopen.symm.trans hsettled
          have hfair := hy.fair_tick hstep hi hbefore (ih hi hbefore)
          rw [← Option.some.inj ht] at hopen ⊢
          exact hfair.later hopen (Nat.le_succ m)
      · rw [tick_task_of_ne hj] at ht
        exact (ih ht hopen).later hopen (Nat.le_succ m)

end Moments

/-- **An operation that fails has a reason** between its first call and its last. -/
theorem Regular.reason (hy : y.Regular) {schedule : List Nat} {i : Nat} {q : Request}
    (hstart : y.tasks[i]? = some (.ofRequest q)) {first last : Nat}
    (hfirst : StartsAt schedule first i) (hle : first ≤ last) {failure : Failure}
    (hlast : y.SettlesAt schedule last i (.error failure)) :
    Reason (y.course schedule i) first last q failure := by
  obtain ⟨hstep, hbefore, hafter⟩ := hlast
  rw [moment_succ hstep] at hafter
  cases hi : (y.moment schedule last).tasks[i]? with
  | none =>
    rw [SideBySide.tick, hi, result?, hi] at hafter
    cases hafter
  | some t =>
    have hopen : t.program.settled? = none := by
      rw [result?, hi] at hbefore
      exact hbefore
    have hfair := hy.fair_tick hstep hi hopen (hy.fair_moment hstart hfirst hle hi hopen)
    rw [tick_of_some hi, result?, getElem?_set_task hi, if_pos rfl] at hafter
    exact hfair.reason hafter

end SideBySide

/-! ## On a store -/

open SideBySide in
/-- **Failures have reasons.**  Whatever operations run side by side on a new store, and in
whatever order they take their steps: what an operation is refused for was so at a moment
between its first call and its last, and no operation fails internally. -/
theorem failures_have_reasons {store : Backend} (hnew : store.IsNew) {requests : List Request}
    (hids : (requests.filterMap Request.fresh?).Nodup) (schedule : List Nat) {i : Nat}
    {failure : Failure}
    (hresult : ((SideBySide.start store requests).run schedule).result? i =
      some (.error failure)) :
    let y := SideBySide.start store requests
    failure.kind ≠ .internal ∧ ∃ q first last, requests[i]? = some q ∧
      StartsAt schedule first i ∧ y.SettlesAt schedule last i (.error failure) ∧ first ≤ last ∧
        Reason (y.course schedule i) first last q failure := by
  intro y
  have hy : y.Regular := start_regular hnew.sound hnew.books hids
  obtain ⟨last, hlast⟩ := exists_settlesAt (start_result? store requests i) hresult
  obtain ⟨first, hle, hfirst⟩ := exists_startsAt hlast.step
  obtain ⟨q, hq, -⟩ := hy.settlesAt_decides hlast
  rw [start_request?] at hq
  have hstart : y.tasks[i]? = some (.ofRequest q) := by
    simp only [y, start, List.getElem?_map, hq, Option.map_some]
  have hreason := hy.reason hstart hfirst hle hlast
  exact ⟨hreason.kind_ne_internal, q, first, last, hq, hfirst, hlast, hle, hreason⟩

/-- A reception is closed and another one opened while a second closing is under way. -/
def lateClosing : List Request :=
  [.create ⟨.epoch, .generated 0⟩ (.ofNat 1) "Москва" none,
    .openAt ⟨.epoch, .generated 1⟩ (.ofNat 1), .closeAt (.ofNat 1), .closeAt (.ofNat 1),
    .openAt ⟨.epoch, .generated 4⟩ (.ofNat 1)]

/-- The second closing has its last call left when the other reception has been opened. -/
def lateClosingSchedule : List Nat := [0, 0, 1, 1, 1, 1, 2, 2, 3, 3, 3, 4, 4, 4, 4, 2]

open SideBySide in
/-- **A closing that comes late is refused**, although there is a reception in progress when
it is: there was none for a while. -/
theorem late_closing_has_reason :
    let y := SideBySide.start (Backend.memory .new) lateClosing
    let r := Reception.begun (.generated 4) (.ofNat 1) .epoch
    (y.moment lateClosingSchedule 15).books.InProgress r ∧
      ∃ q first last, lateClosing[2]? = some q ∧ StartsAt lateClosingSchedule first 2 ∧
        y.SettlesAt lateClosingSchedule last 2 (.error (.noActiveReception (.ofNat 1))) ∧
        first ≤ last ∧
        Reason (y.course lateClosingSchedule 2) first last q (.noActiveReception (.ofNat 1)) := by
  have hids : (lateClosing.filterMap Request.fresh?).Nodup := by decide
  have hresult : ((SideBySide.start (Backend.memory .new) lateClosing).run
      lateClosingSchedule).result? 2 = some (.error (.noActiveReception (.ofNat 1))) := rfl
  obtain ⟨-, hreason⟩ := failures_have_reasons .memory hids lateClosingSchedule hresult
  exact ⟨by decide, hreason⟩

end PickupLedger
