import PickupLedger.Proofs.Interleaving

/-!
# Moments of a run

Operations that run side by side go through one moment after another: at moment `n` the
first `n` steps of the schedule have been taken (`SideBySide.moment`).  An operation is
under way from the moment of its first call (`SideBySide.StartsAt`) to the moment of its
last one, the step that settles its result (`SideBySide.SettlesAt`).

That step is the only one at which an operation changes the books, and there is exactly one
for each operation that comes to a result: what the books gain or lose is told by the
verdicts (`Regular.settlesAt_decides`, `Regular.settlesAt_of_books`).
-/

namespace PickupLedger

/-- What is so at first and not in the end, ceases at some step. -/
theorem exists_last {p : Nat → Prop} {n m : Nat} (hle : n ≤ m) (hn : p n) (hm : ¬ p m) :
    ∃ k, n ≤ k ∧ k < m ∧ p k ∧ ¬ p (k + 1) := by
  induction hle with
  | refl => exact absurd hn hm
  | @step m hle ih =>
    by_cases hp : p m
    · exact ⟨m, hle, Nat.lt_succ_self m, hp, hm⟩
    · obtain ⟨k, hk, hlt, hpk, hnot⟩ := ih hp
      exact ⟨k, hk, Nat.lt_succ_of_lt hlt, hpk, hnot⟩

namespace SideBySide
variable {σ : Type} [Storage σ] {y : SideBySide σ} {schedule : List Nat}

/-- **The state at a moment** of a schedule, after so many of its steps. -/
def moment (y : SideBySide σ) (schedule : List Nat) (n : Nat) : SideBySide σ :=
  y.run (schedule.take n)

@[simp] theorem moment_zero : y.moment schedule 0 = y := rfl

theorem moment_of_length_le {n : Nat} (h : schedule.length ≤ n) :
    y.moment schedule n = y.run schedule := by
  rw [moment, List.take_of_length_le h]

theorem moment_succ {n i : Nat} (h : schedule[n]? = some i) :
    y.moment schedule (n + 1) = (y.moment schedule n).tick i := by
  rw [moment, List.take_add_one, h, run_append]
  rfl

theorem moment_succ_of_none {n : Nat} (h : schedule[n]? = none) :
    y.moment schedule (n + 1) = y.moment schedule n := by
  rw [moment, List.take_add_one, h, Option.toList_none, List.append_nil, moment]

/-- A later moment is reached by more steps. -/
theorem exists_moment_eq_run (y : SideBySide σ) (schedule : List Nat) {n m : Nat} (hle : n ≤ m) :
    ∃ more, y.moment schedule m = (y.moment schedule n).run more := by
  refine ⟨(schedule.take m).drop n, ?_⟩
  have htake : schedule.take n = (schedule.take m).take n := by
    rw [List.take_take, Nat.min_eq_left hle]
  rw [moment, moment, htake, ← run_append, List.take_append_drop]

/-! ## Results -/

theorem tick_result? {i : Nat} {v : Verdict} (h : y.result? i = some v) (j : Nat) :
    (y.tick j).result? i = some v := by
  obtain ⟨t, ht, hsettled⟩ := Option.bind_eq_some_iff.mp h
  cases hj : y.tasks[j]? with
  | none => rw [tick, hj]; exact h
  | some u =>
    rw [tick_of_some hj, result?, getElem?_set_task hj]
    split
    · next heq =>
      have hsame : u = t := by
        rw [heq, ht] at hj
        exact (Option.some.inj hj).symm
      rw [hsame]
      exact (Program.step_settled hsettled).1
    · rw [ht]
      exact hsettled

/-- A result stays. -/
theorem run_result? {i : Nat} {v : Verdict} (h : y.result? i = some v) (more : List Nat) :
    (y.run more).result? i = some v := by
  induction more generalizing y with
  | nil => exact h
  | cons j js ih => exact ih (tick_result? h j)

theorem moment_result? {i n m : Nat} {v : Verdict} (hle : n ≤ m)
    (h : (y.moment schedule n).result? i = some v) :
    (y.moment schedule m).result? i = some v := by
  obtain ⟨more, hmore⟩ := exists_moment_eq_run y schedule hle
  rw [hmore]
  exact run_result? h more

/-- A step settles no result but that of its own operation. -/
theorem tick_result?_of_ne {i j : Nat} (hne : j ≠ i) : (y.tick j).result? i = y.result? i := by
  cases hj : y.tasks[j]? with
  | none => rw [tick, hj]
  | some u => rw [tick_of_some hj, result?, getElem?_set_task hj, if_neg hne, result?]

theorem moment_request? (y : SideBySide σ) (schedule : List Nat) (n i : Nat) :
    (y.moment schedule n).request? i = y.request? i := run_request? ..

/-! ## From the first call to the last -/

/-- **The first call** of an operation is the step at this moment. -/
def StartsAt (schedule : List Nat) (n i : Nat) : Prop := schedule[n]? = some i ∧ i ∉ schedule.take n

/-- **The last call** of an operation is the step at this moment, and settles its result. -/
structure SettlesAt (y : SideBySide σ) (schedule : List Nat) (n i : Nat) (v : Verdict) : Prop where
  step : schedule[n]? = some i
  before : (y.moment schedule n).result? i = none
  after : (y.moment schedule (n + 1)).result? i = some v

section Settles
variable {n i : Nat} {v : Verdict}

theorem SettlesAt.result (h : y.SettlesAt schedule n i v) :
    (y.run schedule).result? i = some v := by
  obtain ⟨hlt, -⟩ := List.getElem?_eq_some_iff.mp h.step
  rw [← moment_of_length_le (Nat.le_refl _)]
  exact moment_result? hlt h.after

/-- **An operation is settled once.** -/
theorem SettlesAt.unique {n' : Nat} {v' : Verdict} (h : y.SettlesAt schedule n i v)
    (h' : y.SettlesAt schedule n' i v') : n' = n ∧ v' = v := by
  refine ⟨?_, Option.some.inj (h'.result.symm.trans h.result)⟩
  -- After the earlier of the two steps there would be a result, before the later one none.
  rcases Nat.lt_trichotomy n n' with hlt | heq | hlt
  · have hresult := moment_result? hlt h.after
    rw [h'.before] at hresult
    cases hresult
  · exact heq.symm
  · have hresult := moment_result? hlt h'.after
    rw [h.before] at hresult
    cases hresult

/-- An operation that comes to a result is settled at some moment. -/
theorem exists_settlesAt (hopen : y.result? i = none) (h : (y.run schedule).result? i = some v) :
    ∃ n, y.SettlesAt schedule n i v := by
  have hend : ¬ (y.moment schedule schedule.length).result? i = none := by
    rw [moment_of_length_le (Nat.le_refl _), h]
    exact Option.some_ne_none v
  obtain ⟨n, -, hlt, hbefore, hafter⟩ := exists_last
    (p := fun n => (y.moment schedule n).result? i = none) (Nat.zero_le _) hopen hend
  obtain ⟨v', hv'⟩ := Option.ne_none_iff_exists'.mp hafter
  have hstep : schedule[n]? = some schedule[n] := List.getElem?_eq_getElem hlt
  have hown : schedule[n] = i := by
    refine Classical.byContradiction fun hne => hafter ?_
    rw [moment_succ hstep, tick_result?_of_ne hne]
    exact hbefore
  rw [hown] at hstep
  have hsettles : y.SettlesAt schedule n i v' := ⟨hstep, hbefore, hv'⟩
  rw [Option.some.inj (h.symm.trans hsettles.result)]
  exact ⟨n, hsettles⟩

end Settles

/-! ## What the books gain and lose -/

variable [Bookkeeping σ]

theorem Regular.moment (hy : y.Regular) (schedule : List Nat) (n : Nat) :
    (y.moment schedule n).Regular := hy.run _

/-- The account at a later moment is a later one. -/
theorem Regular.moment_reaches (hy : y.Regular) (schedule : List Nat) {n m : Nat} (hle : n ≤ m) :
    (y.moment schedule n).account.Reaches (y.moment schedule m).account := by
  obtain ⟨more, hmore⟩ := exists_moment_eq_run y schedule hle
  rw [hmore]
  exact (hy.moment schedule n).run_reaches more

/-- From one moment to the next the account stays as it is, or goes on by one decision. -/
theorem Regular.moment_next (hy : y.Regular) (schedule : List Nat) (n : Nat) :
    (y.moment schedule (n + 1)).account = (y.moment schedule n).account ∨
      (y.moment schedule n).account.Next (y.moment schedule (n + 1)).account := by
  cases hstep : schedule[n]? with
  | none => exact .inl (congrArg SideBySide.account (moment_succ_of_none hstep))
  | some i =>
    rw [moment_succ hstep]
    have hnow := hy.moment schedule n
    rcases (hnow.tick_account i).2 with hsame | ⟨t, v, hi, ht, hdecided, hdecides⟩
    · exact .inl hsame
    · have haccount : ((y.moment schedule n).tick i).account =
          ⟨⟨i, t.request, v⟩ :: (y.moment schedule n).account.decided, _⟩ :=
        congrArg (fun ds => Account.mk ds _) hdecided
      rw [haccount]
      exact .inr (.decide (d := ⟨i, t.request, v⟩) hdecides (hnow.unissued hi ht))

/-- The step that settles an operation is a decision on its request. -/
theorem Regular.settlesAt_decides (hy : y.Regular) {n i : Nat} {v : Verdict}
    (h : y.SettlesAt schedule n i v) : ∃ q, y.request? i = some q ∧
      (y.moment schedule n).books.Decides q v (y.moment schedule (n + 1)).books := by
  have hafter := h.after
  rw [moment_succ h.step] at hafter ⊢
  have hnow := hy.moment schedule n
  rcases (hnow.tick_account i).2 with hsame | ⟨t, v', hi, -, hdecided, hdecides⟩
  · -- The account would list the result already.
    obtain ⟨t, ht, hsettled⟩ := Option.bind_eq_some_iff.mp hafter
    have hmem : ⟨i, t.request, v⟩ ∈ ((y.moment schedule n).tick i).decided :=
      (hnow.tick i).decided_iff.mpr ⟨t, ht, rfl, hsettled⟩
    have hdecided : ((y.moment schedule n).tick i).decided = (y.moment schedule n).decided :=
      congrArg Account.decided hsame
    rw [hdecided, hnow.mem_decided, h.before] at hmem
    cases hmem.2
  · have hmem : ⟨i, t.request, v'⟩ ∈ ((y.moment schedule n).tick i).decided := by
      rw [hdecided]; exact List.mem_cons_self
    have hresult := ((hnow.tick i).mem_decided.mp hmem).2
    rw [hafter] at hresult
    rw [Option.some.inj hresult]
    refine ⟨t.request, ?_, hdecides⟩
    rw [← moment_request? y schedule n i]
    exact congrArg (Option.map Task.request) hi

/-- **A step that changes the books settles its operation.** -/
theorem Regular.settlesAt_of_books (hy : y.Regular) {n i : Nat} (hstep : schedule[n]? = some i)
    (hbooks : (y.moment schedule (n + 1)).books ≠ (y.moment schedule n).books) :
    ∃ v, y.SettlesAt schedule n i v := by
  have hnow := hy.moment schedule n
  rcases (hnow.tick_account i).2 with hsame | ⟨t, v, hi, ht, hdecided, -⟩
  · rw [moment_succ hstep] at hbooks
    exact absurd (congrArg Account.books hsame) hbooks
  · refine ⟨v, hstep, ?_, ?_⟩
    · rw [result?, hi]
      exact ht
    · rw [moment_succ hstep]
      have hmem : ⟨i, t.request, v⟩ ∈ ((y.moment schedule n).tick i).decided := by
        rw [hdecided]; exact List.mem_cons_self
      exact ((hnow.tick i).mem_decided.mp hmem).2

end SideBySide
end PickupLedger
