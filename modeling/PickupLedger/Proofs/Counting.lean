import PickupLedger.Proofs.Interleaving

/-!
# What is counted

An operation counts what it has achieved after its last call, so there is a moment at which
the store has taken its record and the count does not show it yet.  `Program.Counts` says
that a program counts once for a success, and not at all for a failure or for an operation
that achieves nothing countable.  What then holds at every moment is that a count, with the
operations that are due to raise it (`SideBySide.due`), is the number of successes of its
kind (`SideBySide.Counted`).
-/

namespace PickupLedger

/-- What the operation counts when it succeeds. -/
def Request.counter? : Request → Option Counter
  | .create .. => some .pointsCreated
  | .get _ => none
  | .openAt .. => some .receptionsCreated
  | .closeAt _ => some .receptionsClosed
  | .addTo .. => some .productsAdded
  | .removeFrom _ => some .productsRemoved

/-- What a decision achieves: a failure achieves nothing. -/
def Decision.achieved? (d : Decision) : Option Counter :=
  match d.verdict with
  | .ok _ => d.request.counter?
  | .error _ => none

/-! ## Programs that count -/

namespace Program

/-- What the program counts before anything else. -/
def due? : Program Verdict → Option Counter
  | .count counter _ => some counter
  | _ => none

/-- **A program counts its success**, once, as the last thing that it does. -/
def Counts (q : Request) : Program Verdict → Prop
  | .done (.ok _) => q.counter? = none
  | .done (.error _) => True
  | .count counter next => q.counter? = some counter ∧ ∃ o, next = .done (.ok o)
  | .ask _ next => ∀ answer, (next answer).Counts q

end Program

namespace Operation
variable {q : Request}

theorem counts_call (step : String) (c : Call) {f : c.Reply → Operation Outcome}
    (h : ∀ reply, (f reply).program.Counts q) : (call step c >>= f).program.Counts q := by
  rw [program_call_bind]
  rintro (e | reply)
  · trivial
  · exact h reply

theorem counts_insert (step : String) (taken : Failure) (c : Call) {f : c.Reply → Operation Outcome}
    (h : ∀ reply, (f reply).program.Counts q) : (insert step taken c >>= f).program.Counts q := by
  rw [program_insert_bind]
  rintro (e | reply)
  · trivial
  · exact h reply

/-- The rest of an operation behind a lookup counts if it does so for every value found. -/
theorem counts_require {α : Type} (missing : Failure) (found : Option α)
    {f : α → Operation Outcome} (h : ∀ a, (f a).program.Counts q) :
    (require missing found >>= f).program.Counts q := by
  cases found with
  | none => trivial
  | some a => exact h a

end Operation

namespace Request
open Operation Service

theorem counts_create (stamp : Stamp) (id : Uuid) (cityName : String)
    (registered : Option Instant) : (create stamp id cityName registered).program.Counts
      (.create stamp id cityName registered) := by
  simp only [program, operation, createPickupPoint, bind_assoc]
  exact counts_call _ _ fun found => counts_require _ _ fun city =>
    counts_insert _ _ _ fun created => ⟨rfl, _, rfl⟩

theorem counts_get (id : Uuid) : (get id).program.Counts (.get id) := by
  simp only [program, operation, getPickupPoint, bind_assoc]
  exact counts_call _ _ fun found => counts_require _ _ fun point => rfl

theorem counts_openAt (stamp : Stamp) (p : Uuid) :
    (openAt stamp p).program.Counts (.openAt stamp p) := by
  simp only [program, operation, openReception, resolveStatus, bind_assoc]
  refine counts_call _ _ fun point => counts_require _ _ fun _ => counts_call _ _ fun active => ?_
  cases active with
  | some r => trivial
  | none =>
    simp only [Option.isSome_none, Bool.false_eq_true, if_false, bind_assoc]
    exact counts_call _ _ fun found => counts_require _ _ fun status =>
      counts_insert _ _ _ fun created => ⟨rfl, _, rfl⟩

theorem counts_closeAt (p : Uuid) : (closeAt p).program.Counts (.closeAt p) := by
  simp only [program, operation, closeReception, activeReception, resolveStatus, bind_assoc]
  exact counts_call _ _ fun active => counts_require _ _ fun r =>
    counts_call _ _ fun found => counts_require _ _ fun status =>
    counts_call _ _ fun moved => counts_require _ _ fun updated => ⟨rfl, _, rfl⟩

theorem counts_addTo (stamp : Stamp) (p : Uuid) (typeName : String) :
    (addTo stamp p typeName).program.Counts (.addTo stamp p typeName) := by
  simp only [program, operation, addProduct, activeReception, bind_assoc]
  exact counts_call _ _ fun active => counts_require _ _ fun r =>
    counts_call _ _ fun found => counts_require _ _ fun type =>
    counts_call _ _ fun added => counts_require _ _ fun created => ⟨rfl, _, rfl⟩

theorem counts_removeFrom (p : Uuid) : (removeFrom p).program.Counts (.removeFrom p) := by
  simp only [program, operation, removeLastProduct, activeReception, bind_assoc]
  refine counts_call _ _ fun point => counts_require _ _ fun _ =>
    counts_call _ _ fun active => counts_require _ _ fun r =>
    counts_call _ _ fun found => counts_require _ _ fun last => counts_call _ _ fun deleted => ?_
  cases deleted with
  | false => trivial
  | true => exact ⟨rfl, _, rfl⟩

/-- **Every operation counts its success.** -/
theorem counts (q : Request) : q.program.Counts q := by
  cases q with
  | create stamp id cityName registered => exact counts_create stamp id cityName registered
  | get id => exact counts_get id
  | openAt stamp p => exact counts_openAt stamp p
  | closeAt p => exact counts_closeAt p
  | addTo stamp p typeName => exact counts_addTo stamp p typeName
  | removeFrom p => exact counts_removeFrom p

theorem program_due? (q : Request) : q.program.due? = none := by cases q <;> rfl

end Request

/-! ## Successes, counted and due -/

/-- How many decisions achieved what is counted. -/
def Account.achieved (a : Account) (k : Counter) : Nat :=
  a.decided.countP fun d => d.achieved? = some k

/-- What the last call of an operation achieves is what the rest of its program counts. -/
theorem Task.achieved_of_counts {t : Task} {p : Program Verdict} (hopen : t.program.settled? = none)
    (hp : p.Counts t.request) (i : Nat) (k : Counter) :
    ((t.decision? i p).toList.countP fun d => d.achieved? = some k) =
      if p.due? = some k then 1 else 0 := by
  rw [decision?, hopen]
  cases p with
  | done v =>
    cases v with
    | ok o =>
      have hnone : t.request.counter? = none := hp
      simp [Program.settled?, Decision.achieved?, Program.due?, hnone]
    | error e => rfl
  | count counter rest =>
    obtain ⟨hcounter, o, rfl⟩ := hp
    simp [Program.settled?, Decision.achieved?, Program.due?, hcounter]
  | ask c next => rfl

namespace SideBySide
variable {σ : Type}

/-- How many operations count something with their next step. -/
def due (y : SideBySide σ) (k : Counter) : Nat := y.tasks.countP fun t => t.program.due? = some k

/-- **Every success is counted or due to be counted**, and what is under way will count its own. -/
structure Counted (y : SideBySide σ) : Prop where
  total : ∀ k, y.world.counters.get k + y.due k =
    y.decided.countP fun d => d.achieved? = some k
  counts : ∀ {i : Nat} {t : Task}, y.tasks[i]? = some t →
    t.program.result? ≠ none ∨ t.program.Counts t.request

theorem start_counted (store : σ) (requests : List Request) : (start store requests).Counted where
  total k := by
    have hdue : (start store requests).due k = 0 := by
      refine List.countP_eq_zero.mpr fun t ht => ?_
      obtain ⟨q, -, rfl⟩ := List.mem_map.mp ht
      rw [Task.ofRequest, q.program_due?]
      simp
    rw [hdue]
    cases k <;> rfl
  counts {i t} h := by
    simp only [start, List.getElem?_map, Option.map_eq_some_iff] at h
    obtain ⟨q, -, rfl⟩ := h
    exact .inr q.counts

/-- What replacing an element does to a count. -/
theorem countP_set_add {α : Type} {as : List α} {i : Nat} {a : α} (h : as[i]? = some a) (a' : α)
    (p : α → Bool) : (as.set i a').countP p + (if p a then 1 else 0) =
      as.countP p + (if p a' then 1 else 0) := by
  obtain ⟨hlt, rfl⟩ := List.getElem?_eq_some_iff.mp h
  rw [List.countP_set hlt]
  have hpos : p as[i] = true → 0 < as.countP p :=
    fun hp => List.countP_pos_iff.mpr ⟨_, List.getElem_mem hlt, hp⟩
  split
  · next hp => have := hpos hp; omega
  · omega

variable {y : SideBySide σ} {i : Nat} {t : Task}

/-- A step that raises the counts by what was due before, and leaves due what it achieves. -/
theorem Counted.step (hy : y.Counted) (hi : y.tasks[i]? = some t) {w : Program.World σ}
    {p : Program Verdict} {ds : List Decision}
    (hcounters : ∀ k, w.counters.get k =
      y.world.counters.get k + (if t.program.due? = some k then 1 else 0))
    (hachieved : ∀ k, (ds.countP fun d => d.achieved? = some k) =
      if p.due? = some k then 1 else 0)
    (hp : p.result? ≠ none ∨ p.Counts t.request) :
    Counted ⟨w, y.tasks.set i { t with program := p }, ds ++ y.decided⟩ where
  total k := by
    have htasks := countP_set_add hi { t with program := p } fun t => t.program.due? = some k
    have htotal := hy.total k
    simp only [decide_eq_true_eq] at htasks
    simp only [due] at htotal ⊢
    rw [List.countP_append, hcounters, hachieved]
    omega
  counts {j u} hu := by
    rcases of_getElem?_set_task hi hu with ⟨rfl, rfl⟩ | ⟨-, hu⟩
    · exact hp
    · exact hy.counts hu

variable [Storage σ]

/-- **A step keeps the counts right.** -/
theorem Counted.tick (hy : y.Counted) (i : Nat) : (y.tick i).Counted := by
  cases hi : y.tasks[i]? with
  | none => rw [SideBySide.tick, hi]; exact hy
  | some t =>
    rw [tick_of_some hi]
    obtain ⟨request, program⟩ := t
    have hcounts := hy.counts hi
    cases program with
    | done v => exact hy.step hi (fun k => rfl) (fun k => rfl) (.inl (Option.some_ne_none v))
    | count counter next =>
      rcases hcounts with hdone | ⟨-, o, rfl⟩
      · exact absurd rfl hdone
      · refine hy.step hi (fun k => ?_) (fun k => rfl) (.inl (Option.some_ne_none _))
        rw [Program.step, Program.step, Counters.get_add]
        simp only [Program.due?, Option.some.injEq]
    | ask c next =>
      rcases hcounts with hdone | hcounts
      · exact absurd rfl hdone
      · exact hy.step hi (fun k => rfl) (fun k => Task.achieved_of_counts rfl (hcounts _) i k)
          (.inr (hcounts _))

theorem Counted.run (hy : y.Counted) (schedule : List Nat) : (y.run schedule).Counted := by
  induction schedule generalizing y with
  | nil => exact hy
  | cons i is ih => exact ih (hy.tick i)

/-! ## At rest -/

omit [Storage σ] in
/-- **No operation is in flight**: each has not taken a step, or is at its end. -/
def AtRest (y : SideBySide σ) : Prop :=
  ∀ t ∈ y.tasks, t.program = t.request.program ∨ t.program.result? ≠ none

omit [Storage σ] in
/-- **At rest the counts are the successes.** -/
theorem Counted.at_rest (hy : y.Counted) (hrest : y.AtRest) (k : Counter) :
    y.world.counters.get k = y.decided.countP fun d => d.achieved? = some k := by
  have hdue : y.due k = 0 := by
    refine List.countP_eq_zero.mpr fun t ht => ?_
    rw [decide_eq_true_eq]
    rcases hrest t ht with hstart | hend
    · rw [hstart, t.request.program_due?]
      simp
    · cases hp : t.program with
      | done v => simp [Program.due?]
      | count counter next => rw [hp] at hend; exact absurd rfl hend
      | ask c next => simp [Program.due?]
  rw [← hy.total k, hdue, Nat.add_zero]

end SideBySide
end PickupLedger
