import PickupLedger.Proofs.Conduct

/-!
# Operations side by side

Any number of operations is under way on one store (`SideBySide`).  A schedule names the
operation that takes the next step, one call (`SideBySide.tick`), for as long as one likes
(`SideBySide.run`); an operation that is never named again has simply not come further.  An
operation has started once it is first named, so a schedule also says which operations
come after others.

When a step settles the result of an operation, that is written down
(`SideBySide.decided`).  What was written down makes an account (`SideBySide.account`), with
the books of the store, and the point of all this is that it is an account indeed: each step
leaves it as it is, or is the next decision (`SideBySide.Regular.tick_account`).  What holds
of all accounts, or between an account and a later one, thus holds of all operations that
run side by side.
-/

namespace PickupLedger

/-- **An operation under way.** -/
structure Task where
  request : Request
  program : Program Verdict

/-- **A store with operations under way.** -/
structure SideBySide (σ : Type) where
  world : Program.World σ
  tasks : List Task
  /-- The results so far, the latest first. -/
  decided : List Decision

namespace Task

/-- An operation that has not taken a step. -/
def ofRequest (q : Request) : Task := ⟨q, q.program⟩

/-- What a step of the task decides: its result, if that was open before. -/
def decision? (t : Task) (i : Nat) (after : Program Verdict) : Option Decision :=
  match t.program.settled?, after.settled? with
  | none, some v => some ⟨i, t.request, v⟩
  | _, _ => none

end Task

namespace SideBySide

variable {σ : Type} [Storage σ]

omit [Storage σ] in
/-- Operations on a store, none of which has taken a step. -/
def start (store : σ) (requests : List Request) : SideBySide σ :=
  ⟨⟨store, .zero⟩, requests.map .ofRequest, []⟩

/-- **A step of one operation.** -/
def tick (y : SideBySide σ) (i : Nat) : SideBySide σ :=
  match y.tasks[i]? with
  | none => y
  | some t =>
    let (program, world) := t.program.step y.world
    ⟨world, y.tasks.set i { t with program }, (t.decision? i program).toList ++ y.decided⟩

/-- **Steps in the order of a schedule.** -/
def run (y : SideBySide σ) : List Nat → SideBySide σ
  | [] => y
  | i :: is => (y.tick i).run is

theorem run_append (y : SideBySide σ) (is js : List Nat) :
    y.run (is ++ js) = (y.run is).run js := by
  induction is generalizing y with
  | nil => rfl
  | cons i is ih => exact ih _

/-- A schedule comes apart at any of its steps. -/
theorem run_split (y : SideBySide σ) {schedule : List Nat} {n i : Nat}
    (hn : schedule[n]? = some i) :
    y.run schedule = ((y.run (schedule.take n)).tick i).run (schedule.drop (n + 1)) := by
  obtain ⟨hlt, rfl⟩ := List.getElem?_eq_some_iff.mp hn
  rw [← run, ← List.drop_eq_getElem_cons hlt, ← run_append, List.take_append_drop]

omit [Storage σ] in
/-- The request of a task. -/
def request? (y : SideBySide σ) (i : Nat) : Option Request := y.tasks[i]?.map Task.request

omit [Storage σ] in
/-- The result of a task, once it makes no further call. -/
def result? (y : SideBySide σ) (i : Nat) : Option Verdict :=
  y.tasks[i]?.bind fun t => t.program.settled?

omit [Storage σ] in
theorem start_request? (store : σ) (requests : List Request) (i : Nat) :
    (start store requests).request? i = requests[i]? := by
  simp only [request?, start, List.getElem?_map, Option.map_map]
  exact Option.map_id_apply

omit [Storage σ] in
theorem start_result? (store : σ) (requests : List Request) (i : Nat) :
    (start store requests).result? i = none := by
  rw [result?, start, List.getElem?_map]
  cases requests[i]? with
  | none => rfl
  | some q => exact q.program_settled?

theorem tick_request? (y : SideBySide σ) (i j : Nat) : (y.tick i).request? j = y.request? j := by
  rw [tick]
  split
  · rfl
  · next t hi =>
    obtain ⟨hlt, -⟩ := List.getElem?_eq_some_iff.mp hi
    simp only [request?, List.getElem?_set]
    by_cases hj : i = j
    · simp only [hj, if_true, hj ▸ hlt, hj ▸ hi, Option.map_some]
    · simp only [hj, if_false]

theorem run_request? (y : SideBySide σ) (schedule : List Nat) (j : Nat) :
    (y.run schedule).request? j = y.request? j := by
  induction schedule generalizing y with
  | nil => rfl
  | cons i is ih => exact (ih _).trans (tick_request? y i j)

/-! ## The account -/

section Account
variable [Bookkeeping σ]

/-- What the store holds. -/
def books (y : SideBySide σ) : Books := Bookkeeping.books y.world.store

/-- **What has been decided**, and the books. -/
def account (y : SideBySide σ) : Account := ⟨y.decided, y.books⟩

/-- **What holds in every state that operations can get into.** -/
structure Regular (y : SideBySide σ) : Prop where
  sound : Bookkeeping.Sound y.world.store
  account : y.account.Regular
  follows : ∀ {i : Nat} {t : Task}, y.tasks[i]? = some t → t.program.settled? = none →
    t.program.Follows t.request y.account y.books
  unissued : ∀ {i : Nat} {t : Task}, y.tasks[i]? = some t → t.program.settled? = none →
    y.account.Unissued t.request
  distinct : ∀ {i j : Nat} {t t' : Task} {id : Uuid},
    y.tasks[i]? = some t → y.tasks[j]? = some t' →
    t.request.fresh? = some id → t'.request.fresh? = some id → i = j
  /-- What was written down is the result of its task. -/
  decided_iff : ∀ {d : Decision}, d ∈ y.decided ↔
    ∃ t, y.tasks[d.task]? = some t ∧ t.request = d.request ∧ t.program.settled? = some d.verdict

theorem start_account {store : σ} (hbooks : Bookkeeping.books store = .empty)
    (requests : List Request) : (start store requests).account = .start :=
  congrArg (Account.mk []) hbooks

theorem start_regular {store : σ} (hs : Bookkeeping.Sound store)
    (hbooks : Bookkeeping.books store = .empty) {requests : List Request}
    (hids : (requests.filterMap Request.fresh?).Nodup) : (start store requests).Regular := by
  have haccount := start_account hbooks requests
  have htask : ∀ {i : Nat} {t : Task}, (start store requests).tasks[i]? = some t →
      ∃ q, requests[i]? = some q ∧ t = .ofRequest q := by
    intro i t h
    simp only [start, List.getElem?_map, Option.map_eq_some_iff] at h
    obtain ⟨q, hq, rfl⟩ := h
    exact ⟨q, hq, rfl⟩
  refine ⟨hs, ?_, ?_, ?_, ?_, ?_⟩
  · rw [haccount]; exact Account.start_regular
  · intro i t h _
    obtain ⟨q, -, rfl⟩ := htask h
    exact q.follows _
  · intro i t h _ id _
    rw [haccount]
    exact List.not_mem_nil
  · intro i j t t' id h h' hid hid'
    obtain ⟨q, hq, rfl⟩ := htask h
    obtain ⟨q', hq', rfl⟩ := htask h'
    exact Request.index_unique hids hq hq' hid hid'
  · intro d
    refine iff_of_false List.not_mem_nil ?_
    rintro ⟨t, h, -, hsettled⟩
    obtain ⟨q, -, rfl⟩ := htask h
    rw [Task.ofRequest, q.program_settled?] at hsettled
    cases hsettled

/-! ## One step -/

section Tick
variable {y : SideBySide σ} {i : Nat} {t : Task}

omit [Bookkeeping σ] in
theorem tick_of_some (h : y.tasks[i]? = some t) : y.tick i =
    ⟨(t.program.step y.world).2, y.tasks.set i { t with program := (t.program.step y.world).1 },
      (t.decision? i (t.program.step y.world).1).toList ++ y.decided⟩ := by
  rw [tick, h]

omit [Storage σ] [Bookkeeping σ] in
/-- The tasks after a step: the one that took it, and the others. -/
theorem getElem?_set_task {ts : List Task} (h : ts[i]? = some t) (t' : Task) (j : Nat) :
    (ts.set i t')[j]? = if i = j then some t' else ts[j]? := by
  obtain ⟨hi, -⟩ := List.getElem?_eq_some_iff.mp h
  rw [List.getElem?_set]
  simp only [hi, if_true]

omit [Storage σ] [Bookkeeping σ] in
theorem of_getElem?_set_task {ts : List Task} (h : ts[i]? = some t) {t' u : Task} {j : Nat}
    (hu : (ts.set i t')[j]? = some u) : (j = i ∧ u = t') ∨ (j ≠ i ∧ ts[j]? = some u) := by
  rw [getElem?_set_task h] at hu
  split at hu
  · next heq => exact .inl ⟨heq.symm, (Option.some.inj hu).symm⟩
  · next hne => exact .inr ⟨fun heq => hne heq.symm, hu⟩

omit [Storage σ] [Bookkeeping σ] in
/-- A step changes no request. -/
theorem request_of_getElem?_set_task {ts : List Task} (h : ts[i]? = some t)
    {p : Program Verdict} {u : Task} {j : Nat}
    (hu : (ts.set i { t with program := p })[j]? = some u) :
    ∃ t', ts[j]? = some t' ∧ t'.request = u.request := by
  rcases of_getElem?_set_task h hu with ⟨rfl, rfl⟩ | ⟨-, hu⟩
  · exact ⟨t, h, rfl⟩
  · exact ⟨u, hu, rfl⟩

/-- After a step too, two tasks have two identifiers. -/
theorem Regular.distinct_set (hy : y.Regular) (hi : y.tasks[i]? = some t) {p : Program Verdict}
    {j k : Nat} {u u' : Task} {id : Uuid}
    (hu : (y.tasks.set i { t with program := p })[j]? = some u)
    (hu' : (y.tasks.set i { t with program := p })[k]? = some u')
    (hid : u.request.fresh? = some id) (hid' : u'.request.fresh? = some id) : j = k := by
  obtain ⟨t₁, ht₁, hq₁⟩ := request_of_getElem?_set_task hi hu
  obtain ⟨t₂, ht₂, hq₂⟩ := request_of_getElem?_set_task hi hu'
  exact hy.distinct ht₁ ht₂ (hq₁ ▸ hid) (hq₂ ▸ hid')

/-- A step that decides nothing. -/
theorem Regular.goOn (hy : y.Regular) (hi : y.tasks[i]? = some t) {w : Program.World σ}
    {p : Program Verdict} (hs : Bookkeeping.Sound w.store)
    (hw : Bookkeeping.books w.store = y.books) (hp : p.settled? = t.program.settled?)
    (hfollows : p.settled? = none → p.Follows t.request y.account y.books) :
    Regular ⟨w, y.tasks.set i { t with program := p }, y.decided⟩ := by
  have hbooks :
      SideBySide.books ⟨w, y.tasks.set i { t with program := p }, y.decided⟩ = y.books := hw
  have haccount :
      SideBySide.account ⟨w, y.tasks.set i { t with program := p }, y.decided⟩ = y.account :=
    congrArg (Account.mk y.decided) hw
  refine ⟨hs, ?_, ?_, ?_, ?_, ?_⟩
  · rw [haccount]; exact hy.account
  · intro j u hu hopen
    rw [haccount, hbooks]
    -- The task that took the step goes on from the same account, and so do the others.
    rcases of_getElem?_set_task hi hu with ⟨rfl, rfl⟩ | ⟨-, hu⟩
    · exact hfollows hopen
    · exact hy.follows hu hopen
  · intro j u hu hopen
    rw [haccount]
    rcases of_getElem?_set_task hi hu with ⟨rfl, rfl⟩ | ⟨-, hu⟩
    · show y.account.Unissued t.request
      exact hy.unissued hi (hp ▸ hopen)
    · exact hy.unissued hu hopen
  · intro j k u u' id hu hu' hid hid'
    exact hy.distinct_set hi hu hu' hid hid'
  · intro d
    rw [hy.decided_iff]
    simp only [getElem?_set_task hi]
    by_cases htask : i = d.task
    · simp only [← htask, hi, if_true, Option.some.injEq, exists_eq_left', hp]
    · simp only [htask, if_false]

/-- A step that decides the request of its task. -/
theorem Regular.decide (hy : y.Regular) (hi : y.tasks[i]? = some t) {w : Program.World σ}
    {p : Program Verdict} {v : Verdict} (hs : Bookkeeping.Sound w.store)
    (ht : t.program.settled? = none) (hp : p.settled? = some v)
    (hdecides : y.books.Decides t.request v (Bookkeeping.books w.store)) :
    Regular ⟨w, y.tasks.set i { t with program := p }, ⟨i, t.request, v⟩ :: y.decided⟩ := by
  have hnext : y.account.Next
      (SideBySide.account
        ⟨w, y.tasks.set i { t with program := p }, ⟨i, t.request, v⟩ :: y.decided⟩) :=
    .decide (d := ⟨i, t.request, v⟩) hdecides (hy.unissued hi ht)
  refine ⟨hs, hnext.regular hy.account, ?_, ?_, ?_, ?_⟩
  · intro j u hu hopen
    rcases of_getElem?_set_task hi hu with ⟨rfl, rfl⟩ | ⟨-, hu⟩
    · rw [hp] at hopen; cases hopen
    · exact (hy.follows hu hopen).later hopen (.single hnext)
  · intro j u hu hopen id hid hissued
    rcases of_getElem?_set_task hi hu with ⟨rfl, rfl⟩ | ⟨hne, hu⟩
    · rw [hp] at hopen; cases hopen
    · rcases (Account.mem_issued_cons (a := y.account)).mp hissued with hown | hissued
      · exact hne (hy.distinct hu hi hid hown)
      · exact hy.unissued hu hopen id hid hissued
  · intro j k u u' id hu hu' hid hid'
    exact hy.distinct_set hi hu hu' hid hid'
  · intro d
    rw [List.mem_cons, hy.decided_iff]
    simp only [getElem?_set_task hi]
    by_cases htask : i = d.task
    · simp only [← htask, hi, if_true, Option.some.injEq, exists_eq_left', hp, ht]
      constructor
      · rintro (rfl | ⟨-, h⟩)
        · exact ⟨rfl, rfl⟩
        · cases h
      · rintro ⟨hrequest, hverdict⟩
        obtain ⟨task, request, verdict⟩ := d
        left
        rw [htask, hrequest, hverdict]
    · simp only [htask, if_false]
      refine or_iff_right (fun heq => ?_)
      rw [heq] at htask
      exact htask rfl

/-- **A step leaves the account as it is, or it is the next decision**, on the request of
the task that takes it. -/
theorem Regular.tick_account (hy : y.Regular) (i : Nat) :
    (y.tick i).Regular ∧ ((y.tick i).account = y.account ∨
      ∃ t v, y.tasks[i]? = some t ∧ t.program.settled? = none ∧
        (y.tick i).decided = ⟨i, t.request, v⟩ :: y.decided ∧
        y.books.Decides t.request v (y.tick i).books) := by
  cases hi : y.tasks[i]? with
  | none =>
    have hsame : y.tick i = y := by rw [tick, hi]
    rw [hsame]
    exact ⟨hy, .inl rfl⟩
  | some t =>
    rw [tick_of_some hi]
    cases ht : t.program.settled? with
    | some v =>
      -- It may still count something, but makes no call.
      obtain ⟨hp, hstore⟩ := Program.step_settled (w := y.world) ht
      have hnone : t.decision? i (t.program.step y.world).1 = none := by
        rw [Task.decision?, ht]
      have hbooks : Bookkeeping.books (t.program.step y.world).2.store = y.books := by
        rw [hstore]; rfl
      rw [hnone]
      refine ⟨hy.goOn hi ?_ hbooks (hp.trans ht.symm) ?_, .inl (congrArg (Account.mk _) hbooks)⟩
      · rw [hstore]; exact hy.sound
      · intro hopen
        rw [hp] at hopen
        cases hopen
    | none =>
      obtain ⟨hs, hfollows⟩ :=
        (hy.follows hi ht).step ht hy.sound rfl hy.account (hy.unissued hi ht)
      cases hp : (t.program.step y.world).1.settled? with
      | none =>
        have hnone : t.decision? i (t.program.step y.world).1 = none := by
          rw [Task.decision?, ht, hp]
        have hbooks : Bookkeeping.books (t.program.step y.world).2.store = y.books :=
          hfollows.undecided hp
        rw [hnone]
        refine ⟨hy.goOn hi hs hbooks (hp.trans ht.symm) ?_, .inl (congrArg (Account.mk _) hbooks)⟩
        intro _
        rw [← hbooks]
        exact hfollows
      | some v =>
        have hsome : t.decision? i (t.program.step y.world).1 = some ⟨i, t.request, v⟩ := by
          rw [Task.decision?, ht, hp]
        have hdecides := hfollows.decides hp
        rw [hsome]
        exact ⟨hy.decide hi hs ht hp hdecides, .inr ⟨t, v, rfl, ht, rfl, hdecides⟩⟩

theorem Regular.tick (hy : y.Regular) (i : Nat) : (y.tick i).Regular := (hy.tick_account i).1

theorem Regular.tick_reaches (hy : y.Regular) (i : Nat) :
    y.account.Reaches (y.tick i).account := by
  rcases (hy.tick_account i).2 with hsame | ⟨t, v, hi, ht, hdecided, hdecides⟩
  · rw [hsame]
    exact .refl _
  · refine .single ?_
    have hnext := Account.Next.decide (d := ⟨i, t.request, v⟩) hdecides (hy.unissued hi ht)
    have haccount : (y.tick i).account = ⟨⟨i, t.request, v⟩ :: y.decided, (y.tick i).books⟩ :=
      congrArg (fun ds => Account.mk ds _) hdecided
    rw [haccount]
    exact hnext

end Tick

/-! ## Many steps -/

theorem Regular.run {y : SideBySide σ} (hy : y.Regular) (schedule : List Nat) :
    (y.run schedule).Regular := by
  induction schedule generalizing y with
  | nil => exact hy
  | cons i is ih => exact ih (hy.tick i)

/-- **The account after a schedule is a later one.** -/
theorem Regular.run_reaches {y : SideBySide σ} (hy : y.Regular) (schedule : List Nat) :
    y.account.Reaches (y.run schedule).account := by
  induction schedule generalizing y with
  | nil => exact .refl _
  | cons i is ih => exact (hy.tick_reaches i).trans (ih (hy.tick i))

/-- What was written down is the result of its task, and a result is written down. -/
theorem Regular.mem_decided {y : SideBySide σ} (hy : y.Regular) {d : Decision} :
    d ∈ y.decided ↔ y.request? d.task = some d.request ∧ y.result? d.task = some d.verdict := by
  rw [hy.decided_iff, request?, result?]
  constructor
  · rintro ⟨t, ht, hrequest, hverdict⟩
    rw [ht]
    exact ⟨congrArg some hrequest, hverdict⟩
  · rintro ⟨hrequest, hverdict⟩
    obtain ⟨t, ht, hrequest⟩ := Option.map_eq_some_iff.mp hrequest
    rw [ht] at hverdict
    exact ⟨t, ht, hrequest, hverdict⟩

theorem Regular.tick_decided {y : SideBySide σ} (hy : y.Regular) (i : Nat) {d : Decision}
    (hd : d ∈ y.decided) : d ∈ (y.tick i).decided := by
  rcases (hy.tick_account i).2 with hsame | ⟨t, v, -, -, hdecided, -⟩
  · have hdecided : (y.tick i).decided = y.decided := congrArg Account.decided hsame
    rw [hdecided]
    exact hd
  · rw [hdecided]
    exact List.mem_cons_of_mem _ hd

/-- What was written down stays so. -/
theorem Regular.run_decided {y : SideBySide σ} (hy : y.Regular) (schedule : List Nat) {d : Decision}
    (hd : d ∈ y.decided) : d ∈ (y.run schedule).decided := by
  induction schedule generalizing y with
  | nil => exact hd
  | cons i is ih => exact ih (hy.tick i) (hy.tick_decided i hd)

/-- **Every decision was taken at some step**, by its own task. -/
theorem Regular.exists_step {y : SideBySide σ} (hy : y.Regular) (schedule : List Nat) {d : Decision}
    (hd : d ∈ (y.run schedule).decided) (hnot : d ∉ y.decided) :
    ∃ n, schedule[n]? = some d.task ∧ (y.run (schedule.take n)).books.Decides d.request d.verdict
      ((y.run (schedule.take n)).tick d.task).books := by
  induction schedule generalizing y with
  | nil => exact absurd hd hnot
  | cons i is ih =>
    by_cases hnow : d ∈ (y.tick i).decided
    · refine ⟨0, ?_⟩
      rcases (hy.tick_account i).2 with hsame | ⟨t, v, -, -, hdecided, hdecides⟩
      · have hdecided : (y.tick i).decided = y.decided := congrArg Account.decided hsame
        exact absurd (hdecided ▸ hnow) hnot
      · rw [hdecided] at hnow
        rcases List.mem_cons.mp hnow with rfl | hbefore
        · exact ⟨rfl, hdecides⟩
        · exact absurd hbefore hnot
    · obtain ⟨n, hn, hdecides⟩ := ih (hy.tick i) hd hnow
      exact ⟨n + 1, hn, hdecides⟩

end Account
end SideBySide
end PickupLedger
