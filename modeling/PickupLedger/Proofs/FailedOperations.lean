import PickupLedger.Proofs.Inquiries
import PickupLedger.Proofs.RefusedWrites

/-!
# Failed operations

An operation that fails leaves the records of its store exactly as they were, whatever their
state was: it has only made checks, or its one write was refused.  The same holds of requests to
the server that are answered with any status but one of success, and of all requests to read.
-/

namespace PickupLedger
open Operation Service Http

/-! ## Operations that only read -/

/-- The operation is a look at the records. -/
def Command.Reads : Command → Prop
  | .request (.get _) | .listAll | .overview .. => True
  | _ => False

/-- A page of the overview makes checks only. -/
theorem cautious_overview (window : DateWindow) (page : Page) :
    (Service.overview window page).program.Cautious (fun _ _ => False) [] := by
  by_cases hvalid : Overview.Valid window page
  case neg =>
    obtain ⟨text, htext⟩ := Overview.program_of_not_valid hvalid
    rw [htext]
    trivial
  rw [Overview.program_of_valid hvalid]
  refine cautious_check _ rfl fun points => ?_
  split
  · trivial
  refine cautious_check _ rfl fun receptions => ?_
  rw [overviewProducts]
  split
  · trivial
  · exact cautious_check _ rfl fun _ => trivial

theorem WritesLast.checks_of_false {failed : Prop} {d : List Exchange}
    (h : WritesLast (fun _ _ => False) failed d) : ∀ e ∈ d, e.call.isWrite = false := by
  cases h with
  | checks hchecks => exact hchecks
  | write _ _ hcleared => exact hcleared.elim

/-- **A look makes checks only**, whatever it is answered. -/
theorem Command.Reads.checks {c : Command} (hc : c.Reads) {d : List Exchange} {report : Report}
    (h : c.Dialogue d report) : ∀ e ∈ d, e.call.isWrite = false := by
  obtain ⟨q, v, rfl, rfl, hd⟩ | ⟨answer, rfl, rfl, hd⟩ | ⟨window, page, answer, rfl, rfl, hd⟩ :=
    h.of_program
  · cases q with
    | get id =>
      cases Request.writesLast hd with
      | checks hchecks => exact hchecks
      | write _ _ hcleared => cases hcleared
    | _ => exact hc.elim
  · have hcautious : listPickupPoints.program.Cautious (fun _ _ => False) [] :=
      ⟨fun _ _ => trivial, fun hwrite => absurd hwrite nofun⟩
    exact (hcautious.writesLast hd).checks_of_false
  · exact ((cautious_overview window page).writesLast hd).checks_of_false

/-! ## On a store -/

/-- A look leaves the records as they are. -/
theorem Command.Reads.records {c : Command} (hc : c.Reads) (w : Program.World Backend) :
    (c.run w).2.store.records = w.store.records :=
  Backend.gives_checks_only (hc.checks (c.dialogue_run w)) (c.gives_run w)

/-- **An operation that fails leaves the records as they were.** -/
theorem Request.records_of_error {q : Request} {w : Program.World Backend} {failure : Failure}
    (h : (q.program.run w).1 = .error failure) :
    (q.program.run w).2.store.records = w.store.records :=
  Backend.records_of_failed (Request.writesLast (q.program.dialogue_run w)) ⟨failure, h⟩
    (q.program.gives_run w)

namespace Http

theorem reads_of_getInquiry {r : Request} {x : Resource} {c : Command}
    (h : getInquiry r x = some (.ok c)) : c.Reads := by
  cases x with
  | points =>
    simp only [getInquiry, Option.some.injEq] at h
    cases hparams : OverviewParams.ofQuery (r.query.getD "") with
    | ok params => rw [hparams] at h; cases h; trivial
    | error problem => rw [hparams] at h; cases h
  | allPoints => cases h; trivial
  | point segment =>
    simp only [getInquiry, Option.some.injEq] at h
    cases hid : segmentId segment with
    | ok id => rw [hid] at h; cases h; trivial
    | error fault => rw [hid] at h; cases h
  | _ => cases h

/-- What a request to write asks for is an operation on records. -/
theorem request_of_postInquiry {stamp : Stamp} {r : Request} {x : Resource} {c : Command}
    (h : postInquiry stamp r x = some (.ok c)) : ∃ q, c = .request q := by
  have hmap : ∀ {ε ε' α : Type} {e : Except ε α} {f : ε → ε'} {g : α → PickupLedger.Request},
      (e.mapError f).map (fun a => Command.request (g a)) = .ok c → ∃ q, c = .request q := by
    intro ε ε' α e f g h
    cases e with
    | ok a => cases h; exact ⟨_, rfl⟩
    | error e => cases h
  cases x with
  | points | closing | removal | receptions | products => exact hmap (Option.some.inj h)
  | _ => cases h

/-- An operation that is answered as a failure has failed. -/
theorem error_of_not_succeeds {q : PickupLedger.Request} {v : Verdict}
    (h : ¬ ((Command.request q).response (.verdict v)).Succeeds) :
    ∃ failure, v = .error failure := by
  cases v with
  | error failure => exact ⟨failure, rfl⟩
  | ok outcome => exact absurd (Command.request q).status_succeeds h

end Http

/-- **Failed operations leave the records as they were.**  Whatever a store answers, an operation
writes at most once, as its last call and after its checks have passed.  So over either store and
in whatever state that is, an operation that fails changes no record, and neither does a request
that is answered without success, nor one to read. -/
theorem failed_operations_leave_records :
    (∀ (q : Request) (d : List Exchange) (v : Verdict), q.program.Dialogue d v →
      WritesLast q.Cleared (∃ failure, v = .error failure) d) ∧
    (∀ (q : Request) (w : Program.World Backend) (failure : Failure),
      (q.program.run w).1 = .error failure →
        (q.program.run w).2.store.records = w.store.records) ∧
    (∀ (s : Server Backend) (m : Moment) (r : Http.Request),
      ¬ (s.respond m r).1.Succeeds ∨ r.method = .get ∨ r.method = .head →
        (s.respond m r).2.world.store.records = s.world.store.records) := by
  refine ⟨fun q d v hd => Request.writesLast hd,
    fun q w failure h => Request.records_of_error h, fun s m r h => ?_⟩
  rcases s.respond_world m r with hworld | ⟨i, hasks, hworld, hstatus⟩
  · rw [hworld]
  rw [hworld]
  cases i with
  | error rejection => rfl
  | ok c =>
    rcases hasks with ⟨x, hget⟩ | ⟨hmethod, x, hpost⟩
    · exact (reads_of_getInquiry hget).records s.world
    · obtain ⟨q, rfl⟩ := request_of_postInquiry hpost
      rcases h with hfailed | hget | hhead
      · rw [Response.Succeeds, hstatus] at hfailed
        obtain ⟨failure, hfailure⟩ := error_of_not_succeeds hfailed
        exact Request.records_of_error hfailure
      · rw [hmethod] at hget; cases hget
      · rw [hmethod] at hhead; cases hhead

/-- A pickup point whose reception has one product. -/
def stockedWorld : Program.World Backend :=
  (Request.runAll [.create ⟨.epoch, .generated 0⟩ (.ofNat 1) "Москва" none,
    .openAt ⟨.epoch, .generated 1⟩ (.ofNat 1), .addTo ⟨.epoch, .generated 2⟩ (.ofNat 1) "обувь"]
    ⟨.memory .new, .zero⟩).2

/-- A request for the overview, with a page that there is not. -/
def zerothPage : Http.Request := ⟨.get, "/api/v1/pvz", some "page=0", [], ""⟩

/-- **A second opening** is refused by the last check before its write, an opening in a database
without tables by the first; a page that there is not is a bad request.  The records stay. -/
theorem second_opening_changes_nothing :
    let again := PickupLedger.Request.openAt ⟨.epoch, .generated 3⟩ (.ofNat 1)
    let bare : Program.World Backend := ⟨.database .empty, .zero⟩
    let m : Moment := ⟨⟨.epoch, .generated 4⟩, "1", 0, 0⟩
    let s : Server Backend := ⟨stockedWorld, .zero, true⟩
    (again.program.run stockedWorld).1 =
      .error (.receptionAlreadyInProgress (.ofNat 1)) ∧
    (again.program.run stockedWorld).2.store.records = stockedWorld.store.records ∧
    (∃ e, (again.program.run bare).1 = .error (.internal "open reception: find pickup point" e)) ∧
    (again.program.run bare).2.store.records = bare.store.records ∧
    ¬ (s.respond m zerothPage).1.Succeeds ∧
    (s.respond m zerothPage).2.world.store.records = stockedWorld.store.records := by
  intro again bare m s
  obtain ⟨-, hrun, hrespond⟩ := failed_operations_leave_records
  have htaken : (again.program.run stockedWorld).1 =
      .error (.receptionAlreadyInProgress (.ofNat 1)) := rfl
  have hmissing : (again.program.run bare).1 = .error (.internal
      "open reception: find pickup point" (.database (.query (.noSuchTable "pickup_points")))) :=
    rfl
  have hrefused : ¬ (s.respond m zerothPage).1.Succeeds := by decide +kernel
  exact ⟨htaken, hrun again stockedWorld _ htaken, ⟨_, hmissing⟩, hrun again bare _ hmissing,
    hrefused, hrespond s m zerothPage (.inl hrefused)⟩

end PickupLedger
