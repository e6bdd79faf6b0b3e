import PickupLedger.Http.Server
import PickupLedger.Proofs.Dialogues

/-!
# What requests ask of the service

A request to the interface asks for an operation of the service, or is turned away because it
cannot be read (`Http.Rejection`).  `Http.inquiry` says which, from the method, the resource and
the request alone; the answer is then the report of the operation as it is shown
(`Command.response`), or the rejection.

That is what the programs of the interface do (`Http.getProgram_carriesOut`,
`Http.postProgram_carriesOut`), call for call, and so what the server does with a request
(`Http.Server.respond_inquiry`).
-/

namespace PickupLedger
open Json

namespace Http

/-- **Why a request is turned away**, before anything is asked of the store. -/
inductive Rejection where
  | body (fault : BodyFault)
  | query (problem : Problem)
  | segment (fault : SegmentFault)

/-- The answer to a request that is turned away. -/
def Rejection.response : Rejection → Response
  | .body fault => errorResponse 400 fault.message
  | .query problem => errorResponse 400 (queryMessage problem)
  | .segment fault => .text 400 "text/plain; charset=utf-8" fault.message

/-- **What a request asks for**, or why it is turned away. -/
abbrev Inquiry := Except Rejection Command

/-- What a request to read asks for, if the resource can be read. -/
def getInquiry (r : Request) : Resource → Option Inquiry
  | .points => some (((OverviewParams.ofQuery (r.query.getD "")).mapError .query).map fun params =>
    .overview params.window params.toPage)
  | .allPoints => some (.ok .listAll)
  | .point segment =>
    some (((segmentId segment).mapError .segment).map fun id => .request (.get id))
  | _ => none

/-- What a request to write asks for, if the resource can be posted to. -/
def postInquiry (stamp : Stamp) (r : Request) : Resource → Option Inquiry
  | .points => some (((jsonBody CreatePoint.reader CreatePoint.faults r).mapError .body).map
    fun body => .request (.create stamp body.id body.city body.registered))
  | .closing segment =>
    some (((segmentId segment).mapError .segment).map fun id => .request (.closeAt id))
  | .removal segment =>
    some (((segmentId segment).mapError .segment).map fun id => .request (.removeFrom id))
  | .receptions => some (((jsonBody CreateReception.reader CreateReception.faults r).mapError
    .body).map fun body => .request (.openAt stamp body.pickupPoint))
  | .products => some (((jsonBody CreateProduct.reader CreateProduct.faults r).mapError .body).map
    fun body => .request (.addTo stamp body.pickupPoint body.type))
  | _ => none

/-- **What a request asks for** of a resource, if that is one of the interface and the method is
one of its own. -/
def inquiry (stamp : Stamp) (r : Request) (x : Resource) : Option Inquiry :=
  match r.method with
  | .get => getInquiry r x
  | .post => postInquiry stamp r x
  | _ => none

/-- The request has succeeded. -/
def Response.Succeeds (r : Response) : Prop := 200 ≤ r.status ∧ r.status < 300

instance (r : Response) : Decidable r.Succeeds := inferInstanceAs (Decidable (_ ∧ _))

end Http

/-! ## Reports as they are shown -/

open Http

/-- What is shown of an outcome. -/
def Outcome.shown : Outcome → Json
  | .point p => PointView.form.write (.of p)
  | .reception r => ReceptionView.form.write (.of r)
  | .product x => ProductView.form.write (.of x)

/-- What is shown of a report, unless the operation has failed. -/
def Report.shown : Report → Except Failure Json
  | .verdict v => v.map Outcome.shown
  | .points answer => answer.map fun ps => PointView.form.list.write (ps.map .of)
  | .overview answer => answer.map fun os => PointOverviewView.form.list.write (os.map .of)

/-- The status of success: created, where the operation makes a record. -/
def Command.status : Command → Nat
  | .request (.create ..) | .request (.openAt ..) | .request (.addTo ..) => 201
  | _ => 200

theorem Command.status_succeeds (c : Command) : 200 ≤ c.status ∧ c.status < 300 := by
  unfold status
  split <;> decide

/-- Data in an envelope, or a failure. -/
def shownResponse (status : Nat) : Except Failure Json → Response
  | .ok data => .json status (.object [("success", .bool true), ("data", data)])
  | .error failure => failureResponse failure

/-- **The answer to a request** that has got a report on its operation. -/
def Command.response (c : Command) (report : Report) : Response :=
  shownResponse c.status report.shown

namespace Http

theorem outcomeResponse_eq {α β : Type} (status : Nat) (form : Form β) (view : α → β)
    (outcome : Except Failure α) : outcomeResponse status form (outcome.map view) =
      shownResponse status (outcome.map fun a => form.write (view a)) := by
  cases outcome <;> rfl

/-! ## The programs of the interface -/

namespace Inquiry
variable {σ : Type} [Storage σ]

/-- **What an inquiry is answered with** over a store. -/
def answer : Inquiry → Program.World σ → Response × Program.World σ
  | .ok c, w => (c.response (c.run w).1, (c.run w).2)
  | .error rejection, w => (rejection.response, w)

/-- The calls that it takes. -/
def exchanges : Inquiry → Program.World σ → List Exchange
  | .ok c, w => c.exchanges w
  | .error _, _ => []

end Inquiry

/-- **A program carries out an inquiry** over every store, call for call. -/
structure CarriesOut (p : Program Response) (i : Inquiry) : Prop where
  run : ∀ {σ : Type} [Storage σ] (w : Program.World σ), p.run w = i.answer w
  exchanges : ∀ {σ : Type} [Storage σ] (w : Program.World σ), p.exchanges w = i.exchanges w

theorem carriesOut_rejection (rejection : Rejection) :
    CarriesOut (.done rejection.response) (.error rejection) := ⟨fun _ => rfl, fun _ => rfl⟩

section Answering
variable {α β : Type} (form : Form β) (view : α → β) (op : Operation α)

/-- An operation is answered with what it comes to. -/
theorem answering_run (status : Nat) {σ : Type} [Storage σ] (w : Program.World σ) :
    (answering status form view op).run w =
      (shownResponse status ((op.program.run w).1.map fun a => form.write (view a)),
        (op.program.run w).2) := by
  rw [answering, Program.run_bind, ← outcomeResponse_eq]
  rfl

theorem answering_exchanges (status : Nat) {σ : Type} [Storage σ] (w : Program.World σ) :
    (answering status form view op).exchanges w = op.program.exchanges w := by
  rw [answering, Program.exchanges_bind]
  exact List.append_nil _

/-- The operation of a request has the same run as the operation that it is made of. -/
theorem carriesOut_request {q : PickupLedger.Request} {outcome : α → Outcome}
    (hq : q.operation = op >>= fun a => pure (outcome a))
    (hshown : ∀ a, (outcome a).shown = form.write (view a)) :
    CarriesOut (answering (Command.request q).status form view op) (.ok (.request q)) := by
  have hprogram : q.program = op.program >>= fun v => .done (v.map outcome) := by
    rw [PickupLedger.Request.program, hq]
    refine bind_congr (m := Program) (x := op.program) fun v => ?_
    cases v <;> rfl
  refine ⟨fun w => ?_, fun w => ?_⟩
  · have hrun : q.program.run w = ((op.program.run w).1.map outcome, (op.program.run w).2) := by
      rw [hprogram, Program.run_bind]
      rfl
    rw [answering_run, Inquiry.answer, Command.run, hrun, Command.response, Report.shown]
    refine congrArg (fun shown => (shownResponse _ shown, _)) ?_
    cases (op.program.run w).1 with
    | error failure => rfl
    | ok a => exact congrArg Except.ok (hshown a).symm
  · rw [answering_exchanges, Inquiry.exchanges, Command.exchanges, hprogram,
      Program.exchanges_bind]
    exact (List.append_nil _).symm

end Answering

theorem carriesOut_listAll :
    CarriesOut (answering 200 PointView.form.list (List.map .of) Service.listPickupPoints)
      (.ok .listAll) :=
  ⟨fun w => answering_run _ _ _ 200 w, fun w => answering_exchanges _ _ _ 200 w⟩

theorem carriesOut_overview (window : DateWindow) (page : Page) :
    CarriesOut (answering 200 PointOverviewView.form.list (List.map .of)
      (Service.overview window page)) (.ok (.overview window page)) :=
  ⟨fun w => answering_run _ _ _ 200 w, fun w => answering_exchanges _ _ _ 200 w⟩

section Reading
variable {r : Request}

theorem carriesOut_withId {segment : String} {next : Uuid → Program Response}
    {command : Uuid → Command} (h : ∀ id, CarriesOut (next id) (.ok (command id))) :
    CarriesOut (withId segment next) (((segmentId segment).mapError .segment).map command) := by
  rw [withId]
  cases segmentId segment with
  | ok id => exact h id
  | error fault => exact carriesOut_rejection (.segment fault)

theorem carriesOut_withBody {α : Type} {reader : Reader α} {faults : α → List FieldFault}
    {next : α → Program Response} {command : α → Command}
    (h : ∀ body, CarriesOut (next body) (.ok (command body))) :
    CarriesOut (withBody reader faults r next)
      (((jsonBody reader faults r).mapError .body).map command) := by
  rw [withBody]
  cases jsonBody reader faults r with
  | ok body => exact h body
  | error fault => exact carriesOut_rejection (.body fault)

theorem carriesOut_withQuery {next : OverviewParams → Program Response}
    {command : OverviewParams → Command}
    (h : ∀ params, CarriesOut (next params) (.ok (command params))) :
    CarriesOut (withQuery r next)
      (((OverviewParams.ofQuery (r.query.getD "")).mapError .query).map command) := by
  rw [withQuery]
  cases OverviewParams.ofQuery (r.query.getD "") with
  | ok params => exact h params
  | error problem => exact carriesOut_rejection (.query problem)

/-- **A request to read** is carried out as what it asks for. -/
theorem getProgram_carriesOut (r : Request) (x : Resource) :
    Option.Rel CarriesOut (getProgram r x) (getInquiry r x) := by
  cases x with
  | points => exact .some (carriesOut_withQuery fun params => carriesOut_overview ..)
  | allPoints => exact .some carriesOut_listAll
  | point segment =>
    exact .some (carriesOut_withId fun id =>
      carriesOut_request (q := .get id) _ _ _ rfl fun _ => rfl)
  | _ => exact .none

/-- **A request to write** is carried out as what it asks for. -/
theorem postProgram_carriesOut (stamp : Stamp) (r : Request) (x : Resource) :
    Option.Rel CarriesOut (postProgram stamp r x) (postInquiry stamp r x) := by
  cases x with
  | points =>
    exact .some (carriesOut_withBody fun body => carriesOut_request
      (q := .create stamp body.id body.city body.registered) _ _ _ rfl fun _ => rfl)
  | closing segment =>
    exact .some (carriesOut_withId fun id =>
      carriesOut_request (q := .closeAt id) _ _ _ rfl fun _ => rfl)
  | removal segment =>
    exact .some (carriesOut_withId fun id =>
      carriesOut_request (q := .removeFrom id) _ _ _ rfl fun _ => rfl)
  | receptions =>
    exact .some (carriesOut_withBody fun body =>
      carriesOut_request (q := .openAt stamp body.pickupPoint) _ _ _ rfl fun _ => rfl)
  | products =>
    exact .some (carriesOut_withBody fun body =>
      carriesOut_request (q := .addTo stamp body.pickupPoint body.type) _ _ _ rfl fun _ => rfl)
  | _ => exact .none

end Reading

/-! ## The server -/

section Carried
variable {p? : Option (Program Response)} {i : Inquiry}

theorem carried_of_some (h : Option.Rel CarriesOut p? (some i)) :
    ∃ p, p? = some p ∧ CarriesOut p i := by
  cases h with
  | some hp => exact ⟨_, rfl, hp⟩

theorem carried_of_none (h : Option.Rel CarriesOut p? none) : p? = none := by
  cases h
  rfl

end Carried

theorem getProgram_none {r : Request} {x : Resource} (h : getInquiry r x = none) :
    getProgram r x = none := carried_of_none (h ▸ getProgram_carriesOut r x)

theorem postProgram_none {stamp : Stamp} {r : Request} {x : Resource}
    (h : postInquiry stamp r x = none) : postProgram stamp r x = none :=
  carried_of_none (h ▸ postProgram_carriesOut stamp r x)

theorem canGet_of_getInquiry {r : Request} {x : Resource} {i : Inquiry}
    (h : getInquiry r x = some i) : x.canGet = true := by
  cases x <;> first | rfl | cases h

namespace Server
variable {σ : Type} [Storage σ] [Monitored σ] {s : Server σ} {m : Moment} {r : Request}
  {x : Resource} {i : Inquiry}

/-- The server after what was asked for has been carried out. -/
def after (s : Server σ) (i : Inquiry) : Server σ := { s with world := (i.answer s.world).2 }

omit [Monitored σ] in
theorem running_eq {p : Program Response} (h : CarriesOut p i) :
    s.running p = ((i.answer s.world).1, s.after i) := by
  rw [running, h.run]
  rfl

theorem read_eq (h : getInquiry r x = some i) :
    s.read m r x = ((i.answer s.world).1, s.after i) := by
  obtain ⟨p, hp, hcarries⟩ := carried_of_some (h ▸ getProgram_carriesOut r x)
  rw [read, if_pos (canGet_of_getInquiry h), hp]
  exact running_eq hcarries

theorem read_of_none (h : getInquiry r x = none) : (s.read m r x).2 = s := by
  rw [read, getProgram_none h]
  split <;> rfl

omit [Monitored σ] in
/-- A request to write is carried out. -/
theorem post_eq (h : postInquiry m.stamp r x = some i) : ∃ p, postProgram m.stamp r x = some p ∧
    s.running p = ((i.answer s.world).1, s.after i) := by
  obtain ⟨p, hp, hcarries⟩ := carried_of_some (h ▸ postProgram_carriesOut m.stamp r x)
  exact ⟨p, hp, running_eq hcarries⟩

theorem handle_inquiry (h : inquiry m.stamp r x = some i) :
    s.handle m r x = ((i.answer s.world).1, s.after i) := by
  rw [inquiry] at h
  rw [handle]
  split at h
  · next hmethod =>
    simp only [hmethod]
    exact read_eq h
  · next hmethod =>
    obtain ⟨p, hp, hrun⟩ := post_eq (s := s) h
    simp only [hmethod, hp]
    exact hrun
  · cases h

/-- **The answer to a request of the interface** is that to what it asks for. -/
theorem respond_inquiry (hx : Resource.ofPath s.metrics r.path = some x)
    (h : inquiry m.stamp r x = some i) : s.respond m r =
      (finished m r (i.answer s.world).1, (s.after i).counted r x (i.answer s.world).1) := by
  have hmethod : r.method ≠ .options := fun heq => by
    rw [inquiry, heq] at h
    cases h
  simp only [respond, if_neg hmethod, hx, handle_inquiry h]

omit [Storage σ] [Monitored σ] in
theorem counted_world (response : Response) : (s.counted r x response).world = s.world := by
  rw [counted]
  split <;> rfl

/-- The inquiry is what a request to read, or to write, asks for. -/
def Asks (stamp : Stamp) (r : Request) (i : Inquiry) : Prop :=
  (∃ x, getInquiry r x = some i) ∨ (r.method = .post ∧ ∃ x, postInquiry stamp r x = some i)

/-- What is asked of a resource is carried out, or nothing happens. -/
theorem handle_world (s : Server σ) (m : Moment) (r : Request) (x : Resource) :
    (s.handle m r x).2.world = s.world ∨ ∃ i, Asks m.stamp r i ∧
      (s.handle m r x).2.world = (i.answer s.world).2 ∧
        (s.handle m r x).1.status = (i.answer s.world).1.status := by
  have hread : (s.read m r x).2.world = s.world ∨ ∃ i, Asks m.stamp r i ∧
      (s.read m r x).2.world = (i.answer s.world).2 ∧
        (s.read m r x).1.status = (i.answer s.world).1.status := by
    cases hi : getInquiry r x with
    | none => exact .inl (congrArg world (read_of_none hi))
    | some i => exact .inr ⟨i, .inl ⟨x, hi⟩, by rw [read_eq hi]; rfl, by rw [read_eq hi]⟩
  rw [handle]
  split
  · exact hread
  · exact hread
  · next hmethod =>
    cases hi : postInquiry m.stamp r x with
    | none =>
      rw [postProgram_none hi]
      exact .inl rfl
    | some i =>
      obtain ⟨p, hp, hrun⟩ := post_eq (s := s) hi
      refine .inr ⟨i, .inr ⟨hmethod, x, hi⟩, ?_⟩
      simp only [hp, hrun, after, and_self]
  · exact .inl rfl

/-- **A request changes the world by what it asks for**, or not at all. -/
theorem respond_world (s : Server σ) (m : Moment) (r : Request) :
    (s.respond m r).2.world = s.world ∨ ∃ i, Asks m.stamp r i ∧
      (s.respond m r).2.world = (i.answer s.world).2 ∧
        (s.respond m r).1.status = (i.answer s.world).1.status := by
  rw [respond]
  dsimp only
  split
  · exact .inl rfl
  · split
    · exact .inl rfl
    · next x hx =>
      rw [counted_world]
      exact s.handle_world m r x

end Server
end Http
end PickupLedger
