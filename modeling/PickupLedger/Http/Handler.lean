import PickupLedger.Http.MediaType
import PickupLedger.Http.Message
import PickupLedger.Http.Requests
import PickupLedger.Http.Resource
import PickupLedger.Http.Views
import PickupLedger.Service.Receptions

/-!
# Answering requests of the interface

A request is read, its operation is run, and the outcome is put into an envelope.
What cannot be read is told before anything is asked of the store, as a bad request:
a body (`jsonBody`), a query (`overviewParams`), an identifier in the path, which is
the one fault that is told as plain text.  A failure has the status of its kind; an
internal one is told without its words.
-/

namespace PickupLedger.Http

open Json

/-! ## Outcomes -/

/-- The status of a kind of failure. -/
def statusOf : FailureKind → Nat
  | .notFound => 404
  | .conflict => 409
  | .validation => 400
  | .internal => 500

/-- What is told of a failure. -/
def publicMessage (failure : Failure) : String :=
  if failure.kind = .internal then "Internal server error" else failure.message

/-- An answer with an error. -/
def errorResponse (status : Nat) (error : String) : Response :=
  .json status ((Envelope.form Form.string).write (.failed error))

/-- The answer to a request that has failed. -/
def failureResponse (failure : Failure) : Response :=
  errorResponse (statusOf failure.kind) (publicMessage failure)

/-- The answer to the outcome of an operation. -/
def outcomeResponse {α : Type} (status : Nat) (form : Form α) : Except Failure α → Response
  | .ok data => .json status ((Envelope.form form).write (.ok data))
  | .error failure => failureResponse failure

/-- **An operation answered**: with its result as it is shown, or with its failure. -/
def answering {α β : Type} (status : Nat) (form : Form β) (view : α → β) (op : Operation α) :
    Program Response := do
  let outcome ← op.program
  return outcomeResponse status form (outcome.map view)

/-! ## Reading a request -/

/-- The most bytes a body may have. -/
def maxBody : Nat := 2097152

/-- Why a body has not been accepted. -/
inductive BodyFault where
  | notJson
  | tooLarge
  | problem (problem : Problem)
  | invalid (faults : List FieldFault)

/-- The words of a fault behind its place. -/
def placed (path : List Place) (misfit : Misfit) : String :=
  if path.isEmpty then misfit.message else pathText path ++ ": " ++ misfit.message

/-- The words of a fault. -/
def BodyFault.message : BodyFault → String
  | .notJson => "Invalid JSON: Expected request with \x60Content-Type: application/json\x60"
  | .tooLarge => "Invalid JSON: Failed to buffer the request body: length limit exceeded"
  | .problem .malformed => "Invalid JSON: Failed to parse the request body as JSON"
  | .problem (.unfit path misfit) =>
    "Invalid JSON: Failed to deserialize the JSON body into the target type: " ++ placed path misfit
  | .invalid faults => "; ".intercalate (faults.map FieldFault.message)

/-- The request says that its body is JSON. -/
def saysJson (r : Request) : Bool :=
  match r.header? "content-type" with
  | some value => isPlain value && MediaType.isJson value
  | none => false

/-- **The body of a request**: of the right type, not too large, JSON that fits, and
without faults in its fields. -/
def jsonBody {α : Type} (reader : Reader α) (faults : α → List FieldFault) (r : Request) :
    Except BodyFault α :=
  if !saysJson r then .error .notJson
  else if maxBody < r.body.bytes.length then .error .tooLarge
  else
    match reader.runBytes r.body.bytes with
    | .error problem => .error (.problem problem)
    | .ok value => if (faults value).isEmpty then .ok value else .error (.invalid (faults value))

/-- The words of a problem with a query. -/
def queryMessage : Problem → String
  | .malformed => "Invalid query: Failed to deserialize query string"
  | .unfit path misfit =>
    "Invalid query: Failed to deserialize query string: " ++ placed path misfit

/-- A request with a body that is accepted, or told why not. -/
def withBody {α : Type} (reader : Reader α) (faults : α → List FieldFault) (r : Request)
    (next : α → Program Response) : Program Response :=
  match jsonBody reader faults r with
  | .ok value => next value
  | .error fault => .done (errorResponse 400 fault.message)

/-- A request with a query that is accepted, or told why not. -/
def withQuery (r : Request) (next : OverviewParams → Program Response) : Program Response :=
  match OverviewParams.ofQuery (r.query.getD "") with
  | .ok params => next params
  | .error problem => .done (errorResponse 400 (queryMessage problem))

/-- A request whose path has an identifier, or told why not. -/
def withId (segment : String) (next : Uuid → Program Response) : Program Response :=
  match segmentId segment with
  | .ok id => next id
  | .error fault => .done (.text 400 "text/plain; charset=utf-8" fault.message)

/-! ## The interface -/

/-- The program that answers a request to read, if the resource can be read. -/
def getProgram (r : Request) : Resource → Option (Program Response)
  | .points => some <| withQuery r fun params =>
    answering 200 PointOverviewView.form.list (List.map .of)
      (Service.overview params.window params.toPage)
  | .allPoints => some <|
    answering 200 PointView.form.list (List.map .of) Service.listPickupPoints
  | .point segment => some <| withId segment fun id =>
    answering 200 PointView.form .of (Service.getPickupPoint id)
  | _ => none

/-- The program that answers a request to write, if the resource can be posted to. -/
def postProgram (stamp : Stamp) (r : Request) : Resource → Option (Program Response)
  | .points => some <| withBody CreatePoint.reader CreatePoint.faults r fun body =>
    answering 201 PointView.form .of
      (Service.createPickupPoint stamp body.id body.city body.registered)
  | .closing segment => some <| withId segment fun id =>
    answering 200 ReceptionView.form .of (Service.closeReception id)
  | .removal segment => some <| withId segment fun id =>
    answering 200 ProductView.form .of (Service.removeLastProduct id)
  | .receptions => some <| withBody CreateReception.reader CreateReception.faults r fun body =>
    answering 201 ReceptionView.form .of (Service.openReception stamp body.pickupPoint)
  | .products => some <| withBody CreateProduct.reader CreateProduct.faults r fun body =>
    answering 201 ProductView.form .of (Service.addProduct stamp body.pickupPoint body.type)
  | _ => none

end PickupLedger.Http
