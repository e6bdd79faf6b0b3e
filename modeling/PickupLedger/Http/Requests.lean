import PickupLedger.Http.Percent
import PickupLedger.Page
import PickupLedger.Json.Form
import PickupLedger.Text.Integer

/-!
# What the interface is asked

The bodies of the three requests that create something, and the parameters of the
overview, which come in a query or as JSON.  A body has more to it than its form:
a name in it must not be empty (`CreatePoint.faults`, `CreateProduct.faults`).
-/

namespace PickupLedger.Http

open Json

/-- A pickup point to be registered. -/
structure CreatePoint where
  id : Uuid
  city : String
  registered : Option Instant
  deriving DecidableEq, Repr

/-- A reception to be opened. -/
structure CreateReception where
  pickupPoint : Uuid
  deriving DecidableEq, Repr

/-- A product to be added. -/
structure CreateProduct where
  type : String
  pickupPoint : Uuid
  deriving DecidableEq, Repr

/-- What is wrong with a field of a body, and what kind of fault it is. -/
structure FieldFault where
  field : String
  text : String
  code : String
  deriving DecidableEq, Repr

namespace FieldFault

/-- The words of a fault. -/
def message (f : FieldFault) : String := f.field ++ ": " ++ f.text

/-- The fault of a name that is empty. -/
def ofEmpty (value field text : String) : List FieldFault :=
  if value.isEmpty then [⟨field, text, "length"⟩] else []

end FieldFault

namespace CreatePoint

/-- A pickup point from JSON. -/
def reader : Reader CreatePoint :=
  Shape.read "CreatePvzRequest"
    (CreatePoint.mk <$> .required "id" .uuid <*> .required "city" .string <*>
      .optional "registrationDate" .instant)

/-- What is wrong with a body. -/
def faults (b : CreatePoint) : List FieldFault := FieldFault.ofEmpty b.city "city" "city is required"

end CreatePoint

namespace CreateReception

/-- A reception from JSON. -/
def reader : Reader CreateReception :=
  Shape.read "CreateReceptionRequest" (CreateReception.mk <$> .required "pvzId" .uuid)

/-- Nothing is wrong with a body that could be read. -/
def faults (_ : CreateReception) : List FieldFault := []

end CreateReception

namespace CreateProduct

/-- A product from JSON. -/
def reader : Reader CreateProduct :=
  Shape.read "CreateProductRequest"
    (CreateProduct.mk <$> .required "type" .string <*> .required "pvzId" .uuid)

/-- What is wrong with a body. -/
def faults (b : CreateProduct) : List FieldFault :=
  FieldFault.ofEmpty b.type "product_type" "product type is required"

end CreateProduct

/-! ## The parameters of the overview -/

/-- **What part of the overview is asked for.** -/
structure OverviewParams where
  start : Option Instant
  stop : Option Instant
  page : UInt32
  limit : UInt32
  deriving DecidableEq, Repr

/-- The parameters a query has given so far. -/
structure Given where
  start : Option Instant
  stop : Option Instant
  page : Option UInt32
  limit : Option UInt32

/-- No parameters. -/
def Given.none : Given := ⟨.none, .none, .none, .none⟩

/-- A number of a query, with or without a plus in front. -/
def readNumber (text : String) : Except Misfit UInt32 :=
  match Text.readNatural 0xffffffff text with
  | .ok n => .ok (.ofNat n)
  | .error fault => .error (.other fault.message)

/-- An instant of a query. -/
def readInstant (text : String) : Except Misfit Instant :=
  match Instant.ofString? text with
  | some i => .ok i
  | none => .error .notAnInstant

/-- A parameter that was not given before. -/
def fresh {α : Type} (key : String) (before : Option α) (value : Except Misfit α) :
    Except Problem α :=
  if before.isSome then .error (.unfit [] (.repeated key))
  else
    match value with
    | .ok a => .ok a
    | .error m => .error (.unfit [.member key] m)

/-- The parameters with one more; one that is not known counts for nothing. -/
def Given.add (g : Given) (pair : String × String) : Except Problem Given :=
  match pair.1 with
  | "startDate" =>
    (fresh "startDate" g.start (readInstant pair.2)).map fun v => { g with start := some v }
  | "endDate" =>
    (fresh "endDate" g.stop (readInstant pair.2)).map fun v => { g with stop := some v }
  | "page" => (fresh "page" g.page (readNumber pair.2)).map fun v => { g with page := some v }
  | "limit" => (fresh "limit" g.limit (readNumber pair.2)).map fun v => { g with limit := some v }
  | _ => .ok g

namespace OverviewParams

/-- The parameters of a query, in the order in which it gives them. -/
def ofQuery (query : String) : Except Problem OverviewParams :=
  ((queryPairs query).foldlM Given.add Given.none).map fun g =>
    ⟨g.start, g.stop, g.page.getD Page.first.number, g.limit.getD Page.first.limit⟩

/-- The parameters from JSON. -/
def reader : Reader OverviewParams :=
  Shape.read "ListPvzParams"
    (OverviewParams.mk <$> .optional "startDate" .instant <*> .optional "endDate" .instant <*>
      .defaulted "page" .uint32 Page.first.number <*>
      .defaulted "limit" .uint32 Page.first.limit)

/-- The page that is asked for. -/
def toPage (p : OverviewParams) : Page := ⟨p.page, p.limit⟩

/-- The window that is asked for. -/
def window (p : OverviewParams) : DateWindow := ⟨p.start, p.stop⟩

end OverviewParams
end PickupLedger.Http
