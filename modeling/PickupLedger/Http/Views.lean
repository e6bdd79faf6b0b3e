import PickupLedger.Json.Form
import PickupLedger.Service.Overview

/-!
# What the interface shows

A view is a record as the interface shows it: names in place of references, keys in
camel case.  Every answer is wrapped in an envelope that says whether the request has
succeeded, with the data or with an error.
-/

namespace PickupLedger.Http

open Json

/-- **A pickup point** as it is shown. -/
structure PointView where
  id : Uuid
  registered : Instant
  city : Option String
  deriving DecidableEq, Repr

/-- **A reception** as it is shown. -/
structure ReceptionView where
  id : Uuid
  opened : Instant
  pickupPoint : Uuid
  status : Option String
  deriving DecidableEq, Repr

/-- **A product** as it is shown. -/
structure ProductView where
  id : Uuid
  added : Instant
  type : Option String
  reception : Uuid
  deriving DecidableEq, Repr

/-- A reception with its products. -/
structure ReceptionOverviewView where
  reception : ReceptionView
  products : List ProductView
  deriving DecidableEq, Repr

/-- A pickup point with its receptions. -/
structure PointOverviewView where
  point : PointView
  receptions : List ReceptionOverviewView
  deriving DecidableEq, Repr

/-- **An answer**: data, or an error. -/
structure Envelope (α : Type) where
  success : Bool
  data : Option α
  error : Option String
  deriving DecidableEq, Repr

/-! ## Records as they are shown -/

/-- The view of a pickup point. -/
def PointView.of (p : PickupPoint) : PointView := ⟨p.id, p.registered, p.cityName?⟩

/-- The view of a reception. -/
def ReceptionView.of (r : Reception) : ReceptionView :=
  ⟨r.id, r.opened, r.pickupPoint, r.status.map StatusKind.name⟩

/-- The view of a product. -/
def ProductView.of (p : Product) : ProductView := ⟨p.id, p.added, p.typeName, p.reception⟩

/-- The view of a reception with its products. -/
def ReceptionOverviewView.of (r : ReceptionOverview) : ReceptionOverviewView :=
  ⟨.of r.reception, r.products.map .of⟩

/-- The view of a pickup point with its receptions. -/
def PointOverviewView.of (o : PickupPointOverview) : PointOverviewView :=
  ⟨.of o.point, o.receptions.map .of⟩

/-- The answer to a request that has succeeded. -/
def Envelope.ok {α : Type} (data : α) : Envelope α := ⟨true, some data, none⟩

/-- The answer to a request that has failed. -/
def Envelope.failed {α : Type} (error : String) : Envelope α := ⟨false, none, some error⟩

/-! ## Forms -/

/-- The form of a pickup point's view. -/
def PointView.form : Form PointView where
  write v := .object
    [("id", Form.uuid.write v.id),
      ("registrationDate", Form.instant.write v.registered),
      ("city", Form.string.nullable.write v.city)]
  reader := Shape.read "PvzDto"
    (PointView.mk <$> .required "id" .uuid <*> .required "registrationDate" .instant <*>
      .optional "city" .string)

/-- The form of a reception's view. -/
def ReceptionView.form : Form ReceptionView where
  write v := .object
    [("id", Form.uuid.write v.id),
      ("dateTime", Form.instant.write v.opened),
      ("pvzId", Form.uuid.write v.pickupPoint),
      ("status", Form.string.nullable.write v.status)]
  reader := Shape.read "ReceptionDto"
    (ReceptionView.mk <$> .required "id" .uuid <*> .required "dateTime" .instant <*>
      .required "pvzId" .uuid <*> .optional "status" .string)

/-- The form of a product's view. -/
def ProductView.form : Form ProductView where
  write v := .object
    [("id", Form.uuid.write v.id),
      ("dateTime", Form.instant.write v.added),
      ("type", Form.string.nullable.write v.type),
      ("receptionId", Form.uuid.write v.reception)]
  reader := Shape.read "ProductDto"
    (ProductView.mk <$> .required "id" .uuid <*> .required "dateTime" .instant <*>
      .optional "type" .string <*> .required "receptionId" .uuid)

/-- The form of a reception's view with its products. -/
def ReceptionOverviewView.form : Form ReceptionOverviewView where
  write v := .object
    [("reception", ReceptionView.form.write v.reception),
      ("products", ProductView.form.list.write v.products)]
  reader := Shape.read "ReceptionOverviewDto"
    (ReceptionOverviewView.mk <$> .required "reception" ReceptionView.form.reader <*>
      .required "products" ProductView.form.reader.list)

/-- The form of a pickup point's view with its receptions. -/
def PointOverviewView.form : Form PointOverviewView where
  write v := .object
    [("pvz", PointView.form.write v.point),
      ("receptions", ReceptionOverviewView.form.list.write v.receptions)]
  reader := Shape.read "PvzOverviewDto"
    (PointOverviewView.mk <$> .required "pvz" PointView.form.reader <*>
      .required "receptions" ReceptionOverviewView.form.reader.list)

/-- The form of an answer: an error that is not there is left out. -/
def Envelope.form {α : Type} (data : Form α) : Form (Envelope α) where
  write e := .object
    (("success", .bool e.success) :: ("data", data.nullable.write e.data) ::
      (match e.error with
        | some text => [("error", .string text)]
        | none => []))
  reader := Shape.read "ApiResponse"
    (Envelope.mk <$> .required "success" .bool <*> .optional "data" data.reader <*>
      .optional "error" .string)

end PickupLedger.Http
