import PickupLedger.Json.Shape
import PickupLedger.PickupPoint
import PickupLedger.Reception
import PickupLedger.Product
import PickupLedger.Time.Written

/-!
# The JSON form of records

A `Form` says how the values of a type are written as JSON and read back.  Here are
the forms of the records themselves; a reference that has not been resolved is null.
-/

namespace PickupLedger

namespace Json

/-- **A JSON form** of a type. -/
structure Form (α : Type) where
  write : α → Json
  reader : Reader α

namespace Form

variable {α : Type}

/-- Strings. -/
def string : Form String := ⟨.string, .string⟩

/-- Booleans. -/
def bool : Form Bool := ⟨.bool, .bool⟩

/-- Reference numbers. -/
def refId : Form RefId := ⟨fun id => .int id.toInt, .int32⟩

/-- Identifiers. -/
def uuid : Form Uuid := ⟨fun u => .string u.text, .uuid⟩

/-- Instants. -/
def instant : Form Instant := ⟨fun i => .string i.text, .instant⟩

/-- Statuses, by their names. -/
def status : Form StatusKind := ⟨fun k => .string k.name, .status⟩

/-- Values or null. -/
def nullable (f : Form α) : Form (Option α) := ⟨.ofOption f.write, f.reader.nullable⟩

/-- Lists of values. -/
def list (f : Form α) : Form (List α) := ⟨.ofList f.write, f.reader.list⟩

end Form
end Json

open Json

/-- The form of a city. -/
def City.form : Form City where
  write c := .object [("id", Form.refId.write c.id), ("name", .string c.name)]
  reader := Shape.read "City"
    (City.mk <$> .required "id" .int32 <*> .required "name" .string)

/-- The form of a product type. -/
def ProductType.form : Form ProductType where
  write t := .object [("id", Form.refId.write t.id), ("name", .string t.name)]
  reader := Shape.read "ProductType"
    (ProductType.mk <$> .required "id" .int32 <*> .required "name" .string)

/-- The form of a status. -/
def Status.form : Form Status where
  write s := .object [("id", Form.refId.write s.id), ("kind", Form.status.write s.kind)]
  reader := Shape.read "ReceptionStatus"
    (Status.mk <$> .required "id" .int32 <*> .required "kind" .status)

/-- The form of a pickup point. -/
def PickupPoint.form : Form PickupPoint where
  write p := .object
    [("id", Form.uuid.write p.id),
      ("registration_date", Form.instant.write p.registered),
      ("city_id", Form.refId.write p.cityId),
      ("city", City.form.nullable.write p.city)]
  reader := Shape.read "PickupPoint"
    (PickupPoint.mk <$> .required "id" .uuid <*> .required "registration_date" .instant <*>
      .required "city_id" .int32 <*> .optional "city" City.form.reader)

/-- The form of a reception. -/
def Reception.form : Form Reception where
  write r := .object
    [("id", Form.uuid.write r.id),
      ("pickup_point_id", Form.uuid.write r.pickupPoint),
      ("date_time", Form.instant.write r.opened),
      ("status_id", Form.refId.write r.statusId),
      ("status", Form.status.nullable.write r.status)]
  reader := Shape.read "Reception"
    (Reception.mk <$> .required "id" .uuid <*> .required "pickup_point_id" .uuid <*>
      .required "date_time" .instant <*> .required "status_id" .int32 <*>
      .optional "status" .status)

/-- The form of a product. -/
def Product.form : Form Product where
  write p := .object
    [("id", Form.uuid.write p.id),
      ("date_time", Form.instant.write p.added),
      ("type_id", Form.refId.write p.typeId),
      ("product_type", Form.string.nullable.write p.typeName),
      ("reception_id", Form.uuid.write p.reception)]
  reader := Shape.read "Product"
    (Product.mk <$> .required "id" .uuid <*> .required "date_time" .instant <*>
      .required "type_id" .int32 <*> .optional "product_type" .string <*>
      .required "reception_id" .uuid)

end PickupLedger
