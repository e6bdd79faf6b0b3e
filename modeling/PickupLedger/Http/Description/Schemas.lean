import PickupLedger.Json.Value

/-!
# Schemas

What the bodies of requests and answers look like, told as JSON schemas.  Each record
that the interface takes or shows has a schema under a name; an answer is the envelope
around one of them.
-/

namespace PickupLedger.Http.Description

/-! ## Building blocks -/

/-- A plain type: its name, and how its values are written if that is fixed. -/
structure Plain where
  type : String
  format : Option String
  /-- No values below zero. -/
  unsigned : Bool

namespace Plain

/-- Any text. -/
def string : Plain := ⟨"string", none, false⟩

/-- An identifier. -/
def uuid : Plain := ⟨"string", some "uuid", false⟩

/-- An instant. -/
def instant : Plain := ⟨"string", some "date-time", false⟩

/-- A truth value. -/
def bool : Plain := ⟨"boolean", none, false⟩

/-- A number of rows or of a page. -/
def count : Plain := ⟨"integer", some "int32", true⟩

/-- A span of time in whole units. -/
def duration : Plain := ⟨"integer", some "int64", true⟩

/-- The members of a schema next to its type. -/
def details (p : Plain) : List (String × Json) :=
  (match p.format with
    | some format => [("format", .string format)]
    | none => []) ++
  (if p.unsigned then [("minimum", .nat 0)] else [])

/-- The schema of values that are there. -/
def schema (p : Plain) : Json := .object (("type", .string p.type) :: p.details)

/-- The schema of values that may be null. -/
def orNull (p : Plain) : Json :=
  .object (("type", .array [.string p.type, .string "null"]) :: p.details)

end Plain

/-- A schema with a description in front of its members. -/
def described (text : String) : Json → Json
  | .object members => .object (("description", .string text) :: members)
  | schema => schema

/-- The schema of a name. -/
def reference (name : String) : Json :=
  .object [("$ref", .string ("#/components/schemas/" ++ name))]

/-- Lists of a schema. -/
def listOf (items : Json) : Json := .object [("type", .string "array"), ("items", items)]

/-- A property of a record. -/
structure Property where
  key : String
  required : Bool
  schema : Json

/-- A property that is always there. -/
def always (key : String) (schema : Json) : Property := ⟨key, true, schema⟩

/-- A property that may be absent. -/
def sometimes (key : String) (schema : Json) : Property := ⟨key, false, schema⟩

/-- The schema of a record. -/
def record (properties : List Property) : Json :=
  .object
    [("type", .string "object"),
      ("required",
        .ofList (fun p => .string p.key) (properties.filter Property.required)),
      ("properties", .object (properties.map fun p => (p.key, p.schema)))]

/-! ## Records -/

/-- A pickup point. -/
def point : Json :=
  record
    [always "id" Plain.uuid.schema,
      always "registrationDate" Plain.instant.schema,
      sometimes "city" Plain.string.orNull]

/-- A reception. -/
def reception : Json :=
  record
    [always "id" Plain.uuid.schema,
      always "dateTime" Plain.instant.schema,
      always "pvzId" Plain.uuid.schema,
      sometimes "status"
        (described "\x60in_progress\x60 or \x60closed\x60" Plain.string.orNull)]

/-- A product. -/
def product : Json :=
  record
    [always "id" Plain.uuid.schema,
      always "dateTime" Plain.instant.schema,
      sometimes "type" Plain.string.orNull,
      always "receptionId" Plain.uuid.schema]

/-- A reception with its products. -/
def receptionOverview : Json :=
  record
    [always "reception" (reference "ReceptionDto"),
      always "products" (listOf (reference "ProductDto"))]

/-- A pickup point with its receptions. -/
def pointOverview : Json :=
  record
    [always "pvz" (reference "PvzDto"),
      always "receptions" (listOf (reference "ReceptionOverviewDto"))]

/-- A pickup point to be registered. -/
def createPoint : Json :=
  record
    [always "id" (described "Caller-assigned identifier" Plain.uuid.schema),
      always "city" Plain.string.schema,
      sometimes "registrationDate" (described "Defaults to the current time" Plain.instant.orNull)]

/-- A reception to be opened. -/
def createReception : Json := record [always "pvzId" Plain.uuid.schema]

/-- A product to be added. -/
def createProduct : Json :=
  record
    [always "type" (described "электроника, одежда or обувь" Plain.string.schema),
      always "pvzId" Plain.uuid.schema]

/-- The health of one part of the service. -/
def componentHealth : Json :=
  described "Component health status" <|
    record
      [always "status" Plain.string.schema,
        sometimes "latency_ms" Plain.duration.orNull]

/-- The health of the service. -/
def health : Json :=
  described "Service health response" <|
    record
      [always "status" Plain.string.schema,
        always "version" Plain.string.schema,
        always "uptime_seconds" Plain.duration.schema,
        always "database" (reference "ComponentHealth")]

/-- The envelope around data. -/
def envelope (data : Json) : Json :=
  described
    ("Стандартная обёртка ответа API\n\nВсе REST-эндпоинты возвращают данные в этой обёртке.\n" ++
      "При успехе: \x60\x7b\x22success\x22: true, \x22data\x22: \x7b...\x7d\x7d\x60,\n" ++
      "при ошибке: \x60\x7b\x22success\x22: false, \x22error\x22: \x22описание\x22\x7d\x60.") <|
    record
      [always "success" (described "\x60true\x60 если запрос выполнен успешно" Plain.bool.schema),
        sometimes "data" data,
        sometimes "error"
          (described "Описание ошибки. \x60null\x60 при успехе" Plain.string.orNull)]

/-- **All schemas** under their names. -/
def schemas : List (String × Json) :=
  [("ApiResponse_ProductDto", envelope product),
    ("ApiResponse_PvzDto", envelope point),
    ("ApiResponse_ReceptionDto", envelope reception),
    ("ApiResponse_String", envelope Plain.string.schema),
    ("ApiResponse_Vec_PvzDto", envelope (listOf point)),
    ("ApiResponse_Vec_PvzOverviewDto", envelope (listOf pointOverview)),
    ("ComponentHealth", componentHealth),
    ("CreateProductRequest", createProduct),
    ("CreatePvzRequest", createPoint),
    ("CreateReceptionRequest", createReception),
    ("HealthResponse", health),
    ("ProductDto", product),
    ("PvzDto", point),
    ("PvzOverviewDto", pointOverview),
    ("ReceptionDto", reception),
    ("ReceptionOverviewDto", receptionOverview)]

end PickupLedger.Http.Description
