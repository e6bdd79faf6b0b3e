import PickupLedger.Http.Description.Schemas

/-!
# The description of the interface

The document that tells the interface to its users, in the form of OpenAPI 3.1: the
paths with their operations, what these take and answer, and the schemas of both
(`Description.document`).
-/

namespace PickupLedger.Http.Description

/-! ## Operations -/

/-- A body of JSON in a schema. -/
def content (schema : String) : String × Json :=
  ("content", .object [("application/json", .object [("schema", reference schema)])])

/-- An answer: its status, what it means, and the schema of its body if that is told. -/
structure Outcome where
  status : String
  description : String
  schema : Option String

/-- The JSON of an answer. -/
def Outcome.json (o : Outcome) : String × Json :=
  let body :=
    match o.schema with
    | some schema => [content schema]
    | none => []
  (o.status, .object (("description", .string o.description) :: body))

/-- A parameter of an operation. -/
structure Parameter where
  name : String
  /-- It stands in the path; otherwise in the query. -/
  inPath : Bool
  description : String
  type : Plain

/-- The JSON of a parameter; one in the path is required. -/
def Parameter.json (p : Parameter) : Json :=
  .object
    [("name", .string p.name),
      ("in", .string (if p.inPath then "path" else "query")),
      ("description", .string p.description),
      ("required", .bool p.inPath),
      ("schema", p.type.schema)]

/-- An operation of the interface. -/
structure Endpoint where
  path : String
  method : String
  name : String
  tag : String
  parameters : List Parameter
  /-- The schema of the body it takes, if it takes one. -/
  body : Option String
  outcomes : List Outcome

/-- The JSON of an operation. -/
def Endpoint.json (e : Endpoint) : Json :=
  let parameters :=
    if e.parameters.isEmpty then [] else [("parameters", Json.ofList Parameter.json e.parameters)]
  let body :=
    match e.body with
    | some schema => [("requestBody", Json.object [content schema, ("required", .bool true)])]
    | none => []
  .object
    ([("tags", .array [.string e.tag]), ("operationId", .string e.name)] ++ parameters ++ body ++
      [("responses", .object (e.outcomes.map Outcome.json))])

/-- The identifier of a pickup point in a path. -/
def pointId : Parameter := ⟨"pvz_id", true, "Pickup point id", .uuid⟩

/-- The parameters of the overview. -/
def overviewParameters : List Parameter :=
  [⟨"startDate", false, "Inclusive lower bound on reception date (RFC 3339)", .instant⟩,
    ⟨"endDate", false, "Inclusive upper bound on reception date (RFC 3339)", .instant⟩,
    ⟨"page", false, "Page number, starting at 1", .count⟩,
    ⟨"limit", false, "Page size, 1..=30", .count⟩]

/-- **The operations**, those of a path next to each other. -/
def endpoints : List Endpoint :=
  [⟨"/health", "get", "health_check", "Health", [], none,
      [⟨"200", "Service is healthy", some "HealthResponse"⟩,
        ⟨"503", "Service is degraded", some "HealthResponse"⟩]⟩,
    ⟨"/api/v1/pvz", "get", "list_pvz", "PVZ", overviewParameters, none,
      [⟨"200", "Pickup points with receptions and products",
          some "ApiResponse_Vec_PvzOverviewDto"⟩,
        ⟨"400", "Invalid pagination or date range", none⟩]⟩,
    ⟨"/api/v1/pvz", "post", "create_pvz", "PVZ", [], some "CreatePvzRequest",
      [⟨"201", "Pickup point registered", some "ApiResponse_PvzDto"⟩,
        ⟨"400", "Invalid request", none⟩,
        ⟨"404", "City not found", none⟩,
        ⟨"409", "Pickup point id already taken", none⟩]⟩,
    ⟨"/api/v1/pvz/all", "get", "list_all_pvz", "PVZ", [], none,
      [⟨"200", "Every pickup point, newest first", some "ApiResponse_Vec_PvzDto"⟩]⟩,
    ⟨"/api/v1/pvz/\x7bpvz_id\x7d", "get", "get_pvz", "PVZ", [pointId], none,
      [⟨"200", "Pickup point", some "ApiResponse_PvzDto"⟩,
        ⟨"404", "Not found", none⟩]⟩,
    ⟨"/api/v1/pvz/\x7bpvz_id\x7d/close_last_reception", "post", "close_last_reception", "PVZ",
      [pointId], none,
      [⟨"200", "Reception closed", some "ApiResponse_ReceptionDto"⟩,
        ⟨"409", "No reception in progress", none⟩]⟩,
    ⟨"/api/v1/pvz/\x7bpvz_id\x7d/delete_last_product", "post", "delete_last_product", "PVZ",
      [pointId], none,
      [⟨"200", "Removed product", some "ApiResponse_ProductDto"⟩,
        ⟨"404", "Pickup point not found or nothing to remove", none⟩,
        ⟨"409", "No reception in progress", none⟩]⟩,
    ⟨"/api/v1/receptions", "post", "create_reception", "Receptions", [],
      some "CreateReceptionRequest",
      [⟨"201", "Reception opened", some "ApiResponse_ReceptionDto"⟩,
        ⟨"404", "Pickup point not found", none⟩,
        ⟨"409", "A reception is already in progress", none⟩]⟩,
    ⟨"/api/v1/products", "post", "create_product", "Products", [], some "CreateProductRequest",
      [⟨"201", "Product added", some "ApiResponse_ProductDto"⟩,
        ⟨"400", "Invalid request", none⟩,
        ⟨"404", "Unknown product type", none⟩,
        ⟨"409", "No reception in progress", none⟩]⟩]

/-- The operations by their paths, in the order of their first ones. -/
def paths : List (String × Json) :=
  (endpoints.map Endpoint.path).eraseDups.map fun path =>
    (path, .object ((endpoints.filter fun e => e.path = path).map fun e => (e.method, e.json)))

/-! ## The document -/

/-- A tag with its description. -/
def tag (name description : String) : Json :=
  .object [("name", .string name), ("description", .string description)]

/-- The tags that operations are sorted by. -/
def tags : List Json :=
  [tag "Health" "Проверка состояния сервера и подключения к базе данных.",
    tag "PVZ"
      ("Пункты выдачи заказов: регистрация, просмотр с приёмками и товарами, закрытие приёмки и " ++
        "удаление последнего товара."),
    tag "Receptions"
      ("Приёмки товаров. На одном ПВЗ одновременно может быть открыта только одна приёмка " ++
        "(\x60in_progress\x60)."),
    tag "Products"
      "Товары в открытой приёмке. Типы: \x60электроника\x60, \x60одежда\x60, \x60обувь\x60."]

/-- What the interface is about. -/
def introduction : String :=
  "REST API для учёта приёмок товаров на пунктах выдачи заказов.\n\n" ++
    "## Формат ответов\n\nВсе REST-ответы обёрнуты в стандартную оболочку:\n" ++
    "\x60\x60\x60json\n\x7b\x22success\x22: true, \x22data\x22: \x7b...\x7d\x7d\n\x60\x60\x60\n\n" ++
    "При ошибке:\n\x60\x60\x60json\n" ++
    "\x7b\x22success\x22: false, \x22data\x22: null, \x22error\x22: \x22описание ошибки\x22\x7d\n" ++
    "\x60\x60\x60\n\n## Пагинация\n\n" ++
    "\x60GET /api/v1/pvz\x60 принимает \x60page\x60 (от 1) и \x60limit\x60 " ++
    "(1–30, по умолчанию 10).\n" ++
    "Фильтр \x60startDate\x60/\x60endDate\x60 применяется только если заданы обе даты."

/-- The interface in short. -/
def info : Json :=
  .object
    [("title", .string "PVZ Service API"),
      ("description", .string introduction),
      ("license", .object [("name", .string "MIT")]),
      ("version", .string "1.0.0")]

/-- **The description of the interface.** -/
def document : Json :=
  .object
    [("openapi", .string "3.1.0"),
      ("info", info),
      ("paths", .object paths),
      ("components", .object [("schemas", .object schemas)]),
      ("tags", .array tags)]

end PickupLedger.Http.Description
