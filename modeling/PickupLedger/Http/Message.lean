import PickupLedger.Json.Value
import PickupLedger.Text.Utf8

/-!
# Requests and responses

What the service sees of an HTTP exchange.  A path and a query are kept as they were
sent, percent-encoded; names of header fields are compared without regard to case.
-/

namespace PickupLedger.Http

/-- **The method of a request.** -/
inductive Method where
  | get
  | head
  | post
  | options
  | other (name : String)
  deriving DecidableEq, Repr

namespace Method

/-- The method of a name. -/
def ofName (name : String) : Method :=
  if name = "GET" then .get
  else if name = "HEAD" then .head
  else if name = "POST" then .post
  else if name = "OPTIONS" then .options
  else .other name

/-- The name of a method. -/
def name : Method → String
  | .get => "GET"
  | .head => "HEAD"
  | .post => "POST"
  | .options => "OPTIONS"
  | .other name => name

end Method

/-- A header field. -/
abbrev Field := String × String

/-- What is sent with a request, byte by byte. -/
structure Payload where
  bytes : List UInt8
  deriving DecidableEq

/-- A text is sent as its bytes. -/
instance : Coe String Payload := ⟨fun s => ⟨Text.Utf8.bytes s⟩⟩

/-- **A request.** -/
structure Request where
  method : Method
  path : String
  query : Option String
  headers : List Field
  body : Payload

/-- A target cut into its path and its query; what stands behind `#` is no part of it. -/
def splitTarget (target : String) : String × Option String :=
  let cs := target.toList.takeWhile (· ≠ '#')
  let path := cs.takeWhile (· ≠ '?')
  (String.ofList path,
    if path.length < cs.length then some (String.ofList (cs.drop (path.length + 1))) else none)

/-- The value of the first header field of a name. -/
def Request.header? (r : Request) (name : String) : Option String :=
  (r.headers.find? fun f => f.1.map Char.toLower = name).map Prod.snd

/-- A header value of printable ASCII characters, spaces and tabs. -/
def isPlain (value : String) : Bool :=
  value.toList.all fun c => c == '\t' || (32 ≤ c.toNat && c.toNat < 127)

/-- **The body of a response.** -/
inductive Body where
  | empty
  | json (value : Json)
  | text (text : String)
  /-- The page that shows the documentation. -/
  | documentation
  deriving Repr

/-- The page that shows the documentation, as HTML. -/
def documentationPage : String :=
  "<!DOCTYPE html>\n<html><head><meta charset=\"utf-8\"><title>API</title></head><body>" ++
    "<a href=\"/api-doc/openapi.json\">/api-doc/openapi.json</a></body></html>\n"

/-- What is sent of a body. -/
def Body.sent : Body → String
  | .empty => ""
  | .json value => value.text
  | .text s => s
  | .documentation => documentationPage

/-- **A response.** -/
structure Response where
  status : Nat
  headers : List Field
  body : Body

namespace Response

/-- A response without a body. -/
def bare (status : Nat) : Response := ⟨status, [], .empty⟩

/-- A response of JSON. -/
def json (status : Nat) (value : Json) : Response :=
  ⟨status, [("content-type", "application/json")], .json value⟩

/-- A response of text. -/
def text (status : Nat) (type text : String) : Response :=
  ⟨status, [("content-type", type)], .text text⟩

/-- The response with one more header field. -/
def withHeader (r : Response) (name value : String) : Response :=
  { r with headers := r.headers ++ [(name, value)] }

/-- The response without its body. -/
def withoutBody (r : Response) : Response := { r with body := .empty }

end Response
end PickupLedger.Http
