import PickupLedger.Http.Description
import PickupLedger.Http.Handler
import PickupLedger.Http.Metrics
import PickupLedger.Store.Backend

/-!
# The server

`Server.respond` answers one request: the path is matched to a resource, the method
decides whether it is read or posted to, and whatever comes of it gets the header fields
that every answer has.  If there are metrics, every request whose path names a resource
is counted once it has been answered, refused methods among them; requests for the
allowed methods (`OPTIONS`) are answered before they come so far.
-/

namespace PickupLedger

namespace Http

/-- **What a server is given** with a request: the stamp of what the request creates, an
identifier for the request, and what the clocks of the health check show. -/
structure Moment where
  stamp : Stamp
  requestId : String
  /-- Seconds since the start. -/
  uptime : Nat
  /-- Milliseconds until the database has answered. -/
  latency : Nat

/-! ## Health -/

/-- The version of the service. -/
def version : String := "0.1.0"

/-- The database as the health check shows it. -/
def databaseHealth (latency : Nat) : Health → Json
  | .inMemory => .object [("status", .string "in_memory"), ("latency_ms", .null)]
  | .reachable => .object [("status", .string "ok"), ("latency_ms", .nat latency)]
  | .unreachable => .object [("status", .string "error"), ("latency_ms", .null)]

/-- The answer to a health check; without its database the service is degraded. -/
def healthResponse (m : Moment) (health : Health) : Response :=
  let degraded := health == .unreachable
  .json (if degraded then 503 else 200) <| .object
    [("status", .string (if degraded then "degraded" else "ok")),
      ("version", .string version),
      ("uptime_seconds", .nat m.uptime),
      ("database", databaseHealth m.latency health)]

/-! ## The server -/

/-- **A server**: its store with the counts of the service, and the counts of requests. -/
structure Server (σ : Type) where
  world : Program.World σ
  requests : RequestCounts
  /-- There are metrics. -/
  metrics : Bool

namespace Server

variable {σ : Type}

/-- A server over a store that has answered nothing yet. -/
def start (store : σ) (metrics : Bool) : Server σ := ⟨⟨store, .zero⟩, .zero, metrics⟩

/-- The page that shows the documentation. -/
def documentation : Response := ⟨200, [("content-type", "text/html")], .documentation⟩

/-- A resource that is read without the store: its answer. -/
def page [Monitored σ] (s : Server σ) (m : Moment) : Resource → Response
  | .health => healthResponse m (Monitored.health s.world.store)
  | .metrics =>
    .text 200 "text/plain; version=0.0.4; charset=utf-8" (Metrics.text s.world.counters s.requests)
  | .docs => (Response.bare 303).withHeader "location" "/docs/"
  | .docsIndex => documentation
  | .docsFile path => if path = "index.html" then documentation else .bare 404
  | .description => .json 200 Description.document
  | _ => .bare 404

/-- The server after a program of its service. -/
def running [Storage σ] (s : Server σ) (p : Program Response) : Response × Server σ :=
  let (response, world) := p.run s.world
  (response, { s with world })

/-- The refusal of a method. -/
def refusal (x : Resource) : Response := (Response.bare 405).withHeader "allow" x.allowed

/-- A resource read. -/
def read [Storage σ] [Monitored σ] (s : Server σ) (m : Moment) (r : Request) (x : Resource) :
    Response × Server σ :=
  if x.canGet then
    match getProgram r x with
    | some p => s.running p
    | none => (s.page m x, s)
  else (refusal x, s)

/-- **A resource asked for**: read, posted to, or refused. -/
def handle [Storage σ] [Monitored σ] (s : Server σ) (m : Moment) (r : Request) (x : Resource) :
    Response × Server σ :=
  match r.method with
  | .get => s.read m r x
  | .head =>
    let (response, s) := s.read m r x
    (response.withoutBody, s)
  | .post =>
    match postProgram m.stamp r x with
    | some p => s.running p
    | none => (refusal x, s)
  | _ => (refusal x, s)

/-- The server after an answer has been counted. -/
def counted (s : Server σ) (r : Request) (x : Resource) (response : Response) : Server σ :=
  if s.metrics then
    { s with requests := s.requests.add ⟨r.method.name, x.template, response.status⟩ }
  else s

/-- The answer to a question for the allowed methods. -/
def preflight (x : Option Resource) : Response :=
  let any :=
    ((Response.bare 200).withHeader "access-control-allow-methods" "*").withHeader
      "access-control-allow-headers" "*"
  match x with
  | some x => any.withHeader "allow" x.allowed
  | none => any

/-- The identifier of a request: its own, if that can be shown, or a new one. -/
def requestId (m : Moment) (r : Request) : String :=
  match r.header? "x-request-id" with
  | some value => if !value.isEmpty && isPlain value then value else m.requestId
  | none => m.requestId

/-- The header fields that an answer depends on. -/
def vary : String := "origin, access-control-request-method, access-control-request-headers"

/-- An answer with the header fields that every answer has. -/
def finished (m : Moment) (r : Request) (response : Response) : Response :=
  ((response.withHeader "access-control-allow-origin" "*").withHeader "vary" vary).withHeader
    "x-request-id" (requestId m r)

/-- **The answer to a request**, and the server after it. -/
def respond [Storage σ] [Monitored σ] (s : Server σ) (m : Moment) (r : Request) :
    Response × Server σ :=
  let x := Resource.ofPath s.metrics r.path
  if r.method = .options then (finished m r (preflight x), s)
  else
    match x with
    | none => (finished m r (.bare 404), s)
    | some x =>
      let (response, s) := s.handle m r x
      (finished m r response, s.counted r x response)

end Server
end Http
end PickupLedger
