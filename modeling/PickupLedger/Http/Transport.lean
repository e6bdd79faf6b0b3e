import PickupLedger.Http.Server
import Std.Http

/-!
# The network

The outer layer of the server.  Requests that come over the network are handed to
`Server.respond` one after another, each with the time and the identifiers of its moment,
and the answers are sent back.
-/

namespace PickupLedger.Http

open Std.Async

/-- **A server that is reached over the network**, as it is between two requests, with the
number of requests so far. -/
structure Listener where
  state : Std.Mutex (Server Backend × Nat)
  /-- Milliseconds on the clock of the machine when the server was started. -/
  started : Nat

namespace Listener

/-- The server started now. -/
def start (server : Server Backend) : IO Listener := do
  return ⟨← Std.Mutex.new (server, 0), ← IO.monoMsNow⟩

/-- What a request is given as it comes. -/
def moment (l : Listener) (index : Nat) : IO Moment := do
  let now ← Std.Time.Timestamp.now
  let seconds := now.toSecondsSinceUnixEpoch.val
  let nanos := now.val.nano.val.toNat
  let millis := seconds.toNat * 1000 + nanos / 1000000
  let bits := (← IO.getRandomBytes 16).toList.foldl (fun n b => n * 256 + b.toNat) 0
  let stamp : Stamp :=
    ⟨(Instant.ofParts? seconds nanos).getD .epoch,
      .generated ((millis <<< 20) + index % (1 <<< 20))⟩
  return ⟨stamp, (Uuid.random bits).text, ((← IO.monoMsNow) - l.started) / 1000, 0⟩

/-- The bytes of a body, as far as they can matter. -/
partial def readBody (stream : Std.Http.Body.Stream) (bytes : ByteArray) :
    ContextAsync ByteArray := do
  if maxBody < bytes.size then return bytes
  let next ← (Std.Http.Body.Stream.NextChunk.nextChunk stream : ContextAsync (Option Std.Http.Chunk))
  match next with
  | some chunk => readBody stream (bytes ++ chunk.data)
  | none => return bytes

/-- A request as the server sees it. -/
def request (head : Std.Http.Request.Head) (body : ByteArray) : Request :=
  let (path, query) := splitTarget (toString head.uri)
  { method := .ofName (toString head.method)
    path
    query
    headers := head.headers.toList.map fun (name, value) => (name.value, value.value)
    body := ⟨body.toList⟩ }

/-- An answer as it is sent. -/
def response (r : Response) : Async (Std.Http.Response Std.Http.Body.Any) := do
  let status := (Std.Http.Status.ofCode none r.status.toUInt16).getD .internalServerError
  let builder := r.headers.foldl (fun b field => (b.header? field.1 field.2).getD b)
    (Std.Http.Response.withStatus status)
  let body ← Std.Http.Body.Full.ofString r.body.sent
  return builder.body (.ofBody body)

/-- The answer to a request from the network. -/
def answer (l : Listener) (r : Std.Http.Request Std.Http.Body.Stream) :
    ContextAsync (Std.Http.Response Std.Http.Body.Any) := do
  let body ← readBody r.body .empty
  let answer ← l.state.atomically do
    let (server, index) ← get
    let m ← l.moment index
    let (answer, server) := server.respond m (request r.line body)
    set (server, index + 1)
    return answer
  response answer

/-- **Listens** at a port of a host. -/
def listen (l : Listener) (host : String) (port : UInt16) : Async Std.Http.Server := do
  let found : Array Std.Net.IPAddr ← DNS.getAddrInfo host ""
  let address : Std.Net.SocketAddress :=
    match found.toList with
    | .v6 address :: _ => .v6 ⟨address, port⟩
    | .v4 address :: _ => .v4 ⟨address, port⟩
    | [] => .v4 ⟨.ofParts 0 0 0 0, port⟩
  Std.Http.Server.serve address (Std.Http.Server.Handler.ofFn l.answer) { serverName := none }

end Listener
end PickupLedger.Http
