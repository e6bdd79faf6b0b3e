import PickupLedger.Database.Migration
import PickupLedger.Http.Server
import PickupLedger.Launch.Log
import PickupLedger.Settings.Basic
import PickupLedger.Settings.Place
import PickupLedger.Shutdown.Coordinator
import PickupLedger.Store.Backend

/-!
# A service from its start to its end

A `Launch` says what service to start.  Its store is in memory, or a database that can be
opened and is migrated first unless that is not wanted; then it listens (`Launch.start`).  A running
service stops once its shutdown signal has been triggered, by whatever cause
(`Running.stop`).
-/

namespace PickupLedger

/-- **A service to be started.** -/
structure Launch where
  settings : Settings
  migrate : Bool
  inMemory : Bool
  deriving DecidableEq, Repr

/-- Why a service does not start. -/
inductive StartFault where
  /-- The address of the database leads nowhere. -/
  | unknownDatabase (url : String)
  | cannotOpen (url : String)
  | cannotListen (address : String)
  deriving DecidableEq, Repr

/-- The words of a fault. -/
def StartFault.message : StartFault → String
  | .unknownDatabase url => "The connection string '" ++ url ++ "' has no supporting driver."
  | .cannotOpen url => "Cannot open the database '" ++ url ++ "'"
  | .cannotListen address => "Cannot listen on " ++ address

/-- **A service that is running.** -/
structure Running where
  server : Http.Server Backend
  coordinator : Coordinator

/-- Why a service is shut down. -/
inductive StopCause where
  /-- The process is to terminate. -/
  | terminated
  /-- The process has been interrupted. -/
  | interrupted
  /-- The service itself is asked to. -/
  | asked
  /-- The signal has been triggered already. -/
  | signalled
  deriving DecidableEq, Repr

namespace Launch

/-- The line about metrics. -/
def metricsLine (l : Launch) : LogLine :=
  if l.settings.metrics.enabled then .info "Prometheus metrics recorder installed"
  else .info "Metrics disabled"

/-- The lines about the store. -/
def storeLines (l : Launch) : List LogLine :=
  if l.inMemory then [.warn "Using in-memory storage; data is lost on shutdown"]
  else
    [.info ("Connecting to database: " ++ l.settings.database.url),
      .info "Database connected successfully"] ++
    if l.migrate then
      [.info "Running database migrations...", .info "Migrations completed"]
    else []

/-- The lines about where the service listens. -/
def addressLines (address : String) : List LogLine :=
  [.info ("REST API server listening on http://" ++ address),
    .info ("Swagger UI available at http://" ++ address ++ "/docs/")]

/-- The store of the service, with its schema if that is wanted. -/
def backend (l : Launch) : Backend :=
  if l.inMemory then .memory .new
  else .database (Database.Migrated.afterFirst (if l.migrate then none else some 0)).database

/-- What keeps the service from its store; `opens` says of a file whether it can be opened,
being created or not. -/
def storeFault? (l : Launch) (opens : String → Bool → Bool) : Option StartFault :=
  if l.inMemory then none
  else
    match DatabasePlace.ofUrl? l.settings.database.url with
    | none => some (.unknownDatabase l.settings.database.url)
    | some .memory => none
    | some (.file path create) =>
      if opens path create then none else some (.cannotOpen l.settings.database.url)

/-- The service as it runs. -/
def running (l : Launch) : Running where
  server := .start l.backend l.settings.metrics.enabled
  coordinator := .new l.settings.server.shutdownTimeout.toNat

/-- **The start of a service**, given the files that can be opened, and the address that it
can listen on, if it can. -/
def start (l : Launch) (opens : String → Bool → Bool) (address : Option String) :
    Except StartFault (Running × List LogLine) :=
  match l.storeFault? opens, address with
  | some fault, _ => .error fault
  | none, none => .error (.cannotListen l.settings.server.address)
  | none, some address =>
    .ok (l.running,
      .info "Starting PVZ service..." :: l.metricsLine :: (l.storeLines ++ addressLines address))

end Launch

namespace Running

/-- The line about the cause of a shutdown. -/
def causeLines : StopCause → List LogLine
  | .terminated => [.info "Received SIGTERM"]
  | .interrupted => [.info "Received SIGINT (Ctrl+C)"]
  | .asked => [.info "Shutting down PVZ service..."]
  | .signalled => []

/-- The service has a database. -/
def hasDatabase (r : Running) : Bool :=
  match r.server.world.store with
  | .memory _ => false
  | .database _ => true

/-- The running service after its signal has been triggered. -/
def triggered (r : Running) : Running :=
  { r with coordinator := { r.coordinator with signal := r.coordinator.signal.trigger } }

/-- The lines about requests in flight, which take so many milliseconds or never end. -/
def drainLines (r : Running) (millis : Option Nat) : List LogLine :=
  if r.coordinator.finishes millis then [.info "Graceful shutdown completed"]
  else
    [.warn ("Graceful shutdown timed out after " ++
        String.ofList (Text.decimal r.coordinator.timeout) ++ "s"),
      .warn "REST API server did not stop in time"]

/-- **The end of a service** whose requests in flight take so many milliseconds, or never
end, and the lines about it. -/
def stop (r : Running) (cause : StopCause) (millis : Option Nat) : Running × List LogLine :=
  let signal : List LogLine :=
    if r.coordinator.signal.triggered then [] else [.info "Shutdown signal triggered"]
  (r.triggered,
    causeLines cause ++ signal ++
      [.info "REST API server received shutdown signal",
        .info "Waiting for in-flight requests to complete..."] ++
      r.drainLines millis ++
      (if r.hasDatabase then [.info "Database connection closed"] else []) ++
      [.info "PVZ service shutdown complete"])

end Running
end PickupLedger
