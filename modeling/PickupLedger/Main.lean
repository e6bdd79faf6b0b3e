import PickupLedger.CommandLine.Plan
import PickupLedger.Http.Transport

/-!
# The command

The outer layer of the command: it looks at variables and files, prints what is planned,
and keeps a service until the process is told to end.
-/

namespace PickupLedger.CommandLine

open Std.Async

/-- The bytes of a file, or why there are none. -/
def fileBytes (path : String) : IO (Except FileFault (List UInt8)) := do
  try
    return .ok (← IO.FS.readBinFile path).toList
  catch
    | .inappropriateType _ code _ =>
      return .error (if code = 21 then .isDirectory else .notDirectory)
    | _ => return .error .missing

/-- The variables and the file that a command may look at, as they are now. -/
def surroundings (arguments : List String) : IO Environment := do
  let config ← IO.getEnv "PVZ_CONFIG"
  let directory ← IO.getEnv "XDG_CONFIG_HOME"
  let home ← IO.getEnv "HOME"
  let get? (name : String) : Option String :=
    match name with
    | "PVZ_CONFIG" => config
    | "XDG_CONFIG_HOME" => directory
    | "HOME" => home
    | _ => none
  let nowhere : Environment := ⟨get?, fun _ => .error .missing⟩
  match readOptions config arguments with
  | .ok options =>
    let bytes ← fileBytes (options.config.getD (defaultPath nowhere))
    return ⟨get?, fun _ => bytes⟩
  | .error _ => return nowhere

/-- Lines of the log printed. -/
def printLog (lines : List LogLine) : IO Unit := do
  lines.forM fun line => IO.println (line.level.name ++ " " ++ line.message)
  (← IO.getStdout).flush

/-- Waits until the process is told to end. -/
def awaitStop : Async StopCause := do
  let terminate ← Std.Async.Signal.Waiter.mk .sigterm false
  let interrupt ← Std.Async.Signal.Waiter.mk .sigint false
  Selectable.one #[
    .case terminate.selector fun _ => pure .terminated,
    .case interrupt.selector fun _ => pure .interrupted]

/-- Stops listening; the answer is how many milliseconds that took, if it has come to an
end in so many seconds. -/
def drain (server : Std.Http.Server) (seconds : Nat) : Async (Option Nat) := do
  let start ← IO.monoMsNow
  server.shutdown
  let limit ← Selector.sleep (.ofNat (seconds * 1000))
  Selectable.one #[
    .case server.waitShutdownSelector fun _ => return some ((← IO.monoMsNow) - start),
    .case limit fun _ => pure none]

/-- Any file may stand for a database: its tables are kept in memory while the service
runs. -/
def opens (_ : String) (_ : Bool) : Bool := true

/-- A service run until the process is told to end. -/
def serve (launch : Launch) : Async UInt32 := do
  let server := launch.settings.server
  let listener ← Http.Listener.start launch.running.server
  let bound ← if (launch.storeFault? opens).isNone then
      try
        some <$> listener.listen server.host server.port
      catch _ => pure none
    else pure none
  let address := bound.bind fun b => b.localAddr.map toString
  match launch.start opens address, bound with
  | .ok (running, lines), some bound =>
    printLog (lines ++ [readyLine])
    let cause ← awaitStop
    let millis ← drain bound running.coordinator.timeout
    printLog (running.stop cause millis).2
    return 0
  | .ok _, none => return 1
  | .error fault, _ =>
    IO.eprintln ("Error: " ++ fault.message)
    return 1

/-- A command with its arguments. -/
def command (arguments : List String) : IO UInt32 := do
  let env ← surroundings arguments
  match plan env arguments with
  | .exit code output errors =>
    IO.print output
    IO.eprint errors
    return code.toUInt32
  | .start launch log =>
    printLog log
    (serve launch).block

end PickupLedger.CommandLine

def main (arguments : List String) : IO UInt32 := PickupLedger.CommandLine.command arguments
