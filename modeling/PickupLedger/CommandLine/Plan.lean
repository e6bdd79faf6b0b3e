import PickupLedger.CommandLine.Help
import PickupLedger.Launch.Service
import PickupLedger.Settings.Document

/-!
# What the command does

The command tells about itself, checks a configuration, or starts the service
(`plan`).  The configuration is read from its file; a level and a port from the arguments
take the place of what it says.  A configuration that cannot be used ends the check; the
service starts with the standard settings instead, and logs why.
-/

namespace PickupLedger.CommandLine

/-- **What a command finds around it**: variables, and files by their paths. -/
structure Environment where
  get? : String → Option String
  contents : String → Except FileFault (List UInt8)

/-- **What a command does.** -/
inductive Outcome where
  /-- It ends with a code, after telling something. -/
  | exit (code : Nat) (output errors : String)
  /-- It starts a service, after logging something. -/
  | start (launch : Launch) (log : List LogLine)

/-- A path inside a directory. -/
def inDirectory (directory path : String) : String :=
  if directory.endsWith "/" then directory ++ path else directory ++ "/" ++ path

/-- The directory of configurations. -/
def configDirectory? (env : Environment) : Option String :=
  match env.get? "XDG_CONFIG_HOME" with
  | some directory => if directory.startsWith "/" then some directory else home?
  | none => home?
where
  /-- The directory of configurations in the user's own one. -/
  home? : Option String :=
    match env.get? "HOME" with
    | some home => if home.isEmpty then none else some (inDirectory home ".config")
    | none => none

/-- The path of the configuration when none is given. -/
def defaultPath (env : Environment) : String :=
  match configDirectory? env with
  | some directory => inDirectory directory "pvz-service/config.toml"
  | none => "config.toml"

/-- Settings with what the arguments say instead. -/
def Options.override (o : Options) (s : Settings) : Settings :=
  { s with
    log := { s.log with level := o.logLevel.getD s.log.level }
    server := { s.server with port := o.port.getD s.server.port } }

/-- **The settings that a command uses**, and what has kept it from using those of the
file. -/
def Options.settings (o : Options) (loaded : Except LoadFault Settings) :
    Settings × Option LoadFault :=
  match loaded with
  | .ok s => (o.override s, .none)
  | .error fault => (o.override .standard, some fault)

/-- What is told of a configuration that can be used. -/
def report (path : String) (s : Settings) : String :=
  "Configuration is valid\n" ++
    "   Config file : " ++ path ++ "\n" ++
    "   API address : " ++ s.server.address ++ "\n" ++
    "   Database    : " ++ s.database.url ++ "\n" ++
    "   Log level   : " ++ s.log.level ++ "\n" ++
    "   Metrics     : " ++ (if s.metrics.enabled then "true" else "false") ++ "\n"

/-- What is logged of a configuration before the service starts. -/
def configLines (path : String) : Option LoadFault → List LogLine
  | none => [.info ("Configuration loaded from " ++ path)]
  | some fault =>
    [.error ("Failed to load config from " ++ path ++ ": " ++ fault.message path),
      .error "Using default configuration."]

/-- What a command does with its options. -/
def execute (env : Environment) (o : Options) : Outcome :=
  let path := o.config.getD (defaultPath env)
  let (settings, fault?) := o.settings (Settings.load (env.contents path))
  if o.check then
    match fault? with
    | some fault => .exit 1 "" ("Configuration is invalid: " ++ fault.message path ++ "\n")
    | none => .exit 0 (report path settings) ""
  else .start ⟨settings, !o.noMigrate, o.inMemory⟩ (configLines path fault?)

/-- The lines about how the command is used, behind a fault. -/
def usageNote : String :=
  "\n\nUsage: " ++ commandName ++ " [OPTIONS]\n\nFor more information, try '--help'.\n"

/-- **What a command does** with its arguments. -/
def plan (env : Environment) (arguments : List String) : Outcome :=
  let fallback := env.get? "PVZ_CONFIG"
  match readOptions fallback arguments with
  | .ok options => execute env options
  | .error (.help full) => .exit 0 (if full then fullHelp fallback else shortHelp fallback) ""
  | .error .version => .exit 0 versionText ""
  | .error (.fault fault) => .exit 2 "" ("error: " ++ fault.message ++ usageNote)

/-- The line that tells how to end the service. -/
def readyLine : LogLine := .info "Press Ctrl+C to shutdown gracefully."

end PickupLedger.CommandLine
