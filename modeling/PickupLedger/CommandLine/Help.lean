import PickupLedger.CommandLine.Options

/-!
# Help

What the service says about itself: in short, with one line for each option, or in full,
with a paragraph for each.
-/

namespace PickupLedger.CommandLine

/-- The name of the command. -/
def commandName : String := "pvz-service"

/-- The version of the service. -/
def versionText : String := commandName ++ " 0.1.0\n"

/-- What an option does. -/
def OptionName.purpose : OptionName → String
  | .config => "Path to the configuration file (TOML)"
  | .port => "Override the REST API listen port"
  | .logLevel => "Override the log level (trace, debug, info, warn, error)"
  | .check => "Validate the configuration file and exit without starting the server"
  | .noMigrate => "Skip database migrations on startup"
  | .inMemory => "Keep all data in memory instead of the configured database"
  | .help => "Print help"
  | .version => "Print version"

/-- An option with its letter, or spacing in its place, and its value. -/
def OptionName.heading (o : OptionName) : String :=
  match o.letter? with
  | some c => "-" ++ String.ofList [c] ++ ", " ++ o.shown
  | none => "    " ++ o.shown

/-- The variable of the configuration with its value. -/
def variableNote (fallback : Option String) : String := "[env: PVZ_CONFIG=" ++ fallback.getD "" ++ "]"

/-- How the command is used. -/
def usage : String := "Usage: " ++ commandName ++ " [OPTIONS]\n\nOptions:\n"

/-- A text in a column of its own width. -/
def column (width : Nat) (text : String) : String :=
  text ++ String.ofList (List.replicate (width - text.length) ' ')

/-- One line of the help in short. -/
def shortLine (fallback : Option String) (o : OptionName) : String :=
  let note :=
    match o with
    | .config => " " ++ variableNote fallback
    | .help => " (see more with '--help')"
    | _ => ""
  "  " ++ column 29 o.heading ++ o.purpose ++ note ++ "\n"

/-- One paragraph of the help in full. -/
def fullParagraph (fallback : Option String) (o : OptionName) : String :=
  let margin := "          "
  let note :=
    match o with
    | .config => "\n" ++ margin ++ "\n" ++ margin ++ variableNote fallback
    | .help => " (see a summary with '-h')"
    | _ => ""
  "  " ++ o.heading ++ "\n" ++ margin ++ o.purpose ++ note ++ "\n"

/-- **The help in short.** -/
def shortHelp (fallback : Option String) : String :=
  "Pickup point reception lifecycle and inventory service\n\n" ++ usage ++
    String.join (OptionName.all.map (shortLine fallback))

/-- **The help in full.** -/
def fullHelp (fallback : Option String) : String :=
  "REST API for registering pickup points, opening and closing receptions and logging products." ++
    "\n\nDefault config: ~/.config/pvz-service/config.toml\n\n" ++ usage ++
    "\n".intercalate (OptionName.all.map (fullParagraph fallback))

end PickupLedger.CommandLine
