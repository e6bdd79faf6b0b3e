import PickupLedger.Settings.Basic
import PickupLedger.Text.Utf8
import PickupLedger.Toml.Document

/-!
# Settings as a document

A document of settings is an overlay: what it says replaces the standard settings, one
by one (`Settings.ofMembers?`), and what else it says counts for nothing.  A section is a
table, or an array of its settings in their order; a date or time is a section that says
nothing.  A setting of the wrong type or range makes the whole document malformed.

`Settings.load` reads the file of a document and keeps only settings that the service
can run with.
-/

namespace PickupLedger

/-- Why a file cannot be read as text. -/
inductive FileFault where
  | missing
  | isDirectory
  | notDirectory
  /-- Its bytes are no text. -/
  | notText
  deriving DecidableEq, Repr

/-- The words of a fault. -/
def FileFault.message : FileFault → String
  | .missing => "No such file or directory (os error 2)"
  | .isDirectory => "Is a directory (os error 21)"
  | .notDirectory => "Not a directory (os error 20)"
  | .notText => "stream did not contain valid UTF-8"

/-- **Why there are no settings.** -/
inductive LoadFault where
  | unreadable (fault : FileFault)
  /-- The document is no TOML, or a setting is of the wrong type or range. -/
  | malformed
  | invalid (fault : SettingsFault)
  deriving DecidableEq, Repr

/-- The words of a fault with the file of a path. -/
def LoadFault.message (path : String) : LoadFault → String
  | .unreadable fault => "Failed to read " ++ path ++ ": " ++ fault.message
  | .malformed => "Failed to parse " ++ path
  | .invalid fault => fault.message

open Toml (Value)

/-! ## Single settings -/

/-- A text. -/
def readText? : Value → Option String
  | .string s => some s
  | _ => none

/-- A truth value. -/
def readFlag? : Value → Option Bool
  | .bool b => some b
  | _ => none

/-- A number from zero to a bound. -/
def readNumber? (most : Nat) : Value → Option Nat
  | .integer i => if 0 ≤ i ∧ i ≤ most then some i.toNat else none
  | _ => none

/-- A value with nothing in it. -/
def isEmptyValue : Value → Bool
  | .array [] | .table [] => true
  | _ => false

/-- A format by its name, or by the only key of a table that holds nothing under it. -/
def readFormat? : Value → Option LogFormat
  | .string s => LogFormat.ofName? s
  | .table [(key, v)] => if isEmptyValue v then LogFormat.ofName? key else none
  | _ => none

/-! ## Sections -/

/-- The values that a section gives to its settings. -/
abbrev Given := String → Option Value

/-- What a section gives: a table by the keys, an array by the order of the settings; a
date or time gives nothing. -/
def given? (settings : List String) : Value → Option Given
  | .table members => some (Value.lookup? members)
  | .array items => some (Value.lookup? (settings.zip items))
  | .moment => some fun _ => none
  | _ => none

/-- **A setting**: its value if it is given, else the standard one. -/
def setting {α : Type} (given : Given) (key : String) (read : Value → Option α) (standard : α) :
    Option α :=
  match given key with
  | some v => read v
  | none => some standard

/-- The server of a section. -/
def ServerSettings.read? (v : Value) : Option ServerSettings := do
  let given ← given? ["host", "port", "shutdown_timeout"] v
  let host ← setting given "host" readText? standard.host
  let port ← setting given "port" (fun v => (readNumber? 0xffff v).map UInt16.ofNat)
    standard.port
  let timeout ← setting given "shutdown_timeout"
    (fun v => (readNumber? 0xffffffffffffffff v).map UInt64.ofNat) standard.shutdownTimeout
  return ⟨host, port, timeout⟩

/-- The database of a section. -/
def DatabaseSettings.read? (v : Value) : Option DatabaseSettings := do
  let given ← given? ["url", "max_connections"] v
  let url ← setting given "url" readText? standard.url
  let connections ← setting given "max_connections"
    (fun v => (readNumber? 0xffffffff v).map UInt32.ofNat) standard.maxConnections
  return ⟨url, connections⟩

/-- The log of a section. -/
def LogSettings.read? (v : Value) : Option LogSettings := do
  let given ← given? ["level", "format"] v
  let level ← setting given "level" readText? standard.level
  let format ← setting given "format" readFormat? standard.format
  return ⟨level, format⟩

/-- The metrics of a section. -/
def MetricsSettings.read? (v : Value) : Option MetricsSettings := do
  let given ← given? ["enabled"] v
  let enabled ← setting given "enabled" readFlag? standard.enabled
  return ⟨enabled⟩

namespace Settings

/-- **The settings of a document**, standard where it says nothing. -/
def ofMembers? (members : List (String × Value)) : Option Settings := do
  let given := Value.lookup? members
  let server ← setting given "server" ServerSettings.read? .standard
  let database ← setting given "database" DatabaseSettings.read? .standard
  let log ← setting given "logging" LogSettings.read? .standard
  let metrics ← setting given "metrics" MetricsSettings.read? .standard
  return ⟨server, database, log, metrics⟩

/-- **All settings written out.** -/
def toMembers (s : Settings) : List (String × Value) :=
  [("server", .table
      [("host", .string s.server.host),
        ("port", .integer s.server.port.toNat),
        ("shutdown_timeout", .integer s.server.shutdownTimeout.toNat)]),
    ("database", .table
      [("url", .string s.database.url),
        ("max_connections", .integer s.database.maxConnections.toNat)]),
    ("logging", .table
      [("level", .string s.log.level),
        ("format", .string s.log.format.name)]),
    ("metrics", .table [("enabled", .bool s.metrics.enabled)])]

/-! ## Documents and files -/

/-- Settings that the service can run with. -/
def checked (s : Settings) : Except LoadFault Settings :=
  match s.check with
  | .ok () => .ok s
  | .error fault => .error (.invalid fault)

/-- **The settings of a document's text.** -/
def ofText (text : String) : Except LoadFault Settings :=
  match (Toml.read? text).bind ofMembers? with
  | some s => s.checked
  | none => .error .malformed

/-- **The settings of a file**, by what came of reading its bytes. -/
def load : Except FileFault (List UInt8) → Except LoadFault Settings
  | .error fault => .error (.unreadable fault)
  | .ok bytes =>
    match Text.Utf8.read? bytes with
    | some text => ofText text
    | none => .error (.unreadable .notText)

end Settings
end PickupLedger
