import PickupLedger.Text.Blank
import PickupLedger.Text.Digits

/-!
# Settings

What a service can be told before it starts, in four sections; every setting has a
standard value.  Settings that the service can run with pass `Settings.check`: there is a
database to connect to, over at least one connection, and a level to log at.
-/

namespace PickupLedger

/-- Where the service listens, and how long it may take to stop. -/
structure ServerSettings where
  host : String
  port : UInt16
  /-- Seconds to wait for work in flight once the service is shut down. -/
  shutdownTimeout : UInt64
  deriving DecidableEq, Repr

/-- The database of the service. -/
structure DatabaseSettings where
  url : String
  maxConnections : UInt32
  deriving DecidableEq, Repr

/-- How a line of the log is written. -/
inductive LogFormat where
  | pretty
  | json
  deriving DecidableEq, Repr

/-- The log of the service. -/
structure LogSettings where
  level : String
  format : LogFormat
  deriving DecidableEq, Repr

/-- The metrics of the service. -/
structure MetricsSettings where
  enabled : Bool
  deriving DecidableEq, Repr

/-- **The settings of a service.** -/
structure Settings where
  server : ServerSettings
  database : DatabaseSettings
  log : LogSettings
  metrics : MetricsSettings
  deriving DecidableEq, Repr

/-- Why a service cannot run with its settings. -/
inductive SettingsFault where
  | blankUrl
  | noConnections
  | blankLevel
  deriving DecidableEq, Repr

/-- The words of a fault. -/
def SettingsFault.message : SettingsFault → String
  | .blankUrl => "Invalid configuration: database.url is empty"
  | .noConnections => "Invalid configuration: database.max_connections must be at least 1"
  | .blankLevel => "Invalid configuration: logging.level is empty"

namespace LogFormat

/-- The name of a format. -/
def name : LogFormat → String
  | .pretty => "pretty"
  | .json => "json"

/-- The format of a name. -/
def ofName? (s : String) : Option LogFormat :=
  if s = "pretty" then some .pretty else if s = "json" then some .json else none

theorem ofName?_name (f : LogFormat) : ofName? f.name = some f := by
  cases f <;> decide

end LogFormat

/-- The standard server. -/
def ServerSettings.standard : ServerSettings := ⟨"0.0.0.0", 8080, 30⟩

/-- Host and port with a colon between them. -/
def ServerSettings.address (s : ServerSettings) : String :=
  s.host ++ ":" ++ String.ofList (Text.decimal s.port.toNat)

namespace DatabaseSettings

/-- The standard database: a file in the working directory. -/
def standard : DatabaseSettings := ⟨"sqlite://./pvz.db?mode=rwc", 10⟩

/-- A database in a file, which is created when it is not there. -/
def inFile (path : String) : DatabaseSettings :=
  { standard with url := "sqlite://" ++ path ++ "?mode=rwc" }

end DatabaseSettings

/-- The standard log. -/
def LogSettings.standard : LogSettings := ⟨"info", .pretty⟩

/-- The standard metrics. -/
def MetricsSettings.standard : MetricsSettings := ⟨true⟩

namespace Settings

/-- **The standard settings.** -/
def standard : Settings := ⟨.standard, .standard, .standard, .standard⟩

instance : Inhabited Settings := ⟨standard⟩

/-- **What keeps a service from running** with its settings; the first fault is told. -/
def check (s : Settings) : Except SettingsFault Unit :=
  if Text.isBlankText s.database.url then .error .blankUrl
  else if s.database.maxConnections = 0 then .error .noConnections
  else if Text.isBlankText s.log.level then .error .blankLevel
  else .ok ()

end Settings
end PickupLedger
