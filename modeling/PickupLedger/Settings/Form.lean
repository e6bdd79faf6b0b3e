import PickupLedger.Json.Form
import PickupLedger.Settings.Basic

/-!
# The JSON form of settings

Settings are shown as JSON, and may be given as JSON, with the sections and keys that
they have in a document.  What is absent is standard here, too.
-/

namespace PickupLedger

open Json

/-- The form of a format, by its name. -/
def LogFormat.form : Form LogFormat where
  write f := .string f.name
  reader := Reader.named LogFormat.ofName? fun name =>
    .other ("unknown variant \x60" ++ name ++ "\x60, expected \x60pretty\x60 or \x60json\x60")

/-- The form of a server. -/
def ServerSettings.form : Form ServerSettings where
  write s := .object
    [("host", .string s.host),
      ("port", .nat s.port.toNat),
      ("shutdown_timeout", .nat s.shutdownTimeout.toNat)]
  reader := Shape.read "ServerConfig"
    (ServerSettings.mk <$> .defaulted "host" .string standard.host <*>
      .defaulted "port" .uint16 standard.port <*>
      .defaulted "shutdown_timeout" .uint64 standard.shutdownTimeout)

/-- The form of a database. -/
def DatabaseSettings.form : Form DatabaseSettings where
  write s := .object [("url", .string s.url), ("max_connections", .nat s.maxConnections.toNat)]
  reader := Shape.read "DatabaseConfig"
    (DatabaseSettings.mk <$> .defaulted "url" .string standard.url <*>
      .defaulted "max_connections" .uint32 standard.maxConnections)

/-- The form of a log. -/
def LogSettings.form : Form LogSettings where
  write s := .object [("level", .string s.level), ("format", LogFormat.form.write s.format)]
  reader := Shape.read "LoggingConfig"
    (LogSettings.mk <$> .defaulted "level" .string standard.level <*>
      .defaulted "format" LogFormat.form.reader standard.format)

/-- The form of metrics. -/
def MetricsSettings.form : Form MetricsSettings where
  write s := .object [("enabled", .bool s.enabled)]
  reader := Shape.read "MetricsConfig"
    (MetricsSettings.mk <$> .defaulted "enabled" .bool standard.enabled)

/-- **The form of settings.** -/
def Settings.form : Form Settings where
  write s := .object
    [("server", ServerSettings.form.write s.server),
      ("database", DatabaseSettings.form.write s.database),
      ("logging", LogSettings.form.write s.log),
      ("metrics", MetricsSettings.form.write s.metrics)]
  reader := Shape.read "AppConfig"
    (Settings.mk <$> .defaulted "server" ServerSettings.form.reader .standard <*>
      .defaulted "database" DatabaseSettings.form.reader .standard <*>
      .defaulted "logging" LogSettings.form.reader .standard <*>
      .defaulted "metrics" MetricsSettings.form.reader .standard)

end PickupLedger
