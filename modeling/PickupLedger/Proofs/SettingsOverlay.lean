import Mathlib.Tactic.ByContra
import Mathlib.Tactic.Choose
import Mathlib.Tactic.SplitIfs
import PickupLedger.Proofs.TomlIntegers
import PickupLedger.Proofs.TomlReadBack
import PickupLedger.Settings.Document

/-!
# What a document says of the settings

There are eight settings (`SettingName`), each under a key of a section.  A document puts values
under some of these keys (`SettingName.given?`); what else stands in it, and in which order,
does not matter.

Each setting is read by itself.  A value of its type and range (`SettingName.Fits`) replaces the
standard one, and where the key or the whole section is absent, the standard one stays; any
other value makes the whole document malformed.  So the settings of a document are those that
say what it says, and else what the standard settings say (`Settings.ofMembers?_eq_some_iff`).
Settings that are usable are accepted; written out in full they are a document again
(`Settings.exists_text_toMembers`), which says all of them (`Settings.given?_toMembers`).

This is about documents whose sections are tables, and in which the format is a string, if they
are there (`Settings.InSections`).
-/

namespace PickupLedger
open Toml (Value)

/-! ## Single settings -/

section Reading
variable {α : Type} {v : Value}

theorem readText?_eq_some_iff {s : String} : readText? v = some s ↔ v = .string s := by
  cases v <;> simp [readText?]

theorem readFlag?_eq_some_iff {b : Bool} : readFlag? v = some b ↔ v = .bool b := by
  cases v <;> simp [readFlag?]

theorem readNumber?_eq_some_iff {most n : Nat} :
    readNumber? most v = some n ↔ v = .integer n ∧ n ≤ most := by
  cases v with
  | integer i =>
    simp only [readNumber?, Value.integer.injEq]
    split
    · rw [Option.some.injEq]
      omega
    · simp only [reduceCtorEq, false_iff]
      omega
  | _ => simp [readNumber?]

/-- A number of a type that holds the numbers up to a bound. -/
theorem readNumber?_map_eq_some_iff {most : Nat} {ofNat : Nat → α} {toNat : α → Nat}
    (hof : ∀ a, ofNat (toNat a) = a) (hto : ∀ n ≤ most, toNat (ofNat n) = n)
    (hmost : ∀ a, toNat a ≤ most) {a : α} :
    (readNumber? most v).map ofNat = some a ↔ v = .integer (toNat a) := by
  rw [Option.map_eq_some_iff]
  constructor
  · rintro ⟨n, hn, rfl⟩
    obtain ⟨rfl, hle⟩ := readNumber?_eq_some_iff.mp hn
    rw [hto n hle]
  · rintro rfl
    exact ⟨toNat a, readNumber?_eq_some_iff.mpr ⟨rfl, hmost a⟩, hof a⟩

theorem LogFormat.ofName?_eq_some_iff {name : String} {f : LogFormat} :
    LogFormat.ofName? name = some f ↔ name = f.name := by
  constructor
  · intro h
    rw [ofName?] at h
    split at h
    case isTrue heq => rw [heq, ← Option.some.inj h]; rfl
    case isFalse =>
      split at h
      case isTrue heq => rw [heq, ← Option.some.inj h]; rfl
      case isFalse => cases h
  · rintro rfl
    exact LogFormat.ofName?_name f

/-- **A setting is its value or the standard one**, as far as its value can be read. -/
theorem setting_eq_some_iff {given : Given} {key : String} {read : Value → Option α}
    {write : α → Value} {standard x : α}
    (hread : ∀ v, given key = some v → ∀ x, read v = some x ↔ v = write x)
    (hwrite : ∀ {x y}, write x = write y → x = y) :
    setting given key read standard = some x ↔ (given key).getD (write standard) = write x := by
  rw [setting]
  cases hv : given key with
  | some v => exact hread v hv x
  | none =>
    rw [Option.some.injEq, Option.getD_none]
    exact ⟨congrArg write, hwrite⟩

theorem textSetting_iff {given : Given} {key standard x : String} :
    setting given key readText? standard = some x ↔
      (given key).getD (.string standard) = .string x :=
  setting_eq_some_iff (fun _ _ _ => readText?_eq_some_iff) Value.string.inj

theorem flagSetting_iff {given : Given} {key : String} {standard x : Bool} :
    setting given key readFlag? standard = some x ↔ (given key).getD (.bool standard) = .bool x :=
  setting_eq_some_iff (fun _ _ _ => readFlag?_eq_some_iff) Value.bool.inj

/-- A setting that is a number of such a type. -/
theorem numberSetting_iff {most : Nat} {ofNat : Nat → α} {toNat : α → Nat}
    (hof : ∀ a, ofNat (toNat a) = a) (hto : ∀ n ≤ most, toNat (ofNat n) = n)
    (hmost : ∀ a, toNat a ≤ most) {given : Given} {key : String} {standard x : α} :
    setting given key (fun v => (readNumber? most v).map ofNat) standard = some x ↔
      (given key).getD (.integer (toNat standard)) = .integer (toNat x) := by
  refine setting_eq_some_iff (fun _ _ _ => readNumber?_map_eq_some_iff hof hto hmost) ?_
  intro x y hxy
  rw [← hof x, ← hof y, Int.natCast_inj.mp (Value.integer.inj hxy)]

theorem uint16Setting_iff {given : Given} {key : String} {standard x : UInt16} :
    setting given key (fun v => (readNumber? 0xffff v).map UInt16.ofNat) standard = some x ↔
      (given key).getD (.integer standard.toNat) = .integer x.toNat :=
  numberSetting_iff (fun _ => UInt16.ofNat_toNat)
    (fun _ hle => UInt16.toNat_ofNat_of_lt (Nat.lt_succ_of_le hle))
    (fun a => Nat.le_of_lt_succ a.toNat_lt)

theorem uint32Setting_iff {given : Given} {key : String} {standard x : UInt32} :
    setting given key (fun v => (readNumber? 0xffffffff v).map UInt32.ofNat) standard = some x ↔
      (given key).getD (.integer standard.toNat) = .integer x.toNat :=
  numberSetting_iff (fun _ => UInt32.ofNat_toNat)
    (fun _ hle => UInt32.toNat_ofNat_of_lt (Nat.lt_succ_of_le hle))
    (fun a => Nat.le_of_lt_succ a.toNat_lt)

theorem uint64Setting_iff {given : Given} {key : String} {standard x : UInt64} :
    setting given key (fun v => (readNumber? 0xffffffffffffffff v).map UInt64.ofNat) standard =
        some x ↔
      (given key).getD (.integer standard.toNat) = .integer x.toNat :=
  numberSetting_iff (fun _ => UInt64.ofNat_toNat)
    (fun _ hle => UInt64.toNat_ofNat_of_lt (Nat.lt_succ_of_le hle))
    (fun a => Nat.le_of_lt_succ a.toNat_lt)

theorem formatSetting_iff {given : Given} {key : String} {standard x : LogFormat}
    (hstring : ∀ v, given key = some v → ∃ s, v = .string s) :
    setting given key readFormat? standard = some x ↔
      (given key).getD (.string standard.name) = .string x.name := by
  have hread : ∀ v, given key = some v → ∀ x, readFormat? v = some x ↔ v = .string x.name := by
    intro v hv x
    obtain ⟨name, rfl⟩ := hstring v hv
    rw [readFormat?, LogFormat.ofName?_eq_some_iff, Value.string.injEq]
  have hname : ∀ {x y : LogFormat}, Value.string x.name = .string y.name → x = y := by
    intro x y hxy
    rw [← Option.some.injEq, ← LogFormat.ofName?_name, Value.string.inj hxy,
      LogFormat.ofName?_name]
  exact setting_eq_some_iff hread hname

end Reading

/-! ## The settings by their names -/

/-- **The names of the settings.** -/
inductive SettingName where
  | host
  | port
  | shutdownTimeout
  | url
  | maxConnections
  | level
  | format
  | enabled
  deriving DecidableEq, Repr

namespace SettingName

/-- The section that a setting stands in. -/
def sectionName : SettingName → String
  | .host | .port | .shutdownTimeout => "server"
  | .url | .maxConnections => "database"
  | .level | .format => "logging"
  | .enabled => "metrics"

/-- The key of a setting in its section. -/
def key : SettingName → String
  | .host => "host"
  | .port => "port"
  | .shutdownTimeout => "shutdown_timeout"
  | .url => "url"
  | .maxConnections => "max_connections"
  | .level => "level"
  | .format => "format"
  | .enabled => "enabled"

/-- **A setting as it is written.** -/
def of (s : Settings) : SettingName → Value
  | .host => .string s.server.host
  | .port => .integer s.server.port.toNat
  | .shutdownTimeout => .integer s.server.shutdownTimeout.toNat
  | .url => .string s.database.url
  | .maxConnections => .integer s.database.maxConnections.toNat
  | .level => .string s.log.level
  | .format => .string s.log.format.name
  | .enabled => .bool s.metrics.enabled

/-- **A value of the type and in the range of a setting.** -/
def Fits (v : Value) : SettingName → Prop
  | .host | .url | .level => ∃ s, v = .string s
  | .port => ∃ i, v = .integer i ∧ 0 ≤ i ∧ i ≤ 0xffff
  | .shutdownTimeout => ∃ i, v = .integer i ∧ 0 ≤ i ∧ i ≤ 0xffffffffffffffff
  | .maxConnections => ∃ i, v = .integer i ∧ 0 ≤ i ∧ i ≤ 0xffffffff
  | .format => v = .string "pretty" ∨ v = .string "json"
  | .enabled => ∃ b, v = .bool b

/-- The members of a section, none if it is absent. -/
def membersOf (doc : List (String × Value)) (name : String) : List (String × Value) :=
  match Value.lookup? doc name with
  | some (.table members) => members
  | _ => []

/-- **The value that a document gives to a setting.** -/
def given? (doc : List (String × Value)) (k : SettingName) : Option Value :=
  Value.lookup? (membersOf doc k.sectionName) k.key

/-- What holds of all settings. -/
theorem forall_iff {P : SettingName → Prop} : (∀ k, P k) ↔
    (P .host ∧ P .port ∧ P .shutdownTimeout) ∧ (P .url ∧ P .maxConnections) ∧
      (P .level ∧ P .format) ∧ P .enabled :=
  ⟨fun h => ⟨⟨h _, h _, h _⟩, ⟨h _, h _⟩, ⟨h _, h _⟩, h _⟩,
    fun ⟨⟨_, _, _⟩, ⟨_, _⟩, ⟨_, _⟩, _⟩ k => by cases k <;> assumption⟩

/-- **A value fits a setting if some settings have it.** -/
theorem fits_iff {k : SettingName} {v : Value} : k.Fits v ↔ ∃ s, k.of s = v := by
  let s := Settings.standard
  constructor
  · intro h
    cases k with
    | host =>
      obtain ⟨t, rfl⟩ := h
      exact ⟨{ s with server := { s.server with host := t } }, rfl⟩
    | url =>
      obtain ⟨t, rfl⟩ := h
      exact ⟨{ s with database := { s.database with url := t } }, rfl⟩
    | level =>
      obtain ⟨t, rfl⟩ := h
      exact ⟨{ s with log := { s.log with level := t } }, rfl⟩
    | enabled =>
      obtain ⟨b, rfl⟩ := h
      exact ⟨{ s with metrics := ⟨b⟩ }, rfl⟩
    | format =>
      rcases h with rfl | rfl
      · exact ⟨{ s with log := { s.log with format := .pretty } }, rfl⟩
      · exact ⟨{ s with log := { s.log with format := .json } }, rfl⟩
    | port =>
      obtain ⟨i, rfl, hnonneg, hlt⟩ := h
      refine ⟨{ s with server := { s.server with port := .ofNat i.toNat } }, ?_⟩
      simp only [of, UInt16.toNat_ofNat', Value.integer.injEq]
      omega
    | shutdownTimeout =>
      obtain ⟨i, rfl, hnonneg, hlt⟩ := h
      refine ⟨{ s with server := { s.server with shutdownTimeout := .ofNat i.toNat } }, ?_⟩
      simp only [of, UInt64.toNat_ofNat', Value.integer.injEq]
      omega
    | maxConnections =>
      obtain ⟨i, rfl, hnonneg, hlt⟩ := h
      refine ⟨{ s with database := { s.database with maxConnections := .ofNat i.toNat } }, ?_⟩
      simp only [of, UInt32.toNat_ofNat', Value.integer.injEq]
      omega
  · rintro ⟨s, rfl⟩
    cases k with
    | port => exact ⟨_, rfl, Int.natCast_nonneg _, by have := s.server.port.toNat_lt; omega⟩
    | shutdownTimeout =>
      exact ⟨_, rfl, Int.natCast_nonneg _, by have := s.server.shutdownTimeout.toNat_lt; omega⟩
    | maxConnections =>
      exact ⟨_, rfl, Int.natCast_nonneg _, by have := s.database.maxConnections.toNat_lt; omega⟩
    | format =>
      cases hf : s.log.format
      · exact .inl (by simp [of, hf, LogFormat.name])
      · exact .inr (by simp [of, hf, LogFormat.name])
    | _ => exact ⟨_, rfl⟩

end SettingName

namespace Settings
open SettingName

/-- **Settings that are written alike are the same.** -/
theorem ext_of {s t : Settings} (h : ∀ k : SettingName, k.of s = k.of t) : s = t := by
  obtain ⟨⟨host, port, timeout⟩, ⟨url, connections⟩, ⟨level, format⟩, ⟨enabled⟩⟩ := s
  obtain ⟨⟨host', port', timeout'⟩, ⟨url', connections'⟩, ⟨level', format'⟩, ⟨enabled'⟩⟩ := t
  obtain ⟨⟨hhost, hport, htimeout⟩, ⟨hurl, hconnections⟩, ⟨hlevel, hformat⟩, henabled⟩ :=
    forall_iff.mp h
  simp only [of, Value.string.injEq, Value.integer.injEq, Value.bool.injEq, Int.natCast_inj]
    at hhost hport htimeout hurl hconnections hlevel hformat henabled
  obtain rfl := UInt16.toNat_inj.mp hport
  obtain rfl := UInt64.toNat_inj.mp htimeout
  obtain rfl := UInt32.toNat_inj.mp hconnections
  have hformat : some format = some format' := by
    rw [← LogFormat.ofName?_name, hformat, LogFormat.ofName?_name]
  cases hformat
  subst hhost hurl hlevel henabled
  rfl

/-- **A document of sections**: each is a table, and the format a string, if they are there. -/
structure InSections (doc : List (String × Value)) : Prop where
  isTable : ∀ (k : SettingName) {v}, Value.lookup? doc k.sectionName = some v →
    ∃ members, v = .table members
  isString : ∀ {v}, SettingName.format.given? doc = some v → ∃ s, v = .string s

section Documents
variable {doc : List (String × Value)}

/-- A section that is absent is one that says nothing. -/
theorem InSections.setting_eq (h : InSections doc) (k : SettingName) {α : Type}
    {read : Value → Option α} {standard : α} (hread : read (.table []) = some standard) :
    setting (Value.lookup? doc) k.sectionName read standard =
      read (.table (membersOf doc k.sectionName)) := by
  rw [setting, membersOf]
  cases hv : Value.lookup? doc k.sectionName with
  | none => exact hread.symm
  | some v =>
    obtain ⟨members, rfl⟩ := h.isTable k hv
    rfl

/-! ### The settings of a section -/

variable {members : List (String × Value)}

theorem server_eq_some_iff {s : ServerSettings} :
    ServerSettings.read? (.table members) = some s ↔
      (Value.lookup? members "host").getD (.string ServerSettings.standard.host) =
          .string s.host ∧
        (Value.lookup? members "port").getD (.integer ServerSettings.standard.port.toNat) =
          .integer s.port.toNat ∧
        (Value.lookup? members "shutdown_timeout").getD
            (.integer ServerSettings.standard.shutdownTimeout.toNat) =
          .integer s.shutdownTimeout.toNat := by
  obtain ⟨host, port, timeout⟩ := s
  rw [← textSetting_iff, ← uint16Setting_iff, ← uint64Setting_iff]
  simp only [ServerSettings.read?, PickupLedger.given?, Option.bind_eq_bind, Option.bind_some,
    Option.bind_eq_some_iff, Option.pure_def, Option.some.injEq, ServerSettings.mk.injEq]
  constructor
  · rintro ⟨_, hhost, _, hport, _, htimeout, rfl, rfl, rfl⟩
    exact ⟨hhost, hport, htimeout⟩
  · rintro ⟨hhost, hport, htimeout⟩
    exact ⟨host, hhost, port, hport, timeout, htimeout, rfl, rfl, rfl⟩

theorem database_eq_some_iff {s : DatabaseSettings} :
    DatabaseSettings.read? (.table members) = some s ↔
      (Value.lookup? members "url").getD (.string DatabaseSettings.standard.url) =
          .string s.url ∧
        (Value.lookup? members "max_connections").getD
            (.integer DatabaseSettings.standard.maxConnections.toNat) =
          .integer s.maxConnections.toNat := by
  obtain ⟨url, connections⟩ := s
  rw [← textSetting_iff, ← uint32Setting_iff]
  simp [DatabaseSettings.read?, PickupLedger.given?, Option.bind_eq_some_iff]

theorem log_eq_some_iff {s : LogSettings}
    (hstring : ∀ v, Value.lookup? members "format" = some v → ∃ s, v = .string s) :
    LogSettings.read? (.table members) = some s ↔
      (Value.lookup? members "level").getD (.string LogSettings.standard.level) =
          .string s.level ∧
        (Value.lookup? members "format").getD (.string LogSettings.standard.format.name) =
          .string s.format.name := by
  obtain ⟨level, format⟩ := s
  rw [← textSetting_iff, ← formatSetting_iff hstring]
  simp [LogSettings.read?, PickupLedger.given?, Option.bind_eq_some_iff]

theorem metrics_eq_some_iff {s : MetricsSettings} :
    MetricsSettings.read? (.table members) = some s ↔
      (Value.lookup? members "enabled").getD (.bool MetricsSettings.standard.enabled) =
        .bool s.enabled := by
  obtain ⟨enabled⟩ := s
  rw [← flagSetting_iff]
  simp [MetricsSettings.read?, PickupLedger.given?, Option.bind_eq_some_iff]

/-- **The settings of a document are what it says**, and else the standard ones. -/
theorem ofMembers?_eq_some_iff (h : InSections doc) {s : Settings} :
    ofMembers? doc = some s ↔ ∀ k : SettingName, (k.given? doc).getD (k.of standard) = k.of s := by
  have hserver : setting (Value.lookup? doc) "server" ServerSettings.read? .standard =
      ServerSettings.read? (.table (membersOf doc "server")) := h.setting_eq .host rfl
  have hdatabase : setting (Value.lookup? doc) "database" DatabaseSettings.read? .standard =
      DatabaseSettings.read? (.table (membersOf doc "database")) := h.setting_eq .url rfl
  have hlog : setting (Value.lookup? doc) "logging" LogSettings.read? .standard =
      LogSettings.read? (.table (membersOf doc "logging")) := h.setting_eq .level rfl
  have hmetrics : setting (Value.lookup? doc) "metrics" MetricsSettings.read? .standard =
      MetricsSettings.read? (.table (membersOf doc "metrics")) := h.setting_eq .enabled rfl
  have hsections : ofMembers? doc = some s ↔
      ServerSettings.read? (.table (membersOf doc "server")) = some s.server ∧
      DatabaseSettings.read? (.table (membersOf doc "database")) = some s.database ∧
      LogSettings.read? (.table (membersOf doc "logging")) = some s.log ∧
      MetricsSettings.read? (.table (membersOf doc "metrics")) = some s.metrics := by
    obtain ⟨server, database, log, metrics⟩ := s
    simp only [ofMembers?, hserver, hdatabase, hlog, hmetrics, Option.bind_eq_bind,
      Option.bind_eq_some_iff, Option.pure_def, Option.some.injEq, Settings.mk.injEq]
    constructor
    · rintro ⟨_, hserver, _, hdatabase, _, hlog, _, hmetrics, rfl, rfl, rfl, rfl⟩
      exact ⟨hserver, hdatabase, hlog, hmetrics⟩
    · rintro ⟨hserver, hdatabase, hlog, hmetrics⟩
      exact ⟨_, hserver, _, hdatabase, _, hlog, _, hmetrics, rfl, rfl, rfl, rfl⟩
  have hstring (v : Value) (hv : Value.lookup? (membersOf doc "logging") "format" = some v) :
      ∃ s, v = .string s := h.isString hv
  rw [hsections, server_eq_some_iff, database_eq_some_iff, log_eq_some_iff hstring,
    metrics_eq_some_iff, forall_iff]
  rfl

/-- Settings can be put together one by one. -/
theorem exists_of_each (f : SettingName → Settings) :
    ∃ s, ∀ k : SettingName, k.of s = k.of (f k) := by
  refine ⟨⟨⟨(f .host).server.host, (f .port).server.port,
    (f .shutdownTimeout).server.shutdownTimeout⟩,
    ⟨(f .url).database.url, (f .maxConnections).database.maxConnections⟩,
    ⟨(f .level).log.level, (f .format).log.format⟩, ⟨(f .enabled).metrics.enabled⟩⟩, fun k => ?_⟩
  cases k <;> rfl

theorem exists_of_given (h : ∀ (k : SettingName) (v : Value), k.given? doc = some v → k.Fits v) :
    ∃ s, ∀ k : SettingName, (k.given? doc).getD (k.of standard) = k.of s := by
  have hone (k : SettingName) : ∃ s, k.of s = (k.given? doc).getD (k.of standard) := by
    cases hv : k.given? doc with
    | none => exact ⟨standard, rfl⟩
    | some v => exact fits_iff.mp (h k v hv)
  -- Each setting by itself has settings to go with; those of all are put together.
  choose f hf using hone
  obtain ⟨s, hs⟩ := exists_of_each f
  exact ⟨s, fun k => ((hs k).trans (hf k)).symm⟩

/-- A document has settings if all that it says of them fits. -/
theorem ofMembers?_eq_none_iff (h : InSections doc) :
    ofMembers? doc = none ↔
      ∃ (k : SettingName) (v : Value), k.given? doc = some v ∧ ¬ k.Fits v := by
  constructor
  · intro hnone
    by_contra! hfits
    obtain ⟨s, hs⟩ := exists_of_given hfits
    exact Option.some_ne_none s (((ofMembers?_eq_some_iff h).mpr hs).symm.trans hnone)
  · rintro ⟨k, v, hv, hfit⟩
    cases hs : ofMembers? doc with
    | none => rfl
    | some s =>
      have hk := (ofMembers?_eq_some_iff h).mp hs k
      rw [hv, Option.getD_some] at hk
      exact absurd (fits_iff.mpr ⟨s, hk.symm⟩) hfit

/-- A document gives numbers that it can hold. -/
theorem given?_inRange (hdoc : ∀ m ∈ doc, m.2.InRange) {k : SettingName} {v : Value}
    (hv : k.given? doc = some v) : v.InRange := by
  have hlookup {members : List (String × Value)} (hmembers : ∀ m ∈ members, m.2.InRange)
      {key : String} {v : Value} (hv : Value.lookup? members key = some v) : v.InRange := by
    obtain ⟨m, hm, rfl⟩ := Option.map_eq_some_iff.mp hv
    exact hmembers m (List.mem_of_find?_eq_some hm)
  rw [SettingName.given?, membersOf] at hv
  split at hv
  · next hsection =>
    cases hlookup hdoc hsection with
    | table hmembers => exact hlookup hmembers hv
  · cases hv

theorem shutdownTimeout_le (h : InSections doc) (hdoc : ∀ m ∈ doc, m.2.InRange) {s : Settings}
    (hs : ofMembers? doc = some s) : s.server.shutdownTimeout.toNat ≤ Toml.mostInteger := by
  have hk := (ofMembers?_eq_some_iff h).mp hs .shutdownTimeout
  cases hv : SettingName.shutdownTimeout.given? doc with
  | none =>
    rw [hv, Option.getD_none] at hk
    simp only [of, Value.integer.injEq, Int.natCast_inj] at hk
    rw [← hk]
    decide
  | some v =>
    rw [hv, Option.getD_some] at hk
    cases hk ▸ given?_inRange hdoc hv with
    | integer hi => exact Int.ofNat_le.mp hi.2

end Documents

/-! ## Settings that are written out -/

theorem inSections_toMembers (s : Settings) : InSections s.toMembers where
  isTable k := by
    intro v hv
    cases k <;> exact ⟨_, (Option.some.inj hv).symm⟩
  isString hv := ⟨_, (Option.some.inj hv).symm⟩

/-- Settings that are written out say all of themselves. -/
theorem given?_toMembers (s : Settings) (k : SettingName) :
    k.given? s.toMembers = some (k.of s) := by
  cases k <;> rfl

/-- **Settings that are written out can be read.** -/
theorem exists_text_toMembers {s : Settings}
    (h : s.server.shutdownTimeout.toNat ≤ Toml.mostInteger) :
    ∃ text, Toml.read? text = some s.toMembers := by
  -- The other two numbers are of narrower types.
  have hport : s.server.port.toNat ≤ Toml.mostInteger := by
    have := s.server.port.toNat_lt
    rw [Toml.mostInteger]
    omega
  have hconnections : s.database.maxConnections.toNat ≤ Toml.mostInteger := by
    have := s.database.maxConnections.toNat_lt
    rw [Toml.mostInteger]
    omega
  have hkeys : ∀ key ∈ ["server", "host", "port", "shutdown_timeout", "database", "url",
      "max_connections", "logging", "level", "format", "metrics", "enabled"],
      Toml.IsBareKey key := by decide +kernel
  simp only [List.forall_mem_cons] at hkeys
  refine ⟨_, Toml.read?_documentText ?_ (by simp [toMembers])⟩
  simp only [toMembers, List.forall_mem_cons, Toml.IsPlainSection, Toml.Value.table.injEq,
    exists_eq_left', Toml.IsPlain]
  simp [hkeys, hport, h, hconnections]

theorem ofMembers?_toMembers (s : Settings) : ofMembers? s.toMembers = some s := by
  rw [ofMembers?_eq_some_iff (inSections_toMembers s)]
  intro k
  rw [given?_toMembers, Option.getD_some]

/-! ## Usable settings -/

/-- **Settings that a service can run with.** -/
structure IsUsable (s : Settings) : Prop where
  url : Text.isBlankText s.database.url = false
  maxConnections : 1 ≤ s.database.maxConnections.toNat
  level : Text.isBlankText s.log.level = false

theorem check_eq_ok_iff {s : Settings} : s.check = .ok () ↔ s.IsUsable := by
  have hpos : 1 ≤ s.database.maxConnections.toNat ↔ s.database.maxConnections ≠ 0 := by
    rw [Nat.one_le_iff_ne_zero, Ne, Ne, ← UInt32.toNat_inj, UInt32.toNat_zero]
  constructor
  · intro h
    simp only [check] at h
    split_ifs at h with hurl hconnections hlevel
    exact ⟨Bool.eq_false_iff.mpr hurl, hpos.mpr hconnections, Bool.eq_false_iff.mpr hlevel⟩
  · rintro ⟨hurl, hconnections, hlevel⟩
    simp [check, hurl, hpos.mp hconnections, hlevel]

theorem isUsable_standard : standard.IsUsable := ⟨by decide, by decide, by decide⟩

theorem checked_of_isUsable {s : Settings} (h : s.IsUsable) : s.checked = .ok s := by
  rw [checked, check_eq_ok_iff.mpr h]

theorem checked_of_not_isUsable {s : Settings} (h : ¬ s.IsUsable) :
    ∃ fault, s.checked = .error (.invalid fault) := by
  rw [checked]
  cases hcheck : s.check with
  | ok _ => exact absurd (check_eq_ok_iff.mp hcheck) h
  | error fault => exact ⟨fault, rfl⟩

/-- What is accepted is usable, and it is nothing but the settings of the document. -/
theorem checked_eq_ok_iff {s t : Settings} : s.checked = .ok t ↔ s = t ∧ s.IsUsable := by
  rw [checked, ← check_eq_ok_iff]
  cases s.check <;> simp

/-! ## Documents -/

section Texts
variable {text : String} {doc : List (String × Value)}

theorem ofText_of_some {s : Settings} (hread : Toml.read? text = some doc)
    (hs : ofMembers? doc = some s) : ofText text = s.checked := by
  rw [ofText, hread, Option.bind_some, hs]

theorem ofText_of_none (hread : Toml.read? text = some doc) (hs : ofMembers? doc = none) :
    ofText text = .error .malformed := by
  rw [ofText, hread, Option.bind_some, hs]

theorem ofText_eq_malformed_iff (hread : Toml.read? text = some doc) :
    ofText text = .error .malformed ↔ ofMembers? doc = none := by
  cases hs : ofMembers? doc with
  | none => exact iff_of_true (ofText_of_none hread hs) rfl
  | some s =>
    rw [ofText_of_some hread hs]
    refine iff_of_false (fun hmalformed => ?_) (Option.some_ne_none s)
    by_cases h : s.IsUsable
    · cases (checked_of_isUsable h).symm.trans hmalformed
    · obtain ⟨fault, hfault⟩ := checked_of_not_isUsable h
      cases hfault.symm.trans hmalformed

/-- The settings of an accepted text are usable. -/
theorem isUsable_of_ofText {s : Settings} (h : ofText text = .ok s) : s.IsUsable := by
  rw [ofText] at h
  split at h
  · obtain ⟨rfl, husable⟩ := checked_eq_ok_iff.mp h
    exact husable
  · cases h

/-- Accepted settings are those of the document. -/
theorem ofMembers?_of_ofText {s : Settings} (hread : Toml.read? text = some doc)
    (h : ofText text = .ok s) : ofMembers? doc = some s := by
  cases hs : ofMembers? doc with
  | none => cases (ofText_of_none hread hs).symm.trans h
  | some t =>
    rw [ofText_of_some hread hs] at h
    rw [(checked_eq_ok_iff.mp h).1]

/-- **Usable settings are read back from every text in which they are written out.** -/
theorem ofText_of_toMembers {s : Settings} (h : s.IsUsable)
    (hread : Toml.read? text = some s.toMembers) : ofText text = .ok s := by
  rw [ofText_of_some hread (ofMembers?_toMembers s), checked_of_isUsable h]

end Texts
end Settings

open Settings SettingName

/-- **A document overlays the standard settings.**  It is malformed exactly if one of its values
does not fit its setting; else its settings are those that it gives and the standard ones, each by
itself.  They are accepted exactly if they are usable.  Accepted settings can be written out as a
document, and are read back from every text of it. -/
theorem document_overlays_standard {text : String} {doc : List (String × Value)}
    (hread : Toml.read? text = some doc) (hsections : InSections doc) :
    (ofText text = .error .malformed ↔
      ∃ (k : SettingName) (v : Value), k.given? doc = some v ∧ ¬ k.Fits v) ∧
    ((∀ (k : SettingName) (v : Value), k.given? doc = some v → k.Fits v) →
      ∃ s : Settings, (∀ k : SettingName, k.of s = (k.given? doc).getD (k.of standard)) ∧
        (s.IsUsable → ofText text = .ok s) ∧
        (¬ s.IsUsable → ∃ fault, ofText text = .error (.invalid fault))) ∧
    ∀ s, ofText text = .ok s →
      (∃ full, Toml.read? full = some s.toMembers) ∧
      ∀ full, Toml.read? full = some s.toMembers → ofText full = .ok s := by
  refine ⟨?_, ?_, ?_⟩
  · rw [ofText_eq_malformed_iff hread, ofMembers?_eq_none_iff hsections]
  · intro hfits
    obtain ⟨s, hs⟩ := exists_of_given hfits
    have htext : ofText text = s.checked :=
      ofText_of_some hread ((ofMembers?_eq_some_iff hsections).mpr hs)
    refine ⟨s, fun k => (hs k).symm, fun husable => ?_, fun hnot => ?_⟩
    · rw [htext, checked_of_isUsable husable]
    · rw [htext]
      exact checked_of_not_isUsable hnot
  · intro s hs
    have hmembers := ofMembers?_of_ofText hread hs
    have htimeout := shutdownTimeout_le hsections (Toml.inRange_of_read? hread) hmembers
    exact ⟨exists_text_toMembers htimeout, fun full hfull =>
      ofText_of_toMembers (isUsable_of_ofText hs) hfull⟩

theorem document_of_one_port_overlays :
    Toml.read? "[server]\nport = 9090\n" = some [("server", .table [("port", .integer 9090)])] ∧
    InSections [("server", .table [("port", .integer 9090)])] ∧
    ofText "[server]\nport = 9090\n" =
      .ok { standard with server := { ServerSettings.standard with port := 9090 } } := by
  have hread : Toml.read? (Toml.documentText [("server", .table [("port", .integer 9090)])]) =
      some [("server", .table [("port", .integer 9090)])] :=
    Toml.read?_documentText (by simp [Toml.IsPlainSection, Toml.IsPlain]; decide +kernel) (by simp)
  have hsections : InSections [("server", .table [("port", .integer 9090)])] :=
    ⟨fun k => by cases k <;> simp [Value.lookup?, sectionName], by
      simp [SettingName.given?, membersOf, Value.lookup?, sectionName]⟩
  obtain ⟨-, haccepts, -⟩ := document_overlays_standard hread hsections
  obtain ⟨s, hs, husable, -⟩ := haccepts fun k => by
    cases k <;> simp [SettingName.given?, membersOf, Value.lookup?, sectionName, key, Fits]
  obtain rfl : s = { standard with server := { ServerSettings.standard with port := 9090 } } :=
    ext_of fun k => (hs k).trans (by cases k <;> rfl)
  exact ⟨hread, hsections, husable ⟨by decide, by decide, by decide⟩⟩

end PickupLedger
