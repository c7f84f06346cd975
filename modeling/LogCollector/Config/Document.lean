import LogCollector.Config.Basic
import LogCollector.Toml.Parser
import LogCollector.Toml.Printer

/-!
# The configuration as a document

A configuration is written as a TOML document with its six sections. On reading, a section or
setting that is missing has its usual value and one that is not known counts for nothing.
-/

namespace LogCollector

open Toml

/-- Reads one of some things by its name. -/
def Toml.named? {α : Type} (name : α → String) (all : List α) (t : Toml) : Option α := do
  let w ← t.word?
  all.find? (name · == w)

namespace GeneralSettings

/-- The section of these settings. -/
def entries (s : GeneralSettings) : List Entry :=
  [("log_level", .string s.logLevel), ("log_format", .string s.logFormat)]

/-- Reads the section. -/
def ofToml? (t : Toml) : Option GeneralSettings := do
  let d : GeneralSettings := {}
  match ← t.parts? ["log_level", "log_format"] with
  | [level, format] =>
    return ⟨← usual? string? d.logLevel level, ← usual? string? d.logFormat format⟩
  | _ => none

end GeneralSettings

namespace LeaSettings

/-- The section of these settings. -/
def entries (s : LeaSettings) : List Entry :=
  [("record_kind", .string s.kind.name), ("mode", .string s.mode.name),
    ("online_mode", .boolean s.online), ("resolve_mode", .boolean s.resolve),
    ("logfile", .string s.logfile), ("legacy_2000", .boolean s.legacy),
    ("recovery_interval_secs", .integer s.recoverySeconds)]

/-- Reads the section. -/
def ofToml? (t : Toml) : Option LeaSettings := do
  let d : LeaSettings := {}
  match ← t.parts? ["record_kind", "mode", "online_mode", "resolve_mode", "logfile",
    "legacy_2000", "recovery_interval_secs"] with
  | [kind, mode, online, resolve, logfile, legacy, recovery] =>
    return {
      kind := ← usual? (named? RecordKind.name [.traffic, .audit]) d.kind kind
      mode := ← usual? (named? Mode.name [.firewall, .ips, .vpn, .nonAudit, .audit]) d.mode mode
      online := ← usual? bool? d.online online
      resolve := ← usual? bool? d.resolve resolve
      logfile := ← usual? string? d.logfile logfile
      legacy := ← usual? bool? d.legacy legacy
      recoverySeconds := ← usual? (nat? (UInt64.size - 1)) d.recoverySeconds recovery }
  | _ => none

end LeaSettings

namespace OutputSettings

/-- The section of these settings. -/
def entries (s : OutputSettings) : List Entry :=
  [("date_format", .string s.dateFormat.name), ("record_separator", .string s.separator),
    ("fields", .array (s.fields.map .string)), ("sink", .string s.sink.name),
    ("file_prefix", .string s.stem), ("rotate_size_bytes", .integer s.rotateSize)]

/-- Reads the section. -/
def ofToml? (t : Toml) : Option OutputSettings := do
  let d : OutputSettings := {}
  match ← t.parts? ["date_format", "record_separator", "fields", "sink", "file_prefix",
    "rotate_size_bytes"] with
  | [format, separator, fields, sink, stem, size] =>
    return {
      dateFormat :=
        ← usual? (named? DateFormat.name [.vendor, .epoch, .localTime]) d.dateFormat format
      separator := ← usual? string? d.separator separator
      fields := ← usual? texts? d.fields fields
      sink := ← usual? (named? SinkKind.name [.screen, .file]) d.sink sink
      stem := ← usual? string? d.stem stem
      rotateSize := ← usual? (nat? (UInt64.size - 1)) d.rotateSize size }
  | _ => none

end OutputSettings

namespace FilterSettings

/-- The section of these settings. -/
def entries (s : FilterSettings) : List Entry :=
  [("traffic_rules", .array (s.trafficRules.map .string)),
    ("audit_rules", .array (s.auditRules.map .string))]

/-- Reads the section. -/
def ofToml? (t : Toml) : Option FilterSettings := do
  let d : FilterSettings := {}
  match ← t.parts? ["traffic_rules", "audit_rules"] with
  | [traffic, audit] =>
    return ⟨← usual? texts? d.trafficRules traffic, ← usual? texts? d.auditRules audit⟩
  | _ => none

end FilterSettings

namespace StatusSettings

/-- The section of these settings. -/
def entries (s : StatusSettings) : List Entry :=
  [("entity", .string s.entity), ("app_name", .string s.app),
    ("status_server", .string s.statusServer), ("config_server", .string s.configServer),
    ("commit_interval", .integer s.commitInterval), ("max_retries", .integer s.maxRetries),
    ("retry_factor", .integer s.retryFactor)]

/-- Reads the section. -/
def ofToml? (t : Toml) : Option StatusSettings := do
  let d : StatusSettings := {}
  match ← t.parts? ["entity", "app_name", "status_server", "config_server", "commit_interval",
    "max_retries", "retry_factor"] with
  | [entity, app, statusServer, configServer, interval, retries, factor] =>
    return {
      entity := ← usual? string? d.entity entity
      app := ← usual? string? d.app app
      statusServer := ← usual? string? d.statusServer statusServer
      configServer := ← usual? string? d.configServer configServer
      commitInterval := ← usual? (nat? (UInt64.size - 1)) d.commitInterval interval
      maxRetries := ← usual? (nat? (UInt32.size - 1)) d.maxRetries retries
      retryFactor := ← usual? (nat? (UInt32.size - 1)) d.retryFactor factor }
  | _ => none

end StatusSettings

namespace MetricsSettings

/-- The section of these settings. -/
def entries (s : MetricsSettings) : List Entry :=
  [("enabled", .boolean s.enabled), ("listen_addr", .string s.host), ("port", .integer s.port)]

/-- Reads the section. -/
def ofToml? (t : Toml) : Option MetricsSettings := do
  let d : MetricsSettings := {}
  match ← t.parts? ["enabled", "listen_addr", "port"] with
  | [enabled, host, port] =>
    return ⟨← usual? bool? d.enabled enabled, ← usual? string? d.host host,
      ← usual? (nat? (UInt16.size - 1)) d.port port⟩
  | _ => none

end MetricsSettings

namespace Config

/-- The sections of a configuration. -/
def sections (c : Config) : List (String × List Entry) :=
  [("general", c.general.entries), ("lea", c.lea.entries), ("output", c.output.entries),
    ("filter", c.filter.entries), ("status", c.status.entries), ("metrics", c.metrics.entries)]

/-- The names of the sections. -/
def sectionNames : List String := ({} : Config).sections.map (·.1)

/-- Reads a configuration. -/
def ofToml? (t : Toml) : Option Config := do
  match ← t.parts? sectionNames with
  | [general, lea, output, filter, status, metrics] =>
    return {
      general := ← usual? GeneralSettings.ofToml? {} general
      lea := ← usual? LeaSettings.ofToml? {} lea
      output := ← usual? OutputSettings.ofToml? {} output
      filter := ← usual? FilterSettings.ofToml? {} filter
      status := ← usual? StatusSettings.ofToml? {} status
      metrics := ← usual? MetricsSettings.ofToml? {} metrics }
  | _ => none

/-- Reads the document of a configuration. -/
def parse (text : String) : Except ConfigFault Config :=
  match (Toml.parse? text.toList).bind ofToml? with
  | some c => .ok c
  | none => .error (.parseFailed "this is no document of settings")

/-- The document of a configuration. -/
def text (c : Config) : String := documentText c.sections

end Config

end LogCollector
