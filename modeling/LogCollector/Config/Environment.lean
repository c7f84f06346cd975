import LogCollector.Config.Basic
import LogCollector.Text.Blank
import LogCollector.Text.Split

/-!
# Settings from the environment

A variable named after a section and a setting, such as `LOGGRABBER_OUTPUT_SINK`, takes the
place of the setting if its value spells one. Texts are taken as they are, truth values are
`true` and `false`, and words count in any letter case. The list of attributes is separated by
semicolons. The mode and the filter rules have no variables.
-/

namespace LogCollector

/-- The values of the variables that are set. -/
abbrev Environment := String → Option String

namespace Environment

/-- The environment without variables. -/
def empty : Environment := fun _ => none

/-- The environment with some variables. -/
def ofList (values : List (String × String)) : Environment := (values.lookup ·)

/-- A setting: the value that a variable spells if it does, and otherwise the one it had. -/
def setting {α : Type} (env : Environment) (name : String) (read : String → Option α)
    (value : α) : α :=
  ((env name).bind read).getD value

/-- A variable that is not set changes nothing. -/
theorem setting_of_none {α : Type} {env : Environment} {name : String}
    (read : String → Option α) (value : α) (h : env name = none) :
    env.setting name read value = value := by
  simp [setting, h]

/-- What a variable spells is the setting. -/
theorem setting_of_some {α : Type} {env : Environment} {name s : String}
    {read : String → Option α} {a : α} (value : α) (h : env name = some s) (hs : read s = some a) :
    env.setting name read value = a := by
  simp [setting, h, hs]

end Environment

namespace Config

/-- Reads a truth value. -/
def readBool (s : String) : Option Bool :=
  match s with
  | "true" => some true
  | "false" => some false
  | _ => none

/-- Reads a natural number below a bound. -/
def readNat (bound : Nat) (s : String) : Option Nat := Numeral.natural? (bound - 1) s.toList

/-- Reads a list separated by semicolons, without empty items. -/
def readList (s : String) : Option (List String) :=
  some ((Text.splitOn ';' s.toList).map Text.trim |>.filter (· ≠ []) |>.map .ofList)

/-- The configuration with the settings of the environment in place of its own. -/
def override (env : Environment) (c : Config) : Config where
  general := {
    logLevel := env.setting "LOGGRABBER_GENERAL_LOG_LEVEL" some c.general.logLevel
    logFormat := env.setting "LOGGRABBER_GENERAL_LOG_FORMAT" some c.general.logFormat }
  lea := { c.lea with
    kind := env.setting "LOGGRABBER_LEA_RECORD_KIND" (RecordKind.parse · |>.toOption) c.lea.kind
    online := env.setting "LOGGRABBER_LEA_ONLINE_MODE" readBool c.lea.online
    resolve := env.setting "LOGGRABBER_LEA_RESOLVE_MODE" readBool c.lea.resolve
    legacy := env.setting "LOGGRABBER_LEA_LEGACY_2000" readBool c.lea.legacy
    logfile := env.setting "LOGGRABBER_LEA_LOGFILE" some c.lea.logfile
    recoverySeconds := env.setting "LOGGRABBER_LEA_RECOVERY_INTERVAL_SECS" (readNat UInt64.size)
      c.lea.recoverySeconds }
  output := {
    dateFormat := env.setting "LOGGRABBER_OUTPUT_DATE_FORMAT" (DateFormat.parse · |>.toOption)
      c.output.dateFormat
    separator := env.setting "LOGGRABBER_OUTPUT_RECORD_SEPARATOR" some c.output.separator
    fields := env.setting "LOGGRABBER_OUTPUT_FIELDS" readList c.output.fields
    sink := env.setting "LOGGRABBER_OUTPUT_SINK" (SinkKind.parse · |>.toOption) c.output.sink
    stem := env.setting "LOGGRABBER_OUTPUT_FILE_PREFIX" some c.output.stem
    rotateSize := env.setting "LOGGRABBER_OUTPUT_ROTATE_SIZE_BYTES" (readNat UInt64.size)
      c.output.rotateSize }
  filter := c.filter
  status := {
    entity := env.setting "LOGGRABBER_STATUS_ENTITY" some c.status.entity
    app := env.setting "LOGGRABBER_STATUS_APP_NAME" some c.status.app
    statusServer := env.setting "LOGGRABBER_STATUS_STATUS_SERVER" some c.status.statusServer
    configServer := env.setting "LOGGRABBER_STATUS_CONFIG_SERVER" some c.status.configServer
    commitInterval := env.setting "LOGGRABBER_STATUS_COMMIT_INTERVAL" (readNat UInt64.size)
      c.status.commitInterval
    maxRetries := env.setting "LOGGRABBER_STATUS_MAX_RETRIES" (readNat UInt32.size)
      c.status.maxRetries
    retryFactor := env.setting "LOGGRABBER_STATUS_RETRY_FACTOR" (readNat UInt32.size)
      c.status.retryFactor }
  metrics := {
    enabled := env.setting "LOGGRABBER_METRICS_ENABLED" readBool c.metrics.enabled
    host := env.setting "LOGGRABBER_METRICS_LISTEN_ADDR" some c.metrics.host
    port := env.setting "LOGGRABBER_METRICS_PORT" (readNat UInt16.size) c.metrics.port }

/-- The variables that can take the place of settings. -/
def variableNames : List String :=
  ["LOGGRABBER_GENERAL_LOG_LEVEL", "LOGGRABBER_GENERAL_LOG_FORMAT",
    "LOGGRABBER_LEA_RECORD_KIND", "LOGGRABBER_LEA_ONLINE_MODE", "LOGGRABBER_LEA_RESOLVE_MODE",
    "LOGGRABBER_LEA_LEGACY_2000", "LOGGRABBER_LEA_LOGFILE",
    "LOGGRABBER_LEA_RECOVERY_INTERVAL_SECS", "LOGGRABBER_OUTPUT_DATE_FORMAT",
    "LOGGRABBER_OUTPUT_RECORD_SEPARATOR", "LOGGRABBER_OUTPUT_FIELDS", "LOGGRABBER_OUTPUT_SINK",
    "LOGGRABBER_OUTPUT_FILE_PREFIX", "LOGGRABBER_OUTPUT_ROTATE_SIZE_BYTES",
    "LOGGRABBER_STATUS_ENTITY", "LOGGRABBER_STATUS_APP_NAME", "LOGGRABBER_STATUS_STATUS_SERVER",
    "LOGGRABBER_STATUS_CONFIG_SERVER", "LOGGRABBER_STATUS_COMMIT_INTERVAL",
    "LOGGRABBER_STATUS_MAX_RETRIES", "LOGGRABBER_STATUS_RETRY_FACTOR",
    "LOGGRABBER_METRICS_ENABLED", "LOGGRABBER_METRICS_LISTEN_ADDR", "LOGGRABBER_METRICS_PORT"]

/-- No other variable counts. -/
theorem override_congr {env env' : Environment} (c : Config)
    (h : ∀ name ∈ variableNames, env name = env' name) : c.override env = c.override env' := by
  simp only [variableNames, List.forall_mem_cons, List.not_mem_nil, false_imp_iff, implies_true,
    and_true] at h
  simp only [override, Environment.setting, h]

/-- Without variables nothing changes. -/
theorem override_empty (c : Config) : c.override .empty = c := rfl

end Config

end LogCollector
