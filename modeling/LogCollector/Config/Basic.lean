import LogCollector.Plan

/-!
# The configuration

The settings of the collector in six sections, each with its usual values, and the plan for a
run that they amount to. Audit records have a log file of their own, whatever file is named;
servers of the year 2000 take no filter rules.
-/

namespace LogCollector

/-- Settings about the program's own messages. -/
structure GeneralSettings where
  /-- The least level of messages that are written. -/
  logLevel : String := "info"
  /-- The format of messages. -/
  logFormat : String := "json"
  deriving DecidableEq

/-- Settings about log sessions. -/
structure LeaSettings where
  /-- The kind of records. -/
  kind : RecordKind := .traffic
  /-- The mode of the entity, unless a settings document names another one. -/
  mode : Mode := .firewall
  /-- Whether records are read as they are written. -/
  online : Bool := false
  /-- Whether addresses and ports are resolved. -/
  resolve : Bool := false
  /-- The log files to be read. -/
  logfile : String := "fw.log"
  /-- Whether the server is one of the year 2000. -/
  legacy : Bool := false
  /-- The seconds before a reconnect. -/
  recoverySeconds : Nat := 10
  deriving DecidableEq

/-- Settings about the output. -/
structure OutputSettings where
  /-- How the time of a record is shown. -/
  dateFormat : DateFormat := .localTime
  /-- The text between two attributes of a line. -/
  separator : String := "|"
  /-- The selected attributes. -/
  fields : List String := []
  /-- Where lines go. -/
  sink : SinkKind := .screen
  /-- The name of the output file without its ending. -/
  stem : String := "fw1-loggrabber"
  /-- The number of bytes above which the output file is rotated. -/
  rotateSize : Nat := 1048576
  deriving DecidableEq

/-- The filter rules. -/
structure FilterSettings where
  /-- For traffic records. -/
  trafficRules : List String := []
  /-- For audit records. -/
  auditRules : List String := []
  deriving DecidableEq

/-- Settings about the status service. -/
structure StatusSettings where
  /-- The entity whose progress is kept; none if this is empty. -/
  entity : String := ""
  /-- The application at the status service. -/
  app : String := ""
  /-- The server of the status service; the local one if this is empty. -/
  statusServer : String := ""
  /-- The server of settings documents; the local one if this is empty. -/
  configServer : String := ""
  /-- The number of records after which the position is stored. -/
  commitInterval : Nat := 1000
  /-- How often a commit is tried. -/
  maxRetries : Nat := 3
  /-- How many times longer each wait between two attempts is. -/
  retryFactor : Nat := 2
  deriving DecidableEq

/-- Settings about metrics. -/
structure MetricsSettings where
  /-- Whether they are published. -/
  enabled : Bool := false
  /-- The host at which they are published. -/
  host : String := "127.0.0.1"
  /-- The port there. -/
  port : Nat := 9464
  deriving DecidableEq

/-- The configuration. -/
structure Config where
  /-- About the program's own messages. -/
  general : GeneralSettings := {}
  /-- About log sessions. -/
  lea : LeaSettings := {}
  /-- About the output. -/
  output : OutputSettings := {}
  /-- The filter rules. -/
  filter : FilterSettings := {}
  /-- About the status service. -/
  status : StatusSettings := {}
  /-- About metrics. -/
  metrics : MetricsSettings := {}
  deriving DecidableEq

/-- The log file of audit records. -/
def auditFile : String := "fw.adtlog"

/-- The log file of traffic records that is read as records are written. -/
def trafficFile : String := "fw.log"

namespace StatusSettings

/-- Whether progress is kept. -/
def tracks (s : StatusSettings) : Bool := s.entity ≠ ""

/-- Whose progress is kept. -/
def tracking (s : StatusSettings) : Option Tracking :=
  if s.tracks then some ⟨s.entity, s.app⟩ else none

end StatusSettings

namespace Config

/-- The log files that are read. -/
def logfile (c : Config) : String :=
  match c.lea.kind with
  | .audit => auditFile
  | .traffic => c.lea.logfile

theorem logfile_of_traffic {c : Config} (h : c.lea.kind = .traffic) :
    c.logfile = c.lea.logfile := by
  rw [logfile, h]

theorem logfile_of_audit {c : Config} (h : c.lea.kind = .audit) : c.logfile = auditFile := by
  rw [logfile, h]

/-- The character between two attributes. -/
def separator (c : Config) : Char := c.output.separator.toList.head?.getD '|'

/-- The filter rules that are used for a kind of records. -/
def rules (c : Config) (kind : RecordKind) : List String :=
  if c.lea.legacy then []
  else match kind with
    | .traffic => c.filter.trafficRules
    | .audit => c.filter.auditRules

/-- The plan that the configuration amounts to. -/
def plan (zone : Calendar.Zone) (c : Config) : Plan where
  kind := c.lea.kind
  mode := c.lea.mode
  online := c.lea.online
  resolve := c.lea.resolve
  logfile := c.logfile
  legacy := c.lea.legacy
  dateFormat := c.output.dateFormat
  separator := c.separator
  fields := c.output.fields
  trafficRules := c.rules .traffic
  auditRules := c.rules .audit
  tracking := c.status.tracking
  commitInterval := c.status.commitInterval
  maxRetries := c.status.maxRetries
  retryFactor := c.status.retryFactor
  recovery := .ofSeconds c.lea.recoverySeconds
  zone := zone

/-- The usual settings amount to the usual plan. -/
theorem plan_default (zone : Calendar.Zone) : ({} : Config).plan zone = Plan.standard zone := rfl

end Config

end LogCollector
