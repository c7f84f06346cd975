import LogCollector.CommandLine.Reader
import LogCollector.Config.Basic

/-!
# Requests to the daemon

The daemon has options only. Some of them take the place of settings of the configuration.
-/

namespace LogCollector.Daemon

open CommandLine

/-- A request. -/
structure Request where
  /-- The file of the configuration. -/
  configPath : String
  /-- The file of the session script that is read. -/
  script : Option String
  /-- The level of messages, in place of the configured one. -/
  logLevel : Option String
  /-- The format of messages, in place of the configured one. -/
  logFormat : Option String
  /-- The log files, in place of the configured ones. -/
  logfile : Option String
  /-- Whether records are read as they are written, whatever is configured. -/
  online : Bool
  /-- Whether the log files are only listed. -/
  listsFiles : Bool
  /-- Whether the configuration is only checked. -/
  checksConfig : Bool
  deriving DecidableEq

namespace Request

/-- The grammar of requests. -/
def grammar : Grammar :=
  [⟨[], [.path "config" (some 'c'), .path "replay" none, .text "log-level", .text "log-format",
    .text "logfile", .flag "online", .flag "show-files", .flag "validate", .help, .version],
    .none⟩]

/-- The request that some arguments make. -/
def parse (args : List String) : Except Refusal Request := do
  let d ← grammar.read args
  return {
    configPath := (d.value? "config").getD "/etc/loggrabber/loggrabber.toml"
    script := d.value? "replay"
    logLevel := d.value? "log-level"
    logFormat := d.value? "log-format"
    logfile := d.value? "logfile"
    online := d.has "online"
    listsFiles := d.has "show-files"
    checksConfig := d.has "validate" }

/-- The configuration with what the request puts in place of settings. -/
def override (r : Request) (c : Config) : Config :=
  { c with
    general.logLevel := r.logLevel.getD c.general.logLevel
    general.logFormat := r.logFormat.getD c.general.logFormat
    lea.logfile := r.logfile.getD c.lea.logfile
    lea.online := r.online || c.lea.online }

end Request

end LogCollector.Daemon
