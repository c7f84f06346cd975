import LogCollector.Collector
import LogCollector.Daemon.Request
import LogCollector.Daemon.Trouble
import LogCollector.Net.Listen
import LogCollector.Stage.World
import LogCollector.Surroundings

/-!
# Runs of the daemon

The daemon loads and checks the configuration. Unless that is all it has been asked for, it
opens the output and reads the session script into it, or lists the log files of the script.
The status service is needed only when progress is kept; settings documents come from a server
of their own when one is configured.
-/

namespace LogCollector.Daemon

/-- What a run comes to. -/
inductive Outcome where
  /-- The configuration is right. -/
  | checked (config : Config)
  /-- The log files. -/
  | listed (files : List LogFile)
  /-- The script has been read. -/
  | ran (report : RunReport)
  deriving DecidableEq

/-- What a run leaves behind. -/
structure Ending where
  /-- What it comes to. -/
  result : Except Trouble Outcome
  /-- The sink, if one was opened. -/
  sink : Option Sink

variable (s : Surroundings) (r : Request)

/-- The configuration that the daemon works with. -/
def configure : Except Trouble Config := do
  let c ← (s.loadConfig r.configPath).mapError (.load r.configPath)
  (r.override c).check.mapError fun f => .override (.config f)

/-- Opens the configured sink. -/
def openSink (c : Config) : Except Trouble Sink :=
  match c.output.sink with
  | .screen => .ok (.screen .blank)
  | .file => (RotatingFile.openAt s.directory c.output.stem c.output.rotateSize).map .file
    |>.mapError .output

/-- The script in a file. -/
def loadScript (path : String) : Except Trouble Replay.Script := do
  let text ← (s.directory.read path).mapError fun f => .script path (.io f.message)
  (Replay.Script.parse text).mapError (.script path)

/-- The collector for a configuration. -/
def collector (c : Config) : Except Trouble Collector := do
  if c.status.tracks then s.knowsCommand.mapError .service
  let others := c.status.tracks && c.status.configServer ≠ c.status.statusServer
  (Collector.build (c.plan s.zone) true true c.status.tracks others).mapError .build

/-- The world in which a script is read into a sink. -/
def stage (c : Config) (script : Replay.Script) (sink : Sink) : Stage :=
  { Stage.bare s.zone s.clock with
    status := .command c.status.statusServer s.command
    settings := .command c.status.configServer s.command
    collaborator := .script (.ofScript script)
    sink }

/-- A bound that no run over a script reaches: more than its sessions and its events. -/
def fuelFor (script : Replay.Script) : Nat :=
  4 + script.sessions.length + script.sessions.flatten.length

/-- Reads a script into a sink. -/
def collect (c : Config) (path : String) (sink : Sink) : Ending :=
  let prepared := do
    let script ← loadScript s path
    return (script, ← collector s c)
  match prepared with
  | .error t => ⟨.error t, some sink⟩
  | .ok (script, c') =>
    let (result, t) :=
      (c'.run Stage.world (fuelFor script)).run ⟨stage s c script sink, []⟩
    ⟨match result with
      | some (.ok report) => .ok (.ran report)
      | some (.error f) => .error (.run f)
      | none => .ok (.ran ⟨[], true⟩), some t.world.sink⟩

/-- Lists the log files of a script. -/
def listFiles (c : Config) (path : String) : Except Trouble Outcome := do
  let script ← loadScript s path
  let c' ← collector s c
  let (result, _) := (c'.list Stage.world).run ⟨stage s c script (.screen .blank), []⟩
  (result.map .listed).mapError .run

/-- Runs the daemon. Metrics are published only if `publishes` says so, and lines go to the given
sink in place of the configured one. -/
def run (publishes : Bool) (sink : Option Sink) : Ending :=
  let started : Except Trouble (Config × Option String) := do
    let c ← configure s r
    if r.checksConfig then return (c, none)
    if publishes && c.metrics.enabled then
      let _ ← (Net.listenAddress c.metrics.host c.metrics.port).mapError .address
    match r.script with
    | none => throw .noScript
    | some path => return (c, some path)
  match started with
  | .error t => ⟨.error t, none⟩
  | .ok (c, none) => ⟨.ok (.checked c), none⟩
  | .ok (c, some path) =>
    if r.listsFiles then ⟨listFiles s c path, none⟩
    else match sink, openSink s c with
      | some sink, _ => collect s c path sink
      | none, .error t => ⟨.error t, none⟩
      | none, .ok sink => collect s c path sink

namespace Ending

/-- The list of log files as it is printed. -/
def listing (files : List LogFile) : String :=
  String.join ("Available log files\n" :: files.map fun f =>
    "- " ++ f.name ++ " (file id " ++ Numeral.intText f.fileId ++ ")\n")

/-- What a run has printed. -/
def out (e : Ending) : String :=
  match e.result, e.sink with
  | .ok (.listed files), _ => listing files
  | _, some (.screen screen) => screen.text
  | _, _ => ""

/-- The files after a run. -/
def directory (e : Ending) (before : Storage.Directory) : Storage.Directory :=
  match e.sink with
  | some (.file f) => f.directory
  | _ => before

/-- The exit code of a run. -/
def exitCode (e : Ending) : Nat := if e.result matches .ok _ then 0 else 1

/-- What is written about the failure of a run. -/
def complaint (e : Ending) : String :=
  match e.result with
  | .ok _ => ""
  | .error t => t.report

end Ending

end LogCollector.Daemon
