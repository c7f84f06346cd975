import LogCollector.Session.Controller
import LogCollector.Targets

/-!
# The collector

A collector reads the log files of a plan one after another. A log file is read by a session
controller; when a session calls for another one the collector waits for the recovery interval
and opens it. The request to stop is looked at between sessions and during the wait only. A
run that has one log file only fails when that file ends in a fault.
-/

namespace LogCollector

/-- What became of a log file. -/
structure TargetReport where
  /-- The log file. -/
  target : LogFile
  /-- The number of sessions. It is a natural number, without the bound of a counter of 32 bits. -/
  sessions : Nat
  /-- Why the last session ended; nothing if the run was asked to stop before another one. -/
  reason : Option EndReason
  deriving DecidableEq

/-- What became of a run. -/
structure RunReport where
  /-- The log files, in order. -/
  targets : List TargetReport
  /-- Whether the run was asked to stop before its end. -/
  interrupted : Bool
  deriving DecidableEq

/-- A collector. -/
structure Collector where
  /-- The plan. -/
  plan : Plan
  /-- Where positions are kept. -/
  store : CheckpointStore
  /-- Where connection parameters come from. -/
  source : ParamsSource
  deriving DecidableEq

namespace Collector

/-- The collector for a plan, given which parts it may use. Without a service of its own for
settings documents the status service provides them. -/
def build (plan : Plan) (connector sink statusService settingsService : Bool) :
    Except RunFault Collector := do
  let plan ← plan.check
  if !connector then throw (.setting "connector" "a session connector is required")
  if !sink then throw (.setting "sink" "an output sink is required")
  match plan.tracking with
  | none => return ⟨plan, ⟨none⟩, .unspecified⟩
  | some t =>
    if !statusService then
      throw (.setting "status_service" "checkpoint tracking requires a status service")
    let role : ServiceRole := if settingsService then .settings else .status
    return ⟨plan, ⟨some t⟩, .document role t⟩

variable {σ : Type} (w : World σ)

/-- How long the request to stop may go unnoticed during a wait. -/
def pollInterval : Duration := .ofMilliseconds 250

/-- Waits for some nanoseconds; false if the run is asked to stop. -/
def waitOut (remaining : Nat) : Run σ Bool :=
  if remaining = 0 then do
    return !(← w.poll)
  else do
    if ← w.poll then return false
    let step := min remaining pollInterval.nanoseconds
    w.pause ⟨step⟩
    waitOut (remaining - step)
termination_by remaining
decreasing_by
  simp only [pollInterval, Duration.ofMilliseconds]
  omega

/-- What a controller for a log file works on. -/
def assignment (c : Collector) (target : LogFile) : Assignment :=
  ⟨c.plan, c.store, c.source, target⟩

/-- Reads a log file through at most `rounds` further sessions of at most `fuel` events each;
no result means that more would have come. -/
def readTarget (c : Collector) (fuel : Nat) (target : LogFile) (sessions : Nat)
    (controller : Controller) : Nat → Run σ (Option (Except RunFault TargetReport))
  | 0 => return none
  | rounds + 1 => do
    match ← controller.runSession w (c.assignment target) fuel with
    | (none, _) => return none
    | (some (.error f), _) => return some (.error f)
    | (some (.ok outcome), controller) =>
      match ← w.drain with
      | .error f => return some (.error (.sink f))
      | .ok () =>
        match outcome with
        | .terminated reason => return some (.ok ⟨target, sessions + 1, some reason⟩)
        | .reconnect _ =>
          Run.measure .reconnected
          if ← waitOut w c.plan.recovery.nanoseconds then
            readTarget c fuel target (sessions + 1) controller rounds
          else return some (.ok ⟨target, sessions + 1, none⟩)

/-- Reads log files, behind the reports on those already read, in reverse order. -/
def readTargets (c : Collector) (fuel : Nat) (interrupted : Bool) (done : List TargetReport) :
    List LogFile → Run σ (Option (Except RunFault RunReport))
  | [] => return some (.ok ⟨done.reverse, interrupted⟩)
  | target :: rest => do
    if ← w.poll then return some (.ok ⟨done.reverse, true⟩)
    match ← readTarget w c fuel target 0 .initial fuel with
    | none => return none
    | some (.error f) => return some (.error f)
    | some (.ok report) =>
      readTargets c fuel (interrupted || report.reason.isNone) (report :: done) rest

/-- Finds out the log files of the run and reads them. -/
def collect (c : Collector) (fuel : Nat) : Run σ (Option (Except RunFault RunReport)) := do
  match ← c.source.terms w c.plan with
  | .error f => return some (.error f)
  | .ok terms =>
    match ← Targets.resolve w c.plan terms.kind terms.online terms.params with
    | .error f => return some (.error f)
    | .ok targets => readTargets w c fuel false [] targets

/-- The result of a run with a report: a fault of the only log file is one of the run. -/
def verdict (r : RunReport) : Except RunFault RunReport :=
  match r.targets with
  | [⟨_, _, some reason⟩] =>
    if reason.isError then .error (.session (.terminated reason.description)) else .ok r
  | _ => .ok r

/-- Runs the collector and flushes the sink; the fuel bounds the sessions of each log file and
the events of each session. -/
def run (c : Collector) (fuel : Nat) : Run σ (Option (Except RunFault RunReport)) := do
  match ← collect w c fuel with
  | none => return none
  | some result =>
    let flushed ← w.drain
    return some (match result, flushed with
      | .error f, _ => .error f
      | .ok _, .error f => .error (.sink f)
      | .ok report, .ok () => verdict report)

/-- Lists the log files of the server. Servers of the year 2000 cannot be asked, nor is there
a choice when records are read as they are written. -/
def list (c : Collector) : Run σ (Except RunFault (List LogFile)) := do
  if c.plan.legacy then
    return .error (.setting "legacy_2000" "listing log files is not supported in legacy 2000 mode")
  match ← c.source.terms w c.plan with
  | .error f => return .error f
  | .ok terms =>
    if terms.online then
      return .error (.setting "online_mode" "listing log files is not supported in online mode")
    return (← w.enumerate terms.params).mapError .session

end Collector

end LogCollector
