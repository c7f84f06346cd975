import LogCollector.Sink.Basic
import LogCollector.Stage.Collaborator
import LogCollector.Stage.Service
import LogCollector.World

/-!
# A world on a stage

The world in which a collector reads a script, or is rehearsed: its services, collaborator and
sink are values, its clock stands still, nobody sleeps, and the request to stop comes at a
prepared moment if at all.
-/

namespace LogCollector

/-- The state of a world on a stage. -/
structure Stage where
  /-- The service that keeps positions and connections. -/
  status : Stage.Service
  /-- The service that provides settings documents. -/
  settings : Stage.Service
  /-- The collaborator. -/
  collaborator : Stage.Collaborator
  /-- The sink. -/
  sink : Sink
  /-- Why the sink cannot be flushed. -/
  flushError : Option String
  /-- The time, in seconds since 1970. -/
  clock : Int
  /-- The zone of local times. -/
  zone : Calendar.Zone
  /-- Whether the run has been asked to stop. -/
  stopped : Bool
  /-- The number of sleeps after which it is asked to stop. -/
  stopAfterSleeps : Option Nat
  /-- The number of lines after which it is asked to stop. -/
  stopAfterLines : Option Nat

namespace Stage

/-- A stage with nothing on it. -/
def bare (zone : Calendar.Zone) (clock : Int) : Stage where
  status := .played .empty
  settings := .played .empty
  collaborator := .scenes .empty
  sink := .memory ⟨[], none⟩
  flushError := none
  clock := clock
  zone := zone
  stopped := false
  stopAfterSleeps := none
  stopAfterLines := none

/-- The local time. -/
def localTime (s : Stage) : Calendar.Reading := .ofSeconds (s.zone.readingAt s.clock)

/-- The number that is left after one more, and whether it has come to its end. -/
def countDown : Option Nat → Option Nat × Bool
  | none => (none, false)
  | some k => (some (k - 1), k ≤ 1)

/-- Changes the collaborator by a demand. -/
def askCollaborator {α : Type} (ask : Collaborator → α × Collaborator) (s : Stage) : α × Stage :=
  let (answer, collaborator) := ask s.collaborator
  (answer, { s with collaborator })

/-- The stage as a world. -/
def world : World Stage where
  call role endpoint params s :=
    match role with
    | .status => let (r, status) := s.status.call endpoint params; (r, { s with status })
    | .settings => let (r, settings) := s.settings.call endpoint params; (r, { s with settings })
  now s := (s.clock, s)
  sleep _ s :=
    let (stopAfterSleeps, ended) := countDown s.stopAfterSleeps
    { s with stopAfterSleeps, stopped := s.stopped || ended }
  listFiles _ s := (s.collaborator.list, s)
  openSession request := askCollaborator (·.openSession request)
  register _ := askCollaborator (·.register)
  resume := askCollaborator (·.resume)
  nextEvent := askCollaborator (·.next)
  write line s :=
    match s.sink.write s.localTime line with
    | (.error f, sink) => (.error f, { s with sink })
    | (.ok (), sink) =>
      let (stopAfterLines, ended) := countDown s.stopAfterLines
      (.ok (), { s with sink, stopAfterLines, stopped := s.stopped || ended })
  flush s :=
    match s.flushError with
    | some reason => (.error (.writeFailed reason), s)
    | none => let (r, sink) := s.sink.flush; (r, { s with sink })
  stopRequested s := (s.stopped, s)

end Stage

end LogCollector
