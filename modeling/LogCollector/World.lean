import LogCollector.Duration
import LogCollector.Fault
import LogCollector.Metric
import LogCollector.Session.Event
import LogCollector.Status.Service

/-!
# The outside world

Everything that a run asks of others goes through a world: the two roles of the status
service, the clock, sleeping, the collaborator that opens log sessions, the sink for lines and
the request to stop. A world is an arbitrary machine with a state of its own; it answers each
demand and moves on.

A run keeps a journal of what it has asked for and of the answers. The journal does not
influence the run: it is what the laws about runs speak of, and the readings of the metrics
are taken from it.
-/

namespace LogCollector

/-- The roles of the status service. -/
inductive ServiceRole where
  /-- It keeps positions and connections. -/
  | status
  /-- It provides the settings documents of entities. -/
  | settings
  deriving DecidableEq

/-- A world with states of type `σ`. -/
structure World (σ : Type) where
  /-- Calls the status service. -/
  call : ServiceRole → String → Status.Parameters → σ → Except StatusFault Status.Response × σ
  /-- Reads the clock, in seconds since 1970. -/
  now : σ → Int × σ
  /-- Sleeps. -/
  sleep : Duration → σ → σ
  /-- Lists the log files of the server. -/
  listFiles : ConnectionParams → σ → Except SessionFault (List LogFile) × σ
  /-- Opens a session; the demands below are about the session opened last. -/
  openSession : SessionRequest → σ → Except SessionFault Unit × σ
  /-- Registers a filter. -/
  register : Filter.Rulebase → σ → Except SessionFault Unit × σ
  /-- Lets a suspended session deliver records. -/
  resume : σ → Except SessionFault Unit × σ
  /-- Waits for the next event. -/
  nextEvent : σ → Except SessionFault SessionEvent × σ
  /-- Writes a line. -/
  write : String → σ → Except SinkFault Unit × σ
  /-- Writes out what is buffered. -/
  flush : σ → Except SinkFault Unit × σ
  /-- Whether the run has been asked to stop. -/
  stopRequested : σ → Bool × σ

/-- A demand with its answer, or a measurement. -/
inductive Step where
  /-- The status service was called. -/
  | called (role : ServiceRole) (endpoint : String) (params : Status.Parameters)
      (answer : Except StatusFault Status.Response)
  /-- The run slept. -/
  | slept (duration : Duration)
  /-- Log files were listed. -/
  | listed (answer : Except SessionFault (List LogFile))
  /-- A session was opened. -/
  | opened (request : SessionRequest) (answer : Except SessionFault Unit)
  /-- A filter was registered. -/
  | registered (rulebase : Filter.Rulebase) (answer : Except SessionFault Unit)
  /-- A session was resumed. -/
  | resumed (answer : Except SessionFault Unit)
  /-- An event was waited for. -/
  | received (answer : Except SessionFault SessionEvent)
  /-- A line was written. -/
  | wrote (line : String) (answer : Except SinkFault Unit)
  /-- The sink was flushed. -/
  | flushed (answer : Except SinkFault Unit)
  /-- The request to stop was looked at. -/
  | polled (stop : Bool)
  /-- Something was measured. -/
  | measured (measurement : Measurement)

/-- The state of a run in a world. -/
structure Tape (σ : Type) where
  /-- The state of the world. -/
  world : σ
  /-- The steps so far, the latest one first. -/
  journal : List Step

/-- A part of a run. -/
abbrev Run (σ : Type) := StateM (Tape σ)

/-- Makes a demand and writes it down. -/
def Run.demand {σ α : Type} (ask : σ → α × σ) (step : α → Step) : Run σ α := fun t =>
  let (answer, world) := ask t.world
  (answer, ⟨world, step answer :: t.journal⟩)

/-- Writes down a measurement. -/
def Run.measure {σ : Type} (m : Measurement) : Run σ Unit :=
  modify fun t => { t with journal := .measured m :: t.journal }

namespace World

variable {σ : Type} (w : World σ)

/-- Calls the status service in a run. -/
def serve (role : ServiceRole) (endpoint : String) (params : Status.Parameters) :
    Run σ (Except StatusFault Status.Response) := do
  let answer ← Run.demand (w.call role endpoint params) (.called role endpoint params)
  Run.measure .called
  return answer

/-- Reads the clock in a run. -/
def clock : Run σ Int := fun t =>
  let (instant, world) := w.now t.world
  (instant, { t with world })

/-- Sleeps in a run. -/
def pause (d : Duration) : Run σ Unit :=
  Run.demand (fun s => ((), w.sleep d s)) fun _ => .slept d

/-- Lists log files in a run. -/
def enumerate (params : ConnectionParams) : Run σ (Except SessionFault (List LogFile)) :=
  Run.demand (w.listFiles params) .listed

/-- Opens a session in a run. -/
def connect (request : SessionRequest) : Run σ (Except SessionFault Unit) :=
  Run.demand (w.openSession request) (.opened request)

/-- Registers a filter in a run. -/
def registerFilter (rulebase : Filter.Rulebase) : Run σ (Except SessionFault Unit) :=
  Run.demand (w.register rulebase) (.registered rulebase)

/-- Resumes a session in a run. -/
def release : Run σ (Except SessionFault Unit) := Run.demand w.resume .resumed

/-- Waits for an event in a run. -/
def receive : Run σ (Except SessionFault SessionEvent) := Run.demand w.nextEvent .received

/-- Writes a line in a run. -/
def emit (line : String) : Run σ (Except SinkFault Unit) := Run.demand (w.write line) (.wrote line)

/-- Flushes the sink in a run. -/
def drain : Run σ (Except SinkFault Unit) := Run.demand w.flush .flushed

/-- Looks at the request to stop in a run. -/
def poll : Run σ Bool := Run.demand w.stopRequested .polled

end World

/-- The readings of the metrics after the steps of a journal. -/
def metricReadings (journal : List Step) : List (String × Int) :=
  readings (journal.reverse.filterMap fun
    | .measured m => some m
    | _ => none)

end LogCollector
