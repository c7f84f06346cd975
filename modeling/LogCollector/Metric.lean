import LogCollector.Kind
import LogCollector.Session.EndReason
import LogCollector.Text.Numeral

/-!
# Metrics

What the collector counts and measures about itself. A measurement is one thing that
happened; from a list of them come the readings of the metrics: a counter shows how often it
was touched, a gauge its last value and a histogram how many samples it has. A metric that
was not touched has no reading.
-/

namespace LogCollector

/-- The types of metrics. -/
inductive MetricType where
  /-- A number of occurrences. -/
  | counter
  /-- A value that may rise and fall. -/
  | gauge
  /-- A distribution of samples. -/
  | histogram
  deriving DecidableEq

/-- The word for a type. -/
def MetricType.name : MetricType → String
  | .counter => "counter"
  | .gauge => "gauge"
  | .histogram => "histogram"

/-- The metrics. -/
inductive Metric where
  /-- Records delivered by sessions, by kind. -/
  | recordsReceived
  /-- Records written, by kind. -/
  | recordsEmitted
  /-- Records without a selected attribute. -/
  | recordsSuppressed
  /-- Failed writes. -/
  | writeErrors
  /-- Commits, by result. -/
  | commits
  /-- Further attempts of commits. -/
  | commitRetries
  /-- The position that was committed last. -/
  | lastPosition
  /-- How long calls of the status service take. -/
  | callDuration
  /-- Ended sessions, by class of their end. -/
  | sessionsEnded
  /-- Reconnects. -/
  | reconnects
  /-- Whether a session is established. -/
  | connected
  deriving DecidableEq

namespace Metric

/-- The metrics in the order in which they are described. -/
def all : List Metric :=
  [recordsReceived, recordsEmitted, recordsSuppressed, writeErrors, commits, commitRetries,
    lastPosition, callDuration, sessionsEnded, reconnects, connected]

/-- The name of a metric. -/
def name : Metric → String
  | .recordsReceived => "loggrabber_records_received_total"
  | .recordsEmitted => "loggrabber_records_emitted_total"
  | .recordsSuppressed => "loggrabber_records_suppressed_total"
  | .writeErrors => "loggrabber_sink_write_errors_total"
  | .commits => "loggrabber_checkpoint_commits_total"
  | .commitRetries => "loggrabber_checkpoint_retries_total"
  | .lastPosition => "loggrabber_checkpoint_last_position"
  | .callDuration => "loggrabber_status_call_duration_seconds"
  | .sessionsEnded => "loggrabber_sessions_ended_total"
  | .reconnects => "loggrabber_session_reconnects_total"
  | .connected => "loggrabber_session_connected"

/-- The type of a metric. -/
def type : Metric → MetricType
  | .lastPosition | .connected => .gauge
  | .callDuration => .histogram
  | _ => .counter

/-- What a metric tells. -/
def description : Metric → String
  | .recordsReceived => "Total number of records delivered by the log session"
  | .recordsEmitted => "Total number of formatted records written to the sink"
  | .recordsSuppressed => "Records dropped because no field survived selection"
  | .writeErrors => "Total number of sink write failures"
  | .commits => "Checkpoint commit outcomes by result"
  | .commitRetries => "Number of checkpoint commit retries after a failure"
  | .lastPosition => "Last record position committed to the status service"
  | .callDuration => "Latency of status service calls in seconds"
  | .sessionsEnded => "Ended sessions by end reason class"
  | .reconnects => "Number of reconnects after transient failures"
  | .connected => "Whether a log session is currently established"

end Metric

/-- One measurement. -/
inductive Measurement where
  /-- A record was delivered. -/
  | received (kind : RecordKind)
  /-- A record was written. -/
  | emitted (kind : RecordKind)
  /-- A record was left out, nothing of it being selected. -/
  | suppressed
  /-- A record could not be written. -/
  | writeFailed
  /-- A commit succeeded, or was given up. -/
  | committed (success : Bool)
  /-- A commit was tried once more. -/
  | retried
  /-- A position was stored. -/
  | position (position : Int)
  /-- The status service was called. -/
  | called
  /-- A session ended. -/
  | ended (cls : EndClass)
  /-- A session is to be followed by another one. -/
  | reconnected
  /-- A session was established, or is no longer. -/
  | connection (up : Bool)
  deriving DecidableEq

namespace Measurement

/-- The metric that a measurement touches. -/
def metric : Measurement → Metric
  | .received _ => .recordsReceived
  | .emitted _ => .recordsEmitted
  | .suppressed => .recordsSuppressed
  | .writeFailed => .writeErrors
  | .committed _ => .commits
  | .retried => .commitRetries
  | .position _ => .lastPosition
  | .called => .callDuration
  | .ended _ => .sessionsEnded
  | .reconnected => .reconnects
  | .connection _ => .connected

/-- What tells the readings of one metric apart. -/
def label? : Measurement → Option (String × String)
  | .received kind | .emitted kind => some ("record_kind", kind.name)
  | .committed success => some ("result", if success then "success" else "failure")
  | .ended cls => some ("class", cls.name)
  | _ => none

/-- The name of the reading that a measurement touches: that of the metric, with the label. -/
def readingName (m : Measurement) : String :=
  m.metric.name ++ match m.label? with
    | some (key, value) => "\x7b" ++ key ++ "=" ++ value ++ "\x7d"
    | none => ""

/-- The closest number with at most 53 significant bits; of two that are equally close the
one whose last bit is 0. -/
def toDouble (n : Nat) : Nat :=
  let unit := 1 <<< (n.log2 + 1 - 53)
  let lower := n / unit
  let rest := n % unit
  (if 2 * rest < unit ∨ (2 * rest = unit ∧ lower % 2 = 0) then lower else lower + 1) * unit

/-- The value that a measurement gives to a gauge. Gauges hold numbers of double precision and
are read as numbers of 64 bits. -/
def gaugeValue : Measurement → Int
  | .position p =>
    if p < 0 then - Int.ofNat (toDouble p.natAbs)
    else min (Int.ofNat (toDouble p.natAbs)) 9223372036854775807
  | .connection up => if up then 1 else 0
  | _ => 0

end Measurement

/-- The readings after some measurements, given in order. -/
def readings (ms : List Measurement) : List (String × Int) :=
  (ms.map Measurement.readingName).eraseDups.filterMap fun name =>
    let own := ms.filter (·.readingName == name)
    own.getLast?.map fun last =>
      (name, if last.metric.type = .gauge then last.gaugeValue else own.length)

end LogCollector
