import LogCollector.Calendar.Zone
import LogCollector.Plan
import LogCollector.Retry
import LogCollector.Status.Document

/-!
# Checkpoints

The status service keeps, for an entity and a log file, the position reached, and for an
entity whether it is connected and when it was connected last. A position is stored under
`fileid@entity`. A store without tracking does nothing and finds nothing.
-/

namespace LogCollector

/-- How far a log file of an entity has been read. -/
structure Checkpoint where
  /-- The entity. -/
  entity : String
  /-- The number of the log file. -/
  fileId : Int
  /-- The position of the last record. -/
  position : Int
  /-- The name of the log file. -/
  fileName : String
  deriving DecidableEq

/-- The name under which a position is stored. -/
def Checkpoint.key (c : Checkpoint) : String := Status.entryName c.fileId c.entity

/-- A report on the connection of an entity. -/
structure HealthReport where
  /-- The entity. -/
  entity : String
  /-- Whether it is connected. -/
  connected : Bool
  /-- When it was connected last; empty if that is not known. -/
  lastConnection : String
  deriving DecidableEq

namespace Status

/-- The key of a position. -/
def positionKey : String := "last_rec_pos"

/-- The key of the time of the last connection. -/
def lastConnectionKey : String := "last_connection_timestamp"

/-- The parameters that store a position. -/
def positionParameters (c : Checkpoint) : Parameters :=
  [("name", c.key), ("fileid", Numeral.intText c.fileId), ("filename", c.fileName),
    (positionKey, Numeral.intText c.position)]

/-- The parameters that report on a connection. -/
def healthParameters (r : HealthReport) : Parameters :=
  [("name", r.entity), ("is_connected", if r.connected then "1" else "0"),
    (lastConnectionKey, r.lastConnection)]

/-- Reads a position: a number of 32 bits, blanks around it apart. -/
def readPosition (raw : String) : Except StatusFault Int :=
  match Numeral.integer? (-2147483648) 2147483647 (Text.trim raw.toList) with
  | some p => .ok p
  | none => .error (.invalidValue positionKey raw)

/-- The position that an answer tells; none if nothing is stored. -/
def storedPosition (endpoint : String) (r : Response) : Except StatusFault (Option Int) :=
  if r.isNotFound then .ok none
  else if !r.isSuccess then .error (.httpStatus endpoint r.status)
  else match (Document.parse r.body).nonEmpty? positionKey with
    | none => .error (.missingKey endpoint positionKey)
    | some raw => (readPosition raw).map some

/-- The time of the last connection that an answer tells; empty if nothing is stored. -/
def storedConnection (endpoint : String) (r : Response) : Except StatusFault String :=
  if r.isNotFound then .ok ""
  else if !r.isSuccess then .error (.httpStatus endpoint r.status)
  else .ok (((Document.parse r.body).get? lastConnectionKey).getD "")

end Status

open Status

/-- Where checkpoints are kept; nowhere without tracking. -/
structure CheckpointStore where
  /-- Whose progress is kept. -/
  tracking : Option Tracking
  deriving DecidableEq

namespace CheckpointStore

variable {σ : Type} (w : World σ)

/-- Whether anything is kept. -/
def isEnabled (s : CheckpointStore) : Bool := s.tracking.isSome

/-- Posts to an endpoint. -/
def post (endpoint : String) (params : Parameters) : Run σ (Except StatusFault Unit) := do
  match ← w.serve .status endpoint params with
  | .error f => return .error f
  | .ok r => return if r.isSuccess then .ok () else .error (.httpStatus endpoint r.status)

/-- The position stored for a log file. -/
def lastPosition (s : CheckpointStore) (fileId : Int) : Run σ (Except StatusFault (Option Int)) :=
  match s.tracking with
  | none => return .ok none
  | some t => do
    let endpoint := (Endpoints.ofApp t.app).positions ++ entryName fileId t.entity
    return (← w.serve .status endpoint []).bind (storedPosition endpoint)

/-- Stores a position. -/
def commit (s : CheckpointStore) (c : Checkpoint) : Run σ (Except StatusFault Unit) :=
  match s.tracking with
  | none => return .ok ()
  | some t => do
    let result ← post w (Endpoints.ofApp t.app).positions (positionParameters c)
    if result matches .ok () then Run.measure (.position c.position)
    return result

/-- Stores a position with as many attempts as the policy allows. -/
def commitWithRetry (s : CheckpointStore) (p : RetryPolicy) (c : Checkpoint) :
    Run σ RetryOutcome :=
  match s.tracking with
  | none => return .succeeded 0
  | some _ => do
    let outcome ← p.run w fun attempt => do
      if attempt > 1 then Run.measure .retried
      return (← s.commit w c).mapError StatusFault.message
    Run.measure (.committed outcome.isSuccess)
    return outcome

/-- The time of the last connection to be reported: now if there is a connection, otherwise
what is stored. -/
def connectionTime (t : Tracking) (connected : Bool) : Run σ (Except StatusFault String) :=
  if connected then do
    return .ok (.ofList (Calendar.Reading.ofSeconds (← w.clock)).universal)
  else do
    let endpoint := (Endpoints.ofApp t.app).health ++ t.entity
    return (← w.serve .status endpoint []).bind (storedConnection endpoint)

/-- Reports whether the entity is connected. When the time of the last connection cannot be
found out nothing is posted. -/
def reportHealth (s : CheckpointStore) (connected : Bool) :
    Run σ (Except StatusFault (Option HealthReport)) :=
  match s.tracking with
  | none => return .ok none
  | some t => do
    match ← connectionTime w t connected with
    | .error f => return .error f
    | .ok time =>
      let report : HealthReport := ⟨t.entity, connected, time⟩
      let result ← post w (Endpoints.ofApp t.app).health (healthParameters report)
      return result.map fun () => some report

end CheckpointStore

end LogCollector
