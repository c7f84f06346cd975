import LogCollector.Connection
import LogCollector.Filter.Rule
import LogCollector.Record
import LogCollector.Session.EndReason

/-!
# Requests and events of a session

What a collaborator is asked for when a session is opened, and what it reports while the
session lasts.
-/

namespace LogCollector

/-- Where in a log file a session begins. -/
inductive StartPosition where
  /-- At the first record. -/
  | start
  /-- Behind the last record. -/
  | tail
  /-- At a position. -/
  | at (position : Int)
  deriving DecidableEq

/-- A request for a session. -/
structure SessionRequest where
  /-- The log file. -/
  target : LogFile
  /-- Where the session begins. -/
  start : StartPosition
  /-- The kind of records. -/
  kind : RecordKind
  /-- Whether records are read as they are written. -/
  online : Bool
  /-- Whether addresses and ports are resolved. -/
  resolve : Bool
  /-- Whether the session waits for a filter before it delivers records. -/
  suspended : Bool
  /-- The parameters of the connection. -/
  params : ConnectionParams
  deriving DecidableEq

/-- What a collaborator reports. -/
inductive SessionEvent where
  /-- The session is established. -/
  | established
  /-- The filter has been registered. -/
  | filterAck
  /-- A record is delivered. -/
  | record (record : Record)
  /-- The session goes on with another log file. -/
  | logSwitch (file : LogFile)
  /-- The session has ended; the position is that of the last record, as far as known. -/
  | ended (reason : EndReason) (position : Int)
  deriving DecidableEq

end LogCollector
