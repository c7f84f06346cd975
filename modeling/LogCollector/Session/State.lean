/-!
# The states of a session controller

A controller goes from `INIT` through an optional look-up of the stored position and the
registration of the filter to the reading of records, then through the end of the session to
either another round or its own end. Every state but the end itself can be left for the end.
-/

namespace LogCollector

/-- The states of a session controller. -/
inductive SessionState where
  /-- Nothing has been done. -/
  | init
  /-- The stored position is looked up. -/
  | resuming
  /-- The filter is registered and has to be acknowledged. -/
  | filterRegistered
  /-- Records are read. -/
  | streaming
  /-- The session is wound up. -/
  | ending
  /-- Another session is to follow. -/
  | reconnect
  /-- No further session follows. -/
  | terminated
  deriving DecidableEq

namespace SessionState

/-- All states. -/
def all : List SessionState :=
  [init, resuming, filterRegistered, streaming, ending, reconnect, terminated]

/-- The word for a state. -/
def name : SessionState → String
  | .init => "INIT"
  | .resuming => "RESUMING"
  | .filterRegistered => "FILTER_REGISTERED"
  | .streaming => "STREAMING"
  | .ending => "ENDING"
  | .reconnect => "RECONNECT"
  | .terminated => "TERMINATED"

/-- Whether the second state may directly follow the first. -/
def allows : SessionState → SessionState → Bool
  | .init, .resuming | .init, .filterRegistered | .init, .terminated => true
  | .resuming, .filterRegistered | .resuming, .terminated => true
  | .filterRegistered, .streaming | .filterRegistered, .ending
  | .filterRegistered, .terminated => true
  | .streaming, .ending | .streaming, .terminated => true
  | .ending, .reconnect | .ending, .terminated => true
  | .reconnect, .init => true
  | _, _ => false

end SessionState

end LogCollector
