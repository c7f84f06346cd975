import LogCollector.Filter.Argument

/-!
# What can go wrong

The faults of each part of the collector and their wording. A fault of the collector as a
whole is a fault of one of its parts; the front of its text names the part.
-/

namespace LogCollector

/-- Faults of the configuration. -/
inductive ConfigFault where
  /-- There is no file of this name. -/
  | fileNotFound (path : String)
  /-- The file is not in the format of the configuration. -/
  | parseFailed (reason : String)
  /-- A setting has a value that it may not have. -/
  | invalidValue (field reason : String)
  /-- A connection document lacks a parameter. -/
  | missingParameter (name : String)
  deriving DecidableEq

/-- The wording of a fault of the configuration. -/
def ConfigFault.message : ConfigFault → String
  | .fileNotFound path => "config file not found: " ++ path
  | .parseFailed reason => "failed to parse config: " ++ reason
  | .invalidValue field reason => "invalid config value for '" ++ field ++ "': " ++ reason
  | .missingParameter name => "missing connection parameter: " ++ name

/-- Faults of a filter rule. -/
inductive FilterFault where
  /-- A condition cannot be read. -/
  | syntaxError (condition : String) (reason : Filter.SyntaxReason)
  /-- Rules for this kind of records know no such argument. -/
  | unknownArgument (name kind : String)
  deriving DecidableEq

/-- The wording of a fault of a filter rule. -/
def FilterFault.message : FilterFault → String
  | .syntaxError condition reason =>
    "syntax error in rule argument '" ++ condition ++ "': " ++ reason.message
  | .unknownArgument name kind =>
    "unknown filter argument '" ++ name ++ "' for " ++ kind ++ " records"

/-- Faults of the status service. -/
inductive StatusFault where
  /-- The call could not be carried out. -/
  | callFailed (endpoint reason : String)
  /-- The service answered with a status that is no success. -/
  | httpStatus (endpoint : String) (status : Nat)
  /-- The answer lacks a key. -/
  | missingKey (endpoint key : String)
  /-- The value of a key cannot be read. -/
  | invalidValue (key value : String)
  deriving DecidableEq

/-- The wording of a fault of the status service. -/
def StatusFault.message : StatusFault → String
  | .callFailed endpoint reason => "call to " ++ endpoint ++ " failed: " ++ reason
  | .httpStatus endpoint status => endpoint ++ " returned http status " ++ Numeral.text status
  | .missingKey endpoint key => "response from " ++ endpoint ++ " is missing key '" ++ key ++ "'"
  | .invalidValue key value => "invalid value for '" ++ key ++ "': " ++ value

/-- Faults of a log session. -/
inductive SessionFault where
  /-- The session could not be opened. -/
  | openFailed (target reason : String)
  /-- The filter could not be registered. -/
  | filterRegistration (reason : String)
  /-- The stored position could not be found out. -/
  | resumeFailed (target reason : String)
  /-- The session ended for a reason that calls for no further one. -/
  | terminated (reason : String)
  /-- Something happened that the state of the session does not allow. -/
  | invalidTransition (source event : String)
  deriving DecidableEq

/-- The wording of a fault of a log session. -/
def SessionFault.message : SessionFault → String
  | .openFailed target reason => "failed to open session for " ++ target ++ ": " ++ reason
  | .filterRegistration reason => "failed to register filter rulebase: " ++ reason
  | .resumeFailed target reason => "unable to get progress for " ++ target ++ ": " ++ reason
  | .terminated reason => "session terminated: " ++ reason
  | .invalidTransition source event => "invalid transition from " ++ source ++ " on " ++ event

/-- Faults of the output. -/
inductive SinkFault where
  /-- The output file could not be opened. -/
  | openFailed (path reason : String)
  /-- The output file could not be rotated. -/
  | rotateFailed (path reason : String)
  /-- A line could not be written. -/
  | writeFailed (reason : String)
  deriving DecidableEq

/-- The wording of a fault of the output. -/
def SinkFault.message : SinkFault → String
  | .openFailed path reason => "failed to open output file " ++ path ++ ": " ++ reason
  | .rotateFailed path reason => "failed to rotate " ++ path ++ ": " ++ reason
  | .writeFailed reason => "write failed: " ++ reason

/-- Faults of the collector as a whole. -/
inductive Fault where
  /-- A fault of the configuration. -/
  | config (fault : ConfigFault)
  /-- A fault of a filter rule. -/
  | filter (fault : FilterFault)
  /-- A fault of the status service. -/
  | status (fault : StatusFault)
  /-- A fault of a log session. -/
  | session (fault : SessionFault)
  /-- A fault of the output. -/
  | sink (fault : SinkFault)
  /-- A fault of the operating system's files. -/
  | io (reason : String)
  deriving DecidableEq

/-- The wording of a fault of the collector, which names the part at fault. -/
def Fault.message : Fault → String
  | .config f => "config error: " ++ f.message
  | .filter f => "filter error: " ++ f.message
  | .status f => "status service error: " ++ f.message
  | .session f => "session error: " ++ f.message
  | .sink f => "sink error: " ++ f.message
  | .io reason => "io error: " ++ reason

/-- The exit code by which a program tells of a fault. -/
def Fault.exitCode : Fault → Nat
  | .config _ => 2
  | .status _ => 3
  | .filter _ => 4
  | .session _ | .sink _ | .io _ => 1

/-- Faults of a collection run. -/
inductive RunFault where
  /-- A fault of a filter rule. -/
  | filter (fault : FilterFault)
  /-- A fault of the status service. -/
  | status (fault : StatusFault)
  /-- A fault of a log session. -/
  | session (fault : SessionFault)
  /-- A fault of the output. -/
  | sink (fault : SinkFault)
  /-- A setting of the run has a value that it may not have. -/
  | setting (field reason : String)
  /-- A fault of the configuration. -/
  | config (fault : ConfigFault)
  /-- A line of a recorded session cannot be read. -/
  | replay (line : Nat) (reason : String)
  /-- A fault of the operating system's files. -/
  | io (reason : String)
  deriving DecidableEq

namespace RunFault

/-- The wording of a fault of a run. -/
def message : RunFault → String
  | .filter f => f.message
  | .status f => f.message
  | .session f => f.message
  | .sink f => f.message
  | .setting field reason => "config error: " ++ field ++ ": " ++ reason
  | .config f => f.message
  | .replay line reason => "replay error at line " ++ Numeral.text line ++ ": " ++ reason
  | .io reason => "io error: " ++ reason

/-- The fault of the collector that a fault of a run amounts to. -/
def toFault : RunFault → Fault
  | .filter f => .filter f
  | .status f => .status f
  | .session f => .session f
  | .sink f => .sink f
  | .setting field reason => .config (.invalidValue field reason)
  | .config f => .config f
  | .replay line reason => .session (.openFailed ("replay line " ++ Numeral.text line) reason)
  | .io reason => .io reason

end RunFault

end LogCollector
