import LogCollector.Fault
import LogCollector.Json.Basic

/-!
# The JSON forms of faults

A fault is an object with its kind under `error` and its wording under `message`. The fault of a
run also tells what it is for the collector as a whole, and with which code a program ends
because of it. What is wrong with a document or a line of a script is not told.
-/

namespace LogCollector

namespace Json

/-- The form of a fault of a kind. -/
def fault (kind message : String) : Json :=
  .object [("error", .string kind), ("message", .string message)]

end Json

open Json

/-- The form of a fault of a filter rule. -/
def FilterFault.toJson (f : FilterFault) : Json :=
  fault (match f with
    | .syntaxError .. => "Filter.Syntax"
    | .unknownArgument .. => "Filter.UnknownField") f.message

/-- The form of a fault of the status service. -/
def StatusFault.toJson (f : StatusFault) : Json :=
  fault (match f with
    | .callFailed .. => "Status.CallFailed"
    | .httpStatus .. => "Status.HttpStatus"
    | .missingKey .. => "Status.MissingKey"
    | .invalidValue .. => "Status.InvalidValue") f.message

/-- The form of a fault of a log session. -/
def SessionFault.toJson (f : SessionFault) : Json :=
  fault (match f with
    | .openFailed .. => "Session.OpenFailed"
    | .filterRegistration .. => "Session.FilterRegistration"
    | .resumeFailed .. => "Session.ResumeFailed"
    | .terminated .. => "Session.Terminated"
    | .invalidTransition .. => "Session.InvalidTransition") f.message

/-- The form of a fault of the output. -/
def SinkFault.toJson (f : SinkFault) : Json :=
  fault (match f with
    | .openFailed .. => "Sink.Open"
    | .rotateFailed .. => "Sink.Rotate"
    | .writeFailed .. => "Sink.Write") f.message

/-- The form of a fault of the configuration. -/
def ConfigFault.toJson (f : ConfigFault) : Json :=
  match f with
  | .parseFailed _ => .object [("error", .string "Config.ParseFailed")]
  | .fileNotFound _ => fault "Config.FileNotFound" f.message
  | .invalidValue .. => fault "Config.InvalidValue" f.message
  | .missingParameter _ => fault "Config.MissingParameter" f.message

/-- The form of a fault of a run, on its own. -/
def RunFault.ownForm : RunFault → Json
  | .filter f => f.toJson
  | .status f => f.toJson
  | .session f => f.toJson
  | .sink f => f.toJson
  | f@(.setting ..) => fault "PipelineConfig" f.message
  | .config f => f.toJson
  | .replay line _ => .object [("error", .string "Replay"), ("line", .int line)]
  | f@(.io _) => fault "Io" f.message

/-- The form of a fault of a run. -/
def RunFault.toJson (f : RunFault) : Json :=
  match f, f.ownForm with
  | .replay .., j => j
  | _, .object members =>
    .object (members ++ [("core", .string f.toFault.message), ("exit", .int f.toFault.exitCode)])
  | _, j => j

end LogCollector
