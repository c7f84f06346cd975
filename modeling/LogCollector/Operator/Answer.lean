import LogCollector.Json.Printer
import LogCollector.Operator.Report
import LogCollector.Operator.Request
import LogCollector.Stage.World
import LogCollector.Surroundings

/-!
# Answers to operators

The operator's program prints a report or fails; when the configuration is checked it may do
both. Its exit code tells which part is at fault.
-/

namespace LogCollector.Operator

/-- Why a request fails. -/
inductive RequestFault where
  /-- The configuration was checked and found wrong. -/
  | invalidConfig
  /-- No entity is named. -/
  | noEntity
  /-- The configuration has no such section. -/
  | unknownSection (name : String)
  /-- A fault of the status service. -/
  | status (fault : StatusFault)
  /-- A fault of a filter rule. -/
  | filter (fault : FilterFault)
  /-- A fault when the configuration was loaded. -/
  | load (fault : Fault)
  deriving DecidableEq

namespace RequestFault

/-- The wording of a fault. -/
def message : RequestFault → String
  | .invalidConfig => "configuration error: configuration is invalid"
  | .noEntity => "configuration error: no entity given and [status].entity is empty"
  | .unknownSection name =>
    "unknown section: " ++ name ++ " (expected: " ++ ", ".intercalate Config.sectionNames ++ ")"
  | .status f => "status service unavailable: " ++ f.message
  | .filter f => "filter error: " ++ f.message
  | .load f => f.message

/-- The exit code for a fault. -/
def exitCode : RequestFault → Nat
  | .invalidConfig | .noEntity => 2
  | .unknownSection _ => 1
  | .status _ => 3
  | .filter _ => 4
  | .load f => f.exitCode

end RequestFault

/-- What a request comes to. -/
structure Answer where
  /-- What is printed. -/
  out : String
  /-- Why the request fails, if it does. -/
  fault : Option RequestFault
  deriving DecidableEq

namespace Answer

/-- The answer that prints a report. -/
def report (style : Style) (text : String) (form : Json) : Answer :=
  ⟨match style with
    | .text => text
    | .json => form.pretty ++ "\n", none⟩

/-- The exit code of an answer. -/
def exitCode (a : Answer) : Nat := (a.fault.map RequestFault.exitCode).getD 0

/-- What is written about the fault of an answer. -/
def complaint (a : Answer) : String :=
  match a.fault with
  | some f => "error: " ++ f.message ++ "\n"
  | none => ""

/-- The answer to a request that may fail. -/
def ofExcept : Except RequestFault Answer → Answer
  | .ok a => a
  | .error f => ⟨"", some f⟩

end Answer

variable (s : Surroundings)

/-- Checks the configuration in a file. -/
def checkConfig (style : Style) (path : String) : Answer :=
  let errors := match s.loadConfig path with
    | .ok _ => []
    | .error f => [f.message]
  let r : CheckReport := ⟨path, errors⟩
  { Answer.report style r.text r.toJson with
    fault := if r.isValid then none else some .invalidConfig }

/-- Shows the configuration in a file, or one of its sections. -/
def showConfig (path : String) (part : Option String) : Except RequestFault ConfigReport := do
  let c ← (s.loadConfig path).mapError .load
  match part with
  | none => return ⟨path, none, c.text⟩
  | some name =>
    match c.sections.lookup name with
    | some entries => return ⟨path, some name, Toml.sectionText entries⟩
    | none => throw (.unknownSection name)

/-- Compiles filter rules. -/
def compileRules (path : String) (rules : List String) (kind : RecordKind) (session : Bool) :
    Except RequestFault RulesReport := do
  let mode ← if session then do
      let c ← (s.loadConfig path).mapError .load
      pure (some c.lea.mode)
    else pure none
  (RulesReport.compile s.zone rules kind mode).mapError .filter

/-- Finds the stored position of a log file. -/
def findPosition (path : String) (entity : Option String) (fileId : Int) :
    Except RequestFault PositionReport := do
  let c ← (s.loadConfig path).mapError .load
  let entity := entity.getD c.status.entity
  if entity = "" then throw .noEntity
  s.knowsCommand.mapError .status
  let store : CheckpointStore := ⟨some ⟨entity, c.status.app⟩⟩
  let stage := { Stage.bare s.zone s.clock with
    status := .command c.status.statusServer s.command }
  let (found, _) := (store.lastPosition Stage.world fileId).run ⟨stage, []⟩
  return ⟨entity, fileId, ← found.mapError .status⟩

/-- The answer to a request. -/
def answer (r : Request) : Answer :=
  match r.task with
  | .checkConfig => checkConfig s r.style r.configPath
  | .showConfig part => .ofExcept do
    let report ← showConfig s r.configPath part
    return .report r.style report.text report.toJson
  | .compileRules rules kind session => .ofExcept do
    let report ← compileRules s r.configPath rules kind session
    return .report r.style report.text report.toJson
  | .listFields kind =>
    let report := FieldsReport.of kind
    .report r.style report.text report.toJson
  | .findPosition entity fileId => .ofExcept do
    let report ← findPosition s r.configPath entity fileId
    return .report r.style report.text report.toJson

end LogCollector.Operator
