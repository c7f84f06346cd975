import LogCollector.CommandLine.Reader
import LogCollector.Kind

/-!
# Requests of operators

What the operator's program can be asked for: to check or show the configuration, to compile
filter rules, to list the fields of records, or to find a stored position.
-/

namespace LogCollector.Operator

open CommandLine

/-- What an operator asks for. -/
inductive Task where
  /-- To check the configuration. -/
  | checkConfig
  /-- To show the configuration, or one of its sections. -/
  | showConfig (part : Option String)
  /-- To compile filter rules, perhaps with those that a session adds. -/
  | compileRules (rules : List String) (kind : RecordKind) (session : Bool)
  /-- To list the fields of records. -/
  | listFields (kind : RecordKind)
  /-- To find the stored position of a log file. -/
  | findPosition (entity : Option String) (fileId : Int)
  deriving DecidableEq

/-- How an answer is written. -/
inductive Style where
  /-- For a reader. -/
  | text
  /-- As JSON. -/
  | json
  deriving DecidableEq

/-- A request. -/
structure Request where
  /-- The file of the configuration. -/
  configPath : String
  /-- How the answer is written. -/
  style : Style
  /-- What is asked for. -/
  task : Task
  deriving DecidableEq

/-- The options of every command. -/
def sharedOptions : List Opt :=
  [.path "config" (some 'c'), .text "log-level",
    ⟨"output", none, .value (.word ["text", "json"]) false false⟩, .help]

/-- The grammar of requests. -/
def grammar : Grammar :=
  let command (path : List String) (options : List Opt) (operands : Operands) : Command :=
    ⟨path, options ++ sharedOptions, operands⟩
  [command [] [.version] .none,
    command ["config"] [] .none,
    command ["config", "validate"] [] .none,
    command ["config", "show"] [] .optional,
    command ["filter"] [] .none,
    command ["filter", "check"] [.flag "audit", .flag "session"] .several,
    command ["fields"] [.flag "audit"] .none,
    command ["status"] [] .none,
    command ["status", "get"] [.text "entity",
      ⟨"file-id", none, .value (.integer (-2147483648) 2147483647) true true⟩] .none]

/-- The kind of records that a demand is about. -/
def kindOf (d : Demand) : RecordKind := if d.has "audit" then .audit else .traffic

/-- The task that a demand is for. -/
def Task.ofDemand (d : Demand) : Except Refusal Task :=
  match d.path with
  | ["config", "validate"] => .ok .checkConfig
  | ["config", "show"] => .ok (.showConfig d.operands.head?)
  | ["filter", "check"] => .ok (.compileRules d.operands (kindOf d) (d.has "session"))
  | ["fields"] => .ok (.listFields (kindOf d))
  | ["status", "get"] =>
    match (d.value? "file-id").bind fun s =>
      Numeral.integer? (-2147483648) 2147483647 s.toList with
    | some fileId => .ok (.findPosition (d.value? "entity") fileId)
    | none => .error .missingArgument
  | _ => .error .missingCommand

/-- The request that some arguments make. -/
def Request.parse (args : List String) : Except Refusal Request := do
  let d ← grammar.read args
  return ⟨(d.value? "config").getD "loggrabber.toml",
    if d.value? "output" = some "json" then .json else .text, ← Task.ofDemand d⟩

end LogCollector.Operator
