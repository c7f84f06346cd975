import LogCollector.Catalog
import LogCollector.Config.Document
import LogCollector.Filter.Argument
import LogCollector.Filter.Canonical
import LogCollector.Json.RunForms

/-!
# Reports for operators

What the operator's program answers, each with a text for a reader and a JSON form whose
members have a fixed order.
-/

namespace LogCollector.Operator

open Json

/-- Lines of a text. -/
def lines (ls : List String) : String := String.join (ls.map (· ++ "\n"))

/-- The fields of a kind of records. -/
structure FieldsReport where
  /-- The kind. -/
  kind : RecordKind
  /-- The names of the fields, in order. -/
  fields : List String
  /-- The names of the arguments of filter rules. -/
  arguments : List String
  deriving DecidableEq

namespace FieldsReport

/-- The report on a kind of records. -/
def of (kind : RecordKind) : FieldsReport :=
  ⟨kind, Catalog.fields kind, (Filter.ArgumentName.vocabulary kind).map (·.word)⟩

/-- A line of the table: what stands at the right end of five columns, and a name. -/
def row (first second : String) : String :=
  .ofList (List.replicate (5 - first.length) ' ') ++ first ++ "  " ++ second

/-- The report for a reader. -/
def text (r : FieldsReport) : String :=
  lines ([r.kind.name ++ " fields (" ++ Numeral.text r.fields.length ++ "):",
      row "INDEX" "NAME", .ofList (List.replicate 40 '-')]
    ++ r.fields.zipIdx.map (fun (name, i) => row (Numeral.text i) name)
    ++ ["", "Filter arguments: " ++ ", ".intercalate r.arguments])

/-- The form of the report. -/
def toJson (r : FieldsReport) : Json :=
  .object [("record_kind", .string r.kind.name),
    ("fields", .array (r.fields.zipIdx.map fun (name, i) =>
      .object [("index", ofNat i), ("name", .string name)])),
    ("filter_arguments", ofTexts r.arguments)]

end FieldsReport

/-- Compiled filter rules. -/
structure RulesReport where
  /-- The kind of records. -/
  kind : RecordKind
  /-- The mode whose rules were added. -/
  mode : Option Mode
  /-- The rules, in order. -/
  rules : List String
  /-- Texts that compile to the rules that let records pass. -/
  canonical : List String
  deriving DecidableEq

namespace RulesReport

/-- The report on rules, with those that a session in a mode adds if a mode is given. -/
def compile (zone : Calendar.Zone) (rules : List String) (kind : RecordKind)
    (mode : Option Mode) : Except FilterFault RulesReport := do
  let base ← match mode with
    | some mode => (·.getD ⟨kind, []⟩) <$> Filter.sessionRulebase zone kind mode rules
    | none => Filter.compile zone kind rules
  return ⟨kind, mode, base.rules.map (·.text), base.ruleTexts zone⟩

/-- The report for a reader. -/
def text (r : RulesReport) : String :=
  let session := match r.mode with
    | some mode => ", " ++ mode.name ++ " session"
    | none => ""
  lines (["Rulebase (" ++ r.kind.name ++ " records" ++ session ++ "):"]
    ++ (if r.rules.isEmpty then ["  (no rules; every record passes)"] else [])
    ++ r.rules.zipIdx.map (fun (rule, i) => "  " ++ Numeral.text (i + 1) ++ ": " ++ rule)
    ++ (if r.canonical.isEmpty then []
      else ["", "Canonical form:"] ++ r.canonical.map ("  " ++ ·)))

/-- The form of the report. -/
def toJson (r : RulesReport) : Json :=
  .object ([("record_kind", .string r.kind.name)]
    ++ (r.mode.toList.map fun mode => ("mode", .string mode.name))
    ++ [("rules", ofTexts r.rules), ("canonical", ofTexts r.canonical)])

end RulesReport

/-- A stored position. -/
structure PositionReport where
  /-- The entity. -/
  entity : String
  /-- The number of the log file. -/
  fileId : Int
  /-- The position of the last record, if one is stored. -/
  position : Option Int
  deriving DecidableEq

namespace PositionReport

/-- The name under which the position is stored. -/
def key (r : PositionReport) : String := Status.entryName r.fileId r.entity

/-- The report for a reader. -/
def text (r : PositionReport) : String :=
  lines ["Checkpoint " ++ r.key,
    "  Last record position: " ++ match r.position with
      | some p => Numeral.intText p
      | none => "none (reading starts at the beginning)"]

/-- The form of the report. -/
def toJson (r : PositionReport) : Json :=
  .object [("key", .string r.key), ("entity", .string r.entity), ("file_id", .int r.fileId),
    ("last_record_position", ofOption .int r.position)]

end PositionReport

/-- The configuration, or a section of it. -/
structure ConfigReport where
  /-- The file. -/
  source : String
  /-- The section. -/
  part : Option String
  /-- The document. -/
  document : String
  deriving DecidableEq

namespace ConfigReport

/-- The report for a reader. -/
def text (r : ConfigReport) : String :=
  let part := match r.part with
    | some name => "[" ++ name ++ "] "
    | none => ""
  "Configuration " ++ part ++ "(source: " ++ r.source ++ ")\n\n" ++ r.document

/-- The form of the report, which leaves the document out. -/
def toJson (r : ConfigReport) : Json :=
  .object (("source", .string r.source) :: r.part.toList.map fun name => ("section", .string name))

end ConfigReport

/-- What is wrong with a configuration. -/
structure CheckReport where
  /-- The file. -/
  source : String
  /-- What is wrong with it. -/
  errors : List String
  deriving DecidableEq

namespace CheckReport

/-- Whether nothing is wrong. -/
def isValid (r : CheckReport) : Bool := r.errors.isEmpty

/-- The report for a reader. -/
def text (r : CheckReport) : String :=
  lines (["Config Validation: " ++ r.source,
      "  Result: " ++ if r.isValid then "VALID" else "INVALID"]
    ++ r.errors.map ("  Error: " ++ ·))

/-- The form of the report. -/
def toJson (r : CheckReport) : Json :=
  .object [("source", .string r.source), ("valid", .bool r.isValid), ("errors", ofTexts r.errors)]

end CheckReport

end LogCollector.Operator
