import LogCollector.Filter.Rule
import LogCollector.Json.Basic
import LogCollector.Record

/-!
# The JSON forms of records and rules

A value is an object with its tag under `type` and its contents under `value`; attributes,
records, log files, rules and rulebases are objects of their parts. On reading, an object may
hold other members besides, but none of its own twice, and a list of the parts in their order
stands for the object.
-/

namespace LogCollector.Json

/-- The parts of an object with the given member names, in that order; a part that is missing
is `none`. -/
def parts? (names : List String) : Json → Option (List (Option Json))
  | .object members => names.mapM fun name =>
    match valuesOf name members with
    | [] => some none
    | [j] => some (some j)
    | _ => none
  | .array items =>
    if items.length ≤ names.length then
      some (items.map some ++ List.replicate (names.length - items.length) none)
    else none
  | _ => none

/-- A word, alone or as the name of the only member, `null`, of an object. -/
def word? : Json → Option String
  | .string s => some s
  | .object [(s, .null)] => some s
  | _ => none

/-- A part that may be missing or `null`. -/
def optional? {α : Type} (read : Json → Option α) : Option Json → Option (Option α)
  | none | some .null => some none
  | some j => (read j).map some

end Json

open Json

namespace ValueTag

/-- The word for a tag. -/
def word : ValueTag → String
  | .string => "string"
  | .ipAddress => "ip_address"
  | .port => "port"
  | .protocolNumber => "protocol_number"
  | .actionCode => "action_code"
  | .ruleNumber => "rule_number"
  | .unixTime => "unix_time"

/-- The tag that a word stands for. -/
def ofWord? (s : String) : Option ValueTag :=
  [string, ipAddress, port, protocolNumber, actionCode, ruleNumber, unixTime].find?
    (·.word == s)

end ValueTag

namespace Value

/-- The value with a tag and contents. -/
def ofParts? (tag : ValueTag) (contents : Json) : Option Value :=
  match tag with
  | .string => contents.string?.map .string
  | .ipAddress => (contents.nat? (UInt32.size - 1)).map fun n => .ipAddress (.ofNat n)
  | .port => (contents.nat? (UInt16.size - 1)).map fun n => .port (.ofNat n)
  | .protocolNumber => (contents.nat? (UInt8.size - 1)).map fun n => .protocolNumber (.ofNat n)
  | .actionCode => (contents.nat? (UInt8.size - 1)).map fun n => .actionCode (.ofNat n)
  | .ruleNumber => (contents.nat? (UInt32.size - 1)).map fun n => .ruleNumber (.ofNat n)
  | .unixTime => contents.int64?.map .unixTime

/-- Reads a value. -/
def ofJson? (j : Json) : Option Value := do
  match ← parts? ["type", "value"] j with
  | [some tag, some contents] => ofParts? (← ValueTag.ofWord? (← word? tag)) contents
  | _ => none

/-- The contents of a value. -/
def contents : Value → Json
  | .string s => .string s
  | .ipAddress w => .int w.toNat
  | .port w => .int w.toNat
  | .protocolNumber n | .actionCode n => .int n.toNat
  | .ruleNumber n => .int n.toNat
  | .unixTime t => .int t

/-- The JSON form of a value. -/
def toJson (v : Value) : Json :=
  .object [("type", .string v.tag.word), ("value", v.contents)]

end Value

namespace Field

/-- Reads an attribute. -/
def ofJson? (j : Json) : Option Field := do
  match ← parts? ["name", "value", "resolved"] j with
  | [some name, some value, resolved] =>
    return ⟨← name.string?, ← Value.ofJson? value, ← optional? string? resolved⟩
  | _ => none

/-- The JSON form of an attribute. -/
def toJson (f : Field) : Json :=
  .object ([("name", .string f.name), ("value", f.value.toJson)]
    ++ (f.resolved.toList.map fun s => ("resolved", .string s)))

end Field

namespace Record

/-- Reads the two parts of a record. -/
def ofParts? (position fields : Option Json) : Option Record := do
  return ⟨← (← position).int64?, ← (← (← fields).array?).mapM Field.ofJson?⟩

/-- Reads a record. -/
def ofJson? (j : Json) : Option Record := do
  match ← parts? ["position", "fields"] j with
  | [position, fields] => ofParts? position fields
  | _ => none

/-- The JSON form of a record. -/
def toJson (r : Record) : Json :=
  .object [("position", .int r.position), ("fields", .array (r.fields.map Field.toJson))]

end Record

namespace LogFile

/-- Reads the two parts of a log file. -/
def ofParts? (name fileId : Option Json) : Option LogFile := do
  return ⟨← (← name).string?, ← (← fileId).int32?⟩

/-- Reads a log file. -/
def ofJson? (j : Json) : Option LogFile := do
  match ← parts? ["name", "file_id"] j with
  | [name, fileId] => ofParts? name fileId
  | _ => none

/-- The JSON form of a log file. -/
def toJson (f : LogFile) : Json :=
  .object [("name", .string f.name), ("file_id", .int f.fileId)]

end LogFile

namespace RecordKind

/-- Reads a kind. -/
def ofJson? (j : Json) : Option RecordKind := do
  let word ← word? j
  [traffic, audit].find? (·.name == word)

end RecordKind

namespace Filter

/-- Reads a predicate. -/
def Predicate.ofJson? (j : Json) : Option Predicate := do
  match ← parts? ["field", "negated", "op", "operands"] j with
  | [some field, some negated, some op, some operands] =>
    let word ← word? op
    let op ← [.belongsTo, .belongsToMask, .greaterEqual, .smallerEqual].find?
      fun c : Comparison => c.name == word
    return ⟨← field.string?, ← negated.bool?, op, ← (← operands.array?).mapM Value.ofJson?⟩
  | _ => none

/-- The JSON form of a predicate. -/
def Predicate.toJson (p : Predicate) : Json :=
  .object [("field", .string p.field), ("negated", .bool p.negated), ("op", .string p.op.name),
    ("operands", .array (p.operands.map Value.toJson))]

/-- Reads a rule. -/
def Rule.ofJson? (j : Json) : Option Rule := do
  match ← parts? ["action", "predicates"] j with
  | [some action, some predicates] =>
    let word ← word? action
    let action ← [.pass, .drop].find? fun a : RuleAction => a.name == word
    return ⟨action, ← (← predicates.array?).mapM Predicate.ofJson?⟩
  | _ => none

/-- The JSON form of a rule. -/
def Rule.toJson (r : Rule) : Json :=
  .object [("action", .string r.action.name),
    ("predicates", .array (r.predicates.map Predicate.toJson))]

/-- Reads a rulebase. -/
def Rulebase.ofJson? (j : Json) : Option Rulebase := do
  match ← parts? ["record_kind", "rules"] j with
  | [some kind, some rules] =>
    return ⟨← RecordKind.ofJson? kind, ← (← rules.array?).mapM Rule.ofJson?⟩
  | _ => none

/-- The JSON form of a rulebase. -/
def Rulebase.toJson (t : Rulebase) : Json :=
  .object [("record_kind", .string t.kind.name), ("rules", .array (t.rules.map Rule.toJson))]

end Filter

end LogCollector
