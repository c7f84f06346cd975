import LogCollector.Calendar.Zone
import LogCollector.Catalog
import LogCollector.Record

/-!
# Lines of output

A record becomes one line: `name=value` for its number and for each attribute, with a
separator between two of them. A separator or a backslash inside a name or a value stands
behind a backslash, and a line feed is written `(+)`. When attributes are selected the others
are left out, the number of the record as well; a line may then be empty.
-/

namespace LogCollector

/-- How records are written as lines. -/
structure LineFormat where
  /-- The kind of the records. -/
  kind : RecordKind
  /-- Whether addresses and ports are shown by the name they were resolved to. -/
  resolve : Bool
  /-- How the time of a record is shown. -/
  dateFormat : DateFormat
  /-- The character between two attributes. -/
  separator : Char
  /-- The selected attributes; all of them when there is none. -/
  selection : List String
  /-- The zone of local times. -/
  zone : Calendar.Zone
  deriving DecidableEq

namespace Line

/-- A name or value with a backslash before each separator and each backslash. -/
def escape (separator : Char) (cs : List Char) : List Char :=
  cs.flatMap fun c => if c = separator ∨ c = '\\' then ['\\', c] else [c]

/-- A line with `(+)` for each line feed. -/
def maskNewlines (cs : List Char) : List Char :=
  cs.flatMap fun c => if c = '\n' then ['(', '+', ')'] else [c]

/-- `name=value` with both sides escaped. -/
def piece (separator : Char) (name value : String) : List Char :=
  escape separator name.toList ++ '=' :: escape separator value.toList

end Line

namespace LineFormat

/-- Whether an attribute is written. -/
def selects (f : LineFormat) (name : String) : Bool :=
  f.selection.isEmpty || f.selection.contains name

/-- The text of the attribute that holds the time of a record. -/
def timeText (f : LineFormat) (field : Field) : String :=
  match f.dateFormat, field.value with
  | .epoch, .unixTime t => Numeral.intText t
  | .localTime, .unixTime t =>
    match Calendar.localReading? f.zone t with
    | some reading => .ofList reading.spaced
    | none => Numeral.intText t
  | _, _ => field.resolvedText

/-- The text of an attribute. -/
def valueText (f : LineFormat) (field : Field) : String :=
  if field.name = Catalog.time then f.timeText field
  else match field.value with
    | .ipAddress _ | .port _ => if f.resolve then field.resolvedText else field.value.text
    | _ => field.resolvedText

/-- The names and texts that are written for a record, in order. -/
def pairs (f : LineFormat) (r : Record) : List (String × String) :=
  (if f.selects Catalog.recordNumber then [(Catalog.recordNumber, Numeral.intText r.number)]
    else [])
  ++ ((r.fields.filter fun field => f.selects field.name).map fun field =>
    (field.name, f.valueText field))

/-- The line for a record; empty when nothing is selected. -/
def line (f : LineFormat) (r : Record) : String :=
  .ofList (Line.maskNewlines (Text.join [f.separator]
    ((f.pairs r).map fun (name, value) => Line.piece f.separator name value)))

end LineFormat

end LogCollector
