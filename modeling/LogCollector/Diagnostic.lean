import LogCollector.Session.Source
import LogCollector.Checkpoint
import LogCollector.Sink.RotatingFile
import LogCollector.Text.Quoted

/-!
# Diagnostic texts

How parts of a collector show themselves in diagnostics: as a name with fields between braces,
texts being quoted.
-/

namespace LogCollector.Diagnostic

/-- A name with fields. -/
def record (name : String) (fields : List (String × String)) : String :=
  name ++ " \x7b " ++ ", ".intercalate (fields.map fun (k, v) => k ++ ": " ++ v) ++ " \x7d"

/-- A value that may be missing. -/
def optional {α : Type} (text : α → String) : Option α → String
  | some a => "Some(" ++ text a ++ ")"
  | none => "None"

/-- The endpoints of an application. -/
def endpoints (e : Status.Endpoints) : String :=
  record "StatusEndpoints" [("config", Text.Quoted.encode e.settings),
    ("log_status", Text.Quoted.encode e.positions), ("entity_health", Text.Quoted.encode e.health)]

/-- A store of checkpoints. -/
def store (s : CheckpointStore) : String :=
  record "CheckpointStore"
    [("entity", optional (fun t => Text.Quoted.encode t.entity) s.tracking),
      ("endpoints", optional (fun t => endpoints (.ofApp t.app)) s.tracking)]

/-- A source of connection parameters. -/
def source : ParamsSource → String
  | .unspecified => "Local"
  | .document _ t =>
    record "Remote" [("config", Text.Quoted.encode (Status.Endpoints.ofApp t.app).settings),
      ("entity", Text.Quoted.encode t.entity)]

/-- A rotating file. -/
def rotatingFile (f : RotatingFile) : String :=
  record "RotatingFileSink" [("path", Text.Quoted.encode f.name),
    ("rotate_size", Numeral.text f.limit), ("written", Numeral.text f.written)]

end LogCollector.Diagnostic
