import LogCollector.Config.Document
import LogCollector.Json.Basic

/-!
# The JSON form of a configuration

An object of its sections, which are objects of their settings.
-/

namespace LogCollector

namespace Json

mutual

/-- The form of a value of a document. -/
def ofToml : Toml → Json
  | .string s => .string s
  | .integer n => .int n
  | .float spelling => .real spelling
  | .boolean b => .bool b
  | .dateTime spelling => .string (.ofList spelling)
  | .array items => .array (ofTomlItems items)
  | .table entries => .object (ofTomlEntries entries)

/-- The forms of the items of a list. -/
def ofTomlItems : List Toml → List Json
  | [] => []
  | t :: ts => ofToml t :: ofTomlItems ts

/-- The forms of the entries of a table. -/
def ofTomlEntries : List (String × Toml) → List (String × Json)
  | [] => []
  | (name, t) :: rest => (name, ofToml t) :: ofTomlEntries rest

end

end Json

/-- The form of a configuration. -/
def Config.toJson (c : Config) : Json :=
  .object (c.sections.map fun (name, entries) => (name, .object (Json.ofTomlEntries entries)))

end LogCollector
