import LogCollector.Toml.Basic

/-!
# Putting tables together

A TOML text names each table once, by a header or by a dotted name, and each entry once. While a
text is read the tables remember how they came to be: only a table that a longer header has
passed through may still get a header of its own, and only a table that came to be through
dotted names takes entries by dotted names. Between two headers of a list of tables everything
is about its latest table.
-/

namespace LogCollector.Toml

/-- How a table came to be. -/
inductive Origin where
  /-- By a header, or as the text itself. -/
  | header
  /-- On the way of a longer header. -/
  | passing
  /-- On the way of a dotted name. -/
  | dotted
  deriving DecidableEq

/-- What stands under a name in a text that is being read. -/
inductive Node where
  /-- A finished value. -/
  | value (v : Toml)
  /-- A table. -/
  | table (origin : Origin) (entries : List (String × Node))
  /-- A list of tables, the latest one first. -/
  | tables (latest : List (String × Node)) (earlier : List (List (String × Node)))

/-- The entries of a table that is being read. -/
abbrev Entries := List (String × Node)

namespace Entries

/-- Puts a node under a name, in place of the one that is there. -/
def put (name : String) (x : Node) : Entries → Entries
  | [] => [(name, x)]
  | (k, y) :: rest => if k = name then (k, x) :: rest else (k, y) :: put name x rest

/-- Gives a value to a dotted name. -/
def assign (v : Toml) : List String → Entries → Option Entries
  | [], _ => none
  | [name], es => if (es.lookup name).isSome then none else some (es.put name (.value v))
  | name :: rest, es =>
    match es.lookup name with
    | none => (assign v rest []).map fun inner => es.put name (.table .dotted inner)
    | some (.table .dotted inner) =>
      (assign v rest inner).map fun inner => es.put name (.table .dotted inner)
    | some (.table .passing inner) =>
      if rest.length = 1 then none
      else (assign v rest inner).map fun inner => es.put name (.table .passing inner)
    | some (.tables latest earlier) =>
      if rest.length = 1 then none
      else (assign v rest latest).map fun inner => es.put name (.tables inner earlier)
    | some (.table .header _) | some (.value _) => none

/-- Gives values to dotted names, one after another. -/
def assignAll (assignments : List (List String × Toml)) (es : Entries) : Option Entries :=
  assignments.foldlM (fun es (path, v) => es.assign v path) es

/-- Changes what stands at the end of the way of a header. -/
def change (f : Option Node → Option Node) : List String → Entries → Option Entries
  | [], _ => none
  | [name], es => (f (es.lookup name)).map fun x => es.put name x
  | name :: rest, es =>
    match es.lookup name with
    | none => (change f rest []).map fun inner => es.put name (.table .passing inner)
    | some (.table origin inner) =>
      (change f rest inner).map fun inner => es.put name (.table origin inner)
    | some (.tables latest earlier) =>
      (change f rest latest).map fun inner => es.put name (.tables inner earlier)
    | some (.value _) => none

end Entries

/-- The kinds of headers. -/
inductive HeaderKind where
  /-- Of a table. -/
  | single
  /-- Of a further table of a list. -/
  | listed
  deriving DecidableEq

/-- A header with the assignments behind it. -/
structure Section where
  /-- The kind of the header. -/
  kind : HeaderKind
  /-- The names in the header. -/
  path : List String
  /-- The assignments. -/
  assignments : List (List String × Toml)

/-- The node that a section makes of the one that stands where its header leads. -/
def Section.fill (s : Section) (x : Option Node) : Option Node :=
  match s.kind, x with
  | .single, none => (Entries.assignAll s.assignments []).map (.table .header)
  | .single, some (.table .passing es) => (Entries.assignAll s.assignments es).map (.table .header)
  | .single, _ => none
  | .listed, none => (Entries.assignAll s.assignments []).map fun es => .tables es []
  | .listed, some (.tables latest earlier) =>
    (Entries.assignAll s.assignments []).map fun es => .tables es (latest :: earlier)
  | .listed, _ => none

/-- The entries of a text with assignments in front of the first header, and sections. -/
def assemble? (assignments : List (List String × Toml)) (sections : List Section) :
    Option Entries := do
  let es ← Entries.assignAll assignments []
  sections.foldlM (fun es s => es.change s.fill s.path) es

mutual

/-- The finished value of a node. -/
def Node.finish : Node → Toml
  | .value v => v
  | .table _ es => .table (finishEntries es)
  | .tables latest earlier =>
    .array ((.table (finishEntries latest) :: finishTables earlier).reverse)

/-- The finished entries of a table. -/
def finishEntries : List (String × Node) → List (String × Toml)
  | [] => []
  | (name, x) :: rest => (name, x.finish) :: finishEntries rest

/-- The finished tables of a list. -/
def finishTables : List (List (String × Node)) → List Toml
  | [] => []
  | es :: rest => .table (finishEntries es) :: finishTables rest

end

/-- The table with some assignments, if they do not get in each other's way. -/
def tableOf? (assignments : List (List String × Toml)) : Option Toml :=
  (Entries.assignAll assignments []).map fun es => .table (finishEntries es)

end LogCollector.Toml
