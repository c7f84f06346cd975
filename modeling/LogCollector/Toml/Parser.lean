import LogCollector.Toml.Assembly
import LogCollector.Toml.Scalar
import LogCollector.Toml.Text

/-!
# Reading TOML

A text is a row of lines: an assignment, a header between brackets, or nothing, and behind each
perhaps a comment. Lists and tables in braces may go over several lines with comments of their
own, and have a comma behind their last item; they may be nested 80 deep.

Every recursive call is counted by a bound that the length of the text gives.
-/

namespace LogCollector.Toml

/-- What follows the blanks and the comment at the start of a text; a comment has no control
characters. -/
def skipComment? (cs : List Char) : Option (List Char) :=
  match skipSpaces cs with
  | '#' :: rest =>
    match rest.dropWhile isPlain with
    | [] => some []
    | rest => (newline? rest).map fun _ => rest
  | rest => some rest

/-- What follows the rest of a line that holds nothing but blanks and a comment. -/
def lineEnd? (cs : List Char) : Option (List Char) := do
  match ← skipComment? cs with
  | [] => some []
  | rest => newline? rest

/-- What follows the blanks, comments and line ends at the start of a text. -/
def gap? : Nat → List Char → Option (List Char)
  | 0, _ => none
  | fuel + 1, cs => do
    let rest ← skipComment? cs
    match newline? rest with
    | some rest => gap? fuel rest
    | none => some rest

mutual

/-- A value, and what follows it; `depth` is the number of levels still to be entered. -/
def value? : Nat → Nat → List Char → Option (Toml × List Char)
  | 0, _, _ => none
  | fuel + 1, depth, cs =>
    match cs with
    | '[' :: rest => if depth = 0 then none else items? fuel (depth - 1) [] rest
    | '\x7b' :: rest => if depth = 0 then none else entries? fuel (depth - 1) [] rest
    | '"' :: _ | '\'' :: _ => (text? cs).map fun (s, rest) => (.string (.ofList s), rest)
    | _ => scalarAt? cs

/-- The items of a list up to its closing bracket, behind those already read. -/
def items? : Nat → Nat → List Toml → List Char → Option (Toml × List Char)
  | 0, _, _, _ => none
  | fuel + 1, depth, acc, cs =>
    match gap? (cs.length + 1) cs with
    | none => none
    | some (']' :: rest) => some (.array acc.reverse, rest)
    | some cs =>
      match value? fuel depth cs with
      | none => none
      | some (t, cs) =>
        match gap? (cs.length + 1) cs with
        | some (',' :: rest) => items? fuel depth (t :: acc) rest
        | some (']' :: rest) => some (.array (t :: acc).reverse, rest)
        | _ => none

/-- The entries of a table up to its closing brace, behind those already read. -/
def entries? : Nat → Nat → List (List String × Toml) → List Char → Option (Toml × List Char)
  | 0, _, _, _ => none
  | fuel + 1, depth, acc, cs =>
    match gap? (cs.length + 1) cs with
    | none => none
    | some ('\x7d' :: rest) => (tableOf? acc.reverse).map fun t => (t, rest)
    | some cs =>
      match path? (cs.length + 1) cs with
      | some (path, '=' :: cs) =>
        match value? fuel depth (skipSpaces cs) with
        | none => none
        | some (t, cs) =>
          match gap? (cs.length + 1) cs with
          | some (',' :: rest) => entries? fuel depth ((path, t) :: acc) rest
          | some ('\x7d' :: rest) =>
            (tableOf? ((path, t) :: acc).reverse).map fun t => (t, rest)
          | _ => none
      | _ => none

end

/-- What a line may hold. -/
inductive Line where
  /-- A header. -/
  | header (kind : HeaderKind) (path : List String)
  /-- An assignment. -/
  | assignment (path : List String) (value : Toml)

/-- What the start of a text holds, up to where its line has to end. -/
def line? (cs : List Char) : Option (Line × List Char) :=
  match cs with
  | '[' :: '[' :: rest =>
    match path? (rest.length + 1) rest with
    | some (path, ']' :: ']' :: rest) => some (.header .listed path, rest)
    | _ => none
  | '[' :: rest =>
    match path? (rest.length + 1) rest with
    | some (path, ']' :: rest) => some (.header .single path, rest)
    | _ => none
  | cs =>
    match path? (cs.length + 1) cs with
    | some (path, '=' :: rest) =>
      (value? (2 * rest.length + 2) 80 (skipSpaces rest)).map fun (t, rest) =>
        (.assignment path t, rest)
    | _ => none

/-- The lines of a text. -/
def lines? : Nat → List Char → Option (List Line)
  | 0, _ => none
  | fuel + 1, cs => do
    match ← gap? (cs.length + 1) cs with
    | [] => some []
    | cs => do
      let (l, rest) ← line? cs
      let rest ← lineEnd? rest
      return l :: (← lines? fuel rest)

/-- The assignments in front of the first header, and the sections. -/
def sectionsOf : List Line → List (List String × Toml) × List Section
  | [] => ([], [])
  | .assignment path t :: rest =>
    let (assignments, sections) := sectionsOf rest
    ((path, t) :: assignments, sections)
  | .header kind path :: rest =>
    let (assignments, sections) := sectionsOf rest
    ([], ⟨kind, path, assignments⟩ :: sections)

/-- A text without the mark of its byte order. -/
def dropByteOrderMark : List Char → List Char
  | '\uFEFF' :: rest => rest
  | cs => cs

/-- Reads a text; its value is a table. -/
def parse? (cs : List Char) : Option Toml := do
  let cs := dropByteOrderMark cs
  let (assignments, sections) := sectionsOf (← lines? (cs.length + 1) cs)
  return .table (finishEntries (← assemble? assignments sections))

end LogCollector.Toml
