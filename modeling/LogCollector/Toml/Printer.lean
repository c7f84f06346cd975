import LogCollector.Toml.Text
import LogCollector.Toml.Basic

/-!
# Writing TOML

A text is written between quotes if nothing in it has to be escaped, otherwise between
apostrophes if that is possible, otherwise over several lines in one of these two ways, and
only then with escapes. Tabs do not count for that choice, but between quotes they are written
as escapes. A list of two or more values has a line for each of them.

A document is a list of sections, each of which has one line for each of its entries.
-/

namespace LogCollector.Toml

/-- The length of the longest run of a character. -/
def longestRun (mark : Char) (cs : List Char) : Nat :=
  (cs.foldl (fun (longest, current) c =>
    let current := if c = mark then current + 1 else 0
    (max longest current, current)) (0, 0)).1

/-- The ways to write a text. -/
inductive Quoting where
  /-- Between quotes. -/
  | quotes
  /-- Between apostrophes. -/
  | apostrophes
  /-- Between three quotes on either side. -/
  | threeQuotes
  /-- Between three apostrophes on either side. -/
  | threeApostrophes
  deriving DecidableEq

/-- Whether a character other than a tab or line feed has to be escaped. -/
def needsEscape (c : Char) : Bool := !isPlain c && c != '\n'

/-- The way in which a text is written. -/
def Quoting.of (cs : List Char) : Quoting :=
  let escapes := cs.any needsEscape
  let backslash := cs.contains '\\'
  let lines := cs.contains '\n'
  if !escapes && !backslash && longestRun '"' cs = 0 && !lines then .quotes
  else if !escapes && longestRun '\'' cs = 0 && !lines then .apostrophes
  else if !escapes && !backslash && longestRun '"' cs ≤ 2 then .threeQuotes
  else if !escapes && longestRun '\'' cs ≤ 2 then .threeApostrophes
  else if lines then .threeQuotes
  else .quotes

/-- A digit of base 16. -/
def hexChar (n : Nat) : Char := (Nat.digitChar n).toUpper

/-- A character between quotes that has to be escaped. -/
def escapeOf (c : Char) : List Char :=
  match c with
  | '\x08' => ['\\', 'b']
  | '\t' => ['\\', 't']
  | '\n' => ['\\', 'n']
  | '\x0c' => ['\\', 'f']
  | '\r' => ['\\', 'r']
  | '"' => ['\\', '"']
  | '\\' => ['\\', '\\']
  | c => ['\\', 'u', '0', '0', hexChar (c.toNat / 16), hexChar (c.toNat % 16)]

/-- The characters of a text between quotes. In a text of several lines line feeds stay as they
are, and of a run of quotes every third one is escaped; `run` counts those before. -/
def quotedBody (lines : Bool) (run : Nat) : List Char → List Char
  | [] => []
  | c :: cs =>
    if c = '"' then
      if lines && run < 2 then c :: quotedBody lines (run + 1) cs
      else escapeOf c ++ quotedBody lines 0 cs
    else
      let stays := if c = '\n' then lines else isPlain c && c != '\t' && c != '\\'
      (if stays then [c] else escapeOf c) ++ quotedBody lines 0 cs

/-- A text as it is written. Over several lines it starts on a line of its own. -/
def textChars (cs : List Char) : List Char :=
  let opening := if cs.contains '\n' then ['\n'] else []
  match Quoting.of cs with
  | .quotes => ['"'] ++ quotedBody false 0 cs ++ ['"']
  | .apostrophes => ['\''] ++ cs ++ ['\'']
  | .threeQuotes => "\"\"\"".toList ++ opening ++ quotedBody true 0 cs ++ "\"\"\"".toList
  | .threeApostrophes => "'''".toList ++ opening ++ cs ++ "'''".toList

/-- A name as it is written. -/
def nameChars (name : String) : List Char :=
  let cs := name.toList
  if !cs.isEmpty && cs.all isNameChar then cs else textChars cs

/-- A list of written values. -/
def listChars : List (List Char) → List Char
  | [] => ['[', ']']
  | [v] => ['['] ++ v ++ [']']
  | vs => ['[', '\n'] ++ vs.flatMap (fun v => "    ".toList ++ v ++ [',', '\n']) ++ [']']

mutual

/-- A value as it is written. -/
def valueChars : Toml → List Char
  | .string s => textChars s.toList
  | .integer n => Numeral.ofInt n
  | .float spelling | .dateTime spelling => spelling
  | .boolean b => (if b then "true" else "false").toList
  | .array items => listChars (itemsChars items)
  | .table entries =>
    "\x7b ".toList ++ Text.join ", ".toList (entriesChars entries) ++ " \x7d".toList

/-- The items of a list as they are written. -/
def itemsChars : List Toml → List (List Char)
  | [] => []
  | t :: ts => valueChars t :: itemsChars ts

/-- The entries of a table as they are written. -/
def entriesChars : List (String × Toml) → List (List Char)
  | [] => []
  | (name, t) :: rest => (nameChars name ++ " = ".toList ++ valueChars t) :: entriesChars rest

end

/-- The entries of a section. -/
abbrev Entry := String × Toml

/-- A section without its header. -/
def sectionText (entries : List Entry) : String :=
  .ofList ((entriesChars entries).flatMap (· ++ ['\n']))

/-- A document, with an empty line between two sections. -/
def documentText (sections : List (String × List Entry)) : String :=
  "\n".intercalate (sections.map fun (name, entries) =>
    "[" ++ .ofList (nameChars name) ++ "]\n" ++ sectionText entries)

end LogCollector.Toml
