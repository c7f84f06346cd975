import LogCollector.Json.Basic
import LogCollector.Text.Numeral
import LogCollector.Text.Split

/-!
# Writing JSON

A value is written either on one line without blanks, or with one item or member on each line,
indented by two spaces for each level; an empty list or object stays on its line. A text
escapes the quote, the backslash and the control characters only.
-/

namespace LogCollector.Json

/-- A character inside a text. -/
def escapeChar (c : Char) : List Char :=
  match c with
  | '"' => ['\\', '"']
  | '\\' => ['\\', '\\']
  | '\n' => ['\\', 'n']
  | '\r' => ['\\', 'r']
  | '\t' => ['\\', 't']
  | '\x08' => ['\\', 'b']
  | '\x0c' => ['\\', 'f']
  | c =>
    if c.toNat < 0x20 then
      ['\\', 'u', '0', '0', Nat.digitChar (c.toNat / 16), Nat.digitChar (c.toNat % 16)]
    else [c]

/-- A text between quotes. -/
def quote (s : String) : List Char := '"' :: s.toList.flatMap escapeChar ++ ['"']

/-- A value that has no parts. -/
def scalar : Json → List Char
  | .null => "null".toList
  | .bool b => (if b then "true" else "false").toList
  | .int n => Numeral.ofInt n
  | .real spelling => spelling
  | .string s => quote s
  | .array _ => "[]".toList
  | .object _ => ['\x7b', '\x7d']

mutual

/-- A value on one line. -/
def compactChars : Json → List Char
  | .array items => '[' :: Text.join [','] (compactItems items) ++ [']']
  | .object members => '\x7b' :: Text.join [','] (compactMembers members) ++ ['\x7d']
  | j => scalar j

/-- The items of a list, each on one line. -/
def compactItems : List Json → List (List Char)
  | [] => []
  | j :: js => compactChars j :: compactItems js

/-- The members of an object, each on one line. -/
def compactMembers : List (String × Json) → List (List Char)
  | [] => []
  | (name, j) :: ms => (quote name ++ ':' :: compactChars j) :: compactMembers ms

end

/-- A new line at a level. -/
def lineAt (level : Nat) : List Char := '\n' :: List.replicate (2 * level) ' '

/-- Parts between brackets, each on a line of its own at the level below. -/
def bracketed (level : Nat) (opening closing : Char) (parts : List (List Char)) : List Char :=
  if parts.isEmpty then [opening, closing]
  else opening :: lineAt (level + 1) ++ Text.join (',' :: lineAt (level + 1)) parts
    ++ lineAt level ++ [closing]

mutual

/-- A value over several lines. -/
def prettyChars (level : Nat) : Json → List Char
  | .array items => bracketed level '[' ']' (prettyItems (level + 1) items)
  | .object members => bracketed level '\x7b' '\x7d' (prettyMembers (level + 1) members)
  | j => scalar j

/-- The items of a list over several lines. -/
def prettyItems (level : Nat) : List Json → List (List Char)
  | [] => []
  | j :: js => prettyChars level j :: prettyItems level js

/-- The members of an object over several lines. -/
def prettyMembers (level : Nat) : List (String × Json) → List (List Char)
  | [] => []
  | (name, j) :: ms =>
    (quote name ++ ':' :: ' ' :: prettyChars level j) :: prettyMembers level ms

end

/-- A value written on one line. -/
def compact (j : Json) : String := .ofList (compactChars j)

/-- A value written over several lines. -/
def pretty (j : Json) : String := .ofList (prettyChars 0 j)

end LogCollector.Json
