import LogCollector.Text.Quoted.Table

/-!
# Quoted text

The form in which diagnostics show a text: between double quotes, with a backslash before a
quote and a backslash, the short forms of the usual controls, and `\u{...}` with the code
point in lower-case hexadecimal digits for any character that shows no shape of its own.
-/

namespace LogCollector.Text.Quoted

/-- Whether a character shows no shape of its own. -/
def isInvisible (c : Char) : Bool :=
  let n := c.toNat
  0x7F ≤ n && invisibleRanges.any (fun (first, last) => first ≤ n && n ≤ last) || n < 0x20

/-- A character by its code point. -/
def byNumber (c : Char) : List Char :=
  ['\\', 'u', '\x7b'] ++ Nat.toDigits 16 c.toNat ++ ['\x7d']

/-- A character inside a quoted text. -/
def ofChar (c : Char) : List Char :=
  match c with
  | '\x00' => ['\\', '0']
  | '\t' => ['\\', 't']
  | '\r' => ['\\', 'r']
  | '\n' => ['\\', 'n']
  | '"' => ['\\', '"']
  | '\\' => ['\\', '\\']
  | c => if isInvisible c then byNumber c else [c]

/-- A text between quotes. -/
def encode (s : String) : String :=
  .ofList (['"'] ++ s.toList.flatMap ofChar ++ ['"'])

end LogCollector.Text.Quoted
