import LogCollector.Text.Numeral

/-!
# TOML texts and names

A text stands between quotes, in which a backslash begins an escape, or between apostrophes, in
which nothing does. Three quotes or apostrophes on either side make a text of several lines: a
line end right behind the opening ones is left out, and behind a backslash at the end of a line
so are all blanks and line ends up to the next character. Up to two quotes may stand in front
of the closing three.

A name is a text of one line, or letters, digits, `_` and `-` without quotes.

All readers here work on the characters still to be read and give what follows.
-/

namespace LogCollector.Toml

/-- Whether a character may stand for itself: a tab, or no control character. -/
def isPlain (c : Char) : Bool := c == '\t' || (0x20 ≤ c.toNat && c.toNat != 0x7F)

/-- Whether a character is a blank within a line. -/
def isSpace (c : Char) : Bool := c == ' ' || c == '\t'

/-- The text without the blanks at its start. -/
def skipSpaces (cs : List Char) : List Char := cs.dropWhile isSpace

/-- What follows a line end. -/
def newline? : List Char → Option (List Char)
  | '\n' :: rest => some rest
  | '\r' :: '\n' :: rest => some rest
  | _ => none

/-- The value of hexadecimal digits, the first of which is the most significant one. -/
def hexValue? (ds : List Char) : Option Nat :=
  ds.foldlM (fun n d => (Numeral.hexDigit? d).map (16 * n + ·)) 0

/-- The character with the number that `width` hexadecimal digits give. -/
def scalarEscape? (width : Nat) (cs : List Char) : Option (Char × List Char) := do
  let digits := cs.take width
  let n ← hexValue? digits
  if digits.length = width ∧ n.isValidChar then some (.ofNat n, cs.drop width) else none

/-- The character behind a backslash. -/
def escape? : List Char → Option (Char × List Char)
  | '"' :: rest => some ('"', rest)
  | '\\' :: rest => some ('\\', rest)
  | 'b' :: rest => some ('\x08', rest)
  | 'e' :: rest => some ('\x1b', rest)
  | 'f' :: rest => some ('\x0c', rest)
  | 'n' :: rest => some ('\n', rest)
  | 'r' :: rest => some ('\r', rest)
  | 't' :: rest => some ('\t', rest)
  | 'x' :: rest => scalarEscape? 2 rest
  | 'u' :: rest => scalarEscape? 4 rest
  | 'U' :: rest => scalarEscape? 8 rest
  | _ => none

/-- What follows the blanks and line ends at the start of a text; every step is counted. -/
def skipLines : Nat → List Char → List Char
  | 0, cs => cs
  | fuel + 1, cs =>
    match newline? (skipSpaces cs) with
    | some rest => skipLines fuel rest
    | none => skipSpaces cs

/-- What follows a backslash at the end of a line. -/
def continuation? (cs : List Char) : Option (List Char) :=
  (newline? (skipSpaces cs)).map fun rest => skipLines rest.length rest

/-- The rest of a quoted text of one line, behind the characters already read, in reverse
order. -/
def quoted? : Nat → List Char → List Char → Option (List Char × List Char)
  | 0, _, _ => none
  | _, _, [] => none
  | fuel + 1, acc, c :: rest =>
    if c = '"' then some (acc.reverse, rest)
    else if c = '\\' then
      match escape? rest with
      | some (e, rest) => quoted? fuel (e :: acc) rest
      | none => none
    else if isPlain c then quoted? fuel (c :: acc) rest
    else none

/-- The rest of a text of one line between apostrophes. -/
def literal? (cs : List Char) : Option (List Char × List Char) :=
  match cs.span fun c => isPlain c && c != '\'' with
  | (body, '\'' :: rest) => some (body, rest)
  | _ => none

/-- The characters in front of the closing three of a text of several lines, if it ends here;
of more than three the last ones close it, but at most five are taken. -/
def closing? (mark : Char) (cs : List Char) : Option (List Char × List Char) :=
  let run := (cs.takeWhile (· == mark)).take 5
  if run.length < 3 then none else some (run.drop 3, cs.drop run.length)

/-- The rest of a quoted text of several lines. -/
def quotedLines? : Nat → List Char → List Char → Option (List Char × List Char)
  | 0, _, _ => none
  | _, _, [] => none
  | fuel + 1, acc, c :: rest =>
    match closing? '"' (c :: rest), newline? (c :: rest) with
    | some (more, rest), _ => some (acc.reverse ++ more, rest)
    | none, some rest => quotedLines? fuel ('\n' :: (if c = '\r' then '\r' :: acc else acc)) rest
    | none, none =>
      if c = '\\' then
        match continuation? rest, escape? rest with
        | some rest, _ => quotedLines? fuel acc rest
        | none, some (e, rest) => quotedLines? fuel (e :: acc) rest
        | none, none => none
      else if isPlain c then quotedLines? fuel (c :: acc) rest
      else none

/-- The rest of a text of several lines between apostrophes. -/
def literalLines? : Nat → List Char → List Char → Option (List Char × List Char)
  | 0, _, _ => none
  | _, _, [] => none
  | fuel + 1, acc, c :: rest =>
    match closing? '\'' (c :: rest), newline? (c :: rest) with
    | some (more, rest), _ => some (acc.reverse ++ more, rest)
    | none, some rest => literalLines? fuel ('\n' :: (if c = '\r' then '\r' :: acc else acc)) rest
    | none, none => if isPlain c then literalLines? fuel (c :: acc) rest else none

/-- A text without the line end at its start. -/
def dropNewline (cs : List Char) : List Char := (newline? cs).getD cs

/-- A text of one line. -/
def lineText? : List Char → Option (List Char × List Char)
  | '"' :: rest => quoted? (rest.length + 1) [] rest
  | '\'' :: rest => literal? rest
  | _ => none

/-- A text. -/
def text? : List Char → Option (List Char × List Char)
  | '"' :: '"' :: '"' :: rest => quotedLines? (rest.length + 1) [] (dropNewline rest)
  | '\'' :: '\'' :: '\'' :: rest => literalLines? (rest.length + 1) [] (dropNewline rest)
  | cs => lineText? cs

/-- Whether a character may stand in a name without quotes. -/
def isNameChar (c : Char) : Bool := c.isAlphanum || c == '_' || c == '-'

/-- A name. -/
def name? (cs : List Char) : Option (String × List Char) :=
  match cs.span isNameChar with
  | ([], rest) => (lineText? rest).map fun (s, rest) => (.ofList s, rest)
  | (s, rest) => some (.ofList s, rest)

/-- Names with points between them; every name is counted. -/
def path? : Nat → List Char → Option (List String × List Char)
  | 0, _ => none
  | fuel + 1, cs => do
    let (s, rest) ← name? (skipSpaces cs)
    match skipSpaces rest with
    | '.' :: rest => do
      let (more, rest) ← path? fuel rest
      return (s :: more, rest)
    | rest => return ([s], rest)

end LogCollector.Toml
