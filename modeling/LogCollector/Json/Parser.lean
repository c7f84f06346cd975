import LogCollector.Json.Basic
import LogCollector.Text.Numeral

/-!
# Reading JSON

A strict reader: one value with nothing but spaces, tabs and line ends around it, no control
character inside a text, no surrogate without its partner, no leading zeros, no number beyond
the range of double precision, and lists and objects nested less than 128 deep. What is read
here is short of an error text: a caller reports where the text stands that is no JSON.

The reader works on the characters still to be read; every recursive call is counted by a
bound that the length of the text gives.
-/

namespace LogCollector.Json

/-- The text without the blanks at its start. -/
def skipBlanks (cs : List Char) : List Char :=
  cs.dropWhile fun c => c == ' ' || c == '\n' || c == '\t' || c == '\r'

/-- The value of four hexadecimal digits, and what follows them. -/
def hex4? : List Char → Option (Nat × List Char)
  | a :: b :: c :: d :: rest => do
    let high := 16 * (← Numeral.hexDigit? a) + (← Numeral.hexDigit? b)
    let low := 16 * (← Numeral.hexDigit? c) + (← Numeral.hexDigit? d)
    return (256 * high + low, rest)
  | _ => none

/-- The character behind `\u`, and what follows it. -/
def unicodeEscape? (cs : List Char) : Option (Char × List Char) := do
  let (first, rest) ← hex4? cs
  if 0xDC00 ≤ first ∧ first ≤ 0xDFFF then none
  else if 0xD800 ≤ first ∧ first ≤ 0xDBFF then
    match rest with
    | '\\' :: 'u' :: rest => do
      let (second, rest) ← hex4? rest
      if 0xDC00 ≤ second ∧ second ≤ 0xDFFF then
        return (Char.ofNat (0x10000 + 1024 * (first - 0xD800) + (second - 0xDC00)), rest)
      else none
    | _ => none
  else return (Char.ofNat first, rest)

/-- The character behind a backslash, and what follows it. -/
def escape? : List Char → Option (Char × List Char)
  | '"' :: rest => some ('"', rest)
  | '\\' :: rest => some ('\\', rest)
  | '/' :: rest => some ('/', rest)
  | 'b' :: rest => some ('\x08', rest)
  | 'f' :: rest => some ('\x0c', rest)
  | 'n' :: rest => some ('\n', rest)
  | 'r' :: rest => some ('\r', rest)
  | 't' :: rest => some ('\t', rest)
  | 'u' :: rest => unicodeEscape? rest
  | _ => none

/-- The rest of a text up to its closing quote, behind the characters already read (`acc`, in
reverse order), and what follows it. -/
def textBody? : Nat → List Char → List Char → Option (String × List Char)
  | 0, _, _ => none
  | _, _, [] => none
  | fuel + 1, acc, c :: rest =>
    if c = '"' then some (.ofList acc.reverse, rest)
    else if c = '\\' then
      match escape? rest with
      | some (e, rest) => textBody? fuel (e :: acc) rest
      | none => none
    else if c.toNat < 0x20 then none
    else textBody? fuel (c :: acc) rest

/-- The digits at the start of a text, and what follows them. -/
def spanDigits (cs : List Char) : List Char × List Char := cs.span Char.isDigit

/-- The fraction of a number, without its point. -/
def fraction? : List Char → Option (List Char × List Char)
  | '.' :: rest =>
    let (ds, rest) := spanDigits rest
    if ds.isEmpty then none else some (ds, rest)
  | cs => some ([], cs)

/-- The exponent of a number. -/
def exponent? : List Char → Option (Option Int × List Char)
  | c :: rest =>
    if c = 'e' ∨ c = 'E' then
      let (negative, rest) := match rest with
        | '+' :: r => (false, r)
        | '-' :: r => (true, r)
        | r => (false, r)
      let (ds, rest) := spanDigits rest
      if ds.isEmpty then none
      else
        let n : Int := Nat.ofDigitChars 10 ((ds.dropWhile (· == '0')).take 12) 0
        some (some (if negative then -n else n), rest)
    else some (none, c :: rest)
  | [] => some (none, [])

/-- A number, and what follows it. -/
def number? (cs : List Char) : Option (Json × List Char) := do
  let (negative, body) := match cs with
    | '-' :: r => (true, r)
    | r => (false, r)
  let (whole, rest) := spanDigits body
  if whole.isEmpty ∨ (whole.head? = some '0' ∧ whole.length ≠ 1) then none
  else
    let (frac, rest) ← fraction? rest
    let (exp, rest) ← exponent? rest
    let digits := Nat.ofDigitChars 10 (whole ++ frac) 0
    if !Numeral.isFinite digits (exp.getD 0 - frac.length) then none
    else
      let spelling := cs.take (cs.length - rest.length)
      let n : Int := if negative then -(Int.ofNat digits) else digits
      let isInteger := frac.isEmpty && exp.isNone
        && (if negative then -9223372036854775808 ≤ n && n < 0 else n < UInt64.size)
      return (if isInteger then .int n else .real spelling, rest)

mutual

/-- A value behind blanks, and what follows it; `depth` is the number of levels still to be
entered. -/
def value? : Nat → Nat → List Char → Option (Json × List Char)
  | 0, _, _ => none
  | fuel + 1, depth, cs =>
    match skipBlanks cs with
    | 'n' :: 'u' :: 'l' :: 'l' :: rest => some (.null, rest)
    | 't' :: 'r' :: 'u' :: 'e' :: rest => some (.bool true, rest)
    | 'f' :: 'a' :: 'l' :: 's' :: 'e' :: rest => some (.bool false, rest)
    | '"' :: rest => (textBody? (rest.length + 1) [] rest).map fun (s, rest) => (.string s, rest)
    | '[' :: rest =>
      if depth ≤ 1 then none
      else match skipBlanks rest with
        | ']' :: rest => some (.array [], rest)
        | rest => items? fuel (depth - 1) [] rest
    | '\x7b' :: rest =>
      if depth ≤ 1 then none
      else match skipBlanks rest with
        | '\x7d' :: rest => some (.object [], rest)
        | rest => members? fuel (depth - 1) [] rest
    | cs => number? cs

/-- The items of a list up to its closing bracket, behind those already read. -/
def items? : Nat → Nat → List Json → List Char → Option (Json × List Char)
  | 0, _, _, _ => none
  | fuel + 1, depth, acc, cs =>
    match value? fuel depth cs with
    | none => none
    | some (j, rest) =>
      match skipBlanks rest with
      | ',' :: rest => items? fuel depth (j :: acc) rest
      | ']' :: rest => some (.array (j :: acc).reverse, rest)
      | _ => none

/-- The members of an object up to its closing brace, behind those already read. -/
def members? : Nat → Nat → List (String × Json) → List Char → Option (Json × List Char)
  | 0, _, _, _ => none
  | fuel + 1, depth, acc, cs =>
    match skipBlanks cs with
    | '"' :: rest =>
      match textBody? (rest.length + 1) [] rest with
      | none => none
      | some (name, rest) =>
        match skipBlanks rest with
        | ':' :: rest =>
          match value? fuel depth rest with
          | none => none
          | some (j, rest) =>
            match skipBlanks rest with
            | ',' :: rest => members? fuel depth ((name, j) :: acc) rest
            | '\x7d' :: rest => some (.object ((name, j) :: acc).reverse, rest)
            | _ => none
        | _ => none
    | _ => none

end

/-- Reads a text that holds one value and nothing else but blanks. -/
def parse? (cs : List Char) : Option Json :=
  match value? (2 * cs.length + 2) 128 cs with
  | some (j, rest) => if (skipBlanks rest).isEmpty then some j else none
  | none => none

end LogCollector.Json
