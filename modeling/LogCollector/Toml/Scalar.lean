import LogCollector.Calendar.Date
import LogCollector.Toml.Basic

/-!
# TOML numbers, truth values and times

A whole number is written in decimal digits without leading zeros, perhaps with a sign, or
without one in base 16, 8 or 2 behind `0x`, `0o` or `0b`. An underscore may stand between two
digits. It lies between `-2 ^ 127` and `2 ^ 128`. A fraction or an exponent makes it a number of
double precision, which has to be finite unless it is spelled `inf` or `nan`.

A time is a date, a time of day or both, in the latter case perhaps with an offset. Seconds may
be left out.
-/

namespace LogCollector.Toml

/-- The digits of a group in which an underscore may stand between two digits. -/
def ungroup? (isDigit : Char → Bool) (cs : List Char) : Option (List Char) :=
  let groups := Text.splitOn '_' cs
  if groups.all fun g => !g.isEmpty && g.all isDigit then some groups.flatten else none

/-- A text without the sign at its start, and whether that is a minus. -/
def splitSign : List Char → Bool × List Char
  | '-' :: rest => (true, rest)
  | '+' :: rest => (false, rest)
  | cs => (false, cs)

/-- The digits of a decimal number, which have no leading zero. -/
def decimalDigits? (cs : List Char) : Option (List Char) :=
  (ungroup? Char.isDigit cs).filter fun ds => ds.length = 1 || ds.head? != some '0'

/-- The value of digits in a base. -/
def inBase? (base : Nat) (cs : List Char) : Option Nat := do
  let value? (c : Char) := (Numeral.hexDigit? c).filter (· < base)
  let ds ← ungroup? (fun c => (value? c).isSome) cs
  ds.foldlM (fun n d => (value? d).map (base * n + ·)) 0

/-- A whole number. -/
def integer? (cs : List Char) : Option Int :=
  let value : Option Int := match cs with
    | '0' :: 'x' :: ds => (inBase? 16 ds).map Int.ofNat
    | '0' :: 'o' :: ds => (inBase? 8 ds).map Int.ofNat
    | '0' :: 'b' :: ds => (inBase? 2 ds).map Int.ofNat
    | cs =>
      let (negative, body) := splitSign cs
      (decimalDigits? body).map fun ds =>
        let n : Int := Nat.ofDigitChars 10 ds 0
        if negative then -n else n
  value.filter fun n => -Int.pow 2 127 ≤ n && n < Int.pow 2 128

/-- The exponent of a number, without its letter. -/
def exponent? (cs : List Char) : Option Int :=
  let (negative, body) := splitSign cs
  (ungroup? Char.isDigit body).map fun ds =>
    let n : Int := Nat.ofDigitChars 10 ((ds.dropWhile (· == '0')).take 12) 0
    if negative then -n else n

/-- Whether a text spells a number with a fraction or an exponent. -/
def isFloat (cs : List Char) : Bool :=
  let body := (splitSign cs).2
  if body = "inf".toList ∨ body = "nan".toList then true
  else
    let (mantissa, power) := body.span fun c => c != 'e' && c != 'E'
    let (whole, fraction) := mantissa.span (· != '.')
    let parts := do
      let ws ← decimalDigits? whole
      let fs ← if fraction.isEmpty then some [] else ungroup? Char.isDigit (fraction.drop 1)
      let e ← if power.isEmpty then some 0 else exponent? (power.drop 1)
      return (ws ++ fs, e - fs.length)
    !(fraction.isEmpty && power.isEmpty) && parts.any fun (ds, e) =>
      Numeral.isFinite (Nat.ofDigitChars 10 ds 0) e

/-- The value of exactly `width` digits. -/
def fixed? (width : Nat) (cs : List Char) : Option Nat :=
  if cs.length = width then Numeral.digits? cs else none

/-- Whether a text spells a date. -/
def isDate (cs : List Char) : Bool :=
  match Text.splitOn '-' cs with
  | [y, m, d] =>
    match fixed? 4 y, fixed? 2 m, fixed? 2 d with
    | some y, some m, some d => Calendar.Date.isValid ⟨y, m, d⟩
    | _, _, _ => false
  | _ => false

/-- Whether a text spells hours and minutes within bounds. -/
def isHourMinute (h m : List Char) : Bool :=
  (fixed? 2 h).any (· < 24) && (fixed? 2 m).any (· < 60)

/-- Whether a text spells seconds, perhaps with a fraction; a minute may have a leap second. -/
def isSeconds (cs : List Char) : Bool :=
  let (whole, fraction) := cs.span (· != '.')
  (fixed? 2 whole).any (· ≤ 60)
    && (fraction.isEmpty || (Numeral.digits? (fraction.drop 1)).isSome)

/-- Whether a text spells a time of day. -/
def isTimeOfDay (cs : List Char) : Bool :=
  match Text.splitOn ':' cs with
  | [h, m] => isHourMinute h m
  | [h, m, s] => isHourMinute h m && isSeconds s
  | _ => false

/-- Whether a text spells an offset; one that is empty is left out. -/
def isOffset : List Char → Bool
  | [] | ['Z'] | ['z'] => true
  | sign :: body =>
    (sign == '+' || sign == '-') && match Text.splitOn ':' body with
      | [h, m] => isHourMinute h m
      | _ => false

/-- Whether a text spells a time. -/
def isDateTime (cs : List Char) : Bool :=
  let (date, rest) := cs.splitAt 10
  isDate cs || isTimeOfDay cs || match rest with
    | mark :: rest =>
      let (time, offset) := rest.span fun c => c.isDigit || c == ':' || c == '.'
      isDate date && (mark == 'T' || mark == 't' || mark == ' ') && isTimeOfDay time
        && isOffset offset
    | [] => false

/-- The value that a text without quotes spells. -/
def scalar? (cs : List Char) : Option Toml :=
  if cs = "true".toList then some (.boolean true)
  else if cs = "false".toList then some (.boolean false)
  else if isDateTime cs then some (.dateTime cs)
  else match integer? cs with
    | some n => some (.integer n)
    | none => if isFloat cs then some (.float cs) else none

/-- Whether a character may stand in a value without quotes. -/
def isScalarChar (c : Char) : Bool :=
  c.isAlphanum || c == '_' || c == '+' || c == '-' || c == '.' || c == ':'

/-- A value without quotes. A blank may stand between a date and a time of day. -/
def scalarAt? (cs : List Char) : Option (Toml × List Char) :=
  let (word, rest) := cs.span isScalarChar
  match rest with
  | ' ' :: more =>
    let (time, rest') := more.span isScalarChar
    if isDate word && !time.isEmpty then
      (scalar? (word ++ ' ' :: time)).map fun t => (t, rest')
    else (scalar? word).map fun t => (t, rest)
  | _ => (scalar? word).map fun t => (t, rest)

end LogCollector.Toml
