import LogCollector.Kind
import LogCollector.Text.Blank
import LogCollector.Text.Numeral
import LogCollector.Text.Split

/-!
# The arguments of a filter rule

A rule is a list of conditions separated by semicolons, each of the form `name=value` or
`name!=value`; the second form, a `!` behind the name, negates the condition. This module
cuts a rule into conditions and a condition into its name, its negation and its value, and
holds the names that each kind of records knows.
-/

namespace LogCollector.Filter

/-- Why a condition of a rule cannot be read. -/
inductive SyntaxReason where
  /-- There is no `=`. -/
  | noEquals
  /-- There is nothing before the `=`. -/
  | noName
  /-- A list has an item of blanks only. -/
  | emptyItem
  /-- The value is not one of the words that the argument knows. -/
  | unknownWord (what value : String)
  /-- The value is no dotted quad. -/
  | badAddress (value : String)
  /-- The value is neither a dotted quad nor a number up to 32. -/
  | badMask (value : String)
  /-- The value holds both a comma and a slash. -/
  | listOfNetworks
  /-- The value is not two texts around one slash. -/
  | badNetwork
  /-- The value is no number of the argument's width. -/
  | badNumber (what value : String)
  /-- The range holds too many numbers. -/
  | longRange (what item : String)
  /-- The value is not 14 digits. -/
  | badTime
  /-- The month is not between 1 and 12. -/
  | badMonth (month : Nat)
  /-- The day is not between 1 and 31. -/
  | badDay (day : Nat)
  /-- The hour is above 23. -/
  | badHour (hour : Nat)
  /-- The minute is above 59. -/
  | badMinute (minute : Nat)
  /-- The second is above 59. -/
  | badSecond (second : Nat)
  /-- The month has no such day. -/
  | badDate (value : String)
  /-- The local clock never shows this time. -/
  | skippedTime (value : String)
  /-- Another reason, in words. -/
  | other (text : String)
  deriving DecidableEq

/-- The wording of a reason. -/
def SyntaxReason.message : SyntaxReason → String
  | .noEquals => "required syntax is 'argument=value'"
  | .noName => "missing argument name"
  | .emptyItem => "empty value in list"
  | .unknownWord what value => "invalid value for " ++ what ++ ": '" ++ value ++ "'"
  | .badAddress value => "invalid IP address: '" ++ value ++ "'"
  | .badMask value => "invalid netmask: '" ++ value ++ "'"
  | .listOfNetworks => "an address list and a network cannot be combined"
  | .badNetwork => "required syntax is 'network/mask'"
  | .badNumber what value => "invalid " ++ what ++ " value: '" ++ value ++ "'"
  | .longRange what item => what ++ " range '" ++ item ++ "' is too large"
  | .badTime => "required syntax is 'YYYYMMDDhhmmss'"
  | .badMonth n => "illegal month: " ++ .ofList (Numeral.padded 2 n)
  | .badDay n => "illegal day: " ++ .ofList (Numeral.padded 2 n)
  | .badHour n => "illegal hour: " ++ .ofList (Numeral.padded 2 n)
  | .badMinute n => "illegal minute: " ++ .ofList (Numeral.padded 2 n)
  | .badSecond n => "illegal second: " ++ .ofList (Numeral.padded 2 n)
  | .badDate value => "illegal date: '" ++ value ++ "'"
  | .skippedTime value => "nonexistent local time: '" ++ value ++ "'"
  | .other text => text

/-- The names of the arguments. -/
inductive ArgumentName where
  /-- The product that wrote the record. -/
  | product
  /-- The part of the firewall that wrote the record. -/
  | fwSubproduct
  /-- Who made a change. -/
  | administrator
  /-- What the firewall did. -/
  | action
  /-- The machine that wrote the record. -/
  | orig
  /-- The source address. -/
  | src
  /-- The destination address. -/
  | dst
  /-- The Internet protocol. -/
  | proto
  /-- The number of the firewall rule. -/
  | rule
  /-- The destination port. -/
  | service
  /-- The earliest time. -/
  | startTime
  /-- The latest time. -/
  | endTime
  deriving DecidableEq

namespace ArgumentName

/-- The word for the argument. -/
def word : ArgumentName → String
  | .product => "product"
  | .fwSubproduct => "fw_subproduct"
  | .administrator => "administrator"
  | .action => "action"
  | .orig => "orig"
  | .src => "src"
  | .dst => "dst"
  | .proto => "proto"
  | .rule => "rule"
  | .service => "service"
  | .startTime => "starttime"
  | .endTime => "endtime"

/-- The arguments of a kind of records. -/
def vocabulary : RecordKind → List ArgumentName
  | .traffic => [.product, .fwSubproduct, .action, .orig, .src, .dst, .proto, .rule, .service,
      .startTime, .endTime]
  | .audit => [.product, .administrator, .orig, .action, .startTime, .endTime]

/-- The argument that a word names in rules for a kind of records. -/
def parse? (kind : RecordKind) (word : String) : Option ArgumentName :=
  (vocabulary kind).find? (·.word == word)

end ArgumentName

/-- The conditions of a rule: its pieces between semicolons, blank ones left out. -/
def conditions (rule : List Char) : List (List Char) :=
  (Text.splitOn ';' rule).filter fun piece => !Text.allBlank piece

/-- A condition, cut into its parts. -/
structure Argument where
  /-- The name, in lower case. -/
  name : String
  /-- Whether the name is followed by `!`. -/
  negated : Bool
  /-- The value, without blanks at its ends. -/
  value : List Char
  deriving DecidableEq

namespace Argument

/-- A name without the `!`s behind it and the blanks before those. -/
def dropBangs (name : List Char) : List Char :=
  Text.trimEnd (name.reverse.dropWhile (· == '!')).reverse

/-- Cuts a condition at its first `=`. -/
def parse (condition : List Char) : Except SyntaxReason Argument :=
  match Text.cut? '=' condition with
  | none => .error .noEquals
  | some (before, after) =>
    let raw := Text.trim before
    let negated := raw.getLast? == some '!'
    let name := if negated then dropBangs raw else raw
    if name.isEmpty then .error .noName
    else .ok ⟨.ofList (Text.lower name), negated, Text.trim after⟩

end Argument

/-- The items of a list separated by commas; none may be blank. -/
def listItems (value : List Char) : Except SyntaxReason (List (List Char)) :=
  let items := (Text.splitOn ',' value).map Text.trim
  if items.any (·.isEmpty) then .error .emptyItem else .ok items

end LogCollector.Filter
