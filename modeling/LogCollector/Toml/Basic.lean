import LogCollector.Text.Split

/-!
# TOML values

The values of a configuration text. A table keeps its entries in order. The program has no use
for the value of a fraction or of a time, so these keep their spelling.

A table may be asked for several entries at once; a list then stands for the entries in their
order, and a time for a table with none of them.
-/

namespace LogCollector

/-- A TOML value. -/
inductive Toml where
  /-- A text. -/
  | string (s : String)
  /-- A whole number. -/
  | integer (n : Int)
  /-- A number with a fraction or an exponent, as it is spelled. -/
  | float (spelling : List Char)
  /-- A truth value. -/
  | boolean (b : Bool)
  /-- A date, a time of day or both, as it is spelled. -/
  | dateTime (spelling : List Char)
  /-- A list. -/
  | array (items : List Toml)
  /-- A table of named values. -/
  | table (entries : List (String × Toml))
  deriving Inhabited

namespace Toml

/-- The value of a text. -/
def string? : Toml → Option String
  | .string s => some s
  | _ => none

/-- The value of a truth value. -/
def bool? : Toml → Option Bool
  | .boolean b => some b
  | _ => none

/-- The value of a whole number from 0 to `max`. -/
def nat? (max : Nat) : Toml → Option Nat
  | .integer n => if 0 ≤ n ∧ n ≤ max then some n.toNat else none
  | _ => none

/-- The values of a list of texts. -/
def texts? : Toml → Option (List String)
  | .array items => items.mapM string?
  | _ => none

/-- A word: a text, or the name of the only entry of a table whose value is empty. -/
def word? : Toml → Option String
  | .string s => some s
  | .table [(s, .table [])] | .table [(s, .array [])] => some s
  | _ => none

/-- The entries of a table with the given names, in that order; one that is missing is `none`. -/
def parts? (names : List String) : Toml → Option (List (Option Toml))
  | .table entries => some (names.map (entries.lookup ·))
  | .array items =>
    some (items.take names.length |>.map some |>.append
      (.replicate (names.length - items.length) none))
  | .dateTime _ => some (names.map fun _ => none)
  | _ => none

/-- A part of a table where a missing one has its usual value. -/
def usual? {α : Type} (read : Toml → Option α) (value : α) : Option Toml → Option α
  | none => some value
  | some t => read t

end Toml

end LogCollector
