/-!
# JSON values

The values of the JSON format. A number without fraction and exponent is an integer if it
fits 64 bits, signed or unsigned; any other number keeps its spelling. The members of an
object keep their order, and a name may occur more than once.
-/

namespace LogCollector

/-- A JSON value. -/
inductive Json where
  /-- The value `null`. -/
  | null
  /-- A truth value. -/
  | bool (b : Bool)
  /-- A whole number of at most 64 bits. -/
  | int (n : Int)
  /-- Any other number, as it is spelled. -/
  | real (spelling : List Char)
  /-- A text. -/
  | string (s : String)
  /-- A list of values. -/
  | array (items : List Json)
  /-- A list of named values. -/
  | object (members : List (String × Json))
  deriving Inhabited

namespace Json

/-- The values that the members of an object give to a name, in order. -/
def valuesOf (name : String) (members : List (String × Json)) : List Json :=
  (members.filter (·.1 == name)).map (·.2)

/-- The value of a text. -/
def string? : Json → Option String
  | .string s => some s
  | _ => none

/-- The value of an integer within bounds. -/
def intWithin? (low high : Int) : Json → Option Int
  | .int n => if low ≤ n ∧ n ≤ high then some n else none
  | _ => none

/-- The value of a natural number of at most `max`. -/
def nat? (max : Nat) (j : Json) : Option Nat := (j.intWithin? 0 max).map Int.toNat

/-- The value of a signed number of 32 bits. -/
def int32? (j : Json) : Option Int := j.intWithin? (-2147483648) 2147483647

/-- The value of a signed number of 64 bits. -/
def int64? (j : Json) : Option Int := j.intWithin? (-9223372036854775808) 9223372036854775807

/-- The value of a truth value. -/
def bool? : Json → Option Bool
  | .bool b => some b
  | _ => none

/-- The items of a list. -/
def array? : Json → Option (List Json)
  | .array items => some items
  | _ => none

/-- The members of an object. -/
def object? : Json → Option (List (String × Json))
  | .object members => some members
  | _ => none

end Json

end LogCollector
