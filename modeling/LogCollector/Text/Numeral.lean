/-!
# Numerals

Decimal texts of whole numbers. A written number has no leading zeros and no plus sign; a
read one may have both. A natural number may carry `+`, an integer `+` or `-`, at least one
digit has to follow, and the value has to lie within the bounds the reader gives.

Other formats than the decimal one share the value of a hexadecimal digit and the question
whether a number is within double precision.

The statement is the round trip: a number within the bounds, written, is read back.
-/

namespace LogCollector.Numeral

/-- The decimal digits of a natural number. -/
def ofNat (n : Nat) : List Char := Nat.toDigits 10 n

/-- The decimal digits of an integer, behind `-` when it is negative. -/
def ofInt : Int → List Char
  | .ofNat n => ofNat n
  | .negSucc n => '-' :: ofNat (n + 1)

/-- The decimal digits of a natural number, filled up with zeros to `width` digits. -/
def padded (width n : Nat) : List Char :=
  let digits := ofNat n
  List.replicate (width - digits.length) '0' ++ digits

/-- The value of a non-empty text of digits. -/
def digits? (cs : List Char) : Option Nat :=
  if cs ≠ [] ∧ cs.all Char.isDigit then some (Nat.ofDigitChars 10 cs 0) else none

/-- A natural number of at most `max`, with an optional plus sign. -/
def natural? (max : Nat) (cs : List Char) : Option Nat :=
  let body := match cs with
    | '+' :: rest => rest
    | _ => cs
  (digits? body).filter (· ≤ max)

/-- An integer from `low` to `high`, with an optional sign. -/
def integer? (low high : Int) (cs : List Char) : Option Int :=
  let value : Option Int := match cs with
    | '+' :: rest => (digits? rest).map Int.ofNat
    | '-' :: rest => (digits? rest).map fun n => - Int.ofNat n
    | _ => (digits? cs).map Int.ofNat
  value.filter fun n => low ≤ n ∧ n ≤ high

/-- The value of a hexadecimal digit. -/
def hexDigit? (c : Char) : Option Nat :=
  if c.isDigit then some (c.toNat - 48)
  else if 'a' ≤ c ∧ c ≤ 'f' then some (c.toNat - 87)
  else if 'A' ≤ c ∧ c ≤ 'F' then some (c.toNat - 55)
  else none

/-- Whether `digits × 10 ^ exponent` rounds to a finite number of double precision. The number
of digits alone decides unless the product has about as many as the largest such number. -/
def isFinite (digits : Nat) (exponent : Int) : Bool :=
  if digits = 0 then true
  else
    let size : Int := (Nat.toDigits 10 digits).length
    if size + exponent > 310 then false
    else if size + exponent < 300 then true
    else if exponent ≤ 0 then digits < (Nat.pow 2 1024 - Nat.pow 2 970) * Nat.pow 10 exponent.natAbs
    else digits * Nat.pow 10 exponent.toNat < Nat.pow 2 1024 - Nat.pow 2 970

/-- The written form of a natural number as a string. -/
def text (n : Nat) : String := .ofList (ofNat n)

/-- The written form of an integer as a string. -/
def intText (n : Int) : String := .ofList (ofInt n)

theorem ofNat_ne_nil (n : Nat) : ofNat n ≠ [] := Nat.toDigits_ne_nil

theorem isDigit_of_mem_ofNat {n : Nat} {c : Char} (h : c ∈ ofNat n) : c.isDigit = true :=
  Nat.isDigit_of_mem_toDigits (by decide) (by decide) h

/-- The digits of a number have that number as their value. -/
@[simp] theorem digits?_ofNat (n : Nat) : digits? (ofNat n) = some n := by
  have h : (ofNat n).all Char.isDigit = true := List.all_eq_true.2 fun _ => isDigit_of_mem_ofNat
  simp only [digits?, ofNat_ne_nil, h, ne_eq, not_false_eq_true, and_self, if_true]
  simp [ofNat, Nat.ofDigitChars_ten_toDigits]

/-- A text of digits does not begin with a sign. -/
theorem head_ofNat_ne {n : Nat} {s : Char} (hs : s.isDigit = false) (rest : List Char) :
    ofNat n ≠ s :: rest := by
  intro h
  have := isDigit_of_mem_ofNat (n := n) (c := s) (by rw [h]; simp)
  simp [this] at hs

/-- A natural number within the bound, written, is read back. -/
theorem natural?_ofNat {max n : Nat} (h : n ≤ max) : natural? max (ofNat n) = some n := by
  have hb : (match ofNat n with
      | '+' :: rest => rest
      | _ => ofNat n) = ofNat n := by
    split
    · rename_i rest he
      exact absurd he (head_ofNat_ne (by decide) rest)
    · rfl
  simp only [natural?, hb, digits?_ofNat, Option.filter_some, h, decide_true, if_true]

end LogCollector.Numeral
