import LogCollector.Text.Lowercase.Table

/-!
# Lower case

Names of filter arguments and words of the configuration are compared in lower case, for
all of Unicode: each character has one lower-case form, except that `İ` has two characters
and that a capital sigma at the end of a word has a form of its own.
-/

namespace LogCollector.Text.Lowercase

/-- Whether a code point lies in one of the ranges. -/
def inRanges (ranges : List (Nat × Nat)) (n : Nat) : Bool :=
  ranges.any fun (first, last) => first ≤ n && n ≤ last

/-- The lower-case form of a character by itself. -/
def ofChar (c : Char) : List Char :=
  let n := c.toNat
  if n < 0x80 then [c.toLower]
  else if n = 0x130 then ['i', '\u0307']
  else match letterRuns.find? fun r => r.first ≤ n && n ≤ r.last && (n - r.first) % r.step == 0 with
    | some r => [Char.ofNat (n + r.shift).toNat]
    | none => [c]

/-- Whether the nearest character that is not case-ignorable is a letter with case. -/
def nextIsCased (cs : List Char) : Bool :=
  match cs.find? fun c => !inRanges ignorableRanges c.toNat with
  | some c => inRanges casedRanges c.toNat
  | none => false

/-- The form of a capital sigma between two texts, the first one read backwards: the final
form after a letter and before none. -/
def sigma (before after : List Char) : Char :=
  if nextIsCased before && !nextIsCased after then 'ς' else 'σ'

/-- Lower-cases a text whose beginning, read backwards, was `before`. -/
def lowerAfter (before : List Char) : List Char → List Char
  | [] => []
  | c :: cs =>
    (if c = 'Σ' then [sigma before cs] else ofChar c) ++ lowerAfter (c :: before) cs

end LogCollector.Text.Lowercase

namespace LogCollector.Text

/-- The lower-case form of a text. -/
def lower (cs : List Char) : List Char := Lowercase.lowerAfter [] cs

end LogCollector.Text
