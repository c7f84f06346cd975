import LogCollector.Net.Ipv4

/-!
# Internet addresses of version 6

An address is eight groups of 16 bits. In its text a group is one to four hexadecimal digits,
`::` stands once for one or more groups of zeros, and the last two groups may be a dotted
quad. An address is written with `::` for its longest run of at least two groups of zeros, the
first one if there are several, and with a dotted quad when it stands for an address of
version 4.
-/

namespace LogCollector.Net

/-- An address of version 6. -/
structure Ipv6 where
  /-- The eight groups. -/
  groups : List Nat
  deriving DecidableEq

/-- A decimal number below 256 at the start of a text, and what follows it. -/
def octetAt? (cs : List Char) : Option (UInt8 × List Char) :=
  let (digits, rest) := cs.span Char.isDigit
  (Ipv4.octet? digits).map fun o => (o, rest)

/-- What follows a character at the start of a text. -/
def skip? (c : Char) : List Char → Option (List Char)
  | d :: rest => if d = c then some rest else none
  | [] => none

/-- A dotted quad at the start of a text, and what follows it. -/
def quadAt? (cs : List Char) : Option (Ipv4 × List Char) := do
  let (a, cs) ← octetAt? cs
  let (b, cs) ← octetAt? (← skip? '.' cs)
  let (c, cs) ← octetAt? (← skip? '.' cs)
  let (d, cs) ← octetAt? (← skip? '.' cs)
  return (⟨a, b, c, d⟩, cs)

namespace Ipv6

/-- A group at the start of a text, and what follows it. -/
def groupAt? (cs : List Char) : Option (Nat × List Char) :=
  let (digits, rest) := cs.span fun c => (Numeral.hexDigit? c).isSome
  if digits.isEmpty ∨ 4 < digits.length then none
  else some ((digits.filterMap Numeral.hexDigit?).foldl (fun n d => 16 * n + d) 0, rest)

/-- At most so many groups at the start of a text, whether a dotted quad ends them, and what
follows them. Unless they are the first ones a colon stands before them. -/
def groupsAt (first : Bool) : Nat → List Char → List Nat × Bool × List Char
  | 0, cs => ([], false, cs)
  | left + 1, cs =>
    match if first then some cs else skip? ':' cs with
    | none => ([], false, cs)
    | some body =>
      match if left = 0 then none else quadAt? body with
      | some (x, rest) =>
        ([256 * x.a.toNat + x.b.toNat, 256 * x.c.toNat + x.d.toNat], true, rest)
      | none =>
        match groupAt? body with
        | none => ([], false, cs)
        | some (g, rest) =>
          let (gs, quad, rest) := groupsAt false left rest
          (g :: gs, quad, rest)

/-- An address at the start of a text, and what follows it. -/
def at? (cs : List Char) : Option (Ipv6 × List Char) :=
  let (head, quad, rest) := groupsAt true 8 cs
  if head.length = 8 then some (⟨head⟩, rest)
  else if quad then none
  else do
    let rest ← skip? ':' (← skip? ':' rest)
    let (tail, _, rest) := groupsAt true (7 - head.length) rest
    return (⟨head ++ List.replicate (8 - head.length - tail.length) 0 ++ tail⟩, rest)

/-- Some groups with colons between them. -/
def groupTexts (gs : List Nat) : List Char := Text.join [':'] (gs.map (Nat.toDigits 16))

/-- The start and the length of the first run of zeros that no other run is longer than. -/
def longestZeros (gs : List Nat) : Nat × Nat :=
  let runAt (i : Nat) : Nat × Nat := (i, ((gs.drop i).takeWhile (· == 0)).length)
  ((List.range gs.length).map runAt).foldl (fun best run => if best.2 < run.2 then run else best)
    (0, 0)

/-- The text of an address. -/
def chars (x : Ipv6) : List Char :=
  match x.groups with
  | [0, 0, 0, 0, 0, 0xffff, high, low] =>
    "::ffff:".toList ++ Ipv4.chars
      ⟨.ofNat (high / 256), .ofNat (high % 256), .ofNat (low / 256), .ofNat (low % 256)⟩
  | gs =>
    let (start, length) := longestZeros gs
    if length < 2 then groupTexts gs
    else groupTexts (gs.take start) ++ [':', ':'] ++ groupTexts (gs.drop (start + length))

end Ipv6

end LogCollector.Net
