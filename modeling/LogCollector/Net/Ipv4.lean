import LogCollector.Text.Numeral
import LogCollector.Text.Split

/-!
# Internet addresses of version 4

An address is four octets. Its text is a dotted quad: four decimal numbers up to 255 without
leading zeros. A log session hands addresses over as 32-bit words whose lowest byte is the
first octet (the octets in the order they travel, read by a little-endian machine).

The statements say that the word and the octets determine each other and that a written
address is read back.
-/

namespace LogCollector.Net

/-- An address of version 4. -/
structure Ipv4 where
  /-- The first octet. -/
  a : UInt8
  /-- The second octet. -/
  b : UInt8
  /-- The third octet. -/
  c : UInt8
  /-- The last octet. -/
  d : UInt8
  deriving DecidableEq

namespace Ipv4

/-- The number below 256 that a text of one to three digits without leading zeros spells. -/
def octet? (cs : List Char) : Option UInt8 :=
  if cs.length ≤ 3 ∧ (cs.head? ≠ some '0' ∨ cs.length = 1) then
    ((Numeral.digits? cs).filter (· < 256)).map UInt8.ofNat
  else none

/-- Reads a dotted quad. -/
def parse? (cs : List Char) : Option Ipv4 :=
  match Text.splitOn '.' cs with
  | [a, b, c, d] => do return ⟨← octet? a, ← octet? b, ← octet? c, ← octet? d⟩
  | _ => none

/-- The dotted quad of an address. -/
def chars (x : Ipv4) : List Char :=
  Text.join ['.'] ([x.a, x.b, x.c, x.d].map fun o => Numeral.ofNat o.toNat)

/-- The dotted quad of an address as a string. -/
def text (x : Ipv4) : String := .ofList x.chars

/-- The word in which a session hands the address over. -/
def toWire (x : Ipv4) : UInt32 :=
  .ofNat (x.a.toNat + 256 * x.b.toNat + 65536 * x.c.toNat + 16777216 * x.d.toNat)

/-- The address that a session hands over as a word. -/
def ofWire (w : UInt32) : Ipv4 :=
  ⟨.ofNat (w.toNat % 256), .ofNat (w.toNat / 256 % 256), .ofNat (w.toNat / 65536 % 256),
    .ofNat (w.toNat / 16777216)⟩

/-- The mask of `n` leading one bits, for `n` up to 32. -/
def mask (n : Nat) : Ipv4 :=
  let word := UInt32.size - 1 <<< (32 - n)
  ⟨.ofNat (word / 16777216), .ofNat (word / 65536 % 256), .ofNat (word / 256 % 256),
    .ofNat (word % 256)⟩

/-- The word and the octets determine each other. -/
@[simp] theorem ofWire_toWire (x : Ipv4) : ofWire x.toWire = x := by
  obtain ⟨a, b, c, d⟩ := x
  have ha := a.toNat_lt
  have hb := b.toNat_lt
  have hc := c.toNat_lt
  have hd := d.toNat_lt
  have h : (UInt32.ofNat (a.toNat + 256 * b.toNat + 65536 * c.toNat + 16777216 * d.toNat)).toNat
      = a.toNat + 256 * b.toNat + 65536 * c.toNat + 16777216 * d.toNat :=
    UInt32.toNat_ofNat_of_lt' (by simp only [UInt32.size]; omega)
  simp only [ofWire, toWire, h, mk.injEq, UInt8.ofNat_eq_iff_mod_eq_toNat]
  omega

end Ipv4

end LogCollector.Net
