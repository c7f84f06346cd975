import LogCollector.Proofs.Text.Numerals
import Mathlib.Data.List.Forall2
import Mathlib.Data.Nat.Digits.Defs

/-!
# Octets, words and masks

The octets of an address stand in its word from the lowest byte to the highest one
(`octets_ofWire`), and in its dotted quad from left to right, each in its one decimal text without
leading zeros (`isQuadOf_text_ofWire`). A network takes the leading bits of an address, which are
counted in the number that has the octets from the highest byte to the lowest one: the mask of `n`
bits is ones down to a place and zeros below (`testBit_mask`).
-/

namespace LogCollector

namespace Numeral

/-- Digits of a number, of which the first one is zero only when it is the only one. -/
structure IsPlain (n : Nat) (cs : List Char) : Prop where
  /-- They are the digits of the number. -/
  value : digits? cs = some n
  /-- There are no leading zeros. -/
  leading : cs.head? = some '0' → cs = ['0']

/-- A number is written without leading zeros. -/
theorem isPlain_ofNat (n : Nat) : IsPlain n (ofNat n) := by
  refine ⟨digits?_ofNat n, fun hzero => ?_⟩
  obtain rfl | hpos := Nat.eq_zero_or_pos n
  · rfl
  · exact absurd hzero (head?_ofNat_ne_zero hpos)

end Numeral

namespace Net.Ipv4

/-! ### Octets -/

/-- The octets of an address, the first one first. -/
def octets (x : Ipv4) : List Nat := [x.a.toNat, x.b.toNat, x.c.toNat, x.d.toNat]

/-- The bytes of a word, the lowest one first. -/
def bytes (w : UInt32) : List Nat := (List.range 4).map fun i => w.toNat / 256 ^ i % 256

/-- The address in a word has its bytes as octets. -/
theorem octets_ofWire (w : UInt32) : (ofWire w).octets = bytes w := by
  have hw : w.toNat < 4294967296 := w.toNat_lt
  have hbytes : bytes w =
      [w.toNat / 1 % 256, w.toNat / 256 % 256, w.toNat / 65536 % 256, w.toNat / 16777216 % 256] :=
    rfl
  rw [hbytes, octets, ofWire]
  simp only [UInt8.toNat_ofNat', List.cons.injEq, and_true]
  omega

/-- The octets and the word determine each other. -/
@[simp] theorem toWire_ofWire (w : UInt32) : (ofWire w).toWire = w := by
  have hw : w.toNat < 4294967296 := w.toNat_lt
  apply UInt32.toNat_inj.1
  simp only [toWire, ofWire, UInt8.toNat_ofNat', UInt32.toNat_ofNat']
  omega

/-- Four numbers without leading zeros, with dots between them. -/
def IsQuadOf (numbers : List Nat) (cs : List Char) : Prop :=
  ∃ parts, cs = Text.join ['.'] parts ∧ List.Forall₂ Numeral.IsPlain numbers parts

theorem isQuadOf_chars (x : Ipv4) : IsQuadOf x.octets x.chars :=
  ⟨x.octets.map Numeral.ofNat, rfl,
    List.forall₂_map_right_iff.2 (List.forall₂_same.2 fun n _ => Numeral.isPlain_ofNat n)⟩

/-- **The dotted quad of a word** has its bytes from the lowest one to the highest one. -/
theorem isQuadOf_text_ofWire (w : UInt32) : IsQuadOf (bytes w) (ofWire w).text.toList := by
  rw [text, String.toList_ofList, ← octets_ofWire]
  exact isQuadOf_chars (ofWire w)

/-! ### Masks -/

/-- The number of an address, which has the first octet as its highest byte. -/
def number (x : Ipv4) : Nat := Nat.ofDigits 256 x.octets.reverse

theorem number_eq (x : Ipv4) : x.number =
    x.d.toNat + 256 * (x.c.toNat + 256 * (x.b.toNat + 256 * x.a.toNat)) := by
  simp [number, octets, Nat.ofDigits]

/-- A mask lacks the numbers below its last bit. -/
theorem number_mask (n : Nat) : (mask n).number = 2 ^ 32 - 2 ^ (32 - n) := by
  have hpos : 0 < 2 ^ (32 - n) := Nat.two_pow_pos _
  have hmask : UInt32.size - 1 <<< (32 - n) = 2 ^ 32 - 2 ^ (32 - n) := by
    rw [Nat.one_shiftLeft]
    rfl
  rw [number_eq, mask, hmask]
  generalize 2 ^ (32 - n) = low at hpos
  simp only [UInt8.toNat_ofNat']
  omega

/-- **The bits of a mask**, counted from the highest one: as many ones as it is told, then zeros. -/
theorem testBit_mask {n i : Nat} (hn : n ≤ 32) (hi : i < 32) :
    (mask n).number.testBit (31 - i) = decide (i < n) := by
  have hlow : 2 ^ (32 - n) - 1 + 1 = 2 ^ (32 - n) := Nat.sub_add_cancel (Nat.two_pow_pos _)
  have hlt : 2 ^ (32 - n) - 1 < 2 ^ 32 :=
    Nat.lt_of_lt_of_le (Nat.sub_lt (Nat.two_pow_pos _) Nat.one_pos)
      (Nat.pow_le_pow_right (by decide) (by omega))
  rw [number_mask, ← hlow, Nat.testBit_two_pow_sub_succ hlt, Nat.testBit_two_pow_sub_one,
    ← decide_not, ← Bool.decide_and, decide_eq_decide]
  omega

/-- Ones, zeros and the byte in which one bit is left. -/
example : (mask 0).text = "0.0.0.0" ∧ (mask 20).text = "255.255.240.0" ∧
    (mask 32).text = "255.255.255.255" := by decide

end Net.Ipv4

end LogCollector
