import LogCollector.Net.Ipv4
import LogCollector.Proofs.Text.Pieces
import Mathlib.Data.List.Induction

/-!
# Numerals are read back

What a written number looks like (only digits, as many as its size asks for, no leading zero),
and that the readers of numbers and of dotted quads accept what is written and give the same
value back. Dotted quads are read from nothing else (`Net.Ipv4.parse?_eq_some_iff`), natural numbers
from digits with or without a plus sign in front of them (`Numeral.Spells`), and integers from the
same or from digits behind a minus sign (`Numeral.SpellsInt`).
-/

namespace LogCollector

namespace Text

/-- The code points of the digits. -/
theorem toNat_of_isDigit {c : Char} (h : c.isDigit = true) : 48 ≤ c.toNat ∧ c.toNat ≤ 57 := by
  simp only [Char.isDigit, Bool.and_eq_true, decide_eq_true_eq, ge_iff_le,
    UInt32.le_iff_toNat_le] at h
  exact h

/-- A digit is no blank. -/
theorem isBlank_of_isDigit {c : Char} (h : c.isDigit = true) : isBlank c = false := by
  obtain ⟨h₁, h₂⟩ := toNat_of_isDigit h
  simp only [isBlank, Bool.or_eq_false_iff, Bool.and_eq_false_iff, decide_eq_false_iff_not,
    beq_eq_false_iff_ne]
  omega

/-- A text of digits is trimmed. -/
theorem Trimmed.of_digits {cs : List Char} (h : ∀ c ∈ cs, c.isDigit = true) : Trimmed cs :=
  Trimmed.of_forall fun c hc => isBlank_of_isDigit (h c hc)

end Text

namespace Numeral

/-! ### What a numeral looks like -/

theorem trimmed_ofNat (n : Nat) : Text.Trimmed (ofNat n) :=
  Text.Trimmed.of_digits fun _ => isDigit_of_mem_ofNat

/-- A character that is no digit does not occur in a numeral. -/
theorem not_mem_ofNat {c : Char} (hc : c.isDigit = false) (n : Nat) : c ∉ ofNat n := by
  intro h
  rw [isDigit_of_mem_ofNat h] at hc
  exact Bool.noConfusion hc

/-- A number below a power of ten has no more digits than the exponent says. -/
theorem length_ofNat_le {n k : Nat} (hk : 0 < k) (h : n < Nat.pow 10 k) :
    (ofNat n).length ≤ k :=
  (Nat.length_toDigits_le_iff (by decide) hk).2 h

/-- Only zero is written with a zero in front. -/
theorem head?_ofNat_ne_zero {n : Nat} (hn : 0 < n) : (ofNat n).head? ≠ some '0' := by
  induction n using Nat.strongRecOn with
  | ind n ih =>
    rw [ofNat, Nat.toDigits_eq_if (by decide)]
    split
    · rename_i hlt
      have hd : ∀ k < 10, 0 < k → k.digitChar ≠ '0' := by decide
      simpa using hd n hlt hn
    · rename_i hge
      have hq : 0 < n / 10 := by omega
      have hrest := ih (n / 10) (by omega) hq
      obtain ⟨d, ds, hds⟩ := List.exists_cons_of_ne_nil (ofNat_ne_nil (n / 10))
      rw [ofNat] at hds hrest
      rw [hds] at hrest ⊢
      simpa using hrest

/-- A character that is neither a digit nor a minus sign does not occur in an integer. -/
theorem not_mem_ofInt {c : Char} (hd : c.isDigit = false) (hc : c ≠ '-') (n : Int) :
    c ∉ ofInt n := by
  cases n with
  | ofNat n => exact not_mem_ofNat hd n
  | negSucc n => exact fun h => (List.mem_cons.1 h).elim hc (not_mem_ofNat hd (n + 1))

theorem ofInt_ne_nil (n : Int) : ofInt n ≠ [] := by
  cases n with
  | ofNat n => exact ofNat_ne_nil n
  | negSucc n => exact List.cons_ne_nil _ _

theorem trimmed_ofInt (n : Int) : Text.Trimmed (ofInt n) := by
  cases n with
  | ofNat n => exact trimmed_ofNat n
  | negSucc n =>
    refine Text.Trimmed.of_forall fun c hc => ?_
    obtain rfl | hc := List.mem_cons.1 hc
    · rfl
    · exact Text.isBlank_of_isDigit (isDigit_of_mem_ofNat hc)

theorem isDigit_of_mem_padded {width n : Nat} {c : Char} (h : c ∈ padded width n) :
    c.isDigit = true := by
  rw [padded, List.mem_append] at h
  obtain h | h := h
  · rw [List.eq_of_mem_replicate h]
    rfl
  · exact isDigit_of_mem_ofNat h

/-- A character that is no digit does not occur in a number that is filled up with zeros. -/
theorem not_mem_padded {c : Char} (hc : c.isDigit = false) (width n : Nat) :
    c ∉ padded width n := by
  intro h
  rw [isDigit_of_mem_padded h] at hc
  exact Bool.noConfusion hc

/-- A number below a power of ten fills its field exactly. -/
theorem length_padded {width n : Nat} (hw : 0 < width) (h : n < Nat.pow 10 width) :
    (padded width n).length = width := by
  have hle := length_ofNat_le hw h
  rw [padded, List.length_append, List.length_replicate]
  omega

/-- Zeros in front do not change the value. -/
theorem ofDigitChars_padded (width n : Nat) : Nat.ofDigitChars 10 (padded width n) 0 = n := by
  rw [padded, Nat.ofDigitChars_append, Nat.ofDigitChars_replicate_zero, Nat.mul_zero, ofNat,
    Nat.ofDigitChars_ten_toDigits]

/-- A digit is the one of its value. -/
theorem digitChar_value {c : Char} (h : c.isDigit = true) :
    c.toNat - '0'.toNat < 10 ∧ (c.toNat - '0'.toNat).digitChar = c := by
  have hz : '0'.toNat = 48 := rfl
  obtain ⟨h₁, h₂⟩ := Text.toNat_of_isDigit h
  have hlt : c.toNat - '0'.toNat < 10 := by omega
  refine ⟨hlt, ?_⟩
  rw [← Char.toNat_inj, Nat.toNat_digitChar_of_lt_ten hlt]
  omega

/-- Digits without a leading zero are those of their value. -/
theorem ofNat_ofDigitChars {cs : List Char} (hne : cs ≠ []) (h : ∀ c ∈ cs, c.isDigit = true)
    (hz : cs.head? ≠ some '0' ∨ cs.length = 1) : ofNat (Nat.ofDigitChars 10 cs 0) = cs := by
  induction cs using List.reverseRecOn with
  | nil => exact absurd rfl hne
  | append_singleton ds d ih =>
    obtain ⟨hlt, hchar⟩ := digitChar_value (h d (by simp))
    have hvalue : Nat.ofDigitChars 10 (ds ++ [d]) 0 =
        10 * Nat.ofDigitChars 10 ds 0 + (d.toNat - '0'.toNat) := by
      rw [Nat.ofDigitChars_append, Nat.ofDigitChars_cons, Nat.ofDigitChars_nil]
    cases ds with
    | nil =>
      rw [hvalue, Nat.ofDigitChars_nil, Nat.mul_zero, Nat.zero_add, ofNat,
        Nat.toDigits_of_lt_base hlt, hchar]
      rfl
    | cons e es =>
      have he : (e :: es).head? ≠ some '0' := by
        obtain hz | hz := hz
        · exact hz
        · simp at hz
      have hds := ih (by simp) (fun c hc => h c (List.mem_append_left _ hc)) (.inl he)
      -- The digits in front of the last one are those of a number that is not zero.
      have hpos : 0 < Nat.ofDigitChars 10 (e :: es) 0 := by
        refine Nat.pos_of_ne_zero fun h₀ => he ?_
        rw [← hds, h₀]
        rfl
      rw [hvalue, ofNat, ← Nat.toDigits_append_toDigits (by decide) hpos hlt,
        Nat.toDigits_of_lt_base hlt, hchar]
      exact congrArg (· ++ [d]) hds

/-! ### Reading -/

/-- The value of digits, of which there is one at least. -/
theorem digits?_eq_some_iff {cs : List Char} {n : Nat} : digits? cs = some n ↔
    cs ≠ [] ∧ (∀ c ∈ cs, c.isDigit = true) ∧ Nat.ofDigitChars 10 cs 0 = n := by
  rw [digits?, Option.ite_none_right_eq_some, List.all_eq_true, Option.some.injEq, and_assoc]

/-- The texts of a natural number: digits with that value, leading zeros among them, with or
without a plus sign in front. -/
def Spells (n : Nat) (cs : List Char) : Prop :=
  ∃ digits, digits ≠ [] ∧ (∀ c ∈ digits, c.isDigit = true) ∧ Nat.ofDigitChars 10 digits 0 = n ∧
    (cs = digits ∨ cs = '+' :: digits)

/-- **The natural numbers that are read**: those up to the bound, from any of their texts. -/
theorem natural?_eq_some_iff {max n : Nat} {cs : List Char} :
    natural? max cs = some n ↔ Spells n cs ∧ n ≤ max := by
  unfold natural?
  simp only [Option.filter_eq_some_iff, decide_eq_true_iff]
  refine and_congr_left fun _ => ?_
  split
  · rename_i rest
    rw [digits?_eq_some_iff]
    constructor
    · rintro ⟨hne, hd, hn⟩
      exact ⟨rest, hne, hd, hn, .inr rfl⟩
    · rintro ⟨digits, hne, hd, hn, rfl | h⟩
      · exact absurd (hd '+' (by simp)) (by decide)
      · obtain rfl := (List.cons.inj h).2
        exact ⟨hne, hd, hn⟩
  · rename_i hplus
    rw [digits?_eq_some_iff]
    constructor
    · rintro ⟨hne, hd, hn⟩
      exact ⟨cs, hne, hd, hn, .inl rfl⟩
    · rintro ⟨digits, hne, hd, hn, rfl | rfl⟩
      · exact ⟨hne, hd, hn⟩
      · exact absurd rfl (hplus digits)

/-- Digits and the plus sign are all that a text of a number holds. -/
theorem Spells.not_mem {n : Nat} {cs : List Char} {c : Char} (h : Spells n cs)
    (hd : c.isDigit = false) (hc : c ≠ '+') : c ∉ cs := by
  obtain ⟨digits, -, hall, -, rfl | rfl⟩ := h
  · intro hmem
    rw [hall c hmem] at hd
    exact Bool.noConfusion hd
  · intro hmem
    obtain rfl | hmem := List.mem_cons.1 hmem
    · exact hc rfl
    · rw [hall c hmem] at hd
      exact Bool.noConfusion hd

theorem Spells.ne_nil {n : Nat} {cs : List Char} (h : Spells n cs) : cs ≠ [] := by
  obtain ⟨digits, hne, -, -, rfl | rfl⟩ := h
  · exact hne
  · exact List.cons_ne_nil _ _

/-- The texts of an integer: those of a natural number, or digits behind a minus sign. -/
def SpellsInt (n : Int) (cs : List Char) : Prop :=
  (∃ k : Nat, n = k ∧ Spells k cs) ∨
    ∃ digits, digits ≠ [] ∧ (∀ c ∈ digits, c.isDigit = true) ∧
      n = -(Nat.ofDigitChars 10 digits 0 : Int) ∧ cs = '-' :: digits

theorem SpellsInt.ne_nil {n : Int} {cs : List Char} (h : SpellsInt n cs) : cs ≠ [] := by
  obtain ⟨k, -, hk⟩ | ⟨digits, -, -, -, rfl⟩ := h
  · exact hk.ne_nil
  · exact List.cons_ne_nil _ _

/-- **The integers that are read**: those within the bounds, from any of their texts. -/
theorem integer?_eq_some_iff {low high n : Int} {cs : List Char} :
    integer? low high cs = some n ↔ SpellsInt n cs ∧ low ≤ n ∧ n ≤ high := by
  unfold integer?
  simp only [Option.filter_eq_some_iff, decide_eq_true_iff]
  refine and_congr_left fun _ => ?_
  split
  · rename_i rest
    simp only [Option.map_eq_some_iff, digits?_eq_some_iff]
    constructor
    · rintro ⟨k, ⟨hne, hd, hk⟩, rfl⟩
      exact .inl ⟨k, rfl, rest, hne, hd, hk, .inr rfl⟩
    · rintro (⟨k, rfl, digits, hne, hd, hk, rfl | h⟩ | ⟨digits, -, -, -, h⟩)
      · exact absurd (hd '+' (by simp)) (by decide)
      · obtain rfl := (List.cons.inj h).2
        exact ⟨k, ⟨hne, hd, hk⟩, rfl⟩
      · exact absurd (List.cons.inj h).1 (by decide)
  · rename_i rest
    simp only [Option.map_eq_some_iff, digits?_eq_some_iff]
    constructor
    · rintro ⟨k, ⟨hne, hd, rfl⟩, rfl⟩
      exact .inr ⟨rest, hne, hd, rfl, rfl⟩
    · rintro (⟨k, -, hk⟩ | ⟨digits, hne, hd, rfl, h⟩)
      · exact absurd List.mem_cons_self (hk.not_mem (c := '-') (by decide) (by decide))
      · obtain rfl := (List.cons.inj h).2
        exact ⟨_, ⟨hne, hd, rfl⟩, rfl⟩
  · rename_i hplus hminus
    simp only [Option.map_eq_some_iff, digits?_eq_some_iff]
    constructor
    · rintro ⟨k, ⟨hne, hd, hk⟩, rfl⟩
      exact .inl ⟨k, rfl, cs, hne, hd, hk, .inl rfl⟩
    · rintro (⟨k, rfl, digits, hne, hd, hk, rfl | rfl⟩ | ⟨digits, -, -, -, rfl⟩)
      · exact ⟨k, ⟨hne, hd, hk⟩, rfl⟩
      · exact absurd rfl (hplus digits)
      · exact absurd rfl (hminus digits)

/-- An integer within the bounds, written, is read back. -/
theorem integer?_ofInt {low high n : Int} (hl : low ≤ n) (hh : n ≤ high) :
    integer? low high (ofInt n) = some n := by
  cases n with
  | ofNat k =>
    have hv : integer? low high (ofNat k) =
        ((digits? (ofNat k)).map Int.ofNat).filter fun n => low ≤ n ∧ n ≤ high := by
      unfold integer?
      split
      · rename_i rest he
        exact absurd he (head_ofNat_ne (by decide) rest)
      · rename_i rest he
        exact absurd he (head_ofNat_ne (by decide) rest)
      · rfl
    rw [ofInt, hv, digits?_ofNat, Option.map_some, Option.filter_some,
      if_pos (decide_eq_true ⟨hl, hh⟩)]
  | negSucc k =>
    have he : -Int.ofNat (k + 1) = Int.negSucc k := rfl
    rw [ofInt, integer?, digits?_ofNat, Option.map_some, he, Option.filter_some,
      if_pos (decide_eq_true ⟨hl, hh⟩)]

/-- An integer that is read lies within wider bounds, too. -/
theorem integer?_mono {low high low' high' n : Int} {cs : List Char} (hl : low' ≤ low)
    (hh : high ≤ high') (h : integer? low high cs = some n) : integer? low' high' cs = some n := by
  unfold integer? at h ⊢
  rw [Option.filter_eq_some_iff, decide_eq_true_iff] at h ⊢
  exact ⟨h.1, Int.le_trans hl h.2.1, Int.le_trans h.2.2 hh⟩

/-- An integer that is read lies within the bounds. -/
theorem bounds_of_integer? {low high n : Int} {cs : List Char}
    (h : integer? low high cs = some n) : low ≤ n ∧ n ≤ high := by
  unfold integer? at h
  rw [Option.filter_eq_some_iff, decide_eq_true_iff] at h
  exact h.2

/-- No other integer is read than the written one. -/
theorem eq_of_integer?_ofInt {low high m n : Int} (h : integer? low high (ofInt n) = some m) :
    m = n := by
  have hwide := integer?_mono (Int.min_le_left low n) (Int.le_max_left high n) h
  rw [integer?_ofInt (Int.min_le_right low n) (Int.le_max_right high n)] at hwide
  exact (Option.some.inj hwide).symm

theorem ofInt_injective {m n : Int} (h : ofInt m = ofInt n) : m = n := by
  have hm := integer?_ofInt (Int.le_refl m) (Int.le_refl m)
  rw [h] at hm
  exact eq_of_integer?_ofInt hm

end Numeral

namespace Net.Ipv4

/-- The decimal text of an octet is read back. -/
theorem octet?_ofNat (o : UInt8) : octet? (Numeral.ofNat o.toNat) = some o := by
  have hlt := o.toNat_lt
  have hlen : (Numeral.ofNat o.toNat).length ≤ 3 :=
    Numeral.length_ofNat_le (by decide) (Nat.lt_of_lt_of_le hlt (by decide))
  have hhead : (Numeral.ofNat o.toNat).head? ≠ some '0' ∨
      (Numeral.ofNat o.toNat).length = 1 := by
    by_cases hz : o.toNat = 0
    · rw [hz]
      exact .inr rfl
    · exact .inl (Numeral.head?_ofNat_ne_zero (Nat.pos_of_ne_zero hz))
  rw [octet?, if_pos ⟨hlen, hhead⟩, Numeral.digits?_ofNat, Option.filter_some,
    if_pos (by simpa using hlt), Option.map_some, UInt8.ofNat_toNat]

/-- A character of a dotted quad is a digit or a dot. -/
theorem mem_chars {x : Ipv4} {c : Char} (h : c ∈ x.chars) : c.isDigit = true ∨ c = '.' := by
  obtain h | ⟨p, hp, h⟩ := Text.mem_join h
  · exact .inr (List.mem_singleton.1 h)
  · obtain ⟨o, -, rfl⟩ := List.mem_map.1 hp
    exact .inl (Numeral.isDigit_of_mem_ofNat h)

/-- A character that is neither a digit nor a dot does not occur in a dotted quad. -/
theorem not_mem_chars {c : Char} (hd : c.isDigit = false) (hc : c ≠ '.') (x : Ipv4) :
    c ∉ x.chars := by
  intro h
  obtain h | h := mem_chars h
  · rw [h] at hd
    exact Bool.noConfusion hd
  · exact hc h

theorem dot_mem_chars (x : Ipv4) : '.' ∈ x.chars := by
  simp [chars, Text.join]

theorem trimmed_chars (x : Ipv4) : Text.Trimmed x.chars := by
  refine Text.Trimmed.of_forall fun c hc => ?_
  obtain h | rfl := mem_chars hc
  · exact Text.isBlank_of_isDigit h
  · rfl

theorem chars_ne_nil (x : Ipv4) : x.chars ≠ [] :=
  List.ne_nil_of_mem x.dot_mem_chars

/-- A written address is read back. -/
theorem parse?_chars (x : Ipv4) : parse? x.chars = some x := by
  have hs : Text.splitOn '.' x.chars =
      [x.a, x.b, x.c, x.d].map fun o => Numeral.ofNat o.toNat := by
    refine Text.splitOn_join (by simp) fun p hp => ?_
    obtain ⟨o, -, rfl⟩ := List.mem_map.1 hp
    exact Numeral.not_mem_ofNat (by decide) o.toNat
  rw [parse?, hs]
  simp only [List.map_cons, List.map_nil, octet?_ofNat]
  rfl

/-- An octet is read from its decimal text only. -/
theorem eq_of_octet? {cs : List Char} {o : UInt8} (h : octet? cs = some o) :
    cs = Numeral.ofNat o.toNat := by
  rw [octet?, Option.ite_none_right_eq_some, Option.map_eq_some_iff] at h
  obtain ⟨⟨-, hz⟩, n, hn, rfl⟩ := h
  rw [Option.filter_eq_some_iff, Numeral.digits?_eq_some_iff, decide_eq_true_iff] at hn
  obtain ⟨⟨hne, hd, rfl⟩, hlt⟩ := hn
  rw [UInt8.toNat_ofNat_of_lt' hlt, Numeral.ofNat_ofDigitChars hne hd hz]

/-- **The addresses that are read**: from their dotted quads only. -/
theorem parse?_eq_some_iff {cs : List Char} {x : Ipv4} : parse? cs = some x ↔ cs = x.chars := by
  constructor
  · intro h
    unfold parse? at h
    split at h
    · rename_i a b c d hs
      simp only [Option.bind_eq_bind, Option.bind_eq_some_iff] at h
      obtain ⟨_, ha, _, hb, _, hc, _, hd, h⟩ := h
      obtain rfl := Option.some.inj h
      rw [← Text.join_splitOn '.' cs, hs, eq_of_octet? ha, eq_of_octet? hb, eq_of_octet? hc,
        eq_of_octet? hd]
      rfl
    · cases h
  · rintro rfl
    exact parse?_chars x

end Net.Ipv4

end LogCollector
