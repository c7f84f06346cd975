import LogCollector.Filter.Operand
import LogCollector.Proofs.Calendar.LocalTime
import LogCollector.Proofs.Fallible
import LogCollector.Proofs.Text.Numerals

/-!
# Times in filter rules

`localTime` accepts 14 digits exactly when their parts are a reading of a clock for which there
is an instant (`localTime_eq_ok_iff`). The instant of an accepted time, written as a local
time again, is accepted and stands for the same instant (`localTime_compact`).
-/

namespace LogCollector

namespace Numeral

/-- The value of some digits is below the power of ten for their number. -/
theorem ofDigitChars_lt {cs : List Char} (h : ∀ c ∈ cs, c.isDigit = true) (init : Nat) :
    Nat.ofDigitChars 10 cs init < Nat.pow 10 cs.length * (init + 1) := by
  induction cs generalizing init with
  | nil => simp
  | cons c cs ih =>
    obtain ⟨hd, -⟩ := digitChar_value (h c (by simp))
    have hrest := ih (fun d hd => h d (List.mem_cons_of_mem c hd))
      (10 * init + (c.toNat - '0'.toNat))
    rw [Nat.ofDigitChars_cons, List.length_cons]
    refine Nat.lt_of_lt_of_le hrest ?_
    have hstep : 10 * init + (c.toNat - '0'.toNat) + 1 ≤ 10 * (init + 1) := by omega
    calc Nat.pow 10 cs.length * (10 * init + (c.toNat - '0'.toNat) + 1)
        ≤ Nat.pow 10 cs.length * (10 * (init + 1)) := Nat.mul_le_mul_left _ hstep
      _ = Nat.pow 10 (cs.length + 1) * (init + 1) := by
          rw [← Nat.mul_assoc]
          rfl

/-- Digits are their value, filled up with zeros to their number. -/
theorem padded_ofDigitChars {cs : List Char} (hne : cs ≠ []) (h : ∀ c ∈ cs, c.isDigit = true) :
    padded cs.length (Nat.ofDigitChars 10 cs 0) = cs := by
  induction cs with
  | nil => exact absurd rfl hne
  | cons c cs ih =>
    by_cases hz : (c :: cs).head? ≠ some '0' ∨ (c :: cs).length = 1
    · rw [padded, ofNat_ofDigitChars hne h hz, Nat.sub_self, List.replicate_zero, List.nil_append]
    · -- A zero in front is one of those that fill up the rest.
      obtain ⟨hc, hlen⟩ := not_or.1 hz
      obtain rfl : c = '0' := Option.some.inj (Decidable.not_not.1 hc)
      have hcs : cs ≠ [] := fun hnil => hlen (by rw [hnil]; rfl)
      have hdigits : ∀ d ∈ cs, d.isDigit = true := fun d hd => h d (List.mem_cons_of_mem _ hd)
      have hvalue : Nat.ofDigitChars 10 ('0' :: cs) 0 = Nat.ofDigitChars 10 cs 0 :=
        Nat.ofDigitChars_cons
      have hlt : Nat.ofDigitChars 10 cs 0 < Nat.pow 10 cs.length := by
        simpa using ofDigitChars_lt hdigits 0
      have hsize := length_ofNat_le (List.length_pos_of_ne_nil hcs) hlt
      rw [hvalue, padded, List.length_cons, Nat.succ_sub hsize, List.replicate_succ,
        List.cons_append]
      exact congrArg _ (ih hcs hdigits)

end Numeral

namespace Filter

open Calendar

/-- The reading that the parts of 14 digits make up. -/
def readingOf (value : List Char) : Reading :=
  ⟨⟨digitsAt value 0 4, digitsAt value 4 2, digitsAt value 6 2⟩, digitsAt value 8 2,
    digitsAt value 10 2, digitsAt value 12 2⟩

/-- **The times that are accepted**: 14 digits that make up a valid reading with an instant. -/
theorem localTime_eq_ok_iff {zone : Zone} {value : List Char} {t : Int} :
    localTime zone value = .ok t ↔ value.length = 14 ∧ (∀ c ∈ value, c.isDigit = true) ∧
      (readingOf value).Valid ∧ zone.instantOf? (readingOf value).seconds = some t := by
  unfold localTime
  simp only [ite_error_eq_ok_iff, not_or, Decidable.not_not, List.all_eq_true]
  constructor
  · rintro ⟨⟨hlen, hdig⟩, -, -, hhour, hminute, hsecond, hdate, hinstant⟩
    refine ⟨hlen, hdig, ⟨?_, ?_, ?_, ?_⟩, ?_⟩
    · simpa only [readingOf, Bool.not_eq_true', Bool.not_eq_false] using hdate
    · exact Nat.le_of_not_lt hhour
    · exact Nat.le_of_not_lt hminute
    · exact Nat.le_of_not_lt hsecond
    · split at hinstant
      · rename_i instant hfound
        rw [← Except.ok.inj hinstant]
        exact hfound
      · cases hinstant
  · rintro ⟨hlen, hdig, ⟨hdate, hhour, hminute, hsecond⟩, hinstant⟩
    obtain ⟨hm₁, hm₂, hd₁, hd₂⟩ := Date.isValid_iff.1 hdate
    have hd₃ := Nat.le_trans hd₂ (Date.daysInMonth_le _ _)
    simp only [readingOf] at hdate hm₁ hm₂ hd₁ hd₃ hhour hminute hsecond
    refine ⟨⟨hlen, hdig⟩, ⟨?_, ?_⟩, ⟨?_, ?_⟩, ?_, ?_, ?_, ?_, ?_⟩
    · exact Nat.not_lt.2 hm₁
    · exact Nat.not_lt.2 hm₂
    · exact Nat.not_lt.2 hd₁
    · exact Nat.not_lt.2 hd₃
    · exact Nat.not_lt.2 hhour
    · exact Nat.not_lt.2 hminute
    · exact Nat.not_lt.2 hsecond
    · simp [hdate]
    · simp only [readingOf] at hinstant
      rw [hinstant]

/-! ### Writing a reading -/

/-- The number that some digits of a text spell, from the pieces of the text. -/
theorem digitsAt_append (pre post : List Char) (start : Nat) {mid : List Char} {count : Nat}
    (hs : pre.length = start) (hc : mid.length = count) :
    digitsAt (pre ++ (mid ++ post)) start count = Nat.ofDigitChars 10 mid 0 := by
  rw [digitsAt, ← hs, List.drop_left, ← hc, List.take_left]

/-- Fields of 14 digits in all are read back. -/
theorem readingOf_append {y mo d h mi s : List Char} (hy : y.length = 4) (hmo : mo.length = 2)
    (hd : d.length = 2) (hh : h.length = 2) (hmi : mi.length = 2) (hs : s.length = 2) :
    readingOf (y ++ mo ++ d ++ h ++ mi ++ s) =
      ⟨⟨Nat.ofDigitChars 10 y 0, Nat.ofDigitChars 10 mo 0, Nat.ofDigitChars 10 d 0⟩,
        Nat.ofDigitChars 10 h 0, Nat.ofDigitChars 10 mi 0, Nat.ofDigitChars 10 s 0⟩ := by
  have h₁ : digitsAt (y ++ mo ++ d ++ h ++ mi ++ s) 0 4 = Nat.ofDigitChars 10 y 0 := by
    have := digitsAt_append [] (mo ++ d ++ h ++ mi ++ s) 0 rfl hy
    simpa only [List.nil_append, List.append_assoc] using this
  have h₂ : digitsAt (y ++ mo ++ d ++ h ++ mi ++ s) 4 2 = Nat.ofDigitChars 10 mo 0 := by
    have := digitsAt_append y (d ++ h ++ mi ++ s) 4 hy hmo
    simpa only [List.append_assoc] using this
  have h₃ : digitsAt (y ++ mo ++ d ++ h ++ mi ++ s) 6 2 = Nat.ofDigitChars 10 d 0 := by
    have := digitsAt_append (y ++ mo) (h ++ mi ++ s) 6
      (by rw [List.length_append, hy, hmo]) hd
    simpa only [List.append_assoc] using this
  have h₄ : digitsAt (y ++ mo ++ d ++ h ++ mi ++ s) 8 2 = Nat.ofDigitChars 10 h 0 := by
    have := digitsAt_append (y ++ mo ++ d) (mi ++ s) 8
      (by rw [List.length_append, List.length_append, hy, hmo, hd]) hh
    simpa only [List.append_assoc] using this
  have h₅ : digitsAt (y ++ mo ++ d ++ h ++ mi ++ s) 10 2 = Nat.ofDigitChars 10 mi 0 := by
    have := digitsAt_append (y ++ mo ++ d ++ h) s 10
      (by simp only [List.length_append, hy, hmo, hd, hh]) hmi
    simpa only [List.append_assoc] using this
  have h₆ : digitsAt (y ++ mo ++ d ++ h ++ mi ++ s) 12 2 = Nat.ofDigitChars 10 s 0 := by
    have := digitsAt_append (y ++ mo ++ d ++ h ++ mi) [] 12
      (by simp only [List.length_append, hy, hmo, hd, hh, hmi]) hs
    simpa only [List.append_assoc, List.append_nil] using this
  rw [readingOf, h₁, h₂, h₃, h₄, h₅, h₆]

/-- A valid reading of the years 0 to 9999 is written as 14 digits, from which it is read. -/
theorem readingOf_compact {r : Reading} (h : r.Valid) (h₀ : 0 ≤ r.date.year)
    (h₁ : r.date.year ≤ 9999) : r.compact.length = 14 ∧ (∀ c ∈ r.compact, c.isDigit = true) ∧
      readingOf r.compact = r := by
  obtain ⟨⟨year, month, day⟩, hour, minute, second⟩ := r
  obtain ⟨hdate, hhour, hminute, hsecond⟩ := h
  obtain ⟨-, hmonth, -, hday⟩ := Date.isValid_iff.1 hdate
  have hday := Nat.le_trans hday (Date.daysInMonth_le year month)
  simp only at h₀ h₁ hmonth hday hhour hminute hsecond
  have hyear : yearText year = Numeral.padded 4 year.toNat := if_pos ⟨h₀, h₁⟩
  have ly : (Numeral.padded 4 year.toNat).length = 4 :=
    Numeral.length_padded (by decide) (by change _ < 10000; omega)
  have lmo : (Numeral.padded 2 month).length = 2 :=
    Numeral.length_padded (by decide) (by change _ < 100; omega)
  have ld : (Numeral.padded 2 day).length = 2 :=
    Numeral.length_padded (by decide) (by change _ < 100; omega)
  have lh : (Numeral.padded 2 hour).length = 2 :=
    Numeral.length_padded (by decide) (by change _ < 100; omega)
  have lmi : (Numeral.padded 2 minute).length = 2 :=
    Numeral.length_padded (by decide) (by change _ < 100; omega)
  have ls : (Numeral.padded 2 second).length = 2 :=
    Numeral.length_padded (by decide) (by change _ < 100; omega)
  simp only [Reading.compact, hyear]
  refine ⟨?_, fun c hc => ?_, ?_⟩
  · simp only [List.length_append, ly, lmo, ld, lh, lmi, ls]
  · simp only [List.mem_append] at hc
    obtain ((((hc | hc) | hc) | hc) | hc) | hc := hc
    all_goals exact Numeral.isDigit_of_mem_padded hc
  · rw [readingOf_append ly lmo ld lh lmi ls]
    simp only [Numeral.ofDigitChars_padded, Int.toNat_of_nonneg h₀]

/-- A reading that 14 digits make up is of the years 0 to 9999. -/
theorem year_readingOf_bounds {value : List Char} (hlen : value.length = 14)
    (hdig : ∀ c ∈ value, c.isDigit = true) :
    0 ≤ (readingOf value).date.year ∧ (readingOf value).date.year ≤ 9999 := by
  have hd : ∀ c ∈ (value.drop 0).take 4, c.isDigit = true := fun c hc =>
    hdig c (List.mem_of_mem_drop (List.mem_of_mem_take hc))
  have hl : ((value.drop 0).take 4).length = 4 := by
    rw [List.length_take, List.length_drop]
    omega
  have hlt : digitsAt value 0 4 < Nat.pow 10 ((value.drop 0).take 4).length * (0 + 1) :=
    Numeral.ofDigitChars_lt hd 0
  rw [hl] at hlt
  exact ⟨Int.natCast_nonneg _, Int.ofNat_le.2 (Nat.le_of_lt_succ hlt)⟩

/-- **An accepted time is written as a time that is accepted for the same instant.** -/
theorem localTime_compact {zone : Zone} {value : List Char} {t : Int}
    (h : localTime zone value = .ok t) : ∃ r, localReading? zone t = some r ∧
      (∀ c ∈ r.compact, c.isDigit = true) ∧ localTime zone r.compact = .ok t := by
  obtain ⟨hlen, hdig, hvalid, hinstant⟩ := localTime_eq_ok_iff.1 h
  obtain ⟨hback, hyear⟩ := Zone.instantOf?_readingAt hinstant
  -- The year of the reading has four digits, and the year shown is the same.
  have hsame := Reading.yearOf_seconds hvalid
  obtain ⟨h₀, h₁⟩ := year_readingOf_bounds hlen hdig
  rw [← hsame] at h₀ h₁
  have hrep := isRepresentable_of_year hinstant h₀ h₁
  have hshown : (Reading.ofSeconds (zone.readingAt t)).date.year =
      Zone.yearOf (readingOf value).seconds := hyear
  obtain ⟨hl, hd, hr⟩ := readingOf_compact (Reading.valid_ofSeconds (zone.readingAt t))
    (by rw [hshown]; exact h₀) (by rw [hshown]; exact h₁)
  refine ⟨_, if_pos hrep, hd, localTime_eq_ok_iff.2 ⟨hl, hd, ?_, ?_⟩⟩
  · rw [hr]
    exact Reading.valid_ofSeconds _
  · rw [hr, Reading.seconds_ofSeconds]
    exact hback

end Filter

end LogCollector
