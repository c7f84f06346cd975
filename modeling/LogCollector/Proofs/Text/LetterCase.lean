import LogCollector.Text.Blank
import LogCollector.Text.Lowercase
import Mathlib.Logic.Basic

/-!
# Letter case

Texts that differ in the case of Latin letters only are the same in lower case (`lower_congr`).
This holds next to a sigma too: the form of a sigma at the end of a word depends on which
characters are letters and not on their case.
-/

namespace LogCollector.Text

namespace Lowercase

variable {c d : Char}

/-! ### Characters -/

/-- A letter of the basic Latin alphabet. -/
def IsLatin (c : Char) : Prop := 65 ≤ c.toNat ∧ c.toNat ≤ 90 ∨ 97 ≤ c.toNat ∧ c.toNat ≤ 122

instance : DecidablePred IsLatin := fun _ => inferInstanceAs (Decidable (_ ∨ _))

/-- Only capital letters of this alphabet are changed. -/
theorem toNat_toLower (c : Char) :
    c.toLower.toNat = if 65 ≤ c.toNat ∧ c.toNat ≤ 90 then c.toNat + 32 else c.toNat := by
  have hcapital : (c.val ≥ 'A'.val ∧ c.val ≤ 'Z'.val) ↔ 65 ≤ c.toNat ∧ c.toNat ≤ 90 := Iff.rfl
  by_cases h : c.val ≥ 'A'.val ∧ c.val ≤ 'Z'.val
  · have hlower : c.toLower.val = c.val + ('a'.val - 'A'.val) := congrArg Char.val (dif_pos h)
    rw [if_pos (hcapital.1 h)]
    show c.toLower.val.toNat = c.toNat + 32
    have hbound := (hcapital.1 h).2
    rw [hlower, UInt32.toNat_add, Nat.mod_eq_of_lt]
    · rfl
    · show c.toNat + 32 < 2 ^ 32
      omega
  · have hlower : c.toLower = c := dif_neg h
    rw [if_neg fun hc => h (hcapital.2 hc), hlower]

/-- Two characters with the same lower case are the same or letters. -/
theorem eq_or_isLatin (h : c.toLower = d.toLower) : c = d ∨ IsLatin c ∧ IsLatin d := by
  have hnat := congrArg Char.toNat h
  rw [toNat_toLower, toNat_toLower] at hnat
  by_cases heq : c.toNat = d.toNat
  · exact .inl (Char.ext (UInt32.toNat_inj.1 heq))
  · refine .inr ?_
    unfold IsLatin
    split at hnat <;> split at hnat <;> omega

/-- A letter has case. -/
theorem ranges_of_isLatin (h : IsLatin c) :
    inRanges casedRanges c.toNat = true ∧ inRanges ignorableRanges c.toNat = false := by
  have hall : ∀ n < 123, 65 ≤ n ∧ n ≤ 90 ∨ 97 ≤ n ∧ n ≤ 122 →
      inRanges casedRanges n = true ∧ inRanges ignorableRanges n = false := by decide +kernel
  exact hall _ (by unfold IsLatin at h; omega) h

theorem ofChar_of_isLatin (h : IsLatin c) : ofChar c = [c.toLower] := by
  rw [ofChar, if_pos (by unfold IsLatin at h; omega)]

theorem ne_sigma_of_isLatin (h : IsLatin c) : c ≠ 'Σ' := by
  rintro rfl
  have hnat : ('Σ' : Char).toNat = 931 := rfl
  unfold IsLatin at h
  omega

theorem isBlank_eq_false_of_isLatin (h : IsLatin c) : isBlank c = false := by
  rw [Bool.eq_false_iff]
  intro hblank
  simp only [isBlank, Bool.or_eq_true, Bool.and_eq_true, decide_eq_true_eq, beq_iff_eq] at hblank
  unfold IsLatin at h
  omega

/-- Lower case changes letters into letters and nothing else. -/
theorem toLower_cases (c : Char) : c.toLower = c ∨ IsLatin c ∧ IsLatin c.toLower := by
  have hnat := toNat_toLower c
  by_cases h : 65 ≤ c.toNat ∧ c.toNat ≤ 90
  · rw [if_pos h] at hnat
    unfold IsLatin
    omega
  · rw [if_neg h] at hnat
    exact .inl (Char.ext (UInt32.toNat_inj.1 hnat))

theorem isBlank_toLower (c : Char) : isBlank c.toLower = isBlank c := by
  obtain h | ⟨h, h'⟩ := toLower_cases c
  · rw [h]
  · rw [isBlank_eq_false_of_isLatin h, isBlank_eq_false_of_isLatin h']

/-- A character that is no letter is the lower case of itself only. -/
theorem toLower_eq_iff (hd : ¬ IsLatin d) : c.toLower = d ↔ c = d := by
  obtain h | ⟨h, h'⟩ := toLower_cases c
  · rw [h]
  · exact iff_of_false (fun he => hd (he ▸ h')) fun he => hd (he ▸ h)

/-! ### Texts -/

/-- Whether a letter with case comes next does not depend on the case of Latin letters. -/
theorem nextIsCased_congr {cs ds : List Char} (h : cs.map Char.toLower = ds.map Char.toLower) :
    nextIsCased cs = nextIsCased ds := by
  induction cs generalizing ds with
  | nil => rw [List.map_eq_nil_iff.1 h.symm]
  | cons c cs ih =>
    obtain ⟨d, ds, rfl, hd, hds⟩ := List.map_eq_cons_iff.1 h.symm
    have hrest := ih hds.symm
    obtain rfl | ⟨hlatin, hlatin'⟩ := eq_or_isLatin hd.symm
    · simp only [nextIsCased, List.find?_cons] at hrest ⊢
      cases hc : inRanges ignorableRanges c.toNat with
      | false => rfl
      | true => exact hrest
    · obtain ⟨hcased, hignorable⟩ := ranges_of_isLatin hlatin
      obtain ⟨hcased', hignorable'⟩ := ranges_of_isLatin hlatin'
      simp only [nextIsCased, List.find?_cons, hignorable, hignorable', Bool.not_false, hcased,
        hcased']

theorem lowerAfter_congr {before before' cs ds : List Char}
    (hbefore : before.map Char.toLower = before'.map Char.toLower)
    (h : cs.map Char.toLower = ds.map Char.toLower) :
    lowerAfter before cs = lowerAfter before' ds := by
  induction cs generalizing before before' ds with
  | nil => rw [List.map_eq_nil_iff.1 h.symm, lowerAfter, lowerAfter]
  | cons c cs ih =>
    obtain ⟨d, ds, rfl, hd, hds⟩ := List.map_eq_cons_iff.1 h.symm
    have hfirst : (if c = 'Σ' then [sigma before cs] else ofChar c) =
        if d = 'Σ' then [sigma before' ds] else ofChar d := by
      obtain rfl | ⟨hlatin, hlatin'⟩ := eq_or_isLatin hd.symm
      · rw [sigma, sigma, nextIsCased_congr hbefore, nextIsCased_congr hds.symm]
      · rw [if_neg (ne_sigma_of_isLatin hlatin), if_neg (ne_sigma_of_isLatin hlatin'),
          ofChar_of_isLatin hlatin, ofChar_of_isLatin hlatin', hd]
    have hread : (c :: before).map Char.toLower = (d :: before').map Char.toLower := by
      rw [List.map_cons, List.map_cons, hbefore, hd]
    rw [lowerAfter, lowerAfter, hfirst, ih hread hds.symm]

end Lowercase

/-- **Texts that differ in the case of Latin letters only** are the same in lower case. -/
theorem lower_congr {cs ds : List Char} (h : cs.map Char.toLower = ds.map Char.toLower) :
    lower cs = lower ds :=
  Lowercase.lowerAfter_congr rfl h

end LogCollector.Text
