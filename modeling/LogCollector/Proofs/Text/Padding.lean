import LogCollector.Proofs.Text.Pieces
import Mathlib.Data.List.TakeWhile

/-!
# Blanks around texts

How blanks that are added to a text change what trimming makes of it: not at all at its ends
(`trim_padded`), and next to a character that is no blank they are taken from the part on their
side only (`trim_append_cons`). A text is its trimmed form between blanks (`exists_padded`).
-/

namespace LogCollector.Text

variable {a b cs p q : List Char} {c : Char}

/-! ### Blanks at the ends -/

theorem trimStart_append (h : allBlank a = true) (cs : List Char) :
    trimStart (a ++ cs) = trimStart cs :=
  List.dropWhile_append_of_pos (List.all_eq_true.1 h)

theorem trimEnd_append (h : allBlank b = true) (cs : List Char) :
    trimEnd (cs ++ b) = trimEnd cs := by
  have hr : allBlank b.reverse = true := by rwa [allBlank, List.all_reverse]
  show (trimStart (cs ++ b).reverse).reverse = (trimStart cs.reverse).reverse
  rw [List.reverse_append, trimStart_append hr]

/-- A character that is no blank protects what is behind it. -/
theorem trimStart_append_cons (hc : isBlank c = false) (p q : List Char) :
    trimStart (p ++ c :: q) = trimStart p ++ c :: q := by
  induction p with
  | nil =>
    exact List.dropWhile_cons_of_neg (by rw [hc]; exact Bool.false_ne_true)
  | cons d p ih =>
    by_cases hd : isBlank d = true
    · rw [List.cons_append, trimStart, trimStart, List.dropWhile_cons_of_pos hd,
        List.dropWhile_cons_of_pos hd]
      exact ih
    · rw [List.cons_append, trimStart, trimStart, List.dropWhile_cons_of_neg hd,
        List.dropWhile_cons_of_neg hd, List.cons_append]

/-- A character that is no blank protects what is in front of it. -/
theorem trimEnd_append_cons (hc : isBlank c = false) (p q : List Char) :
    trimEnd (p ++ c :: q) = p ++ c :: trimEnd q := by
  have hr : (p ++ c :: q).reverse = q.reverse ++ c :: p.reverse := by simp
  show (trimStart (p ++ c :: q).reverse).reverse = p ++ c :: (trimStart q.reverse).reverse
  rw [hr, trimStart_append_cons hc]
  simp

/-- Around a character that is no blank, trimming is done on either side. -/
theorem trim_append_cons (hc : isBlank c = false) (p q : List Char) :
    trim (p ++ c :: q) = trimStart p ++ c :: trimEnd q := by
  rw [trim, trimStart_append_cons hc, trimEnd_append_cons hc]

/-! ### Blank texts -/

theorem allBlank_append : allBlank (p ++ q) = true ↔ allBlank p = true ∧ allBlank q = true := by
  rw [allBlank, List.all_append, Bool.and_eq_true, allBlank, allBlank]

theorem trimStart_of_allBlank (h : allBlank cs = true) : trimStart cs = [] :=
  List.dropWhile_eq_nil_iff.2 (List.all_eq_true.1 h)

theorem not_mem_of_allBlank (h : allBlank cs = true) (hc : isBlank c = false) : c ∉ cs := by
  intro hmem
  rw [List.all_eq_true.1 h c hmem] at hc
  cases hc

/-- In a text that is not blank there is a character to trim up to. -/
theorem exists_of_not_allBlank (h : allBlank cs = false) :
    ∃ p c q, cs = p ++ c :: q ∧ isBlank c = false := by
  obtain ⟨c, hc, hblank⟩ := List.all_eq_false.1 h
  obtain ⟨p, q, rfl⟩ := List.append_of_mem hc
  exact ⟨p, c, q, rfl, by simpa using hblank⟩

/-- Only of blanks nothing is left. -/
theorem trim_eq_nil_iff : trim cs = [] ↔ allBlank cs = true := by
  cases h : allBlank cs with
  | true => simp [trim, trimStart_of_allBlank h, trimEnd]
  | false =>
    obtain ⟨p, c, q, rfl, hc⟩ := exists_of_not_allBlank h
    simp [trim_append_cons hc]

/-! ### Padded texts -/

/-- **Blanks around a text** are trimmed away with its own. -/
theorem trim_padded (ha : allBlank a = true) (hb : allBlank b = true) (cs : List Char) :
    trim (a ++ cs ++ b) = trim cs := by
  cases h : allBlank cs with
  | true =>
    rw [trim_eq_nil_iff.2 h, trim_eq_nil_iff, allBlank_append, allBlank_append]
    exact ⟨⟨ha, h⟩, hb⟩
  | false =>
    obtain ⟨p, c, q, rfl, hc⟩ := exists_of_not_allBlank h
    rw [← List.append_assoc, List.append_assoc _ (c :: q), List.cons_append, trim_append_cons hc,
      trim_append_cons hc, trimStart_append ha, trimEnd_append hb]

theorem trim_append_left (ha : allBlank a = true) (cs : List Char) : trim (a ++ cs) = trim cs := by
  simpa using trim_padded (b := []) ha rfl cs

theorem trim_append_right (hb : allBlank b = true) (cs : List Char) : trim (cs ++ b) = trim cs :=
  trim_padded (a := []) rfl hb cs

theorem mem_trim_iff (hc : isBlank c = false) : c ∈ trim cs ↔ c ∈ cs :=
  ⟨mem_of_mem_trim, mem_trim_of_mem hc⟩

/-- What is trimmed at the start are blanks. -/
theorem exists_trimStart (cs : List Char) : ∃ a, allBlank a = true ∧ cs = a ++ trimStart cs :=
  ⟨cs.takeWhile isBlank, List.all_eq_true.2 fun _ hc => List.mem_takeWhile_imp hc,
    List.takeWhile_append_dropWhile.symm⟩

/-- What is trimmed at the end are blanks. -/
theorem exists_trimEnd (cs : List Char) : ∃ b, allBlank b = true ∧ cs = trimEnd cs ++ b := by
  obtain ⟨b, hb, h⟩ := exists_trimStart cs.reverse
  refine ⟨b.reverse, by rwa [allBlank, List.all_reverse], ?_⟩
  rw [← List.reverse_inj, List.reverse_append, List.reverse_reverse]
  exact h.trans (congrArg (b ++ ·) (List.reverse_reverse _).symm)

/-- A text is its trimmed form between blanks. -/
theorem exists_padded (cs : List Char) :
    ∃ a b, allBlank a = true ∧ allBlank b = true ∧ cs = a ++ trim cs ++ b := by
  obtain ⟨a, ha, hfront⟩ := exists_trimStart cs
  obtain ⟨b, hb, hback⟩ := exists_trimEnd (trimStart cs)
  refine ⟨a, b, ha, hb, ?_⟩
  rw [List.append_assoc, trim, ← hback]
  exact hfront

/-- Around a character that is no blank a trimmed text is, blanks apart, what it was. -/
theorem exists_trim_append_cons (hc : isBlank c = false) (p q : List Char) :
    ∃ p' q', trim (p ++ c :: q) = p' ++ c :: q' ∧ trim p' = trim p ∧ trim q' = trim q := by
  obtain ⟨a, ha, hp⟩ := exists_trimStart p
  obtain ⟨b, hb, hq⟩ := exists_trimEnd q
  refine ⟨_, _, trim_append_cons hc p q, ?_, ?_⟩
  · rw [← trim_append_left ha, ← hp]
  · rw [← trim_append_right hb, ← hq]

@[simp] theorem trim_trim (cs : List Char) : trim (trim cs) = trim cs := (trimmed_trim cs).trim_eq

end LogCollector.Text
