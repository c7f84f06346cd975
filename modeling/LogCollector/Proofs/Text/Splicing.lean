import LogCollector.Proofs.Text.Pieces

/-!
# Changes within a piece

When a text is cut into pieces, what is put between two of its characters changes one piece only
(`splitOn_around`), and texts joined by the separator are cut one by one (`splitOn_join_flatMap`).
-/

namespace LogCollector.Text

variable {sep : Char} {l r m x y : List Char} {before after : List (List Char)}

/-- A text is cut at each separator in it. -/
theorem splitOn_append_cons (p cs : List Char) :
    splitOn sep (p ++ sep :: cs) = splitOn sep p ++ splitOn sep cs := by
  induction p with
  | nil => simp [splitOn]
  | cons c p ih =>
    rw [List.cons_append, splitOn, splitOn, ih]
    split
    · rfl
    · cases hp : splitOn sep p with
      | nil => exact absurd hp (splitOn_ne_nil sep p)
      | cons q qs => rfl

/-- There is a last piece. -/
theorem exists_last_piece (sep : Char) (cs : List Char) :
    ∃ before l, splitOn sep cs = before ++ [l] := by
  obtain h | ⟨before, l, h⟩ := (splitOn sep cs).eq_nil_or_concat
  · exact absurd h (splitOn_ne_nil sep cs)
  · exact ⟨before, l, h.trans (List.concat_eq_append ..)⟩

/-- **Joined texts** are cut one by one. -/
theorem splitOn_join_flatMap {ps : List (List Char)} (h : ps ≠ []) :
    splitOn sep (join [sep] ps) = ps.flatMap (splitOn sep) := by
  induction ps with
  | nil => exact absurd rfl h
  | cons p ps ih =>
    cases ps with
    | nil => simp [join]
    | cons q qs =>
      rw [join, List.append_assoc, List.singleton_append, splitOn_append_cons,
        ih (List.cons_ne_nil q qs), List.flatMap_cons (x := p)]

/-- What is put in front of a text belongs to its first piece. -/
theorem splitOn_append_left (hm : sep ∉ m) (hy : splitOn sep y = r :: after) :
    splitOn sep (m ++ y) = (m ++ r) :: after := by
  induction m with
  | nil => exact hy
  | cons c m ih =>
    rw [List.mem_cons, not_or] at hm
    rw [List.cons_append, splitOn, if_neg fun he => hm.1 he.symm, ih hm.2]
    rfl

/-- **What is put between two texts** belongs to the last piece of the first one and to the first
piece of the second one. -/
theorem splitOn_around (hx : splitOn sep x = before ++ [l]) (hm : sep ∉ m)
    (hy : splitOn sep y = r :: after) :
    splitOn sep (x ++ m ++ y) = before ++ (l ++ m ++ r) :: after := by
  induction x generalizing before l with
  | nil =>
    cases before with
    | nil =>
      obtain ⟨rfl, -⟩ := List.cons.inj hx
      exact splitOn_append_left hm hy
    | cons p before => simp [splitOn] at hx
  | cons c x ih =>
    rw [splitOn] at hx
    rw [List.cons_append, List.cons_append, splitOn]
    split at hx
    · rename_i hc
      cases before with
      | nil => exact absurd (List.cons.inj hx).2 (splitOn_ne_nil sep x)
      | cons p before =>
        obtain ⟨rfl, hrest⟩ := List.cons.inj hx
        rw [if_pos hc, ih hrest]
        rfl
    · rename_i hc
      rw [if_neg hc]
      cases hsplit : splitOn sep x with
      | nil => exact absurd hsplit (splitOn_ne_nil sep x)
      | cons q qs =>
        rw [hsplit] at hx
        cases before with
        | nil =>
          obtain ⟨rfl, rfl⟩ := List.cons.inj hx
          have hall := @ih _ [] hsplit
          rw [hall]
          rfl
        | cons p before =>
          obtain ⟨rfl, rfl⟩ := List.cons.inj hx
          have hall := @ih _ (q :: before) hsplit
          rw [hall]
          rfl

/-- Behind the first of two separators there is another one. -/
theorem cut?_of_mem (h : sep ∈ x) (y : List Char) :
    ∃ p q, cut? sep (x ++ sep :: y) = some (p, q) ∧ sep ∈ q := by
  cases hcut : cut? sep x with
  | none => exact absurd h (cut?_eq_none_iff.1 hcut)
  | some parts =>
    obtain ⟨p, q⟩ := parts
    obtain ⟨rfl, hp⟩ := cut?_eq_some_iff.1 hcut
    refine ⟨p, q ++ sep :: y, ?_, by simp⟩
    rw [List.append_assoc, List.cons_append]
    exact cut?_append hp _

/-- What stands around one of the joined texts. -/
theorem exists_join_around (sep : Char) (before after : List (List Char)) :
    ∃ x y, (∀ m, join [sep] (before ++ m :: after) = x ++ m ++ y) ∧
      (x ++ y = [] ∨ sep ∈ x ++ y) := by
  induction before with
  | nil =>
    cases after with
    | nil => exact ⟨[], [], fun m => by simp [join], .inl rfl⟩
    | cons q qs =>
      exact ⟨[], sep :: join [sep] (q :: qs), fun m => by simp [join], .inr (by simp)⟩
  | cons p before ih =>
    obtain ⟨x, y, hjoin, -⟩ := ih
    refine ⟨p ++ sep :: x, y, fun m => ?_, .inr (by simp)⟩
    have hne : before ++ m :: after ≠ [] :=
      List.append_ne_nil_of_right_ne_nil _ (List.cons_ne_nil m after)
    obtain ⟨q, qs, hqs⟩ := List.exists_cons_of_ne_nil hne
    rw [List.cons_append, hqs, join, ← hqs, hjoin]
    simp

end LogCollector.Text
