import LogCollector.Text.Blank
import LogCollector.Text.Split

/-!
# Joining and cutting again

The laws of `Text.join` against `Text.splitOn` and `Text.cut?`: pieces without the separator,
joined, are cut into the same pieces again, and what stands before the first separator is what
is cut off. Beside them, the laws of trimming: a text whose ends are no blanks (`Trimmed`) is
left as it is, and a trimmed text has such ends.
-/

namespace LogCollector.Text

/-! ### Cutting -/

/-- A text without the separator is one piece. -/
theorem splitOn_of_not_mem {sep : Char} {cs : List Char} (h : sep ∉ cs) :
    splitOn sep cs = [cs] := by
  induction cs with
  | nil => rfl
  | cons c cs ih =>
    rw [List.mem_cons, not_or] at h
    rw [splitOn, if_neg fun he => h.1 he.symm, ih h.2]

/-- The text before the first separator is the first piece. -/
theorem splitOn_append {sep : Char} {p : List Char} (h : sep ∉ p) (cs : List Char) :
    splitOn sep (p ++ sep :: cs) = p :: splitOn sep cs := by
  induction p with
  | nil => simp [splitOn]
  | cons c p ih =>
    rw [List.mem_cons, not_or] at h
    rw [List.cons_append, splitOn, if_neg fun he => h.1 he.symm, ih h.2]

/-- Pieces without the separator, joined, are cut into these pieces again. -/
theorem splitOn_join {sep : Char} {ps : List (List Char)} (hne : ps ≠ [])
    (h : ∀ p ∈ ps, sep ∉ p) : splitOn sep (join [sep] ps) = ps := by
  induction ps with
  | nil => exact absurd rfl hne
  | cons p ps ih =>
    have hp : sep ∉ p := h p (by simp)
    cases ps with
    | nil => exact splitOn_of_not_mem hp
    | cons q qs =>
      have hq : ∀ r ∈ q :: qs, sep ∉ r := fun r hr => h r (List.mem_cons_of_mem p hr)
      rw [join, List.append_assoc, List.singleton_append, splitOn_append hp,
        ih (List.cons_ne_nil q qs) hq]

/-- No piece holds the separator, and every piece is made of characters of the text. -/
theorem splitOn_pieces {sep : Char} {cs p : List Char} (h : p ∈ splitOn sep cs) :
    sep ∉ p ∧ ∀ c ∈ p, c ∈ cs := by
  induction cs generalizing p with
  | nil =>
    simp only [splitOn, List.mem_singleton] at h
    subst h
    simp
  | cons d ds ih =>
    rw [splitOn] at h
    split at h
    · cases h with
      | head => simp
      | tail _ h => exact ⟨(ih h).1, fun c hc => List.mem_cons_of_mem d ((ih h).2 c hc)⟩
    · rename_i hd
      split at h
      · rename_i hs
        exact absurd hs (splitOn_ne_nil sep ds)
      · rename_i q qs hs
        have hq := ih (p := q) (by rw [hs]; simp)
        cases h with
        | head =>
          refine ⟨?_, ?_⟩
          · rw [List.mem_cons, not_or]
            exact ⟨fun he => hd he.symm, hq.1⟩
          · intro c hc
            cases hc with
            | head => simp
            | tail _ hc => exact List.mem_cons_of_mem d (hq.2 c hc)
        | tail _ h =>
          have hp := ih (p := p) (by rw [hs]; exact List.mem_cons_of_mem q h)
          exact ⟨hp.1, fun c hc => List.mem_cons_of_mem d (hp.2 c hc)⟩

/-- A text is cut at the first separator. -/
theorem cut?_append {sep : Char} {p : List Char} (h : sep ∉ p) (cs : List Char) :
    cut? sep (p ++ sep :: cs) = some (p, cs) := by
  induction p with
  | nil => simp [cut?]
  | cons c p ih =>
    rw [List.mem_cons, not_or] at h
    rw [List.cons_append, cut?, if_neg fun he => h.1 he.symm, ih h.2]
    rfl

/-- There is no separator before the first one. -/
theorem not_mem_of_cut? {sep : Char} {cs before after : List Char}
    (h : cut? sep cs = some (before, after)) : sep ∉ before := by
  induction cs generalizing before with
  | nil => simp [cut?] at h
  | cons c cs ih =>
    rw [cut?] at h
    split at h
    · obtain ⟨rfl, -⟩ := Prod.mk.inj (Option.some.inj h)
      simp
    · rename_i hc
      obtain ⟨⟨b, a⟩, hb, he⟩ := Option.map_eq_some_iff.1 h
      obtain ⟨rfl, rfl⟩ := Prod.mk.inj he
      rw [List.mem_cons, not_or]
      exact ⟨fun hs => hc hs.symm, ih hb⟩

/-- **The ways to cut a text**: one for each text with the separator in it. -/
theorem cut?_eq_some_iff {sep : Char} {cs before after : List Char} :
    cut? sep cs = some (before, after) ↔ cs = before ++ sep :: after ∧ sep ∉ before := by
  constructor
  · intro h
    exact ⟨eq_of_cut? h, not_mem_of_cut? h⟩
  · rintro ⟨rfl, hb⟩
    exact cut?_append hb after

/-- A character of a joined text comes from a piece or from the separator. -/
theorem mem_join {sep : List Char} {ps : List (List Char)} {c : Char} (h : c ∈ join sep ps) :
    c ∈ sep ∨ ∃ p ∈ ps, c ∈ p := by
  induction ps with
  | nil => simp [join] at h
  | cons p ps ih =>
    cases ps with
    | nil => exact .inr ⟨p, by simp, h⟩
    | cons q qs =>
      rw [join, List.append_assoc, List.mem_append, List.mem_append] at h
      obtain h | h | h := h
      · exact .inr ⟨p, by simp, h⟩
      · exact .inl h
      · obtain h | ⟨r, hr, h⟩ := ih h
        · exact .inl h
        · exact .inr ⟨r, List.mem_cons_of_mem p hr, h⟩

/-- Joining pieces is writing the separator between them. -/
theorem join_eq_intercalate (sep : List Char) (ps : List (List Char)) :
    join sep ps = sep.intercalate ps := by
  induction ps with
  | nil => simp [join]
  | cons p ps ih =>
    cases ps with
    | nil => simp [join]
    | cons q qs => rw [join, ih]; simp [List.intercalate, List.intersperse]

/-- The characters of joined strings. -/
theorem toList_intercalate (sep : String) (ss : List String) :
    (sep.intercalate ss).toList = join sep.toList (ss.map String.toList) := by
  rw [String.toList_intercalate, join_eq_intercalate]

/-! ### Trimming -/

/-- Neither end of the text is a blank. -/
def Trimmed (cs : List Char) : Prop :=
  (∀ c, cs.head? = some c → isBlank c = false) ∧ ∀ c, cs.getLast? = some c → isBlank c = false

/-- A text without blanks is trimmed. -/
theorem Trimmed.of_forall {cs : List Char} (h : ∀ c ∈ cs, isBlank c = false) : Trimmed cs :=
  ⟨fun c hc => h c (List.mem_of_mem_head? hc), fun c hc => h c (List.mem_of_getLast? hc)⟩

theorem trimStart_of_head? {cs : List Char} (h : ∀ c, cs.head? = some c → isBlank c = false) :
    trimStart cs = cs := by
  cases cs with
  | nil => rfl
  | cons c cs =>
    rw [trimStart, List.dropWhile_cons_of_neg (by rw [h c rfl]; exact Bool.false_ne_true)]

/-- Trimming the end leaves a trimmed text as it is. -/
theorem Trimmed.trimEnd_eq {cs : List Char} (h : Trimmed cs) : trimEnd cs = cs := by
  have hr : trimStart cs.reverse = cs.reverse :=
    trimStart_of_head? fun c hc => h.2 c (by rwa [List.head?_reverse] at hc)
  show (trimStart cs.reverse).reverse = cs
  rw [hr, List.reverse_reverse]

/-- Trimming leaves a trimmed text as it is. -/
theorem Trimmed.trim_eq {cs : List Char} (h : Trimmed cs) : trim cs = cs := by
  rw [trim, trimStart_of_head? h.1, h.trimEnd_eq]

/-- A trimmed text is trimmed. -/
theorem trimmed_trim (cs : List Char) : Trimmed (trim cs) := by
  refine ⟨fun c hc => ?_, fun c hc => ?_⟩
  · -- Trimming the end leaves a beginning of the text, so the first character is the same.
    have hp : trim cs <+: trimStart cs := by
      rw [trim, trimEnd, ← List.reverse_suffix, List.reverse_reverse]
      exact List.dropWhile_suffix isBlank
    obtain ⟨rest, hrest⟩ := hp
    have hs : (trimStart cs).head? = some c := by
      rw [← hrest, List.head?_append, hc, Option.some_or]
    exact head_trimStart hs
  · rw [trim, trimEnd, List.getLast?_reverse] at hc
    have hhead : (trimStart (trimStart cs).reverse).head? = some c := hc
    exact head_trimStart hhead

/-- A text that begins and ends with trimmed texts is trimmed. -/
theorem Trimmed.append {p q : List Char} (hp : Trimmed p) (hq : Trimmed q) (hp₀ : p ≠ [])
    (hq₀ : q ≠ []) (between : List Char) : Trimmed (p ++ between ++ q) := by
  obtain ⟨c, cs, rfl⟩ := List.exists_cons_of_ne_nil hp₀
  refine ⟨fun d hd => hp.1 d hd, fun d hd => hq.2 d ?_⟩
  obtain ⟨e, he⟩ := Option.isSome_iff_exists.1 (List.getLast?_isSome.2 hq₀)
  rw [List.getLast?_append, he, Option.some_or] at hd
  rw [he, hd]

/-- Trimmed texts, joined, are trimmed. -/
theorem Trimmed.join {ps : List (List Char)} (h : ∀ p ∈ ps, p ≠ [] ∧ Trimmed p)
    (sep : List Char) : Trimmed (join sep ps) := by
  induction ps with
  | nil => exact .of_forall fun c hc => absurd hc (by simp [Text.join])
  | cons p ps ih =>
    have hp := h p (by simp)
    have hps : ∀ q ∈ ps, q ≠ [] ∧ Trimmed q := fun q hq => h q (List.mem_cons_of_mem p hq)
    cases ps with
    | nil => exact hp.2
    | cons q qs =>
      have hne : Text.join sep (q :: qs) ≠ [] := by
        cases qs with
        | nil => exact (hps q (by simp)).1
        | cons r rs =>
          rw [Text.join, List.append_assoc]
          exact List.append_ne_nil_of_left_ne_nil (hps q (by simp)).1 _
      exact hp.2.append (ih hps) hp.1 hne sep

/-- Trimming adds no character. -/
theorem mem_of_mem_trim {cs : List Char} {c : Char} (h : c ∈ trim cs) : c ∈ cs := by
  rw [trim, trimEnd, List.mem_reverse] at h
  have h := (List.dropWhile_suffix isBlank).subset h
  rw [List.mem_reverse] at h
  exact (List.dropWhile_suffix isBlank).subset h

/-- A character that is no blank is not trimmed away. -/
theorem mem_trim_of_mem {cs : List Char} {c : Char} (hc : isBlank c = false) (h : c ∈ cs) :
    c ∈ trim cs := by
  have hstart : ∀ {ds : List Char}, c ∈ ds → c ∈ ds.dropWhile isBlank := by
    intro ds hd
    induction ds with
    | nil => exact hd
    | cons d ds ih =>
      by_cases hblank : isBlank d = true
      · rw [List.dropWhile_cons_of_pos hblank]
        rcases List.mem_cons.1 hd with rfl | hd
        · rw [hc] at hblank
          exact Bool.noConfusion hblank
        · exact ih hd
      · rw [List.dropWhile_cons_of_neg hblank]
        exact hd
  rw [trim, trimEnd, List.mem_reverse]
  exact hstart (List.mem_reverse.2 (hstart h))

end LogCollector.Text
