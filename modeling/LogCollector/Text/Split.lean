/-!
# Cutting a text into pieces

A text is cut at every occurrence of a character (`splitOn`), at the first one (`cut?`), or
at the first occurrence of a word (`cutAt?`). The statements say that no character is lost:
the pieces, joined again, give the text back.
-/

namespace LogCollector.Text

/-- The pieces between the occurrences of `sep`; one more than there are occurrences. -/
def splitOn (sep : Char) : List Char → List (List Char)
  | [] => [[]]
  | c :: cs =>
    if c = sep then [] :: splitOn sep cs
    else match splitOn sep cs with
      | [] => [[c]]
      | p :: ps => (c :: p) :: ps

/-- The text before the first `sep` and the text after it. -/
def cut? (sep : Char) : List Char → Option (List Char × List Char)
  | [] => none
  | c :: cs =>
    if c = sep then some ([], cs)
    else (cut? sep cs).map fun (before, after) => (c :: before, after)

/-- What follows `word` at the start of a text. -/
def strip? : List Char → List Char → Option (List Char)
  | [], cs => some cs
  | _ :: _, [] => none
  | w :: ws, c :: cs => if w = c then strip? ws cs else none

/-- The text before the first occurrence of `word` and the text after it. -/
def cutAt? (word : List Char) : List Char → Option (List Char × List Char)
  | [] => (strip? word []).map fun after => ([], after)
  | c :: cs =>
    match strip? word (c :: cs) with
    | some after => some ([], after)
    | none => (cutAt? word cs).map fun (before, after) => (c :: before, after)

/-- Whether `word` occurs in a text. -/
def contains (word cs : List Char) : Bool := (cutAt? word cs).isSome

/-- The pieces of a text, with `sep` written between each two. -/
def join (sep : List Char) : List (List Char) → List Char
  | [] => []
  | [p] => p
  | p :: q :: ps => p ++ sep ++ join sep (q :: ps)

/-- The lines of a text: cut at each line feed, a carriage return before it left out, and no
last line when the text ends with a line feed. -/
def lines (cs : List Char) : List (List Char) :=
  let pieces := splitOn '\n' cs
  let whole := if pieces.getLast? == some [] then pieces.dropLast else pieces
  whole.map fun l => if l.getLast? == some '\r' then l.dropLast else l

theorem splitOn_ne_nil (sep : Char) (cs : List Char) : splitOn sep cs ≠ [] := by
  induction cs with
  | nil => simp [splitOn]
  | cons c cs ih =>
    rw [splitOn]
    split
    · simp
    · split <;> simp

/-- Cutting at every `sep` loses nothing. -/
theorem join_splitOn (sep : Char) (cs : List Char) : join [sep] (splitOn sep cs) = cs := by
  induction cs with
  | nil => rfl
  | cons c cs ih =>
    rw [splitOn]
    split
    · rename_i h
      subst h
      match hs : splitOn c cs with
      | [] => exact absurd hs (splitOn_ne_nil c cs)
      | p :: ps => simp only [join, List.nil_append]; rw [← hs, ih]; rfl
    · match hs : splitOn sep cs with
      | [] => exact absurd hs (splitOn_ne_nil sep cs)
      | [p] => rw [hs] at ih; simp only [join] at ih ⊢; rw [ih]
      | p :: q :: ps =>
        rw [hs] at ih
        simp only [join, List.append_assoc, List.cons_append] at ih ⊢
        rw [ih]

/-- Cutting at the first `sep` loses only that `sep`. -/
theorem eq_of_cut? {sep : Char} {cs before after : List Char}
    (h : cut? sep cs = some (before, after)) : cs = before ++ sep :: after := by
  induction cs generalizing before with
  | nil => simp [cut?] at h
  | cons c cs ih =>
    rw [cut?] at h
    split at h
    · rename_i hc
      subst hc
      simp only [Option.some.injEq, Prod.mk.injEq] at h
      simp [← h.1, ← h.2]
    · obtain ⟨⟨b, a⟩, hb, he⟩ := Option.map_eq_some_iff.1 h
      simp only [Prod.mk.injEq] at he
      obtain ⟨rfl, rfl⟩ := he
      rw [ih hb, List.cons_append]

/-- A text has no cut exactly when `sep` does not occur in it. -/
theorem cut?_eq_none_iff {sep : Char} {cs : List Char} : cut? sep cs = none ↔ sep ∉ cs := by
  induction cs with
  | nil => simp [cut?]
  | cons c cs ih =>
    rw [cut?]
    split
    · rename_i hc
      subst hc
      simp
    · rename_i hc
      rw [Option.map_eq_none_iff, ih, List.mem_cons, not_or]
      exact ⟨fun h => ⟨fun he => hc he.symm, h⟩, fun h => h.2⟩

/-- What a word stands in front of. -/
theorem eq_of_strip? {word cs after : List Char} (h : strip? word cs = some after) :
    cs = word ++ after := by
  induction word generalizing cs with
  | nil => simpa [strip?] using h
  | cons w ws ih =>
    match cs with
    | [] => simp [strip?] at h
    | c :: cs =>
      rw [strip?] at h
      split at h
      · rename_i hw
        subst hw
        rw [ih h, List.cons_append]
      · simp at h

/-- Cutting at a word loses only that word. -/
theorem eq_of_cutAt? {word cs before after : List Char}
    (h : cutAt? word cs = some (before, after)) : cs = before ++ word ++ after := by
  induction cs generalizing before with
  | nil =>
    obtain ⟨a, ha, he⟩ := Option.map_eq_some_iff.1 h
    simp only [Prod.mk.injEq] at he
    obtain ⟨rfl, rfl⟩ := he
    simpa using eq_of_strip? ha
  | cons c cs ih =>
    rw [cutAt?] at h
    split at h
    · rename_i a ha
      simp only [Option.some.injEq, Prod.mk.injEq] at h
      obtain ⟨rfl, rfl⟩ := h
      simpa using eq_of_strip? ha
    · obtain ⟨⟨b, a⟩, hb, he⟩ := Option.map_eq_some_iff.1 h
      simp only [Prod.mk.injEq] at he
      obtain ⟨rfl, rfl⟩ := he
      simp [ih hb]

end LogCollector.Text
