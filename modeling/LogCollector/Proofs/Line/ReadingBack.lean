import LogCollector.Line
import LogCollector.Plan
import LogCollector.Proofs.Calendar.LocalTime
import LogCollector.Proofs.Fallible
import LogCollector.Proofs.Text.Numerals
import LogCollector.Proofs.Text.Pieces

/-!
# Reading lines back

A line is read from left to right: a backslash quotes the next character, and a separator that is
not quoted is a boundary between two attributes (`Line.texts`). What a separator, a backslash or an
equals sign inside a name or a value looks like does not matter then: the texts of a written line
are `name=value` for the selected attributes, in order, and where no name holds `=` the names and
values themselves are read back (`lines_are_read_back`).

The law needs a separator that a plan accepts and attributes without line feeds; those of a line
are written `(+)`, which cannot be told from the text `(+)` itself.
-/

namespace LogCollector

/-! ### Reading -/

namespace Line

/-- The texts between the separators that no backslash quotes; `quoted` tells whether a backslash
stands right before. -/
def cutUnquoted (separator : Char) : (quoted : Bool) → List Char → List (List Char)
  | _, [] => [[]]
  | true, c :: cs => (cutUnquoted separator false cs).modifyHead (c :: ·)
  | false, c :: cs =>
    if c = '\\' then cutUnquoted separator true cs
    else if c = separator then [] :: cutUnquoted separator false cs
    else (cutUnquoted separator false cs).modifyHead (c :: ·)

/-- The texts of the attributes of a line; an empty line has none. -/
def texts (separator : Char) (cs : List Char) : List (List Char) :=
  if cs = [] then [] else cutUnquoted separator false cs

/-- The text of an attribute. -/
def attributeText (p : String × String) : List Char := p.1.toList ++ '=' :: p.2.toList

/-- The attribute of a text: the name is what stands before the first `=`. -/
def attribute? (cs : List Char) : Option (String × String) :=
  (Text.cut? '=' cs).map fun (name, value) => (.ofList name, .ofList value)

/-- The attributes of a line. -/
def attributes? (separator : Char) (cs : List Char) : Option (List (String × String)) :=
  (texts separator cs).mapM attribute?

/-! ### Escaped texts -/

variable {separator : Char}

/-- An escaped text is read as it was before, whatever follows. -/
theorem cutUnquoted_escape (cs rest : List Char) :
    cutUnquoted separator false (escape separator cs ++ rest) =
      (cutUnquoted separator false rest).modifyHead (cs ++ ·) := by
  induction cs with
  | nil =>
    show _ = (cutUnquoted separator false rest).modifyHead id
    rw [List.modifyHead_id]
    rfl
  | cons c cs ih =>
    have hcons : (cutUnquoted separator false rest).modifyHead (c :: cs ++ ·) =
        ((cutUnquoted separator false rest).modifyHead (cs ++ ·)).modifyHead (c :: ·) := by
      rw [List.modifyHead_modifyHead]
      rfl
    rw [hcons, ← ih, escape, List.flatMap_cons, List.append_assoc]
    by_cases h : c = separator ∨ c = '\\'
    · -- The backslash in front quotes the character.
      rw [if_pos h]
      simp only [List.cons_append, List.nil_append, cutUnquoted, if_true]
      rfl
    · rw [if_neg h]
      rw [not_or] at h
      simp only [List.cons_append, List.nil_append, cutUnquoted, if_neg h.1, if_neg h.2]
      rfl

/-- A written attribute is read as `name=value`. -/
theorem cutUnquoted_piece (hequals : separator ≠ '=') (p : String × String) (rest : List Char) :
    cutUnquoted separator false (piece separator p.1 p.2 ++ rest) =
      (cutUnquoted separator false rest).modifyHead (attributeText p ++ ·) := by
  have hsign : ∀ cs, cutUnquoted separator false ('=' :: cs) =
      (cutUnquoted separator false cs).modifyHead ('=' :: ·) := by
    intro cs
    rw [cutUnquoted, if_neg (by decide), if_neg hequals.symm]
  rw [piece, List.append_assoc, List.cons_append, cutUnquoted_escape, hsign, cutUnquoted_escape,
    List.modifyHead_modifyHead, List.modifyHead_modifyHead]
  congr 1
  funext cs
  simp [attributeText]

/-- The line of some attributes. -/
def ofAttributes (separator : Char) (ps : List (String × String)) : List Char :=
  Text.join [separator] (ps.map fun (name, value) => piece separator name value)

theorem cutUnquoted_ofAttributes (hquote : separator ≠ '\\') (hequals : separator ≠ '=')
    {ps : List (String × String)} (hne : ps ≠ []) :
    cutUnquoted separator false (ofAttributes separator ps) = ps.map attributeText := by
  induction ps with
  | nil => exact absurd rfl hne
  | cons p ps ih =>
    cases ps with
    | nil =>
      have h := cutUnquoted_piece hequals p []
      rw [List.append_nil] at h
      simpa [ofAttributes, Text.join, cutUnquoted] using h
    | cons q qs =>
      have hboundary : ∀ cs, cutUnquoted separator false (separator :: cs) =
          [] :: cutUnquoted separator false cs := by
        intro cs
        rw [cutUnquoted, if_neg hquote, if_pos rfl]
      have hline : ofAttributes separator (p :: q :: qs) =
          piece separator p.1 p.2 ++ separator :: ofAttributes separator (q :: qs) := by
        simp [ofAttributes, Text.join]
      rw [hline, cutUnquoted_piece hequals, hboundary, ih (List.cons_ne_nil q qs)]
      simp

/-- **The texts of a line** are those of its attributes. -/
theorem texts_ofAttributes (hquote : separator ≠ '\\') (hequals : separator ≠ '=')
    (ps : List (String × String)) :
    texts separator (ofAttributes separator ps) = ps.map attributeText := by
  cases ps with
  | nil => rfl
  | cons p ps =>
    have hline : ofAttributes separator (p :: ps) ≠ [] := by
      cases ps <;> simp [ofAttributes, Text.join, piece]
    rw [texts, if_neg hline, cutUnquoted_ofAttributes hquote hequals (List.cons_ne_nil p ps)]

/-- A name without `=` is read back from the text of its attribute. -/
theorem attribute?_attributeText {p : String × String} (h : '=' ∉ p.1.toList) :
    attribute? (attributeText p) = some p := by
  rw [attribute?, attributeText, Text.cut?_append h]
  simp

/-! ### Line feeds -/

theorem mem_escape {c : Char} {cs : List Char} (h : c ∈ escape separator cs) :
    c = '\\' ∨ c ∈ cs := by
  rw [escape, List.mem_flatMap] at h
  obtain ⟨d, hd, hc⟩ := h
  split at hc
  · rcases List.mem_cons.1 hc with hc | hc
    · exact .inl hc
    · exact .inr (List.mem_singleton.1 hc ▸ hd)
  · exact .inr (List.mem_singleton.1 hc ▸ hd)

theorem maskNewlines_of_not_mem {cs : List Char} (h : '\n' ∉ cs) : maskNewlines cs = cs := by
  induction cs with
  | nil => rfl
  | cons c cs ih =>
    rw [List.mem_cons, not_or] at h
    rw [maskNewlines, List.flatMap_cons, if_neg (Ne.symm h.1), ← maskNewlines, ih h.2]
    rfl

/-- Attributes without line feeds stand on a line without line feeds. -/
theorem newline_not_mem_ofAttributes (hnewline : separator ≠ '\n')
    {ps : List (String × String)} (h : ∀ p ∈ ps, '\n' ∉ p.1.toList ∧ '\n' ∉ p.2.toList) :
    '\n' ∉ ofAttributes separator ps := by
  intro hmem
  rcases Text.mem_join hmem with hmem | ⟨cs, hcs, hmem⟩
  · exact hnewline (List.mem_singleton.1 hmem).symm
  · obtain ⟨p, hp, rfl⟩ := List.mem_map.1 hcs
    obtain ⟨hname, hvalue⟩ := h p hp
    rcases List.mem_append.1 hmem with hmem | hmem
    · rcases mem_escape hmem with he | hmem
      · exact absurd he (by decide)
      · exact hname hmem
    · rcases List.mem_cons.1 hmem with he | hmem
      · exact absurd he (by decide)
      · rcases mem_escape hmem with he | hmem
        · exact absurd he (by decide)
        · exact hvalue hmem

end Line

/-- The name of an attribute, the text of its value and what it was resolved to hold no line
feed. -/
def Field.OnOneLine (field : Field) : Prop :=
  '\n' ∉ field.name.toList ∧ '\n' ∉ field.value.text.toList ∧
    ∀ text ∈ field.resolved, '\n' ∉ text.toList

instance (field : Field) : Decidable field.OnOneLine := inferInstanceAs (Decidable (_ ∧ _ ∧ _))

/-- No attribute of a record holds a line feed. -/
def Record.OnOneLine (r : Record) : Prop := ∀ field ∈ r.fields, field.OnOneLine

instance (r : Record) : Decidable r.OnOneLine :=
  inferInstanceAs (Decidable (∀ field ∈ r.fields, field.OnOneLine))

/-- No name of an attribute holds `=`. -/
def Record.HasPlainNames (r : Record) : Prop := ∀ field ∈ r.fields, '=' ∉ field.name.toList

instance (r : Record) : Decidable r.HasPlainNames :=
  inferInstanceAs (Decidable (∀ field ∈ r.fields, '=' ∉ field.name.toList))

theorem Field.OnOneLine.resolvedText {field : Field} (h : field.OnOneLine) :
    '\n' ∉ field.resolvedText.toList := by
  unfold Field.resolvedText
  cases hr : field.resolved with
  | none => exact h.2.1
  | some text => exact h.2.2 text hr

theorem newline_not_mem_intText (n : Int) : '\n' ∉ (Numeral.intText n).toList := by
  rw [Numeral.intText, String.toList_ofList]
  exact Numeral.not_mem_ofInt (by decide) (by decide) n

/-- The text of a date and a time of day is digits and a few marks. -/
theorem Calendar.Reading.newline_not_mem_spaced (r : Calendar.Reading) : '\n' ∉ r.spaced := by
  have hdate : '\n' ∉ r.dashedDate :=
    r.not_mem_dashedDate (by decide) (by decide) (by decide)
  have htime : '\n' ∉ r.clockTime := r.not_mem_clockTime (by decide) (by decide)
  simp [spaced, hdate, htime]

namespace LineFormat

variable {f : LineFormat}

theorem newline_not_mem_timeText {field : Field} (h : field.OnOneLine) :
    '\n' ∉ (f.timeText field).toList := by
  unfold timeText
  split
  · exact newline_not_mem_intText _
  · split
    · rw [String.toList_ofList]
      exact Calendar.Reading.newline_not_mem_spaced _
    · exact newline_not_mem_intText _
  · exact h.resolvedText

theorem newline_not_mem_valueText {field : Field} (h : field.OnOneLine) :
    '\n' ∉ (f.valueText field).toList := by
  unfold valueText
  split
  · exact newline_not_mem_timeText h
  · split
    · split
      · exact h.resolvedText
      · exact h.2.1
    · split
      · exact h.resolvedText
      · exact h.2.1
    · exact h.resolvedText

/-- What is written for a record is its number or comes from one of its attributes. -/
theorem mem_pairs {r : Record} {p : String × String} (h : p ∈ f.pairs r) :
    p = (Catalog.recordNumber, Numeral.intText r.number) ∨
      ∃ field ∈ r.fields, p = (field.name, f.valueText field) := by
  rcases List.mem_append.1 h with h | h
  · split at h
    · exact .inl (List.mem_singleton.1 h)
    · exact absurd h List.not_mem_nil
  · obtain ⟨field, hfield, rfl⟩ := List.mem_map.1 h
    exact .inr ⟨field, List.mem_of_mem_filter hfield, rfl⟩

/-- The line of a record without line feeds is that of its attributes. -/
theorem line_eq_ofAttributes (hnewline : f.separator ≠ '\n') {r : Record} (hr : r.OnOneLine) :
    (f.line r).toList = Line.ofAttributes f.separator (f.pairs r) := by
  rw [line, String.toList_ofList]
  refine Line.maskNewlines_of_not_mem (Line.newline_not_mem_ofAttributes hnewline fun p hp => ?_)
  have hnumber : '\n' ∉ Catalog.recordNumber.toList := by decide
  rcases mem_pairs hp with rfl | ⟨field, hfield, rfl⟩
  · exact ⟨hnumber, newline_not_mem_intText _⟩
  · exact ⟨(hr field hfield).1, newline_not_mem_valueText (hr field hfield)⟩

theorem equals_not_mem_name {r : Record} (hr : r.HasPlainNames) {p : String × String}
    (hp : p ∈ f.pairs r) : '=' ∉ p.1.toList := by
  have hnumber : '=' ∉ Catalog.recordNumber.toList := by decide
  rcases mem_pairs hp with rfl | ⟨field, hfield, rfl⟩
  · exact hnumber
  · exact hr field hfield

end LineFormat

/-- A separator that a plan accepts is no line feed, backslash or equals sign. -/
theorem Plan.separator_of_check {p q : Plan} (h : p.check = .ok q) :
    p.separator ≠ '\n' ∧ p.separator ≠ '\\' ∧ p.separator ≠ '=' := by
  have hfirst := (check_eq_ok_iff.1 h).2 _ List.mem_cons_self
  simpa using hfirst

/-- **Lines are read back.** -/
theorem LineFormat.lines_are_read_back {plan plan' : Plan} (hplan : plan.check = .ok plan')
    (f : LineFormat) (hf : f.separator = plan.separator) :
    (∀ r : Record, r.OnOneLine →
      Line.texts f.separator (f.line r).toList = (f.pairs r).map Line.attributeText) ∧
    (∀ r : Record, r.OnOneLine → r.HasPlainNames →
      Line.attributes? f.separator (f.line r).toList = some (f.pairs r)) ∧
    ∀ r r' : Record, r.OnOneLine → r.HasPlainNames → r'.OnOneLine → r'.HasPlainNames →
      f.pairs r ≠ f.pairs r' → f.line r ≠ f.line r' := by
  obtain ⟨hnewline, hquote, hequals⟩ := Plan.separator_of_check hplan
  rw [← hf] at hnewline hquote hequals
  have htexts : ∀ r : Record, r.OnOneLine →
      Line.texts f.separator (f.line r).toList = (f.pairs r).map Line.attributeText := by
    intro r hr
    rw [line_eq_ofAttributes hnewline hr, Line.texts_ofAttributes hquote hequals]
  have hpairs : ∀ r : Record, r.OnOneLine → r.HasPlainNames →
      Line.attributes? f.separator (f.line r).toList = some (f.pairs r) := by
    intro r hr hnames
    rw [Line.attributes?, htexts r hr]
    refine mapM_eq_some (List.forall₂_map_left_iff.2 (List.forall₂_same.2 fun p hp => ?_))
    exact Line.attribute?_attributeText (equals_not_mem_name hnames hp)
  refine ⟨htexts, hpairs, fun r r' hr hnames hr' hnames' hne heq => hne ?_⟩
  have h := hpairs r hr hnames
  rw [heq, hpairs r' hr' hnames'] at h
  exact (Option.some.inj h).symm

/-- The separator occurs in the name of the number, and the two records would give the same line
without backslashes. -/
theorem LineFormat.lines_are_read_back_letter :
    let f : LineFormat := ⟨.traffic, false, .epoch, 'c', [], .universal⟩
    let two : Record := ⟨41, [⟨"a\\c", .string "c=\\", none⟩, ⟨"", .string "", none⟩]⟩
    let one : Record := ⟨41, [⟨"a\\c", .string "c=\\c=", none⟩]⟩
    Line.texts 'c' (f.line two).toList = ["loc=42".toList, "a\\c=c=\\".toList, "=".toList] ∧
      Line.attributes? 'c' (f.line two).toList =
        some [("loc", "42"), ("a\\c", "c=\\"), ("", "")] ∧
      f.line two ≠ f.line one := by
  intro f two one
  have hplan : { Plan.standard .universal with separator := 'c' }.check = .ok _ := rfl
  obtain ⟨htexts, hpairs, hne⟩ := lines_are_read_back hplan f rfl
  have htwo : two.OnOneLine := by decide
  have htwoNames : two.HasPlainNames := by decide
  have hselected : f.pairs two = [("loc", "42"), ("a\\c", "c=\\"), ("", "")] := by decide +kernel
  refine ⟨(htexts two htwo).trans ?_, (hpairs two htwo htwoNames).trans ?_, ?_⟩
  · rw [hselected]
    decide
  · rw [hselected]
  · exact hne two one htwo htwoNames (by decide) (by decide) (by decide +kernel)

end LogCollector
