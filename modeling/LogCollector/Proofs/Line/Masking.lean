import LogCollector.Proofs.Line.ReadingBack

/-!
# Line feeds on a line

A line feed in a name or a value is written `(+)`, after separators and backslashes have been
quoted. A line then holds no line feed, and as long as the separator is none of `(`, `+` and `)` the
attributes stand on it as they would with a blank for each line feed.

A plan accepts these three characters as separators. They are not quoted when they stand for a line
feed, so every line feed makes one more boundary then (`unquoted_maskNewlines_ofAttributes`). What
stands on a line is therefore told by the number of its separators exactly when the separator is
another one or nothing that is written holds a line feed (`masked_line_is_framed_iff`).
-/

namespace LogCollector

namespace Line

variable {separator : Char}

/-! ### Another text for each line feed -/

/-- What stands for a line feed on a line. -/
def breakMark : List Char := ['(', '+', ')']

/-- A text with a mark for each line feed. -/
def fillBreaks (mark cs : List Char) : List Char :=
  cs.flatMap fun c => if c = '\n' then mark else [c]

/-- The name and the value of an attribute with a mark for each line feed. -/
def fillAttribute (mark : List Char) (p : String × String) : String × String :=
  (.ofList (fillBreaks mark p.1.toList), .ofList (fillBreaks mark p.2.toList))

variable {mark : List Char}

theorem maskNewlines_eq_fillBreaks (cs : List Char) : maskNewlines cs = fillBreaks breakMark cs :=
  rfl

theorem fillBreaks_append (cs ds : List Char) :
    fillBreaks mark (cs ++ ds) = fillBreaks mark cs ++ fillBreaks mark ds := List.flatMap_append

theorem fillBreaks_cons_of_ne {c : Char} (h : c ≠ '\n') (cs : List Char) :
    fillBreaks mark (c :: cs) = c :: fillBreaks mark cs := by
  rw [fillBreaks, List.flatMap_cons, if_neg h]
  rfl

theorem fillBreaks_newline (cs : List Char) :
    fillBreaks mark ('\n' :: cs) = mark ++ fillBreaks mark cs := by
  rw [fillBreaks, List.flatMap_cons, if_pos rfl]
  rfl

theorem fillBreaks_of_not_mem {cs : List Char} (h : '\n' ∉ cs) : fillBreaks mark cs = cs := by
  induction cs with
  | nil => rfl
  | cons c cs ih =>
    simp only [List.mem_cons, not_or] at h
    rw [fillBreaks_cons_of_ne (Ne.symm h.1), ih h.2]

theorem newline_not_mem_fillBreaks (hmark : '\n' ∉ mark) (cs : List Char) :
    '\n' ∉ fillBreaks mark cs := by
  intro h
  obtain ⟨c, -, hc⟩ := List.mem_flatMap.1 h
  split at hc
  · exact hmark hc
  · rename_i hne
    exact hne (List.mem_singleton.1 hc).symm

theorem attributeText_fillAttribute (p : String × String) :
    attributeText (fillAttribute mark p) = fillBreaks mark (attributeText p) := by
  simp [attributeText, fillAttribute, fillBreaks_append, fillBreaks_cons_of_ne]

theorem newline_not_mem_attributeText {p : String × String} :
    '\n' ∉ attributeText p ↔ '\n' ∉ p.1.toList ∧ '\n' ∉ p.2.toList := by
  simp [attributeText]

/-! ### Marks that need no quoting -/

theorem escape_of_not_mem {cs : List Char} (hseparator : separator ∉ cs) (hquote : '\\' ∉ cs) :
    escape separator cs = cs := by
  induction cs with
  | nil => rfl
  | cons c cs ih =>
    simp only [List.mem_cons, not_or] at hseparator hquote
    have hplain : ¬ (c = separator ∨ c = '\\') := by
      rintro (h | h)
      · exact hseparator.1 h.symm
      · exact hquote.1 h.symm
    rw [escape, List.flatMap_cons, if_neg hplain, ← escape, ih hseparator.2 hquote.2]
    rfl

theorem escape_append (cs ds : List Char) :
    escape separator (cs ++ ds) = escape separator cs ++ escape separator ds :=
  List.flatMap_append

/-- It does not matter whether a mark is set before or after quoting. -/
theorem fillBreaks_escape (hnewline : separator ≠ '\n') (hseparator : separator ∉ mark)
    (hquote : '\\' ∉ mark) (cs : List Char) :
    fillBreaks mark (escape separator cs) = escape separator (fillBreaks mark cs) := by
  induction cs with
  | nil => rfl
  | cons c cs ih =>
    have hcons : escape separator (c :: cs) = escape separator [c] ++ escape separator cs :=
      escape_append [c] cs
    rw [hcons, fillBreaks_append, ih]
    by_cases hc : c = '\n'
    · subst hc
      have hplain : escape separator ['\n'] = ['\n'] :=
        escape_of_not_mem (by simpa using hnewline) (by decide)
      rw [hplain, fillBreaks_newline, fillBreaks_newline, escape_append,
        escape_of_not_mem hseparator hquote]
      simp [fillBreaks]
    · have hplain : '\n' ∉ escape separator [c] := by
        intro h
        rcases mem_escape h with h | h
        · exact absurd h (by decide)
        · exact hc (List.mem_singleton.1 h).symm
      rw [fillBreaks_cons_of_ne hc, fillBreaks_of_not_mem hplain]
      exact (escape_append [c] (fillBreaks mark cs)).symm

theorem fillBreaks_join (hnewline : separator ≠ '\n') (ps : List (List Char)) :
    fillBreaks mark (Text.join [separator] ps) =
      Text.join [separator] (ps.map (fillBreaks mark)) := by
  induction ps with
  | nil => rfl
  | cons p ps ih =>
    cases ps with
    | nil => rfl
    | cons q qs =>
      have hseparator : fillBreaks mark [separator] = [separator] :=
        fillBreaks_of_not_mem (by simpa using hnewline.symm)
      simp only [List.map_cons, Text.join, fillBreaks_append, hseparator] at ih ⊢
      rw [ih]

/-- A line with marks is the line of the attributes with marks. -/
theorem fillBreaks_ofAttributes (hnewline : separator ≠ '\n') (hseparator : separator ∉ mark)
    (hquote : '\\' ∉ mark) (ps : List (String × String)) :
    fillBreaks mark (ofAttributes separator ps) =
      ofAttributes separator (ps.map (fillAttribute mark)) := by
  rw [ofAttributes, fillBreaks_join hnewline, ofAttributes, List.map_map, List.map_map]
  congr 2
  funext p
  have hequals : ('=' : Char) ≠ '\n' := by decide
  simp [piece, fillAttribute, fillBreaks_append, fillBreaks_cons_of_ne hequals,
    fillBreaks_escape hnewline hseparator hquote]

/-! ### Counting boundaries -/

/-- The number of separators that no backslash quotes; `quoted` tells whether a backslash stands
right before. -/
def unquoted (separator : Char) : (quoted : Bool) → List Char → Nat
  | _, [] => 0
  | true, _ :: cs => unquoted separator false cs
  | false, c :: cs =>
    if c = '\\' then unquoted separator true cs
    else if c = separator then unquoted separator false cs + 1
    else unquoted separator false cs

/-- How many boundaries the line feeds of a text make. -/
def excess (separator : Char) (cs : List Char) : Nat :=
  if separator ∈ breakMark then cs.count '\n' else 0

theorem excess_append (cs ds : List Char) :
    excess separator (cs ++ ds) = excess separator cs + excess separator ds := by
  unfold excess
  split <;> simp

theorem excess_eq_zero_iff (cs : List Char) :
    excess separator cs = 0 ↔ separator ∉ breakMark ∨ '\n' ∉ cs := by
  unfold excess
  split
  · rename_i h
    simp [h, List.count_eq_zero]
  · rename_i h
    simp [h]

theorem unquoted_breakMark (rest : List Char) : unquoted separator false (breakMark ++ rest) =
    excess separator ['\n'] + unquoted separator false rest := by
  have hmem : separator ∈ breakMark ↔ '(' = separator ∨ '+' = separator ∨ ')' = separator := by
    simp [breakMark, eq_comm]
  simp only [excess, hmem]
  by_cases hopen : '(' = separator
  · subst hopen
    simp [breakMark, unquoted, Nat.add_comm]
  by_cases hplus : '+' = separator
  · subst hplus
    simp [breakMark, unquoted, Nat.add_comm]
  by_cases hclose : ')' = separator
  · subst hclose
    simp [breakMark, unquoted, Nat.add_comm]
  · simp [breakMark, unquoted, hopen, hplus, hclose]

/-- Of an escaped text only the marks of its line feeds may be boundaries. -/
theorem unquoted_maskNewlines_escape (hnewline : separator ≠ '\n') (cs rest : List Char) :
    unquoted separator false (maskNewlines (escape separator cs) ++ rest) =
      excess separator cs + unquoted separator false rest := by
  rw [maskNewlines_eq_fillBreaks]
  induction cs with
  | nil => simp [escape, fillBreaks, excess]
  | cons c cs ih =>
    have hcons : escape separator (c :: cs) = escape separator [c] ++ escape separator cs :=
      escape_append [c] cs
    have hexcess : excess separator (c :: cs) = excess separator [c] + excess separator cs :=
      excess_append [c] cs
    rw [hcons, hexcess, fillBreaks_append, List.append_assoc, Nat.add_assoc, ← ih]
    generalize fillBreaks breakMark (escape separator cs) ++ rest = rest'
    by_cases hc : c = '\n'
    · subst hc
      have hplain : escape separator ['\n'] = ['\n'] :=
        escape_of_not_mem (by simpa using hnewline) (by decide)
      rw [hplain, fillBreaks_newline, List.append_assoc]
      exact unquoted_breakMark rest'
    · have hnone : excess separator [c] = 0 :=
        (excess_eq_zero_iff [c]).2 (.inr (by simpa using Ne.symm hc))
      rw [hnone, Nat.zero_add]
      by_cases hquoted : c = separator ∨ c = '\\'
      · -- The backslash in front quotes the character.
        simp [escape, hquoted, fillBreaks, hc, unquoted]
      · rw [not_or] at hquoted
        simp [escape, hquoted, fillBreaks, hc, unquoted]

theorem unquoted_maskNewlines_piece (hnewline : separator ≠ '\n') (hequals : separator ≠ '=')
    (p : String × String) (rest : List Char) :
    unquoted separator false (maskNewlines (piece separator p.1 p.2) ++ rest) =
      excess separator (attributeText p) + unquoted separator false rest := by
  have hsign : ∀ cs, unquoted separator false ('=' :: cs) = unquoted separator false cs := by
    intro cs
    rw [unquoted, if_neg (by decide), if_neg hequals.symm]
  have hmask : maskNewlines (piece separator p.1 p.2) =
      maskNewlines (escape separator p.1.toList) ++
        '=' :: maskNewlines (escape separator p.2.toList) := by
    simp only [maskNewlines_eq_fillBreaks, piece, fillBreaks_append]
    rw [fillBreaks_cons_of_ne (by decide)]
  have hexcess : excess separator (attributeText p) =
      excess separator p.1.toList + excess separator p.2.toList := by
    have hsign : excess separator ('=' :: p.2.toList) = excess separator p.2.toList := by
      simp [excess]
    rw [attributeText, excess_append, hsign]
  rw [hmask, hexcess, List.append_assoc, List.cons_append, unquoted_maskNewlines_escape hnewline,
    hsign, unquoted_maskNewlines_escape hnewline, Nat.add_assoc]

/-- **The boundaries on a line**: one between any two attributes, and those that line feeds
make. -/
theorem unquoted_maskNewlines_ofAttributes (hnewline : separator ≠ '\n') (hquote : separator ≠ '\\')
    (hequals : separator ≠ '=') {ps : List (String × String)} (hne : ps ≠ []) :
    unquoted separator false (maskNewlines (ofAttributes separator ps)) + 1 =
      ps.length + excess separator (ps.flatMap attributeText) := by
  induction ps with
  | nil => exact absurd rfl hne
  | cons p ps ih =>
    cases ps with
    | nil =>
      have h := unquoted_maskNewlines_piece hnewline hequals p []
      rw [List.append_nil] at h
      simp only [ofAttributes, Text.join, List.map_cons, List.map_nil, h, unquoted]
      rw [List.flatMap_singleton, List.length_singleton]
      exact Nat.add_comm _ 1
    | cons q qs =>
      have hboundary : ∀ cs, unquoted separator false (separator :: cs) =
          unquoted separator false cs + 1 := by
        intro cs
        rw [unquoted, if_neg hquote, if_pos rfl]
      have hline : maskNewlines (ofAttributes separator (p :: q :: qs)) =
          maskNewlines (piece separator p.1 p.2) ++
            separator :: maskNewlines (ofAttributes separator (q :: qs)) := by
        simp [maskNewlines_eq_fillBreaks, ofAttributes, Text.join, fillBreaks_append,
          fillBreaks_cons_of_ne hnewline]
      have hrest := ih (List.cons_ne_nil q qs)
      rw [hline, unquoted_maskNewlines_piece hnewline hequals, hboundary]
      rw [List.flatMap_cons, excess_append, List.length_cons]
      omega

end Line

/-! ### Blanks for line feeds -/

/-- A text with a blank for each line feed. -/
def Line.withBlanks (text : String) : String := .ofList (Line.fillBreaks [' '] text.toList)

open Line (withBlanks)

/-- A value with a blank for each line feed in its text. -/
def Value.withBlanks : Value → Value
  | .string text => .string (Line.withBlanks text)
  | value => value

/-- An attribute with a blank for each line feed in its name and its texts. -/
def Field.withBlanks (field : Field) : Field :=
  ⟨Line.withBlanks field.name, field.value.withBlanks, field.resolved.map Line.withBlanks⟩

/-- A record with a blank for each line feed. -/
def Record.withBlanks (r : Record) : Record := { r with fields := r.fields.map Field.withBlanks }

theorem Line.withBlanks_of_not_mem {text : String} (h : '\n' ∉ text.toList) :
    withBlanks text = text := by
  rw [withBlanks, fillBreaks_of_not_mem h, String.ofList_toList]

/-- Only a word itself becomes a word without blanks. -/
theorem Line.withBlanks_eq_iff {text word : String} (hnewline : '\n' ∉ word.toList)
    (hblank : ' ' ∉ word.toList) : withBlanks text = word ↔ text = word := by
  constructor
  · rintro rfl
    refine (withBlanks_of_not_mem fun h => hblank ?_).symm
    rw [withBlanks, String.toList_ofList]
    exact List.mem_flatMap.2 ⟨'\n', h, by simp⟩
  · rintro rfl
    exact withBlanks_of_not_mem hnewline

/-- Only free text holds line feeds. -/
theorem Value.newline_not_mem_text {value : Value} (h : ∀ text, value ≠ .string text) :
    '\n' ∉ value.text.toList := by
  cases value with
  | string text => exact absurd rfl (h text)
  | ipAddress word => simp [text, Net.Ipv4.text, Net.Ipv4.not_mem_chars]
  | port word => simp [text, Numeral.text, Numeral.not_mem_ofNat]
  | protocolNumber number => simp [text, Numeral.text, Numeral.not_mem_ofNat]
  | actionCode code => simp [text, Numeral.text, Numeral.not_mem_ofNat]
  | ruleNumber number => simp [text, Numeral.text, Numeral.not_mem_ofNat]
  | unixTime instant => exact newline_not_mem_intText instant

theorem Value.withBlanks_of_ne {value : Value} (h : ∀ text, value ≠ .string text) :
    value.withBlanks = value := by
  unfold Value.withBlanks
  split
  · rename_i text
    exact absurd rfl (h text)
  · rfl

theorem Value.text_withBlanks (value : Value) :
    value.withBlanks.text = Line.withBlanks value.text := by
  by_cases h : ∃ text, value = .string text
  · obtain ⟨text, rfl⟩ := h
    rfl
  · rw [not_exists] at h
    rw [withBlanks_of_ne h, Line.withBlanks_of_not_mem (newline_not_mem_text h)]

theorem Value.tag_withBlanks (value : Value) : value.withBlanks.tag = value.tag := by
  cases value <;> rfl

theorem Field.resolvedText_withBlanks (field : Field) :
    field.withBlanks.resolvedText = Line.withBlanks field.resolvedText := by
  cases hresolved : field.resolved with
  | none => simp [resolvedText, Field.withBlanks, hresolved, Value.text_withBlanks]
  | some text => simp [resolvedText, Field.withBlanks, hresolved]

namespace LineFormat

variable {f : LineFormat}

/-- Only an instant is shown as a date. -/
theorem timeText_of_ne {field : Field} (h : ∀ instant, field.value ≠ .unixTime instant) :
    f.timeText field = field.resolvedText := by
  unfold timeText
  split
  · rename_i instant _ hvalue
    exact absurd hvalue (h instant)
  · rename_i instant _ hvalue
    exact absurd hvalue (h instant)
  · rfl

theorem timeText_withBlanks (field : Field) :
    f.timeText field.withBlanks = withBlanks (f.timeText field) := by
  by_cases h : ∃ instant, field.value = .unixTime instant
  · obtain ⟨instant, hvalue⟩ := h
    have hvalue' : field.withBlanks.value = .unixTime instant := by
      rw [Field.withBlanks, hvalue]
      rfl
    have hnumber := newline_not_mem_intText instant
    cases hdate : f.dateFormat with
    | vendor => simp only [timeText, hdate, Field.resolvedText_withBlanks]
    | epoch => simp only [timeText, hdate, hvalue, hvalue', Line.withBlanks_of_not_mem hnumber]
    | localTime =>
      cases hreading : Calendar.localReading? f.zone instant with
      | none =>
        simp only [timeText, hdate, hvalue, hvalue', hreading, Line.withBlanks_of_not_mem hnumber]
      | some reading =>
        have hspaced : '\n' ∉ (String.ofList reading.spaced).toList := by
          rw [String.toList_ofList]
          exact reading.newline_not_mem_spaced
        simp only [timeText, hdate, hvalue, hvalue', hreading, Line.withBlanks_of_not_mem hspaced]
  · rw [not_exists] at h
    have h' : ∀ instant, field.withBlanks.value ≠ .unixTime instant := by
      intro instant hvalue
      have htag := field.value.tag_withBlanks
      change field.value.withBlanks = .unixTime instant at hvalue
      rw [hvalue] at htag
      cases hv : field.value with
      | unixTime instant' => exact h instant' hv
      | _ =>
        rw [hv] at htag
        cases htag
    rw [timeText_of_ne h, timeText_of_ne h', Field.resolvedText_withBlanks]

/-- The text of an attribute, given the tag of its value. -/
theorem valueText_eq (field : Field) : f.valueText field =
    if field.name = Catalog.time then f.timeText field
    else if field.value.tag ∈ [.ipAddress, .port] ∧ f.resolve = false then field.value.text
    else field.resolvedText := by
  unfold valueText
  split
  · rfl
  · cases field.value <;> cases f.resolve <;> simp [Value.tag]

theorem valueText_withBlanks (field : Field) :
    f.valueText field.withBlanks = withBlanks (f.valueText field) := by
  have hname : field.withBlanks.name = Catalog.time ↔ field.name = Catalog.time :=
    Line.withBlanks_eq_iff (by decide) (by decide)
  have htag : field.withBlanks.value.tag = field.value.tag := field.value.tag_withBlanks
  have htext : field.withBlanks.value.text = withBlanks field.value.text :=
    field.value.text_withBlanks
  rw [valueText_eq, valueText_eq, htag, htext, timeText_withBlanks, Field.resolvedText_withBlanks]
  simp only [hname]
  split
  · rfl
  · split <;> rfl

/-- What is written for a record with blanks, where these do not change what is selected. -/
theorem pairs_withBlanks {r : Record}
    (hselects : ∀ field ∈ r.fields, f.selects field.withBlanks.name = f.selects field.name) :
    f.pairs r.withBlanks = (f.pairs r).map (Line.fillAttribute [' ']) := by
  have hname : '\n' ∉ Catalog.recordNumber.toList := by decide
  have hnumber : (Catalog.recordNumber, Numeral.intText r.number) =
      Line.fillAttribute [' '] (Catalog.recordNumber, Numeral.intText r.number) :=
    Prod.ext (Line.withBlanks_of_not_mem hname).symm
      (Line.withBlanks_of_not_mem (newline_not_mem_intText r.number)).symm
  have hfields : ((r.withBlanks.fields.filter fun field => f.selects field.name).map fun field =>
        (field.name, f.valueText field)) =
      (((r.fields.filter fun field => f.selects field.name).map fun field =>
        (field.name, f.valueText field)).map (Line.fillAttribute [' '])) := by
    have hfilter : r.fields.filter ((fun field => f.selects field.name) ∘ Field.withBlanks) =
        r.fields.filter fun field => f.selects field.name :=
      List.filter_congr hselects
    rw [Record.withBlanks, List.filter_map, List.map_map, List.map_map, hfilter]
    refine List.map_congr_left fun field _ => ?_
    exact Prod.ext rfl (valueText_withBlanks field)
  rw [pairs, pairs, hfields, List.map_append]
  split
  · rw [List.map_singleton, ← hnumber]
    rfl
  · rfl

/-! ### The frame of a line -/

variable (f) in
/-- The separator is no character of the mark of a line feed, or no line feed is written. -/
def KeepsFrame (r : Record) : Prop :=
  f.separator ∉ Line.breakMark ∨ ∀ p ∈ f.pairs r, '\n' ∉ Line.attributeText p

instance (r : Record) : Decidable (f.KeepsFrame r) := inferInstanceAs (Decidable (_ ∨ _))

theorem line_eq_maskNewlines (r : Record) : (f.line r).toList =
    Line.maskNewlines (Line.ofAttributes f.separator (f.pairs r)) := by
  rw [line, String.toList_ofList]
  rfl

theorem keepsFrame_iff {r : Record} : f.KeepsFrame r ↔
    Line.excess f.separator ((f.pairs r).flatMap Line.attributeText) = 0 := by
  rw [Line.excess_eq_zero_iff, List.mem_flatMap]
  exact or_congr_right (by simp)

/-- The texts of a line that keeps its frame are those of its attributes, with marks. -/
theorem texts_of_keepsFrame (hnewline : f.separator ≠ '\n') (hquote : f.separator ≠ '\\')
    (hequals : f.separator ≠ '=') {r : Record} (h : f.KeepsFrame r) :
    Line.texts f.separator (f.line r).toList =
      (f.pairs r).map fun p => Line.maskNewlines (Line.attributeText p) := by
  rw [line_eq_maskNewlines]
  rcases h with hseparator | hplain
  · have hline : Line.maskNewlines (Line.ofAttributes f.separator (f.pairs r)) =
        Line.ofAttributes f.separator ((f.pairs r).map (Line.fillAttribute Line.breakMark)) :=
      Line.fillBreaks_ofAttributes hnewline hseparator (by decide) (f.pairs r)
    rw [hline, Line.texts_ofAttributes hquote hequals, List.map_map]
    refine List.map_congr_left fun p _ => ?_
    exact Line.attributeText_fillAttribute p
  · have hline : '\n' ∉ Line.ofAttributes f.separator (f.pairs r) :=
      Line.newline_not_mem_ofAttributes hnewline fun p hp =>
        Line.newline_not_mem_attributeText.1 (hplain p hp)
    rw [Line.maskNewlines_of_not_mem hline, Line.texts_ofAttributes hquote hequals]
    refine List.map_congr_left fun p hp => ?_
    exact (Line.maskNewlines_of_not_mem (hplain p hp)).symm

/-- **Which lines keep their frame.** No line holds a line feed. Its boundaries are those between
its attributes exactly when the separator does not occur in the mark of a line feed or no line feed
is written; the attributes then stand where they would with a blank for each line feed. -/
theorem masked_line_is_framed_iff {plan plan' : Plan} (hplan : plan.check = .ok plan')
    (f : LineFormat) (hf : f.separator = plan.separator) (r : Record) :
    '\n' ∉ (f.line r).toList ∧
    (f.pairs r ≠ [] →
      (Line.unquoted f.separator false (f.line r).toList + 1 = (f.pairs r).length ↔
        f.KeepsFrame r)) ∧
    (f.KeepsFrame r → Line.texts f.separator (f.line r).toList =
      (f.pairs r).map fun p => Line.maskNewlines (Line.attributeText p)) ∧
    ((∀ field ∈ r.fields, f.selects field.withBlanks.name = f.selects field.name) →
      Line.texts f.separator (f.line r.withBlanks).toList =
        (f.pairs r).map fun p => Line.fillBreaks [' '] (Line.attributeText p)) := by
  obtain ⟨hnewline, hquote, hequals⟩ := Plan.separator_of_check hplan
  rw [← hf] at hnewline hquote hequals
  refine ⟨?_, ?_, texts_of_keepsFrame hnewline hquote hequals, ?_⟩
  · rw [line_eq_maskNewlines]
    exact Line.newline_not_mem_fillBreaks (by decide) _
  · intro hne
    have hcount := Line.unquoted_maskNewlines_ofAttributes hnewline hquote hequals hne
    rw [line_eq_maskNewlines, hcount, keepsFrame_iff]
    omega
  · intro hselects
    have hblanks : ∀ p, '\n' ∉ Line.fillBreaks [' '] (Line.attributeText p) := fun p =>
      Line.newline_not_mem_fillBreaks (by decide) _
    have hpairs := pairs_withBlanks hselects
    have hkeeps : f.KeepsFrame r.withBlanks := by
      right
      intro p hp
      rw [hpairs] at hp
      obtain ⟨p, -, rfl⟩ := List.mem_map.1 hp
      rw [Line.attributeText_fillAttribute]
      exact hblanks p
    rw [texts_of_keepsFrame hnewline hquote hequals hkeeps, hpairs, List.map_map]
    refine List.map_congr_left fun p _ => ?_
    simp only [Function.comp_apply, Line.attributeText_fillAttribute]
    exact Line.maskNewlines_of_not_mem (hblanks p)

/-- A line with quoted backslashes and separators around its line feeds. -/
theorem masked_line_is_framed_iff_quoted :
    let plan : Plan := .standard .universal
    let f : LineFormat := ⟨.traffic, false, .epoch, '|', ["a\nb", "c"], .universal⟩
    let r : Record := ⟨41, [⟨"a\nb", .string "\\\n|", none⟩, ⟨"c", .string "\n", none⟩]⟩
    plan.check = .ok plan ∧ f.separator = plan.separator ∧ f.pairs r ≠ [] ∧ f.KeepsFrame r ∧
      f.line r = "a(+)b=\\\\(+)\\||c=(+)" ∧ '\n' ∉ (f.line r).toList ∧
      Line.unquoted '|' false (f.line r).toList + 1 = (f.pairs r).length ∧
      Line.texts '|' (f.line r).toList = ["a(+)b=\\(+)|".toList, "c=(+)".toList] := by
  intro plan f r
  have hplan : plan.check = .ok plan := rfl
  have hselected : f.pairs r ≠ [] := by decide +kernel
  have hkeeps : f.KeepsFrame r := by decide +kernel
  obtain ⟨hnewline, hcount, htexts, -⟩ := masked_line_is_framed_iff hplan f rfl r
  refine ⟨hplan, rfl, hselected, hkeeps, by decide +kernel, hnewline,
    (hcount hselected).2 hkeeps, ?_⟩
  exact (htexts hkeeps).trans (by decide +kernel)

/-- **A line feed that makes a boundary.** A plan accepts `+` as a separator. -/
theorem masked_line_gains_boundary :
    let plan : Plan := { Plan.standard .universal with separator := '+' }
    let f : LineFormat := ⟨.traffic, false, .localTime, plan.separator, [], .universal⟩
    let r : Record := ⟨0, [⟨"a", .string "x\ny", none⟩]⟩
    plan.check = .ok plan ∧ f.line r = "loc=1+a=x(+)y" ∧ (f.pairs r).length = 2 ∧
      Line.unquoted '+' false (f.line r).toList = 2 ∧
      ¬ Line.unquoted '+' false (f.line r).toList + 1 = (f.pairs r).length := by
  intro plan f r
  have hlength : (f.pairs r).length = 2 := by decide +kernel
  have hcount : Line.unquoted '+' false (f.line r).toList = 2 := by decide +kernel
  refine ⟨rfl, by decide +kernel, hlength, hcount, ?_⟩
  rw [hlength, hcount]
  decide

end LineFormat

end LogCollector
