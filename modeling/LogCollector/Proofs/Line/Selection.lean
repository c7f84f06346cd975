import LogCollector.Config.Check
import LogCollector.Proofs.Line.Masking

/-!
# Selected attributes

A line is made of pieces, one for the number of the record and one for each of its attributes. When
attributes are selected, the line is made of those of the pieces whose names are selected, in the
same order (`line_selecting`); the number is one of them like any other, also beside an attribute
that has its name. A line is empty exactly when a selection leaves no piece
(`line_selecting_eq_empty_iff`), never without a selection: `selection_is_projection` has it all.
-/

namespace LogCollector

/-! ### Separators -/

/-- A character that may separate attributes: a plan or a configuration that has it is accepted. -/
inductive AcceptedSeparator : Char → Prop where
  /-- It is the separator of an accepted plan. -/
  | plan {plan plan' : Plan} : plan.check = .ok plan' → AcceptedSeparator plan.separator
  /-- It is the separator of an accepted configuration. -/
  | config {c c' : Config} : c.check = .ok c' → AcceptedSeparator c.separator

/-- The separator of an accepted configuration is all of its setting, and no line feed, backslash or
equals sign. -/
theorem Config.separator_of_check {c c' : Config} (h : c.check = .ok c') :
    c.output.separator.toList = [c.separator] ∧
      c.separator ≠ '\n' ∧ c.separator ≠ '\\' ∧ c.separator ≠ '=' := by
  obtain ⟨-, hall⟩ := check_eq_ok_iff.1 h
  have hone : isSeparator c.output.separator = true := hall _ (.tail _ (.tail _ (.head _)))
  unfold isSeparator at hone
  split at hone
  · rename_i d hd
    simpa [separator, hd] using hone
  · cases hone

theorem AcceptedSeparator.ne_newline {separator : Char} (h : AcceptedSeparator separator) :
    separator ≠ '\n' := by
  cases h with
  | plan h => exact (Plan.separator_of_check h).1
  | config h => exact (Config.separator_of_check h).2.1

/-! ### Pieces -/

/-- An attribute as it stands on a line. -/
def Line.written (separator : Char) (p : String × String) : List Char :=
  maskNewlines (piece separator p.1 p.2)

/-- There is a sign between the name and the value, if nothing else. -/
theorem Line.written_ne_nil (separator : Char) (p : String × String) :
    written separator p ≠ [] := by
  have hequals : '=' ∈ written separator p :=
    List.mem_flatMap.2 ⟨'=', by simp [piece], by decide⟩
  exact List.ne_nil_of_mem hequals

namespace LineFormat

variable {f : LineFormat} {names names' : List String} {r : Record}

/-- The format with other attributes selected. -/
def selecting (f : LineFormat) (names : List String) : LineFormat := { f with selection := names }

/-- The pieces of which a line is made when nothing is selected, each with its name. -/
def pieces (f : LineFormat) (r : Record) : List (String × List Char) :=
  ((f.selecting []).pairs r).map fun p => (p.1, Line.written f.separator p)

theorem selects_selecting (hne : names ≠ []) (name : String) :
    (f.selecting names).selects name = decide (name ∈ names) := by
  simp [selects, selecting, hne]

/-- Without a selection everything is written. -/
theorem pairs_selecting_nil : (f.selecting []).pairs r =
    (Catalog.recordNumber, Numeral.intText r.number) ::
      r.fields.map fun field => (field.name, f.valueText field) := by
  have hall : ∀ name, (f.selecting []).selects name = true := fun _ => rfl
  have hfields : (r.fields.filter fun field => (f.selecting []).selects field.name) = r.fields :=
    List.filter_eq_self.2 fun field _ => hall field.name
  rw [pairs, if_pos (hall _), hfields]
  rfl

/-- **What is written for a selection** is what is written without one, less the names that are not
selected. -/
theorem pairs_selecting (hne : names ≠ []) : (f.selecting names).pairs r =
    ((f.selecting []).pairs r).filter fun p => p.1 ∈ names := by
  have htext : (f.selecting names).valueText = f.valueText := rfl
  rw [pairs_selecting_nil, List.filter_cons, List.filter_map, pairs]
  simp only [selects_selecting hne, htext]
  split <;> rfl

/-! ### Lines -/

/-- A line is its attributes as they are written, with the separator between any two of them. -/
theorem line_eq_join (hnewline : f.separator ≠ '\n') : (f.line r).toList =
    Text.join [f.separator] ((f.pairs r).map (Line.written f.separator)) := by
  rw [line, String.toList_ofList, Line.maskNewlines_eq_fillBreaks, Line.fillBreaks_join hnewline,
    List.map_map]
  rfl

theorem line_selecting_nil (hnewline : f.separator ≠ '\n') : ((f.selecting []).line r).toList =
    Text.join [f.separator] ((f.pieces r).map Prod.snd) := by
  rw [line_eq_join (f := f.selecting []) hnewline, pieces, List.map_map]
  rfl

/-- **The line of a selection** is made of the pieces whose names are selected. -/
theorem line_selecting (hnewline : f.separator ≠ '\n') (hne : names ≠ []) :
    ((f.selecting names).line r).toList =
      Text.join [f.separator] (((f.pieces r).filter fun p => p.1 ∈ names).map Prod.snd) := by
  rw [line_eq_join (f := f.selecting names) hnewline, pairs_selecting hne, pieces, List.filter_map,
    List.map_map]
  rfl

theorem names_pieces :
    (f.pieces r).map Prod.fst = Catalog.recordNumber :: r.fields.map Field.name := by
  rw [pieces, pairs_selecting_nil, List.map_map, List.map_cons, List.map_map]
  rfl

theorem mem_pieces {p : String × List Char} (h : p ∈ f.pieces r) :
    ∃ value, p.2 = Line.written f.separator (p.1, value) := by
  obtain ⟨q, -, rfl⟩ := List.mem_map.1 h
  exact ⟨q.2, rfl⟩

/-- Only the members of a selection matter. -/
theorem line_selecting_congr (h : ∀ name, name ∈ names ↔ name ∈ names') :
    (f.selecting names).line r = (f.selecting names').line r := by
  have hnil : names = [] ↔ names' = [] := by simp [List.eq_nil_iff_forall_not_mem, h]
  have hpairs : (f.selecting names).pairs r = (f.selecting names').pairs r := by
    by_cases hne : names = []
    · rw [hne, hnil.1 hne]
    · simp only [pairs_selecting hne, pairs_selecting (mt hnil.2 hne), h]
  simp only [line, hpairs]
  rfl

/-- A line is empty when it has no attribute, since an attribute is more than nothing. -/
theorem line_eq_empty_iff (hnewline : f.separator ≠ '\n') : f.line r = "" ↔ f.pairs r = [] := by
  rw [← String.toList_inj, line_eq_join hnewline, String.toList_empty]
  constructor
  · intro h
    match hpairs : f.pairs r with
    | [] => rfl
    | [p] =>
      rw [hpairs] at h
      exact absurd h (Line.written_ne_nil f.separator p)
    | p :: q :: ps =>
      rw [hpairs] at h
      simp [Text.join] at h
  · intro h
    rw [h]
    rfl

/-- **When a line is empty**: a selection has none of the names of a record. -/
theorem line_selecting_eq_empty_iff (hnewline : f.separator ≠ '\n') :
    (f.selecting names).line r = "" ↔
      names ≠ [] ∧ Catalog.recordNumber ∉ names ∧ ∀ field ∈ r.fields, field.name ∉ names := by
  rw [line_eq_empty_iff (f := f.selecting names) hnewline]
  by_cases hne : names = []
  · simp [hne, pairs_selecting_nil]
  · simp [hne, pairs_selecting hne, pairs_selecting_nil]

/-- **A selection is a projection.** The pieces of a line are one for the number of the record and
one for each attribute, with their names; without a selection they are all written, with one only
those whose names it has, in the same order. A selection counts as a set, and a line is empty
exactly when a selection has neither the number nor any attribute of the record. -/
theorem selection_is_projection (hf : AcceptedSeparator f.separator) (r : Record) :
    (f.pieces r).map Prod.fst = Catalog.recordNumber :: r.fields.map Field.name ∧
    (∀ p ∈ f.pieces r, ∃ value, p.2 = Line.written f.separator (p.1, value)) ∧
    ((f.selecting []).line r).toList = Text.join [f.separator] ((f.pieces r).map Prod.snd) ∧
    (∀ names, names ≠ [] → ((f.selecting names).line r).toList =
      Text.join [f.separator] (((f.pieces r).filter fun p => p.1 ∈ names).map Prod.snd)) ∧
    (∀ names names', (∀ name, name ∈ names ↔ name ∈ names') →
      (f.selecting names).line r = (f.selecting names').line r) ∧
    (∀ names, (f.selecting names).line r = "" ↔
      names ≠ [] ∧ Catalog.recordNumber ∉ names ∧ ∀ field ∈ r.fields, field.name ∉ names) ∧
    (f.selecting []).line r ≠ "" := by
  have hnewline := hf.ne_newline
  refine ⟨names_pieces, fun p => mem_pieces, line_selecting_nil hnewline,
    fun names => line_selecting hnewline, fun names names' => line_selecting_congr,
    fun names => line_selecting_eq_empty_iff hnewline, fun h => ?_⟩
  exact ((line_selecting_eq_empty_iff hnewline).1 h).1 rfl

/-- The separator stands in a name that two attributes have, and one has the name of the number. -/
theorem selection_is_projection_repeated :
    let f : LineFormat := ⟨.traffic, false, .epoch, '|', [], .universal⟩
    let r : Record := ⟨41, [⟨"a|b", .string "1", none⟩, ⟨"loc", .string "x", none⟩,
      ⟨"src", .ipAddress 16777226, some "host"⟩, ⟨"a|b", .string "2|\n", none⟩]⟩
    f.separator = '|' ∧ f.line r = "loc=42|a\\|b=1|loc=x|src=10.0.0.1|a\\|b=2\\|(+)" ∧
      ((f.selecting ["a|b", "loc"]).line r).toList =
        "loc=42|a\\|b=1|loc=x|a\\|b=2\\|(+)".toList ∧
      (f.selecting ["loc", "a|b", "loc"]).line r = (f.selecting ["a|b", "loc"]).line r ∧
      (f.selecting ["a", "dst"]).line r = "" ∧ (f.selecting []).line r ≠ "" := by
  intro f r
  have hplan : (Plan.standard .universal).check = .ok _ := rfl
  obtain ⟨-, -, -, hselected, hset, hempty, hall⟩ :=
    selection_is_projection (f := f) (.plan hplan) r
  have hrepeated : (f.selecting ["loc", "a|b", "loc"]).line r =
      (f.selecting ["a|b", "loc"]).line r := by
    refine hset _ _ fun name => ?_
    simp only [List.mem_cons, List.not_mem_nil, or_false]
    exact or_iff_right_of_imp .inr
  have hnone : (f.selecting ["a", "dst"]).line r = "" := (hempty _).2 (by decide +kernel)
  refine ⟨rfl, by decide +kernel, ?_, hrepeated, hnone, hall⟩
  rw [hselected ["a|b", "loc"] (by decide)]
  decide +kernel

end LineFormat

end LogCollector
