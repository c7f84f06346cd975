import LogCollector.Filter.Canonical
import LogCollector.Proofs.Fallible
import LogCollector.Proofs.Filter.Times
import LogCollector.Proofs.Text.Numerals

/-!
# Items of filter values

A value of a filter argument is mostly a list of items between commas. Each kind of operand has
a text (`operandText?`) which is such an item and which the reader of its argument turns into
the same operand again (`Writes`); from this follows the same for whole lists
(`listItems_intercalate`, `Writes.mapM`).
-/

namespace LogCollector.Filter

open Text

/-! ### Items and lists of items -/

/-- What can stand between two commas of a rule: a text with no blanks at its ends, and neither
the comma nor the semicolon in it. -/
structure IsItem (cs : List Char) : Prop where
  /-- There is something. -/
  nonempty : cs ≠ []
  /-- There are no blanks around it. -/
  trimmed : Trimmed cs
  /-- It does not end the item. -/
  comma : ',' ∉ cs
  /-- It does not end the condition. -/
  semicolon : ';' ∉ cs

/-- The items of a value that does not end the condition. -/
theorem isItem_of_listItems {value : List Char} {items : List (List Char)} (hv : ';' ∉ value)
    (h : listItems value = .ok items) : items ≠ [] ∧ ∀ i ∈ items, IsItem i := by
  simp only [listItems, ite_error_eq_ok_iff, Except.ok.injEq, List.any_eq_true] at h
  obtain ⟨hne, rfl⟩ := h
  refine ⟨by simpa using splitOn_ne_nil ',' value, fun i hi => ?_⟩
  obtain ⟨p, hp, rfl⟩ := List.mem_map.1 hi
  obtain ⟨hcomma, hsub⟩ := splitOn_pieces hp
  refine ⟨fun h => hne ⟨trim p, hi, by rw [h]; rfl⟩, trimmed_trim p, fun h => ?_, fun h => ?_⟩
  · exact hcomma (mem_of_mem_trim h)
  · exact hv (hsub _ (mem_of_mem_trim h))

/-- Items, joined by commas, are the items of the value. -/
theorem listItems_join {items : List (List Char)} (hne : items ≠ [])
    (h : ∀ i ∈ items, IsItem i) : listItems (join [','] items) = .ok items := by
  have hs : (splitOn ',' (join [','] items)).map trim = items := by
    rw [splitOn_join hne fun i hi => (h i hi).comma]
    exact List.map_congr_left (g := id) (fun i hi => (h i hi).trimmed.trim_eq) |>.trans
      (List.map_id items)
  simp only [listItems, ite_error_eq_ok_iff, hs, and_true]
  intro he
  obtain ⟨i, hi, hempty⟩ := List.any_eq_true.1 he
  exact (h i hi).nonempty (List.isEmpty_iff.1 hempty)

/-- An item is a list of its own. -/
theorem listItems_of_isItem {item : List Char} (h : IsItem item) : listItems item = .ok [item] :=
  listItems_join (List.cons_ne_nil item []) fun _ hi => List.mem_singleton.1 hi ▸ h

/-! ### Operands written as items -/

/-- The text of an operand is an item which a reader turns into a result. -/
def Writes {γ : Type} (read : List Char → Except SyntaxReason γ) (v : Value) (result : γ) : Prop :=
  ∃ t, operandText? v = some t ∧ IsItem t.toList ∧ read t.toList = .ok result

/-- Texts of digits and dots are items. -/
theorem isItem_of_digits {cs : List Char} (hne : cs ≠ [])
    (h : ∀ c ∈ cs, c.isDigit = true ∨ c = '.') : IsItem cs := by
  have hblank : ∀ c ∈ cs, isBlank c = false := by
    intro c hc
    obtain hd | rfl := h c hc
    · exact isBlank_of_isDigit hd
    · rfl
  have hnot : ∀ d : Char, d.isDigit = false → d ≠ '.' → d ∉ cs := by
    intro d hd hdot hmem
    obtain h | h := h d hmem
    · rw [h] at hd
      exact Bool.noConfusion hd
    · exact hdot h
  exact ⟨hne, Trimmed.of_forall hblank, hnot ',' rfl (by decide), hnot ';' rfl (by decide)⟩

/-- The texts of a number are items. -/
theorem isItem_of_spells {n : Nat} {item : List Char} (h : Numeral.Spells n item) :
    IsItem item := by
  refine ⟨h.ne_nil, Trimmed.of_forall fun c hc => ?_, h.not_mem rfl (by decide),
    h.not_mem rfl (by decide)⟩
  by_cases hplus : c = '+'
  · rw [hplus]
    rfl
  · by_cases hdigit : c.isDigit = true
    · exact isBlank_of_isDigit hdigit
    · exact absurd hc (h.not_mem (by simpa using hdigit) hplus)

/-- Dotted quads are items. -/
theorem isItem_chars (x : Net.Ipv4) : IsItem x.chars :=
  isItem_of_digits x.chars_ne_nil fun _ hc => Net.Ipv4.mem_chars hc

/-- An address is read from its dotted quad only. -/
theorem address_eq_ok_iff {item : List Char} {x : Net.Ipv4} :
    address item = .ok x ↔ item = x.chars := by
  rw [← Net.Ipv4.parse?_eq_some_iff, address]
  cases Net.Ipv4.parse? item with
  | none => simp
  | some y => simp

/-- A mask is read from its dotted quad, or from any text of the number of its leading bits. -/
theorem mask_eq_ok_iff {item : List Char} {x : Net.Ipv4} : mask item = .ok x ↔
    item = x.chars ∨ ∃ bits ≤ 32, Numeral.Spells bits item ∧ x = .mask bits := by
  by_cases hdot : '.' ∈ item
  · rw [mask, if_pos hdot, address_eq_ok_iff]
    refine ⟨.inl, fun h => h.resolve_right ?_⟩
    rintro ⟨bits, -, hspells, -⟩
    exact hspells.not_mem rfl (by decide) hdot
  · have hquad : item ≠ x.chars := by
      rintro rfl
      exact hdot x.dot_mem_chars
    rw [mask, if_neg hdot, or_iff_right hquad]
    constructor
    · intro h
      split at h
      · rename_i bits hbits
        obtain ⟨hspells, hle⟩ := Numeral.natural?_eq_some_iff.1 hbits
        exact ⟨bits, hle, hspells, (Except.ok.inj h).symm⟩
      · cases h
    · rintro ⟨bits, hle, hspells, rfl⟩
      rw [Numeral.natural?_eq_some_iff.2 ⟨hspells, hle⟩]

/-- An allowed word is written as itself. -/
theorem writes_checkedWord {what word : String} {allowed : List String} {item : List Char}
    (hi : IsItem item) (h : checkedWord what allowed item = .ok word) :
    Writes (checkedWord what allowed) (.string word) word := by
  have hw := h
  simp only [checkedWord] at hw
  split at hw
  · obtain rfl : String.ofList item = word := Except.ok.inj hw
    refine ⟨_, rfl, ?_, ?_⟩
    · rwa [String.toList_ofList]
    · rwa [String.toList_ofList]
  · cases hw

/-- A text in which no character ends anything is an item. -/
theorem isItem_of_plain {cs : List Char} (hne : cs ≠ [])
    (h : cs.all fun c => !isBlank c && c != ',' && c != ';') : IsItem cs := by
  have hplain : ∀ c ∈ cs, isBlank c = false ∧ c ≠ ',' ∧ c ≠ ';' := by
    intro c hc
    simpa [and_assoc] using List.all_eq_true.1 h c hc
  refine ⟨hne, Trimmed.of_forall fun c hc => (hplain c hc).1, ?_, ?_⟩
  · exact fun hc => (hplain _ hc).2.1 rfl
  · exact fun hc => (hplain _ hc).2.2 rfl

/-- Whether every code of a table has its own word, which is an item. -/
def Faithful (table : List (String × UInt8)) : Prop :=
  ∀ entry ∈ table, wordOf? table entry.2 = some entry.1 ∧ table.lookup entry.1 = some entry.2 ∧
    entry.1.toList ≠ [] ∧ entry.1.toList.all fun c => !isBlank c && c != ',' && c != ';'

theorem faithful_actionCodes : Faithful actionCodes := by
  unfold Faithful
  decide

theorem faithful_protocolNumbers : Faithful protocolNumbers := by
  unfold Faithful
  decide

/-- The code of a word stands beside it in the table. -/
theorem mem_of_codeOf {what : String} {table : List (String × UInt8)} {item : List Char}
    {code : UInt8} (h : codeOf what table item = .ok code) :
    (String.ofList item, code) ∈ table := by
  simp only [codeOf] at h
  split at h
  · rename_i c hc
    obtain rfl : c = code := Except.ok.inj h
    obtain ⟨before, after, rfl, -⟩ := List.lookup_eq_some_iff.1 hc
    simp
  · cases h

/-- A code of a faithful table is written as its word. -/
theorem writes_codeOf {what : String} {table : List (String × UInt8)} (ht : Faithful table)
    {item : List Char} {code : UInt8} (h : codeOf what table item = .ok code) {v : Value}
    (hv : operandText? v = wordOf? table code) : Writes (codeOf what table) v code := by
  obtain ⟨hword, hcode, hne, hchars⟩ := ht _ (mem_of_codeOf h)
  refine ⟨String.ofList item, by rw [hv, hword], isItem_of_plain hne hchars, ?_⟩
  simp only [codeOf, String.ofList_toList, hcode]

/-- An address is written as its dotted quad. -/
theorem writes_address (x : Net.Ipv4) : Writes address (.ofAddress x) x := by
  refine ⟨x.text, ?_, ?_, ?_⟩
  · rw [Value.ofAddress, operandText?, Net.Ipv4.ofWire_toWire]
  · rw [Net.Ipv4.text, String.toList_ofList]
    exact isItem_chars x
  · rw [Net.Ipv4.text, String.toList_ofList, address_eq_ok_iff]

/-- A number is read from each of its texts, blanks around it apart. -/
theorem number_eq_ok_iff {max n : Nat} {what : String} {item : List Char} :
    number max what item = .ok n ↔ Numeral.Spells n (trim item) ∧ n ≤ max := by
  rw [← Numeral.natural?_eq_some_iff, number]
  cases Numeral.natural? max (trim item) with
  | none => simp
  | some m => simp

/-- The numbers of a range are within its bound. -/
theorem le_of_mem_range {max n : Nat} {what : String} {item : List Char} {ns : List Nat}
    (h : range max what item = .ok ns) (hn : n ∈ ns) : n ≤ max := by
  unfold range at h
  split at h
  · obtain ⟨k, hk, h⟩ := bind_eq_ok_iff.1 h
    obtain rfl : [k] = ns := Except.ok.inj h
    rw [List.mem_singleton.1 hn]
    exact (number_eq_ok_iff.1 hk).2
  · obtain ⟨first, -, h⟩ := bind_eq_ok_iff.1 h
    obtain ⟨last, hlast, h⟩ := bind_eq_ok_iff.1 h
    have hle := (number_eq_ok_iff.1 hlast).2
    split at h
    · obtain rfl : [] = ns := Except.ok.inj h
      cases hn
    · rename_i horder
      rw [ite_error_eq_ok_iff] at h
      obtain rfl := Except.ok.inj h.2
      have := List.mem_range'_1.1 hn
      omega

/-- A number within the bound is written as the range of this number alone. -/
theorem writes_range {max n : Nat} (hn : n ≤ max) (what : String) {v : Value}
    (hv : operandText? v = some (Numeral.text n)) : Writes (range max what) v [n] := by
  have hcut : cut? '-' (Numeral.ofNat n) = none :=
    cut?_eq_none_iff.2 (Numeral.not_mem_ofNat (by decide) n)
  have hnumber : number max what (Numeral.ofNat n) = .ok n := by
    simp only [number, (Numeral.trimmed_ofNat n).trim_eq, Numeral.natural?_ofNat hn]
  refine ⟨_, hv, ?_, ?_⟩
  · rw [Numeral.text, String.toList_ofList]
    exact isItem_of_digits (Numeral.ofNat_ne_nil n) fun c hc =>
      .inl (Numeral.isDigit_of_mem_ofNat hc)
  · rw [Numeral.text, String.toList_ofList, range, hcut]
    simp only [hnumber]
    rfl

/-! ### Lists of operands -/

/-- Operands that are written as items have texts which are items, and which their reader turns
into the results again. -/
theorem Writes.texts {γ : Type} {read : List Char → Except SyntaxReason γ} {vs : List Value}
    {results : List γ} (h : List.Forall₂ (Writes read) vs results) :
    ∃ texts : List String, vs.mapM operandText? = some texts ∧ texts.length = vs.length ∧
      (∀ t ∈ texts, IsItem t.toList) ∧ (texts.map String.toList).mapM read = .ok results := by
  induction h with
  | nil => exact ⟨[], rfl, rfl, by simp, rfl⟩
  | cons hw _ ih =>
    obtain ⟨t, ht, hitem, hread⟩ := hw
    obtain ⟨ts, hts, hlen, hitems, hreads⟩ := ih
    refine ⟨t :: ts, ?_, ?_, ?_, ?_⟩
    · rw [List.mapM_cons, ht, hts]
      rfl
    · rw [List.length_cons, List.length_cons, hlen]
    · intro s hs
      cases hs with
      | head => exact hitem
      | tail _ hs => exact hitems s hs
    · rw [List.map_cons, List.mapM_cons, hread, hreads]
      rfl

/-- Operands that are written as items are written as a list of items. -/
theorem Writes.list {γ : Type} {read : List Char → Except SyntaxReason γ} {vs : List Value}
    {results : List γ} (hne : vs ≠ []) (h : List.Forall₂ (Writes read) vs results) :
    ∃ texts : List String, vs.mapM operandText? = some texts ∧
      Trimmed (",".intercalate texts).toList ∧ ';' ∉ (",".intercalate texts).toList ∧
      listItems (",".intercalate texts).toList = .ok (texts.map String.toList) ∧
      (texts.map String.toList).mapM read = .ok results := by
  obtain ⟨texts, htexts, hlen, hitems, hreads⟩ := Writes.texts h
  have hne' : texts.map String.toList ≠ [] := by
    intro he
    rw [List.map_eq_nil_iff] at he
    rw [he] at hlen
    exact hne (List.length_eq_zero_iff.1 hlen.symm)
  have hitems' : ∀ i ∈ texts.map String.toList, IsItem i := by
    intro i hi
    obtain ⟨t, ht, rfl⟩ := List.mem_map.1 hi
    exact hitems t ht
  have hcomma : (",".intercalate texts).toList = join [','] (texts.map String.toList) :=
    toList_intercalate "," texts
  refine ⟨texts, htexts, ?_, ?_, ?_, hreads⟩
  · rw [hcomma]
    exact Trimmed.join (fun i hi => ⟨(hitems' i hi).nonempty, (hitems' i hi).trimmed⟩) [',']
  · rw [hcomma]
    intro hmem
    obtain h | ⟨i, hi, h⟩ := mem_join hmem
    · exact absurd (List.mem_singleton.1 h) (by decide)
    · exact (hitems' i hi).semicolon h
  · rw [hcomma]
    exact listItems_join hne' hitems'

end LogCollector.Filter
