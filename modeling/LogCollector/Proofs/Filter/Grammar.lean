import LogCollector.Proofs.Filter.Arguments

/-!
# The forms of the values

What may stand behind the `=` of a condition, argument by argument (`Fits`): a list of pieces
between commas, each of a form of its own (`ListOf`), a network, or a time. The forms say
what the texts look like and mention no reader. For each of them there is a statement that its
reader accepts exactly the texts of the form; together they say that the operands of an argument
are found exactly when its value fits (`succeeds_operands_iff`).
-/

namespace LogCollector.Filter

open Text

variable {zone : Calendar.Zone} {kind : RecordKind} {value : List Char}

/-! ### Lists -/

/-- Pieces between commas, one at least, that have a form when the blanks around them are left
out. -/
def ListOf (Form : List Char → Prop) (value : List Char) : Prop :=
  ∃ pieces, pieces ≠ [] ∧ (∀ piece ∈ pieces, ',' ∉ piece ∧ Form (trim piece)) ∧
    value = join [','] pieces

/-- The pieces of a list are those between its commas. -/
theorem listOf_iff {Form : List Char → Prop} :
    ListOf Form value ↔ ∀ piece ∈ splitOn ',' value, Form (trim piece) := by
  constructor
  · rintro ⟨pieces, hne, hpieces, rfl⟩
    rw [splitOn_join hne fun piece hpiece => (hpieces piece hpiece).1]
    exact fun piece hpiece => (hpieces piece hpiece).2
  · intro h
    refine ⟨splitOn ',' value, splitOn_ne_nil ',' value, fun piece hpiece => ?_,
      (join_splitOn ',' value).symm⟩
    exact ⟨(splitOn_pieces hpiece).1, h piece hpiece⟩

/-- The items of a value are its trimmed pieces, none of which is empty. -/
theorem listItems_eq_ok_iff {items : List (List Char)} : listItems value = .ok items ↔
    ListOf (· ≠ []) value ∧ items = (splitOn ',' value).map trim := by
  simp only [listItems, ite_error_eq_ok_iff, Except.ok.injEq, List.any_map, List.any_eq_true,
    Function.comp_apply, List.isEmpty_iff, not_exists, not_and, listOf_iff]
  exact and_congr_right fun _ => eq_comm

/-- A list is read item by item when each of its pieces has the form that its reader accepts. -/
theorem succeeds_items_iff {γ : Type} {read : List Char → Except SyntaxReason γ}
    {Form : List Char → Prop}
    (hform : ∀ item, Trimmed item → (item ≠ [] ∧ Succeeds (read item) ↔ Form item)) :
    Succeeds (listItems value >>= fun items => items.mapM read) ↔ ListOf Form value := by
  have hpieces : Succeeds (listItems value >>= fun items => items.mapM read) ↔
      ∀ piece ∈ splitOn ',' value, trim piece ≠ [] ∧ Succeeds (read (trim piece)) := by
    simp only [succeeds_bind_iff, listItems_eq_ok_iff, succeeds_mapM_iff, listOf_iff]
    constructor
    · rintro ⟨items, ⟨hne, rfl⟩, hread⟩ piece hpiece
      exact ⟨hne piece hpiece, hread _ (List.mem_map_of_mem hpiece)⟩
    · intro h
      refine ⟨_, ⟨fun piece hpiece => (h piece hpiece).1, rfl⟩, fun item hitem => ?_⟩
      obtain ⟨piece, hpiece, rfl⟩ := List.mem_map.1 hitem
      exact (h piece hpiece).2
  rw [hpieces, listOf_iff]
  exact forall₂_congr fun piece _ => hform _ (trimmed_trim piece)

/-- What is read is not empty when the form does not allow it. -/
theorem succeeds_item_iff {γ : Type} {read : Except SyntaxReason γ} {Form : List Char → Prop}
    {item : List Char} (hne : Form item → item ≠ []) (hread : Succeeds read ↔ Form item) :
    item ≠ [] ∧ Succeeds read ↔ Form item := by
  rw [hread]
  exact and_iff_right_of_imp hne

/-! ### Words -/

/-- One of some words. -/
def IsWordOf (words : List String) (item : List Char) : Prop := String.ofList item ∈ words

theorem succeeds_checkedWord_iff {what : String} {words : List String} {item : List Char} :
    Succeeds (checkedWord what words item) ↔ IsWordOf words item := by
  simp only [checkedWord, IsWordOf]
  split
  · rename_i hword
    exact iff_of_true (succeeds_ok _) hword
  · rename_i hword
    exact iff_of_false (not_succeeds_error _) hword

theorem succeeds_codeOf_iff {what : String} {table : List (String × UInt8)} {item : List Char} :
    Succeeds (codeOf what table item) ↔ IsWordOf (table.map Prod.fst) item := by
  simp only [codeOf, IsWordOf]
  split
  · rename_i code hcode
    obtain ⟨before, after, rfl, -⟩ := List.lookup_eq_some_iff.1 hcode
    exact iff_of_true (succeeds_ok _) (by simp)
  · rename_i hnone
    refine iff_of_false (not_succeeds_error _) fun h => ?_
    obtain ⟨entry, hentry, hword⟩ := List.mem_map.1 h
    have hother := List.lookup_eq_none_iff.1 hnone entry hentry
    rw [hword] at hother
    simp at hother

/-- A word is not empty when no word of the table is. -/
theorem IsWordOf.ne_nil {words : List String} (h : "" ∉ words) {item : List Char}
    (hi : IsWordOf words item) : item ≠ [] := by
  rintro rfl
  exact h hi

/-! ### Addresses -/

/-- A dotted quad. -/
def IsQuad (item : List Char) : Prop := ∃ x : Net.Ipv4, item = x.chars

/-- A network mask: a dotted quad or a number of leading bits. -/
def IsMask (item : List Char) : Prop := IsQuad item ∨ ∃ bits ≤ 32, Numeral.Spells bits item

/-- An address and a mask around a slash, without a comma. -/
def IsNetwork (value : List Char) : Prop :=
  ',' ∉ value ∧ ∃ network mask, value = network ++ '/' :: mask ∧ IsQuad (trim network) ∧
    IsMask (trim mask)

theorem IsQuad.ne_nil {item : List Char} (h : IsQuad item) : item ≠ [] := by
  obtain ⟨x, rfl⟩ := h
  exact x.chars_ne_nil

theorem IsMask.ne_nil {item : List Char} (h : IsMask item) : item ≠ [] := by
  obtain h | ⟨bits, -, h⟩ := h
  · exact h.ne_nil
  · exact h.ne_nil

theorem IsQuad.slash_not_mem {item : List Char} (h : IsQuad item) : '/' ∉ item := by
  obtain ⟨x, rfl⟩ := h
  exact Net.Ipv4.not_mem_chars rfl (by decide) x

theorem IsMask.slash_not_mem {item : List Char} (h : IsMask item) : '/' ∉ item := by
  obtain h | ⟨bits, -, h⟩ := h
  · exact h.slash_not_mem
  · exact h.not_mem rfl (by decide)

theorem succeeds_address_iff {item : List Char} : Succeeds (address item) ↔ IsQuad item := by
  simp only [Succeeds, address_eq_ok_iff, IsQuad]

theorem succeeds_mask_iff {item : List Char} : Succeeds (mask item) ↔ IsMask item := by
  simp only [Succeeds, mask_eq_ok_iff, IsMask, IsQuad, exists_or]
  refine or_congr_right ⟨?_, ?_⟩
  · rintro ⟨-, bits, hle, hspells, -⟩
    exact ⟨bits, hle, hspells⟩
  · rintro ⟨bits, hle, hspells⟩
    exact ⟨.mask bits, bits, hle, hspells, rfl⟩

/-- What stands around the first slash is read as a network when it is one. -/
theorem succeeds_addressSpec_of_slash {before after : List Char} (hb : '/' ∉ before) :
    Succeeds (addressSpec (before ++ '/' :: after)) ↔ IsNetwork (before ++ '/' :: after) := by
  have hslash : '/' ∈ before ++ '/' :: after := by simp
  rw [addressSpec, cut?_append hb]
  by_cases hcomma : ',' ∈ before ++ '/' :: after
  · rw [if_pos ⟨hcomma, hslash⟩]
    exact iff_of_false (not_succeeds_error _) fun h => h.1 hcomma
  · rw [if_neg fun h => hcomma h.1]
    constructor
    · rintro ⟨spec, h⟩
      rw [ite_error_eq_ok_iff] at h
      obtain ⟨network, hnetwork, h⟩ := bind_eq_ok_iff.1 h.2
      obtain ⟨bits, hbits, -⟩ := bind_eq_ok_iff.1 h
      exact ⟨hcomma, before, after, rfl, succeeds_address_iff.1 ⟨network, hnetwork⟩,
        succeeds_mask_iff.1 ⟨bits, hbits⟩⟩
    · rintro ⟨-, network, bits, he, hnetwork, hbits⟩
      -- The address holds no slash, so that both cuts are made at the same one.
      have hn : '/' ∉ network := fun h => hnetwork.slash_not_mem (mem_trim_of_mem rfl h)
      have hcut := cut?_append hn bits
      rw [← he, cut?_append hb, Option.some.injEq, Prod.mk.injEq] at hcut
      obtain ⟨rfl, rfl⟩ := hcut
      obtain ⟨x, hx⟩ := succeeds_address_iff.2 hnetwork
      obtain ⟨y, hy⟩ := succeeds_mask_iff.2 hbits
      simp only [hx, hy]
      rw [if_neg (by simp [hnetwork.ne_nil, hbits.ne_nil, hbits.slash_not_mem])]
      exact ⟨_, rfl⟩

/-- The addresses that an argument may ask for: a list of dotted quads, or a network. -/
theorem succeeds_addressSpec_iff : Succeeds (addressSpec value) ↔
    ('/' ∉ value ∧ ListOf IsQuad value) ∨ IsNetwork value := by
  by_cases hslash : '/' ∈ value
  · obtain ⟨before, after, hcut⟩ : ∃ before after, cut? '/' value = some (before, after) := by
      cases hcut : cut? '/' value with
      | none => exact absurd hslash (cut?_eq_none_iff.1 hcut)
      | some parts => exact ⟨parts.1, parts.2, rfl⟩
    obtain ⟨rfl, hb⟩ := cut?_eq_some_iff.1 hcut
    rw [succeeds_addressSpec_of_slash hb]
    exact ⟨.inr, fun h => h.resolve_left fun h => h.1 hslash⟩
  · have hnone : ¬ IsNetwork value := by
      rintro ⟨-, network, bits, rfl, -, -⟩
      exact hslash (by simp)
    have hlist : Succeeds (addressSpec value) ↔
        Succeeds (listItems value >>= fun items => items.mapM address) := by
      rw [addressSpec, if_neg fun h => hslash h.2, cut?_eq_none_iff.2 hslash]
      rw [succeeds_bind_iff, succeeds_bind_iff]
      exact exists_congr fun items => and_congr_right fun _ =>
        succeeds_bind_of_forall fun _ => succeeds_ok _
    rw [hlist,
      succeeds_items_iff fun item _ => succeeds_item_iff IsQuad.ne_nil succeeds_address_iff]
    exact ⟨fun h => .inl ⟨hslash, h⟩, fun h => (h.resolve_right hnone).2⟩

/-! ### Ranges -/

/-- A number up to a bound, or two of them around a dash. From the first one to the last one
there are at most `maxRange` numbers; a range whose end lies before its start is as good. -/
inductive IsRange (max : Nat) : List Char → Prop where
  /-- A number alone. -/
  | alone {n : Nat} {item : List Char} : Numeral.Spells n item → n ≤ max → IsRange max item
  /-- Two numbers. -/
  | between {first last : Nat} {before after : List Char} :
      Numeral.Spells first (trim before) → Numeral.Spells last (trim after) →
      first ≤ max → last ≤ max → (first ≤ last → last - first + 1 ≤ maxRange) →
      IsRange max (before ++ '-' :: after)

theorem IsRange.ne_nil {max : Nat} {item : List Char} (h : IsRange max item) : item ≠ [] := by
  cases h with
  | alone h _ => exact h.ne_nil
  | between => simp

/-- Two numbers around a dash are read as a range that is not too long. -/
theorem succeeds_range_between {max : Nat} {what : String} {item before after : List Char}
    (hcut : cut? '-' item = some (before, after)) :
    Succeeds (range max what item) ↔ ∃ first last,
      (Numeral.Spells first (trim before) ∧ first ≤ max) ∧
        (Numeral.Spells last (trim after) ∧ last ≤ max) ∧
        (first ≤ last → last - first + 1 ≤ maxRange) := by
  simp only [range, hcut, succeeds_bind_iff, number_eq_ok_iff]
  constructor
  · rintro ⟨first, hfirst, last, hlast, ns, hns⟩
    refine ⟨first, last, hfirst, hlast, fun hle => ?_⟩
    rw [if_neg (Nat.not_lt.2 hle), ite_error_eq_ok_iff] at hns
    exact Nat.not_lt.1 hns.1
  · rintro ⟨first, last, hfirst, hlast, hlong⟩
    refine ⟨first, hfirst, last, hlast, ?_⟩
    by_cases hle : first ≤ last
    · rw [if_neg (Nat.not_lt.2 hle), if_neg (Nat.not_lt.2 (hlong hle))]
      exact ⟨_, rfl⟩
    · rw [if_pos (Nat.not_le.1 hle)]
      exact ⟨_, rfl⟩

/-- A range is read when it is one. -/
theorem succeeds_range_iff {max : Nat} {what : String} {item : List Char} (ht : Trimmed item) :
    Succeeds (range max what item) ↔ IsRange max item := by
  cases hcut : cut? '-' item with
  | some parts =>
    obtain ⟨before, after⟩ := parts
    rw [succeeds_range_between hcut]
    obtain ⟨rfl, -⟩ := cut?_eq_some_iff.1 hcut
    constructor
    · rintro ⟨first, last, ⟨hf, hfm⟩, ⟨hl, hlm⟩, hlong⟩
      exact .between hf hl hfm hlm hlong
    · intro h
      generalize he : before ++ '-' :: after = whole at h
      cases h with
      | alone h _ => exact absurd (he ▸ by simp) (h.not_mem (c := '-') rfl (by decide))
      | between hf hl hfm hlm hlong =>
        rename_i first last before' after'
        -- The first number holds no dash, so that both cuts are made at the same one.
        have hb' : '-' ∉ before' := fun h => hf.not_mem rfl (by decide) (mem_trim_of_mem rfl h)
        have hcut' := cut?_append hb' after'
        rw [← he, hcut, Option.some.injEq, Prod.mk.injEq] at hcut'
        obtain ⟨rfl, rfl⟩ := hcut'
        exact ⟨first, last, ⟨hf, hfm⟩, ⟨hl, hlm⟩, hlong⟩
  | none =>
    rw [range, hcut]
    simp only [succeeds_bind_iff, number_eq_ok_iff, ht.trim_eq]
    constructor
    · rintro ⟨n, ⟨hn, hmax⟩, -⟩
      exact .alone hn hmax
    · intro h
      cases h with
      | alone hn hmax => exact ⟨_, ⟨hn, hmax⟩, _, rfl⟩
      | between => simp [cut?_eq_none_iff] at hcut

/-! ### Times -/

/-- Fourteen digits that name a date and a time of day which local clocks reach. -/
def IsTime (zone : Calendar.Zone) (value : List Char) : Prop :=
  value.length = 14 ∧ (∀ c ∈ value, c.isDigit = true) ∧ (readingOf value).Valid ∧
    zone.Reaches (readingOf value).seconds

theorem succeeds_localTime_iff : Succeeds (localTime zone value) ↔ IsTime zone value := by
  simp only [Succeeds, localTime_eq_ok_iff, IsTime, ← Calendar.Zone.exists_instantOf?_iff,
    exists_and_left]

/-! ### Every argument -/

/-- The values that fit an argument. -/
def Fits (zone : Calendar.Zone) (kind : RecordKind) (value : List Char) : ArgumentName → Prop
  | .product => ListOf (IsWordOf (products kind)) value
  | .fwSubproduct | .administrator => ListOf (· ≠ []) value
  | .action => ListOf (IsWordOf (actionCodes.map Prod.fst)) value
  | .proto => ListOf (IsWordOf (protocolNumbers.map Prod.fst)) value
  | .orig => ListOf IsQuad value
  | .src | .dst => ('/' ∉ value ∧ ListOf IsQuad value) ∨ IsNetwork value
  | .rule => ListOf (IsRange (UInt32.size - 1)) value
  | .service => ListOf (IsRange (UInt16.size - 1)) value
  | .startTime | .endTime => IsTime zone value

/-- The words of the tables are not empty. -/
theorem empty_not_mem_words : (∀ kind, "" ∉ products kind) ∧
    "" ∉ actionCodes.map Prod.fst ∧ "" ∉ protocolNumbers.map Prod.fst := by
  refine ⟨fun kind => ?_, by decide, by decide⟩
  cases kind <;> decide

/-- An argument whose value is a list with a reader for its items. -/
theorem succeeds_listed_iff {γ δ : Type} {read : List Char → Except SyntaxReason γ}
    {Form : List Char → Prop} (make : List γ → δ)
    (hform : ∀ item, Trimmed item → (item ≠ [] ∧ Succeeds (read item) ↔ Form item)) :
    Succeeds (do
      let results ← (← listItems value).mapM read
      return make results) ↔ ListOf Form value := by
  rw [← succeeds_items_iff hform, ← succeeds_bind_of_forall (x := listItems value >>= _)
    fun results => succeeds_ok (make results), bind_assoc]
  rfl

/-- **The values that are accepted**: the operands of an argument are found exactly when its
value fits. -/
theorem succeeds_operands_iff (name : ArgumentName) :
    Succeeds (operands zone kind value name) ↔ Fits zone kind value name := by
  obtain ⟨hproducts, hactions, hprotocols⟩ := empty_not_mem_words
  have hquad : ∀ item, Trimmed item → (item ≠ [] ∧ Succeeds (address item) ↔ IsQuad item) :=
    fun item _ => succeeds_item_iff IsQuad.ne_nil succeeds_address_iff
  have hrange : ∀ max what item, Trimmed item →
      (item ≠ [] ∧ Succeeds (range max what item) ↔ IsRange max item) :=
    fun max what item ht => succeeds_item_iff IsRange.ne_nil (succeeds_range_iff ht)
  have htexts : ∀ make : List (List Char) → Comparison × List Value,
      Succeeds (do return make (← listItems value)) ↔ ListOf (· ≠ []) value := by
    intro make
    refine (succeeds_bind_of_forall fun items => succeeds_ok (make items)).trans ?_
    simp only [Succeeds, listItems_eq_ok_iff, exists_and_left, exists_eq, and_true]
  have htime : ∀ make : Int → Comparison × List Value,
      Succeeds (do return make (← localTime zone value)) ↔ IsTime zone value := by
    intro make
    exact (succeeds_bind_of_forall fun t => succeeds_ok (make t)).trans succeeds_localTime_iff
  -- Both forms that an address argument may take have operands.
  have haddresses : ∀ make : AddressSpec → Except SyntaxReason (Comparison × List Value),
      (∀ spec, Succeeds (make spec)) → (Succeeds (addressSpec value >>= make) ↔
        ('/' ∉ value ∧ ListOf IsQuad value) ∨ IsNetwork value) := by
    intro make hmake
    exact (succeeds_bind_of_forall hmake).trans succeeds_addressSpec_iff
  cases name with
  | product =>
    exact succeeds_listed_iff _ fun item _ =>
      succeeds_item_iff (IsWordOf.ne_nil (hproducts kind)) succeeds_checkedWord_iff
  | fwSubproduct => exact htexts _
  | administrator => exact htexts _
  | action =>
    exact succeeds_listed_iff _ fun item _ =>
      succeeds_item_iff (IsWordOf.ne_nil hactions) succeeds_codeOf_iff
  | orig => exact succeeds_listed_iff _ hquad
  | src => exact haddresses _ fun spec => by cases spec <;> exact ⟨_, rfl⟩
  | dst => exact haddresses _ fun spec => by cases spec <;> exact ⟨_, rfl⟩
  | proto =>
    exact succeeds_listed_iff _ fun item _ =>
      succeeds_item_iff (IsWordOf.ne_nil hprotocols) succeeds_codeOf_iff
  | rule => exact succeeds_listed_iff _ (hrange _ _)
  | service => exact succeeds_listed_iff _ (hrange _ _)
  | startTime => exact htime _
  | endTime => exact htime _

end LogCollector.Filter
