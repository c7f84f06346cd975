import LogCollector.Proofs.Filter.Grammar
import LogCollector.Proofs.Text.Padding
import LogCollector.Proofs.Text.Splicing

/-!
# Blanks in the values of arguments

What the value of an argument stands for does not depend on the blanks around its items, around the
slash of a network, or around the dash of a range. Blanks around an item keep the operands of every
argument (`SameValue`). Those around a dash keep the numbers of each range (`agree_ranges`); only a
fault quotes the text of the range.
-/

namespace LogCollector.Filter

open Text

variable {zone : Calendar.Zone} {kind : RecordKind} {v v' x x' y y' a b : List Char}

/-! ### Items -/

/-- The pieces of a value between its commas, without the blanks around them. -/
def items (v : List Char) : List (List Char) := (splitOn ',' v).map trim

theorem items_join {ps : List (List Char)} (h : ps ≠ []) :
    items (join [','] ps) = ps.flatMap items := by
  rw [items, splitOn_join_flatMap h, List.map_flatMap]
  rfl

/-- Something in the middle of a value belongs to one of its items, and the others do not change
with it. -/
theorem items_around (x y : List Char) : ∃ before l r after, ∀ m, ',' ∉ m →
    items (x ++ m ++ y) = before ++ trim (l ++ m ++ r) :: after := by
  obtain ⟨before, l, hx⟩ := exists_last_piece ',' x
  obtain ⟨r, after, hy⟩ := List.exists_cons_of_ne_nil (splitOn_ne_nil ',' y)
  refine ⟨before.map trim, l, r, after.map trim, fun m hm => ?_⟩
  rw [items, splitOn_around hx hm hy, List.map_append, List.map_cons]

/-- The blanks at the ends of a value belong to its first and its last item. -/
theorem items_padded (ha : allBlank a = true) (hb : allBlank b = true) (v : List Char) :
    items (a ++ v ++ b) = items v := by
  have hfront : items (a ++ v) = items v := by
    obtain ⟨r, after, hv⟩ := List.exists_cons_of_ne_nil (splitOn_ne_nil ',' v)
    rw [items, items, hv, splitOn_append_left (not_mem_of_allBlank ha rfl) hv, List.map_cons,
      List.map_cons, trim_append_left ha]
  rw [← hfront]
  obtain ⟨before, l, hv⟩ := exists_last_piece ',' (a ++ v)
  have hback : splitOn ',' (a ++ v ++ b) = before ++ [l ++ b] := by
    have haround := splitOn_around hv (not_mem_of_allBlank hb rfl) (y := []) rfl
    rwa [List.append_nil, List.append_nil] at haround
  rw [items, items, hv, hback, List.map_append, List.map_append, List.map_singleton,
    List.map_singleton, trim_append_right hb]

theorem items_trim (v : List Char) : items (trim v) = items v := by
  obtain ⟨a, b, ha, hb, hv⟩ := exists_padded v
  exact (items_padded ha hb (trim v)).symm.trans (congrArg items hv.symm)

/-- A list is read when none of its items is empty. -/
theorem listItems_trim (v : List Char) : listItems (trim v) =
    if (items v).any (·.isEmpty) then .error .emptyItem else .ok (items v) := by
  rw [← items_trim]
  rfl

/-- Two values with the same items, which are the same texts or lists that both hold a slash or
neither. -/
structure SameValue (v v' : List Char) : Prop where
  /-- The items are the same. -/
  items : items v = items v'
  /-- The whole values. -/
  whole : trim v = trim v' ∨ ',' ∈ v ∧ ',' ∈ v' ∧ ('/' ∈ v ↔ '/' ∈ v')

theorem addressSpec_of_comma (h : ',' ∈ v) : addressSpec v =
    if '/' ∈ v then .error .listOfNetworks
    else do return .list (← (← listItems v).mapM address) := by
  unfold addressSpec
  by_cases hslash : '/' ∈ v
  · rw [if_pos ⟨h, hslash⟩, if_pos hslash]
  · rw [if_neg fun hboth => hslash hboth.2, if_neg hslash, cut?_eq_none_iff.2 hslash]

theorem localTime_of_comma (h : ',' ∈ v) : localTime zone v = .error .badTime := by
  refine if_pos (.inr fun hall => ?_)
  exact absurd (List.all_eq_true.1 hall ',' h) (by decide)

/-- The same value has the same operands. -/
theorem SameValue.operands_eq (h : SameValue v v') (name : ArgumentName) :
    operands zone kind (trim v) name = operands zone kind (trim v') name := by
  have hlist : listItems (trim v) = listItems (trim v') := by
    rw [listItems_trim, listItems_trim, h.items]
  obtain htrim | ⟨hv, hv', hslash⟩ := h.whole
  · rw [htrim]
  · have hcomma := mem_trim_of_mem (c := ',') rfl hv
    have hcomma' := mem_trim_of_mem (c := ',') rfl hv'
    have hslashes : '/' ∈ trim v ↔ '/' ∈ trim v' := by
      rw [mem_trim_iff rfl, mem_trim_iff rfl, hslash]
    have hspec : addressSpec (trim v) = addressSpec (trim v') := by
      rw [addressSpec_of_comma hcomma, addressSpec_of_comma hcomma', hlist]
      exact if_congr hslashes rfl rfl
    have htime : localTime zone (trim v) = localTime zone (trim v') := by
      rw [localTime_of_comma hcomma, localTime_of_comma hcomma']
    cases name <;> simp only [operands, hlist, hspec, htime]

/-- Blanks around an item do not change a value. -/
theorem sameValue_item (ha : allBlank a = true) (hb : allBlank b = true) (item : List Char)
    (before after : List (List Char)) : SameValue (join [','] (before ++ item :: after))
      (join [','] (before ++ (a ++ item ++ b) :: after)) where
  items := by
    have hne : ∀ m : List Char, before ++ m :: after ≠ [] := fun m =>
      List.append_ne_nil_of_right_ne_nil _ (List.cons_ne_nil m after)
    rw [items_join (hne item), items_join (hne _), List.flatMap_append, List.flatMap_append,
      List.flatMap_cons, List.flatMap_cons, items_padded ha hb]
  whole := by
    obtain ⟨x, y, hjoin, hempty | hcomma⟩ := exists_join_around ',' before after
    · obtain ⟨rfl, rfl⟩ := List.append_eq_nil_iff.1 hempty
      refine .inl ?_
      rw [hjoin, hjoin, List.nil_append, List.nil_append, List.append_nil, List.append_nil]
      exact (trim_padded ha hb item).symm
    · rw [hjoin, hjoin]
      have ha' := not_mem_of_allBlank (c := '/') ha rfl
      have hb' := not_mem_of_allBlank (c := '/') hb rfl
      simp only [List.mem_append] at hcomma ⊢
      refine .inr ⟨?_, ?_, ?_⟩ <;> tauto

/-! ### Networks -/

/-- Texts that are the same but for the blanks around them have the same other characters. -/
theorem mem_congr_of_trim {c : Char} (hc : isBlank c = false) (h : trim x = trim x') :
    c ∈ x ↔ c ∈ x' := by
  rw [← mem_trim_iff hc, h, mem_trim_iff hc]

/-- There is no network with two slashes. -/
theorem addressSpec_of_slashes (hslash : '/' ∈ x) (hcomma : ',' ∉ x ++ '/' :: y) :
    addressSpec (x ++ '/' :: y) = .error .badNetwork := by
  obtain ⟨network, bits, hcut, hbits⟩ := cut?_of_mem hslash y
  have hcontains : (trim bits).contains '/' = true := by
    rw [List.contains_iff_mem, mem_trim_iff rfl]
    exact hbits
  rw [addressSpec, if_neg fun hboth => hcomma hboth.1, hcut]
  exact if_pos (by rw [hcontains, Bool.or_true])

/-- Blanks around a slash do not change what addresses a value asks for. -/
theorem addressSpec_congr (hx : trim x = trim x') (hy : trim y = trim y') :
    addressSpec (x ++ '/' :: y) = addressSpec (x' ++ '/' :: y') := by
  have hcommas : ',' ∈ x ++ '/' :: y ↔ ',' ∈ x' ++ '/' :: y' := by
    simp [mem_congr_of_trim (c := ',') rfl hx, mem_congr_of_trim (c := ',') rfl hy]
  by_cases hcomma : ',' ∈ x ++ '/' :: y
  · rw [addressSpec_of_comma hcomma, addressSpec_of_comma (hcommas.1 hcomma),
      if_pos (by simp), if_pos (by simp)]
  · by_cases hslash : '/' ∈ x
    · rw [addressSpec_of_slashes hslash hcomma,
        addressSpec_of_slashes ((mem_congr_of_trim rfl hx).1 hslash) fun h => hcomma (hcommas.2 h)]
    · have hslash' : '/' ∉ x' := fun h => hslash ((mem_congr_of_trim rfl hx).2 h)
      rw [addressSpec, addressSpec, if_neg fun h => hcomma h.1,
        if_neg fun h => hcomma (hcommas.2 h.1), cut?_append hslash, cut?_append hslash']
      simp only [hx, hy]

theorem addressSpec_network_eq (ha : allBlank a = true) (hb : allBlank b = true)
    (x y : List Char) : addressSpec (trim (x ++ '/' :: y)) =
      addressSpec (trim (x ++ a ++ '/' :: (b ++ y))) := by
  obtain ⟨p, q, htrim, hp, hq⟩ := exists_trim_append_cons (c := '/') rfl x y
  obtain ⟨p', q', htrim', hp', hq'⟩ := exists_trim_append_cons (c := '/') rfl (x ++ a) (b ++ y)
  rw [trim_append_right ha] at hp'
  rw [trim_append_left hb] at hq'
  rw [htrim, htrim', addressSpec_congr (hp.trans hp'.symm) (hq.trans hq'.symm)]

/-! ### Ranges -/

/-- There is no range with two dashes. -/
theorem not_succeeds_range_of_dashes {max : Nat} {what : String} (hdash : '-' ∈ x) :
    ¬ Succeeds (range max what (x ++ '-' :: y)) := by
  obtain ⟨before, after, hcut, hafter⟩ := cut?_of_mem hdash y
  rw [succeeds_range_between hcut]
  rintro ⟨first, last, -, ⟨hlast, -⟩, -⟩
  exact hlast.not_mem (c := '-') rfl (by decide) ((mem_trim_iff rfl).2 hafter)

/-- Blanks around a dash do not change what numbers an item stands for. -/
theorem agree_range (max : Nat) (what : String) (hx : trim x = trim x') (hy : trim y = trim y') :
    Agree (range max what (x ++ '-' :: y)) (range max what (x' ++ '-' :: y')) := by
  by_cases hdash : '-' ∈ x
  · exact .of_not_succeeds (not_succeeds_range_of_dashes hdash)
      (not_succeeds_range_of_dashes ((mem_congr_of_trim rfl hx).1 hdash))
  · have hdash' : '-' ∉ x' := fun h => hdash ((mem_congr_of_trim rfl hx).2 h)
    have hnumber : ∀ {cs cs' : List Char}, trim cs = trim cs' →
        number max what cs = number max what cs' := fun h => by rw [number, number, h]
    rw [range, range, cut?_append hdash, cut?_append hdash']
    simp only [hnumber hx, hnumber hy]
    -- Only the fault of a range that is too long quotes the item.
    refine (Agree.refl _).bind fun first => (Agree.refl _).bind fun last ns => ?_
    split
    · exact Iff.rfl
    · rw [ite_error_eq_ok_iff, ite_error_eq_ok_iff]

/-- Lists that differ in one item agree when its readings do. -/
theorem agree_items {γ : Type} {read : List Char → Except SyntaxReason γ}
    {before after : List (List Char)} {i i' : List Char} (hv : items v = before ++ i :: after)
    (hv' : items v' = before ++ i' :: after) (hi : i.isEmpty = false)
    (hi' : i'.isEmpty = false) (hread : Agree (read i) (read i')) :
    Agree (listItems (trim v) >>= fun is => is.mapM read)
      (listItems (trim v') >>= fun is => is.mapM read) := by
  have hempty : (items v).any (·.isEmpty) = (items v').any (·.isEmpty) := by
    simp [hv, hv', hi, hi']
  have hitems : List.Forall₂ (fun i i' => Agree (read i) (read i')) (items v) (items v') := by
    rw [hv, hv']
    exact List.rel_append (List.forall₂_same.2 fun _ _ => .refl _)
      (.cons hread (List.forall₂_same.2 fun _ _ => .refl _))
  rw [listItems_trim, listItems_trim, hempty]
  split
  · exact .refl _
  · exact agree_mapM hitems

/-- Blanks around a dash do not change what ranges a value stands for. -/
theorem agree_ranges (ha : allBlank a = true) (hb : allBlank b = true) (max : Nat) (what : String)
    (x y : List Char) :
    Agree (listItems (trim (x ++ '-' :: y)) >>= fun is => is.mapM (range max what))
      (listItems (trim (x ++ a ++ '-' :: (b ++ y))) >>= fun is => is.mapM (range max what)) := by
  obtain ⟨before, l, r, after, hitems⟩ := items_around x y
  have hplain : items (x ++ '-' :: y) = before ++ trim (l ++ '-' :: r) :: after := by
    simpa using hitems ['-'] (by decide)
  have hspaced : items (x ++ a ++ '-' :: (b ++ y)) =
      before ++ trim (l ++ a ++ '-' :: (b ++ r)) :: after := by
    have hcomma : ',' ∉ a ++ '-' :: b := by
      simp [not_mem_of_allBlank (c := ',') ha rfl, not_mem_of_allBlank (c := ',') hb rfl]
    simpa using hitems _ hcomma
  obtain ⟨p, q, htrim, hp, hq⟩ := exists_trim_append_cons (c := '-') rfl l r
  obtain ⟨p', q', htrim', hp', hq'⟩ := exists_trim_append_cons (c := '-') rfl (l ++ a) (b ++ r)
  rw [htrim] at hplain
  rw [htrim'] at hspaced
  rw [trim_append_right ha] at hp'
  rw [trim_append_left hb] at hq'
  exact agree_items hplain hspaced (by simp) (by simp)
    (agree_range max what (hp.trans hp'.symm) (hq.trans hq'.symm))

end LogCollector.Filter
