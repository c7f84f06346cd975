import LogCollector.Proofs.Filter.Items

/-!
# Canonical texts of the operands of an argument

The operands that the value of an argument stands for have a canonical text, and this text
stands for the same operands (`Restores`). Each kind of argument has its own reason for that:
lists of words, of codes and of addresses are written item by item, a network as two dotted
quads, ranges number by number, and times by the local clock.
-/

namespace LogCollector

open Text
open List (Forall₂)

namespace Filter

variable {zone : Calendar.Zone} {kind : RecordKind} {name : ArgumentName} {value : List Char}
  {op : Comparison} {values : List Value}

/-! ### Addresses -/

/-- An item that is read as an address does not hold the character before a mask. -/
theorem slash_not_mem_of_address {item : List Char} {x : Net.Ipv4} (h : address item = .ok x) :
    '/' ∉ item := by
  rw [address_eq_ok_iff.1 h]
  exact Net.Ipv4.not_mem_chars rfl (by decide) x

/-- A list of addresses holds no slash. -/
theorem addressSpec_list_iff {addresses : List Net.Ipv4} :
    addressSpec value = .ok (.list addresses) ↔
      '/' ∉ value ∧ ∃ items, listItems value = .ok items ∧ items.mapM address = .ok addresses := by
  rw [addressSpec, ite_error_eq_ok_iff]
  constructor
  · rintro ⟨-, h⟩
    split at h
    · rw [ite_error_eq_ok_iff] at h
      obtain ⟨network, -, h⟩ := bind_eq_ok_iff.1 h.2
      obtain ⟨mask, -, h⟩ := bind_eq_ok_iff.1 h
      cases h
    · rename_i hcut
      obtain ⟨items, hi, h⟩ := bind_eq_ok_iff.1 h
      obtain ⟨results, hr, h⟩ := bind_eq_ok_iff.1 h
      cases h
      exact ⟨cut?_eq_none_iff.1 hcut, items, hi, hr⟩
  · rintro ⟨hslash, items, hi, hr⟩
    refine ⟨fun h => hslash h.2, ?_⟩
    rw [cut?_eq_none_iff.2 hslash]
    exact bind_eq_ok_iff.2 ⟨items, hi, bind_eq_ok_iff.2 ⟨addresses, hr, rfl⟩⟩

/-- An address and a mask around a slash are a network. -/
theorem addressSpec_of_mask (network : Net.Ipv4) {bits : List Char} {mask : Net.Ipv4}
    (hitem : IsItem bits) (hslash : '/' ∉ bits) (hmask : Filter.mask bits = .ok mask) :
    addressSpec (network.chars ++ '/' :: bits) = .ok (.network network mask) := by
  have hcomma : ',' ∉ network.chars ++ '/' :: bits := by
    rw [List.mem_append, List.mem_cons, not_or, not_or]
    exact ⟨Net.Ipv4.not_mem_chars rfl (by decide) network, by decide, hitem.comma⟩
  have hnetwork : '/' ∉ network.chars := Net.Ipv4.not_mem_chars rfl (by decide) network
  rw [addressSpec, if_neg fun h => hcomma h.1, cut?_append hnetwork]
  simp only [network.trimmed_chars.trim_eq, hitem.trimmed.trim_eq]
  rw [if_neg]
  · rw [address_eq_ok_iff.2 rfl, hmask]
    rfl
  · simpa [network.chars_ne_nil, hitem.nonempty] using hslash

/-- Two dotted quads around a slash are a network. -/
theorem addressSpec_network (network mask : Net.Ipv4) :
    addressSpec (network.chars ++ '/' :: mask.chars) = .ok (.network network mask) :=
  addressSpec_of_mask network (isItem_chars mask) (Net.Ipv4.not_mem_chars rfl (by decide) mask)
    (mask_eq_ok_iff.2 (.inl rfl))

/-! ### Lists -/

/-- The operands of an argument have a canonical text, which stands for the same operands. -/
def Restores (zone : Calendar.Zone) (kind : RecordKind) (name : ArgumentName) (op : Comparison)
    (values : List Value) : Prop :=
  ∃ key text,
    (∀ negated, conditionParts? zone ⟨name.field, negated, op, values⟩ = some (key, text)) ∧
    (if key = "Administrator" then "administrator" else key) = name.word ∧
    Trimmed text.toList ∧ ';' ∉ text.toList ∧
    operands zone kind text.toList name = .ok (op, values)

/-- The name in the condition for an attribute that is no time. -/
def NamedByField (name : ArgumentName) : Prop :=
  (if name.field = "Administrator" then "administrator" else name.field) = name.word

instance (name : ArgumentName) : Decidable (NamedByField name) :=
  inferInstanceAs (Decidable (_ = _))

/-- Arguments whose value is a list of items that are read one by one. -/
theorem restores_list {γ : Type} {read : List Char → Except SyntaxReason γ} {results : List γ}
    (hne : values ≠ []) (hw : Forall₂ (Writes read) values results) (hword : NamedByField name)
    (hread : ∀ items, listItems (join [','] items) = .ok items → items.mapM read = .ok results →
      operands zone kind (join [','] items) name = .ok (.belongsTo, values)) :
    Restores zone kind name .belongsTo values := by
  obtain ⟨texts, htexts, htrim, hsemi, hitems, hresults⟩ := Writes.list hne hw
  refine ⟨name.field, ",".intercalate texts, fun negated => ?_, hword, htrim, hsemi, ?_⟩
  · simp only [conditionParts?, List.isEmpty_iff, if_neg hne, htexts, Option.map_some]
  · have hjoin : (",".intercalate texts).toList = join [','] (texts.map String.toList) :=
      toList_intercalate "," texts
    rw [hjoin] at hitems ⊢
    exact hread _ hitems hresults

/-- A value has as many results as items, one at least. -/
theorem results_ne_nil {γ : Type} {read : List Char → Except SyntaxReason γ}
    {items : List (List Char)} {results : List γ} (hv : ';' ∉ value)
    (hi : listItems value = .ok items) (hr : items.mapM read = .ok results) : results ≠ [] := by
  rintro rfl
  have := (mapM_eq_ok_iff.1 hr).length_eq
  exact (isItem_of_listItems hv hi).1 (List.length_eq_zero_iff.1 this)

/-- Every result of reading the items of a value is written as an item. -/
theorem writes_results {γ : Type} {read : List Char → Except SyntaxReason γ} {make : γ → Value}
    {items : List (List Char)} {results : List γ} (hv : ';' ∉ value)
    (hi : listItems value = .ok items) (hr : items.mapM read = .ok results)
    (hw : ∀ item result, IsItem item → read item = .ok result → Writes read (make result) result) :
    Forall₂ (Writes read) (results.map make) results := by
  refine List.forall₂_map_left_iff.2 (List.forall₂_same.2 fun result hresult => ?_)
  obtain ⟨item, hitem, hread⟩ := exists_left_of_forall₂ (mapM_eq_ok_iff.1 hr) hresult
  exact hw item result ((isItem_of_listItems hv hi).2 item hitem) hread

/-- Arguments with one operand for each item. -/
theorem restores_items {γ : Type} {read : List Char → Except SyntaxReason γ} {make : γ → Value}
    (hname : ∀ cs, operands zone kind cs name = do
      let results ← (← listItems cs).mapM read
      return (.belongsTo, results.map make))
    (hword : NamedByField name)
    (hw : ∀ item result, IsItem item → read item = .ok result → Writes read (make result) result)
    (hv : ';' ∉ value) (h : operands zone kind value name = .ok (op, values)) :
    Restores zone kind name op values := by
  rw [hname] at h
  obtain ⟨items, hi, h⟩ := bind_eq_ok_iff.1 h
  obtain ⟨results, hr, h⟩ := bind_eq_ok_iff.1 h
  obtain ⟨rfl, rfl⟩ := Prod.mk.inj (Except.ok.inj h)
  have hne : results.map make ≠ [] := by
    simpa using results_ne_nil hv hi hr
  refine restores_list hne (writes_results hv hi hr hw) hword fun items hitems hresults => ?_
  rw [hname]
  exact bind_eq_ok_iff.2 ⟨items, hitems, bind_eq_ok_iff.2 ⟨results, hresults, rfl⟩⟩

/-- Free texts are items that are read as themselves. -/
theorem operands_of_texts
    (hname : ∀ cs, operands zone kind cs name = do
      return (.belongsTo, (← listItems cs).map fun item => .string (.ofList item)))
    (cs : List Char) : operands zone kind cs name = do
      let results ← (← listItems cs).mapM fun item => .ok (String.ofList item)
      return (.belongsTo, results.map .string) := by
  rw [hname]
  cases listItems cs with
  | error reason => rfl
  | ok items =>
    let read : List Char → Except SyntaxReason String := fun item => .ok (String.ofList item)
    have hall : items.mapM read = .ok (items.map String.ofList) :=
      mapM_eq_ok_iff.2 (List.forall₂_map_right_iff.2 (List.forall₂_same.2 fun _ _ => rfl))
    change _ = (items.mapM read >>= fun results => Except.ok (_, results.map Value.string))
    rw [hall]
    change Except.ok _ = Except.ok _
    rw [List.map_map]
    rfl

/-- Arguments whose items are free texts. -/
theorem restores_texts
    (hname : ∀ cs, operands zone kind cs name = do
      return (.belongsTo, (← listItems cs).map fun item => .string (.ofList item)))
    (hword : NamedByField name) (hv : ';' ∉ value)
    (h : operands zone kind value name = .ok (op, values)) : Restores zone kind name op values := by
  refine restores_items (operands_of_texts hname) hword (fun item result hi hr => ?_) hv h
  obtain rfl : String.ofList item = result := Except.ok.inj hr
  refine ⟨_, rfl, ?_, ?_⟩
  · rwa [String.toList_ofList]
  · change Except.ok (String.ofList (String.ofList item).toList) = _
    rw [String.ofList_toList]

/-- Addresses, either listed or as a network with its mask. -/
theorem restores_addresses
    (hname : ∀ cs, operands zone kind cs name = do
      match ← addressSpec cs with
      | .list addresses => return (.belongsTo, addresses.map .ofAddress)
      | .network network mask => return (.belongsToMask, [.ofAddress network, .ofAddress mask]))
    (hword : NamedByField name) (hv : ';' ∉ value)
    (h : operands zone kind value name = .ok (op, values)) : Restores zone kind name op values := by
  rw [hname] at h
  obtain ⟨spec, hspec, h⟩ := bind_eq_ok_iff.1 h
  cases spec with
  | list addresses =>
    obtain ⟨rfl, rfl⟩ := Prod.mk.inj (Except.ok.inj h)
    obtain ⟨-, items, hi, hr⟩ := addressSpec_list_iff.1 hspec
    have hne : addresses.map Value.ofAddress ≠ [] := by
      simpa using results_ne_nil hv hi hr
    refine restores_list hne (writes_results hv hi hr fun _ x _ _ => writes_address x) hword
      fun items hitems hresults => ?_
    have hslash : '/' ∉ join [','] items := by
      intro hc
      obtain hc | ⟨item, hitem, hc⟩ := mem_join hc
      · exact absurd (List.mem_singleton.1 hc) (by decide)
      · obtain ⟨x, -, hx⟩ := exists_left_of_forall₂ (mapM_eq_ok_iff.1 hresults).flip hitem
        exact slash_not_mem_of_address hx hc
    rw [hname, addressSpec_list_iff.2 ⟨hslash, items, hitems, hresults⟩]
    rfl
  | network network mask =>
    obtain ⟨rfl, rfl⟩ := Prod.mk.inj (Except.ok.inj h)
    have htext : (network.text ++ "/" ++ mask.text).toList =
        network.chars ++ '/' :: mask.chars := by
      simp [Net.Ipv4.text]
    refine ⟨name.field, network.text ++ "/" ++ mask.text, fun negated => ?_, hword, ?_, ?_, ?_⟩
    · simp only [conditionParts?, Value.ofAddress, Value.address?, Net.Ipv4.ofWire_toWire]
      rfl
    · have := network.trimmed_chars.append mask.trimmed_chars network.chars_ne_nil
        mask.chars_ne_nil ['/']
      rwa [htext, ← List.singleton_append, ← List.append_assoc]
    · rw [htext, List.mem_append, List.mem_cons, not_or, not_or]
      exact ⟨Net.Ipv4.not_mem_chars rfl (by decide) network, by decide,
        Net.Ipv4.not_mem_chars rfl (by decide) mask⟩
    · rw [hname, htext, addressSpec_network]
      rfl

/-! ### Ranges -/

/-- Ranges of numbers, of which each is written alone; when there are none, an empty range is
written. -/
theorem restores_ranges {max : Nat} {what : String} {make : Nat → Value}
    (hname : ∀ cs, operands zone kind cs name = do
      let numbers ← (← listItems cs).mapM (range max what)
      return (.belongsTo, numbers.flatten.map make))
    (hfield : name.field = "rule" ∨ name.field = "service") (hword : NamedByField name)
    (hmake : ∀ n ≤ max, operandText? (make n) = some (Numeral.text n))
    (hempty : operands zone kind "1-0".toList name = .ok (.belongsTo, []))
    (h : operands zone kind value name = .ok (op, values)) : Restores zone kind name op values := by
  rw [hname] at h
  obtain ⟨items, hi, h⟩ := bind_eq_ok_iff.1 h
  obtain ⟨numbers, hr, h⟩ := bind_eq_ok_iff.1 h
  obtain ⟨rfl, rfl⟩ := Prod.mk.inj (Except.ok.inj h)
  have hmax : ∀ n ∈ numbers.flatten, n ≤ max := by
    intro n hn
    obtain ⟨ns, hns, hn⟩ := List.mem_flatten.1 hn
    obtain ⟨item, -, hitem⟩ := exists_left_of_forall₂ (mapM_eq_ok_iff.1 hr) hns
    exact le_of_mem_range hitem hn
  by_cases hnone : numbers.flatten = []
  · rw [hnone]
    have hitem : IsItem "1-0".toList := isItem_of_plain (by decide) (by decide)
    refine ⟨name.field, "1-0", fun negated => ?_, hword, hitem.trimmed, hitem.semicolon, hempty⟩
    simp only [conditionParts?, List.map_nil, List.isEmpty_nil, if_true, if_pos hfield]
  · have hw : Forall₂ (Writes (range max what)) (numbers.flatten.map make)
        (numbers.flatten.map fun n => [n]) := by
      refine List.forall₂_map_left_iff.2 (List.forall₂_map_right_iff.2 ?_)
      exact List.forall₂_same.2 fun n hn => writes_range (hmax n hn) what (hmake n (hmax n hn))
    refine restores_list (by simpa using hnone) hw hword fun items hitems hresults => ?_
    have hflat : (numbers.flatten.map fun n => [n]).flatten = numbers.flatten := by
      rw [← List.flatMap_def, List.flatMap_singleton']
    rw [hname]
    refine bind_eq_ok_iff.2 ⟨items, hitems, bind_eq_ok_iff.2 ⟨_, hresults, ?_⟩⟩
    rw [hflat]
    rfl

/-! ### Times -/

/-- A time, which is written by the local clock. -/
theorem restores_time {comparison : Comparison}
    (hname : ∀ cs, operands zone kind cs name = do
      return (comparison, [.unixTime (← localTime zone cs)]))
    (hparts : ∀ negated t, conditionParts? zone ⟨name.field, negated, comparison, [.unixTime t]⟩ =
      (timeText? zone (.unixTime t)).map fun text => (name.word, text))
    (hadmin : name.word ≠ "Administrator")
    (h : operands zone kind value name = .ok (op, values)) : Restores zone kind name op values := by
  rw [hname] at h
  obtain ⟨t, ht, h⟩ := bind_eq_ok_iff.1 h
  obtain ⟨rfl, rfl⟩ := Prod.mk.inj (Except.ok.inj h)
  obtain ⟨r, hr, hdigits, hback⟩ := localTime_compact ht
  refine ⟨name.word, .ofList r.compact, fun negated => ?_, if_neg hadmin, ?_, ?_, ?_⟩
  · simp only [hparts, timeText?, hr, Option.map_some]
  · rw [String.toList_ofList]
    exact Trimmed.of_digits hdigits
  · rw [String.toList_ofList]
    intro hc
    exact absurd (hdigits _ hc) (by decide)
  · rw [hname, String.toList_ofList]
    exact bind_eq_ok_iff.2 ⟨t, hback, rfl⟩

/-! ### Every argument -/

/-- **The operands of an accepted value have a canonical text that stands for them.** -/
theorem restores_operands (hv : ';' ∉ value)
    (h : operands zone kind value name = .ok (op, values)) : Restores zone kind name op values := by
  cases name with
  | product =>
    exact restores_items (fun _ => rfl) (by decide) (fun _ _ hi hr => writes_checkedWord hi hr) hv h
  | fwSubproduct => exact restores_texts (fun _ => rfl) (by decide) hv h
  | administrator => exact restores_texts (fun _ => rfl) (by decide) hv h
  | action =>
    exact restores_items (fun _ => rfl) (by decide)
      (fun _ _ _ hr => writes_codeOf faithful_actionCodes hr rfl) hv h
  | orig =>
    exact restores_items (fun _ => rfl) (by decide) (fun _ x _ _ => writes_address x) hv h
  | src => exact restores_addresses (fun _ => rfl) (by decide) hv h
  | dst => exact restores_addresses (fun _ => rfl) (by decide) hv h
  | proto =>
    exact restores_items (fun _ => rfl) (by decide)
      (fun _ _ _ hr => writes_codeOf faithful_protocolNumbers hr rfl) hv h
  | rule =>
    refine restores_ranges (fun _ => rfl) (.inl rfl) (by decide) (fun n hn => ?_) rfl h
    rw [operandText?, UInt32.toNat_ofNat_of_lt' (by simp only [UInt32.size] at hn ⊢; omega)]
  | service =>
    refine restores_ranges (fun _ => rfl) (.inr rfl) (by decide) (fun n hn => ?_) rfl h
    rw [Value.ofPort, operandText?, swapBytes_swapBytes,
      UInt16.toNat_ofNat_of_lt' (by simp only [UInt16.size] at hn ⊢; omega)]
  | startTime => exact restores_time (fun _ => rfl) (fun _ _ => rfl) (by decide) h
  | endTime => exact restores_time (fun _ => rfl) (fun _ _ => rfl) (by decide) h

end Filter

end LogCollector
