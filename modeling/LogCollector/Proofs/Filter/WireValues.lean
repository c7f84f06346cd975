import LogCollector.Proofs.Filter.Language
import LogCollector.Proofs.Line.Masking
import LogCollector.Proofs.Net.Octets

/-!
# Addresses and ports in filters and in records

A session hands addresses and ports over as words, and filters compare these words. Unless names
are resolved, a record shows the text of a word (`valueText_eq_text`), and a condition with this
text compiles to the word again; what a condition says otherwise is shown as it was written, for a
port in its decimal text. A network with a number of bits is the one with their mask in full.

The attribute `time` is apart: it is shown as a time whatever its value is, and what the session
resolved an address or a port to stands in its place (`resolved_time_hides_address`).
-/

namespace LogCollector

open Text

/-! ### Records -/

/-- What a record shows for an address or a port when names are not resolved. -/
theorem LineFormat.valueText_eq_text {f : LineFormat} (hresolve : f.resolve = false)
    {v : Value} (hv : v.tag = .ipAddress ∨ v.tag = .port) (name : String)
    (resolved : Option String) : f.valueText ⟨name, v, resolved⟩ =
      if name = Catalog.time then resolved.getD v.text else v.text := by
  have htag : v.tag ∈ [ValueTag.ipAddress, .port] ∧ f.resolve = false := by
    simpa using ⟨hv, hresolve⟩
  have htime : f.timeText ⟨name, v, resolved⟩ = resolved.getD v.text := by
    refine timeText_of_ne fun instant hinstant => ?_
    obtain rfl : v = .unixTime instant := hinstant
    simp [Value.tag] at hv
  rw [valueText_eq, if_pos htag, htime]

namespace Filter

variable {zone : Calendar.Zone} {kind : RecordKind} {name : ArgumentName} {item : List Char}
  {x : Net.Ipv4}

/-! ### Operands -/

/-- The arguments that ask for a network or for addresses. -/
def ArgumentName.OfNetworks (name : ArgumentName) : Prop := name = .src ∨ name = .dst

/-- The arguments that ask for addresses. -/
def ArgumentName.OfAddresses (name : ArgumentName) : Prop := name = .orig ∨ name.OfNetworks

/-- Such an argument is about the attribute that has its name. -/
theorem ArgumentName.OfAddresses.field_eq (h : name.OfAddresses) : name.field = name.word := by
  rcases h with rfl | rfl | rfl
  · rfl
  · rfl
  · rfl

/-- The rule of one condition. -/
theorem compileRule_condition (zone : Calendar.Zone) (name : ArgumentName)
    (hname : name ∈ ArgumentName.vocabulary kind) (hitem : Trimmed item) (hsemi : ';' ∉ item)
    {op : Comparison} {values : List Value}
    (hvalues : operands zone kind item name = .ok (op, values)) :
    compileRule zone kind (name.word ++ "=" ++ .ofList item) =
      .ok ⟨.pass, [⟨name.field, false, op, values⟩]⟩ := by
  have htext : name.word ++ "=" ++ .ofList item =
      .ofList (join [';'] [conditionHead name false ++ '=' :: item]) := by
    rw [← String.toList_inj]
    simp [join, conditionHead]
  rw [htext]
  have hfound := parse?_eq_some_iff.2 ⟨hname, rfl⟩
  exact compileRule_join (.cons (standsFor_conditionHead false hfound hitem hsemi hvalues) .nil)

/-- An address alone is the one operand of an argument that is compared with addresses. -/
theorem operands_address (hname : name.OfAddresses) (hx : address item = .ok x) :
    operands zone kind item name = .ok (.belongsTo, [.ofAddress x]) := by
  have hitems := listItems_of_isItem (address_eq_ok_iff.1 hx ▸ isItem_chars x : IsItem item)
  have hread : [item].mapM address = .ok [x] := mapM_eq_ok_iff.2 (.cons hx .nil)
  have hspec : addressSpec item = .ok (.list [x]) :=
    addressSpec_list_iff.2 ⟨slash_not_mem_of_address hx, [item], hitems, hread⟩
  rcases hname with rfl | rfl | rfl
  · exact bind_eq_ok_iff.2 ⟨_, hitems, bind_eq_ok_iff.2 ⟨_, hread, rfl⟩⟩
  · exact bind_eq_ok_iff.2 ⟨_, hspec, rfl⟩
  · exact bind_eq_ok_iff.2 ⟨_, hspec, rfl⟩

/-- An address and a mask around a slash are the two operands of an argument that asks for a
network. -/
theorem operands_network (hname : name.OfNetworks) {bits : List Char} {y : Net.Ipv4}
    (hbits : IsItem bits) (hslash : '/' ∉ bits) (hy : mask bits = .ok y) :
    operands zone kind (x.chars ++ '/' :: bits) name =
      .ok (.belongsToMask, [.ofAddress x, .ofAddress y]) := by
  have hspec := addressSpec_of_mask x hbits hslash hy
  rcases hname with rfl | rfl
  · exact bind_eq_ok_iff.2 ⟨_, hspec, rfl⟩
  · exact bind_eq_ok_iff.2 ⟨_, hspec, rfl⟩

/-- A number alone is the one operand of the argument that is compared with ports. -/
theorem operands_service {n : Nat} (h : Numeral.Spells n item) (hn : n < UInt16.size) :
    operands zone kind item .service = .ok (.belongsTo, [.ofPort (.ofNat n)]) := by
  have hitem := isItem_of_spells h
  have hitems := listItems_of_isItem hitem
  have hcut : cut? '-' item = none := cut?_eq_none_iff.2 (h.not_mem rfl (by decide))
  have hnumber : number (UInt16.size - 1) "service" item = .ok n :=
    number_eq_ok_iff.2 ⟨hitem.trimmed.trim_eq.symm ▸ h, Nat.le_sub_one_of_lt hn⟩
  have hread : [item].mapM (range (UInt16.size - 1) "service") = .ok [[n]] := by
    refine mapM_eq_ok_iff.2 (.cons ?_ .nil)
    rw [range, hcut, hnumber]
    rfl
  exact bind_eq_ok_iff.2 ⟨_, hitems, bind_eq_ok_iff.2 ⟨_, hread, rfl⟩⟩

/-! ### Conditions -/

/-- A condition for an address alone, for each argument that asks for addresses. -/
theorem compileRule_address (zone : Calendar.Zone) (hname : name ∈ ArgumentName.vocabulary kind)
    (haddresses : name.OfAddresses) (hx : address item = .ok x) :
    compileRule zone kind (name.word ++ "=" ++ .ofList item) =
      .ok ⟨.pass, [⟨name.word, false, .belongsTo, [.ofAddress x]⟩]⟩ := by
  have hitem : IsItem item := address_eq_ok_iff.1 hx ▸ isItem_chars x
  have h := compileRule_condition zone name hname hitem.trimmed hitem.semicolon
    (operands_address haddresses hx)
  rwa [haddresses.field_eq] at h

/-- The text of an address in a word makes a condition for the word. -/
theorem compileRule_text_address (hname : name ∈ ArgumentName.vocabulary kind)
    (haddresses : name.OfAddresses) (w : UInt32) :
    compileRule zone kind (name.word ++ "=" ++ (Value.ipAddress w).text) =
      .ok ⟨.pass, [⟨name.word, false, .belongsTo, [.ipAddress w]⟩]⟩ := by
  have hx : address (Net.Ipv4.ofWire w).chars = .ok (.ofWire w) := address_eq_ok_iff.2 rfl
  have h := compileRule_address zone hname haddresses hx
  rwa [Value.ofAddress, Net.Ipv4.toWire_ofWire] at h

/-- A condition for a port alone. -/
theorem compileRule_service {n : Nat} (h : Numeral.Spells n item) (hn : n < UInt16.size) :
    compileRule zone .traffic ("service=" ++ .ofList item) =
      .ok ⟨.pass, [⟨"service", false, .belongsTo, [.ofPort (.ofNat n)]⟩]⟩ := by
  have hitem := isItem_of_spells h
  exact compileRule_condition zone .service (by decide) hitem.trimmed hitem.semicolon
    (operands_service h hn)

/-- Any text of a port makes a condition for its word. -/
theorem compileRule_port (w : UInt16) (h : Numeral.Spells (swapBytes w).toNat item) :
    compileRule zone .traffic ("service=" ++ .ofList item) =
      .ok ⟨.pass, [⟨"service", false, .belongsTo, [.port w]⟩]⟩ := by
  have hword : Value.ofPort (.ofNat (swapBytes w).toNat) = .port w := by
    rw [UInt16.ofNat_toNat, Value.ofPort, swapBytes_swapBytes]
  rw [compileRule_service h (swapBytes w).toNat_lt, hword]

/-- A condition for a network, with any text of its mask. -/
theorem compileRule_network (hname : name ∈ ArgumentName.vocabulary kind)
    (hnetworks : name.OfNetworks) {bits : List Char} {y : Net.Ipv4} (hbits : IsItem bits)
    (hslash : '/' ∉ bits) (hy : mask bits = .ok y) :
    compileRule zone kind (name.word ++ "=" ++ x.text ++ "/" ++ .ofList bits) =
      .ok ⟨.pass, [⟨name.word, false, .belongsToMask, [.ofAddress x, .ofAddress y]⟩]⟩ := by
  have htrim := x.trimmed_chars.append hbits.trimmed x.chars_ne_nil hbits.nonempty ['/']
  rw [List.append_assoc, List.singleton_append] at htrim
  have hsemi : ';' ∉ x.chars ++ '/' :: bits := by
    rw [List.mem_append, List.mem_cons, not_or, not_or]
    exact ⟨(isItem_chars x).semicolon, by decide, hbits.semicolon⟩
  have htext : name.word ++ "=" ++ x.text ++ "/" ++ .ofList bits =
      name.word ++ "=" ++ .ofList (x.chars ++ '/' :: bits) := by
    rw [← String.toList_inj]
    simp [Net.Ipv4.text]
  have h := compileRule_condition zone name hname htrim hsemi
    (operands_network hnetworks hbits hslash hy)
  rwa [← htext, ArgumentName.OfAddresses.field_eq (.inr hnetworks)] at h

/-- A number of bits behind a network stands for their mask, which may stand there as well. -/
theorem compileRule_bits (hname : name ∈ ArgumentName.vocabulary kind)
    (hnetworks : name.OfNetworks) {network bits after : List Char} {n : Nat}
    (hx : address network = .ok x) (hn : n ≤ 32) (hbits : Numeral.Spells n bits)
    (hafter : after = bits ∨ after = (Net.Ipv4.mask n).chars) :
    compileRule zone kind (name.word ++ "=" ++ .ofList network ++ "/" ++ .ofList after) =
      .ok ⟨.pass, [⟨name.word, false, .belongsToMask, [.ofAddress x, .ofAddress (.mask n)]⟩]⟩ := by
  rw [address_eq_ok_iff.1 hx]
  obtain rfl | rfl := hafter
  · exact compileRule_network hname hnetworks (isItem_of_spells hbits)
      (hbits.not_mem rfl (by decide)) (mask_eq_ok_iff.2 (.inr ⟨n, hn, hbits, rfl⟩))
  · exact compileRule_network hname hnetworks (isItem_chars _)
      (Net.Ipv4.not_mem_chars rfl (by decide) _) (mask_eq_ok_iff.2 (.inl rfl))

/-! ### Agreement -/

/-- **Filters and records agree on words.** When names are not resolved, a record shows an address
or a port in the text of its word, unless the attribute is the time. The text of an address has the
bytes of the word from the lowest one to the highest one, and a condition with it compiles to the
word; every text of an address compiles to the operand that has this text. The text of a port is the
number that has the lower byte of the word as its higher one, and a condition with any text of the
number compiles to the word. A network with a number of bits is the one with their mask. -/
theorem wire_values_agree {f : LineFormat} (hresolve : f.resolve = false) (zone : Calendar.Zone) :
    (∀ v : Value, v.tag = .ipAddress ∨ v.tag = .port → ∀ name resolved,
      f.valueText ⟨name, v, resolved⟩ =
        if name = Catalog.time then resolved.getD v.text else v.text) ∧
    (∀ w : UInt32, Net.Ipv4.IsQuadOf (Net.Ipv4.bytes w) (Value.ipAddress w).text.toList ∧
      ∀ kind, ∀ name ∈ ArgumentName.vocabulary kind, name.OfAddresses →
        compileRule zone kind (name.word ++ "=" ++ (Value.ipAddress w).text) =
          .ok ⟨.pass, [⟨name.word, false, .belongsTo, [.ipAddress w]⟩]⟩) ∧
    (∀ item x, address item = .ok x → ∃ v : Value, v.text = .ofList item ∧
      ∀ kind, ∀ name ∈ ArgumentName.vocabulary kind, name.OfAddresses →
        compileRule zone kind (name.word ++ "=" ++ .ofList item) =
          .ok ⟨.pass, [⟨name.word, false, .belongsTo, [v]⟩]⟩) ∧
    (∀ w : UInt16, ∃ number, number = w.toNat % 256 * 256 + w.toNat / 256 ∧
      Numeral.IsPlain number (Value.port w).text.toList ∧
      ∀ item, Numeral.Spells number item →
        compileRule zone .traffic ("service=" ++ .ofList item) =
          .ok ⟨.pass, [⟨"service", false, .belongsTo, [.port w]⟩]⟩) ∧
    (∀ network x, address network = .ok x → ∀ n ≤ 32, ∀ bits, Numeral.Spells n bits →
      (∀ i < 32, (Net.Ipv4.mask n).number.testBit (31 - i) = decide (i < n)) ∧
      ∀ after, after = bits ∨ after = (Net.Ipv4.mask n).chars →
        ∀ name ∈ ArgumentName.vocabulary .traffic, name.OfNetworks →
          compileRule zone .traffic (name.word ++ "=" ++ .ofList network ++ "/" ++ .ofList after) =
            .ok ⟨.pass,
              [⟨name.word, false, .belongsToMask, [.ofAddress x, .ofAddress (.mask n)]⟩]⟩) := by
  refine ⟨fun v hv => LineFormat.valueText_eq_text hresolve hv, fun w => ⟨?_, ?_⟩, ?_, ?_, ?_⟩
  · exact Net.Ipv4.isQuadOf_text_ofWire w
  · exact fun kind name hname haddresses => compileRule_text_address hname haddresses w
  · intro item x hx
    refine ⟨.ofAddress x, ?_, fun kind name hname haddresses =>
      compileRule_address zone hname haddresses hx⟩
    rw [address_eq_ok_iff.1 hx, Value.ofAddress, Value.text, Net.Ipv4.ofWire_toWire]
    rfl
  · intro w
    refine ⟨(swapBytes w).toNat, toNat_swapBytes w, ?_, fun item => compileRule_port w⟩
    rw [Value.text, Numeral.text, String.toList_ofList]
    exact Numeral.isPlain_ofNat _
  · intro network x hx n hn bits hbits
    exact ⟨fun i => Net.Ipv4.testBit_mask hn, fun after hafter name hname hnetworks =>
      compileRule_bits hname hnetworks hx hn hbits hafter⟩

/-- The word of `10.0.0.1`, that of port 80 with a sign and a leading zero, and a network of eight
bits. -/
theorem wire_values_agree_service :
    let f : LineFormat := ⟨.traffic, false, .epoch, '|', [], .universal⟩
    f.valueText ⟨"src", .ipAddress 16777226, some "host"⟩ = "10.0.0.1" ∧
      compileRule .universal .audit "orig=10.0.0.1" =
        .ok ⟨.pass, [⟨"orig", false, .belongsTo, [.ipAddress 16777226]⟩]⟩ ∧
      f.valueText ⟨"service", .port 20480, some "http"⟩ = "80" ∧
      compileRule .universal .traffic "service=+080" =
        .ok ⟨.pass, [⟨"service", false, .belongsTo, [.port 20480]⟩]⟩ ∧
      (∃ v : Value, v.text = "10.0.0.1" ∧ compileRule .universal .traffic "dst=10.0.0.1" =
        .ok ⟨.pass, [⟨"dst", false, .belongsTo, [v]⟩]⟩) ∧
      compileRule .universal .traffic "src=10.0.0.1/8" =
        compileRule .universal .traffic "src=10.0.0.1/255.0.0.0" := by
  intro f
  obtain ⟨hshown, haddress, hback, hport, hnetwork⟩ :=
    wire_values_agree (f := f) rfl Calendar.Zone.universal
  have hquad : address "10.0.0.1".toList = .ok ⟨10, 0, 0, 1⟩ := by decide +kernel
  have height : Numeral.Spells 8 "8".toList :=
    ⟨['8'], List.cons_ne_nil _ _, List.all_eq_true.1 rfl, rfl, .inl rfl⟩
  have heighty : Numeral.Spells 80 "+080".toList :=
    ⟨['0', '8', '0'], List.cons_ne_nil _ _, List.all_eq_true.1 rfl, rfl, .inr rfl⟩
  obtain ⟨number, hnumber, -, hservice⟩ := hport 20480
  obtain rfl : number = 80 := hnumber.trans (by decide +kernel)
  obtain ⟨v, hv, hdst⟩ := hback _ _ hquad
  obtain ⟨-, hbits⟩ := hnetwork _ _ hquad 8 (by decide) _ height
  refine ⟨(hshown _ (.inl rfl) _ _).trans (by decide +kernel),
    (haddress 16777226).2 .audit .orig (by decide) (.inl rfl),
    (hshown _ (.inr rfl) _ _).trans (by decide +kernel),
    hservice "+080".toList heighty,
    ⟨v, hv, hdst .traffic .dst (by decide) (.inr (.inr rfl))⟩, ?_⟩
  have hshort := hbits _ (.inl rfl) .src (by decide) (.inl rfl)
  have hlong := hbits _ (.inr rfl) .src (by decide) (.inl rfl)
  exact hshort.trans hlong.symm

/-- The attribute `time` shows what an address was resolved to, though names are not resolved. -/
theorem resolved_time_hides_address :
    let f : LineFormat := ⟨.traffic, false, .localTime, '|', [], .universal⟩
    let field : Field := ⟨"time", .ipAddress 16777226, some "host"⟩
    f.resolve = false ∧ f.line ⟨0, [field]⟩ = "loc=1|time=host" ∧ f.valueText field = "host" ∧
      field.value.text = "10.0.0.1" := by
  decide +kernel

end Filter

end LogCollector
