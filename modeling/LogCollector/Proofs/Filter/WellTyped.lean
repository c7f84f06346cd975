import LogCollector.Proofs.Filter.Language

/-!
# Compiled rulebases are well typed

A session trusts a rulebase: each attribute is compared with operands of its own tag, and a
comparison has as many of them as it needs (`Predicate.WellTyped`). Every argument makes its
predicate by itself, so the operands are followed from the items of its value
(`wellTyped_operands`). A rulebase is for one kind of records, speaks of the attributes that this
kind can be asked for, and passes records but for a first rule (`Rulebase.WellTyped`). This holds of
what is compiled for a session or without one (`compiled_rulebases_are_well_typed`).
-/

namespace LogCollector.Filter

open Text

variable {zone : Calendar.Zone} {kind : RecordKind} {name : ArgumentName} {value : List Char}
  {op : Comparison} {values : List Value}

/-! ### Operands -/

/-- A value that an attribute can be equal to. -/
inductive IsOperand : String → Value → Prop where
  /-- Names are texts, each of which could be an item of a list. -/
  | text {field s : String} : field = "product" ∨ field = "fw_subproduct" ∨
      field = "Administrator" → IsItem s.toList → IsOperand field (.string s)
  /-- What a firewall does has a code. -/
  | action {word : String} {code : UInt8} : (word, code) ∈ actionCodes →
      IsOperand "action" (.actionCode code)
  /-- A protocol has a number. -/
  | proto {word : String} {number : UInt8} : (word, number) ∈ protocolNumbers →
      IsOperand "proto" (.protocolNumber number)
  /-- Machines have addresses. -/
  | address {field : String} (word : UInt32) : field = "orig" ∨ field = "src" ∨ field = "dst" →
      IsOperand field (.ipAddress word)
  /-- Rules of the firewall are numbered. -/
  | rule (number : UInt32) : IsOperand "rule" (.ruleNumber number)
  /-- A service is a port. -/
  | service (word : UInt16) : IsOperand "service" (.port word)

/-- A predicate whose operands are those that its attribute and its comparison need. -/
inductive Predicate.WellTyped : Predicate → Prop where
  /-- One of some values; only ranges of numbers can be empty. -/
  | belongsTo {field : String} (negated : Bool) {values : List Value} :
      (∀ v ∈ values, IsOperand field v) → (values = [] → field = "rule" ∨ field = "service") →
      WellTyped ⟨field, negated, .belongsTo, values⟩
  /-- An address of a network, which is given by an address of it and its mask. -/
  | belongsToMask {field : String} (negated : Bool) (network mask : UInt32) :
      field = "src" ∨ field = "dst" →
      WellTyped ⟨field, negated, .belongsToMask, [.ipAddress network, .ipAddress mask]⟩
  /-- Not before an instant. -/
  | greaterEqual (negated : Bool) (instant : Int) :
      WellTyped ⟨"time", negated, .greaterEqual, [.unixTime instant]⟩
  /-- Not after an instant. -/
  | smallerEqual (negated : Bool) (instant : Int) :
      WellTyped ⟨"time", negated, .smallerEqual, [.unixTime instant]⟩

/-- Arguments with one operand for each item. -/
theorem wellTyped_items {γ : Type} {read : List Char → Except SyntaxReason γ} {make : γ → Value}
    (hname : ∀ cs, operands zone kind cs name = do
      let results ← (← listItems cs).mapM read
      return (.belongsTo, results.map make))
    (hmake : ∀ item result, IsItem item → read item = .ok result →
      IsOperand name.field (make result))
    (hv : ';' ∉ value) (h : operands zone kind value name = .ok (op, values)) (negated : Bool) :
    Predicate.WellTyped ⟨name.field, negated, op, values⟩ := by
  rw [hname] at h
  obtain ⟨items, hi, h⟩ := bind_eq_ok_iff.1 h
  obtain ⟨results, hr, h⟩ := bind_eq_ok_iff.1 h
  obtain ⟨rfl, rfl⟩ := Prod.mk.inj (Except.ok.inj h)
  refine .belongsTo negated (fun v hmem => ?_) fun hnone => ?_
  · obtain ⟨result, hresult, rfl⟩ := List.mem_map.1 hmem
    obtain ⟨item, hitem, hread⟩ := exists_left_of_forall₂ (mapM_eq_ok_iff.1 hr) hresult
    exact hmake item result ((isItem_of_listItems hv hi).2 item hitem) hread
  · exact absurd (List.map_eq_nil_iff.1 hnone) (results_ne_nil hv hi hr)

/-- Arguments whose items are free texts. -/
theorem wellTyped_texts
    (hname : ∀ cs, operands zone kind cs name = do
      return (.belongsTo, (← listItems cs).map fun item => .string (.ofList item)))
    (hfield : name.field = "product" ∨ name.field = "fw_subproduct" ∨ name.field = "Administrator")
    (hv : ';' ∉ value) (h : operands zone kind value name = .ok (op, values)) (negated : Bool) :
    Predicate.WellTyped ⟨name.field, negated, op, values⟩ := by
  refine wellTyped_items (operands_of_texts hname) (fun item result hi hr => ?_) hv h negated
  obtain rfl : String.ofList item = result := Except.ok.inj hr
  exact .text hfield (by rwa [String.toList_ofList])

/-- Addresses, either listed or as a network with its mask. -/
theorem wellTyped_addresses
    (hname : ∀ cs, operands zone kind cs name = do
      match ← addressSpec cs with
      | .list addresses => return (.belongsTo, addresses.map .ofAddress)
      | .network network mask => return (.belongsToMask, [.ofAddress network, .ofAddress mask]))
    (hfield : name.field = "src" ∨ name.field = "dst") (hv : ';' ∉ value)
    (h : operands zone kind value name = .ok (op, values)) (negated : Bool) :
    Predicate.WellTyped ⟨name.field, negated, op, values⟩ := by
  rw [hname] at h
  obtain ⟨spec, hspec, h⟩ := bind_eq_ok_iff.1 h
  cases spec with
  | list addresses =>
    obtain ⟨rfl, rfl⟩ := Prod.mk.inj (Except.ok.inj h)
    obtain ⟨-, items, hi, hr⟩ := addressSpec_list_iff.1 hspec
    refine .belongsTo negated (fun v hmem => ?_) fun hnone => ?_
    · obtain ⟨x, -, rfl⟩ := List.mem_map.1 hmem
      exact .address _ (.inr hfield)
    · exact absurd (List.map_eq_nil_iff.1 hnone) (results_ne_nil hv hi hr)
  | network network mask =>
    obtain ⟨rfl, rfl⟩ := Prod.mk.inj (Except.ok.inj h)
    exact .belongsToMask negated _ _ hfield

/-- Ranges of numbers, which may be empty. -/
theorem wellTyped_ranges {max : Nat} {what : String} {make : Nat → Value}
    (hname : ∀ cs, operands zone kind cs name = do
      let numbers ← (← listItems cs).mapM (range max what)
      return (.belongsTo, numbers.flatten.map make))
    (hfield : name.field = "rule" ∨ name.field = "service")
    (hmake : ∀ n, IsOperand name.field (make n))
    (h : operands zone kind value name = .ok (op, values)) (negated : Bool) :
    Predicate.WellTyped ⟨name.field, negated, op, values⟩ := by
  rw [hname] at h
  obtain ⟨items, -, h⟩ := bind_eq_ok_iff.1 h
  obtain ⟨numbers, -, h⟩ := bind_eq_ok_iff.1 h
  obtain ⟨rfl, rfl⟩ := Prod.mk.inj (Except.ok.inj h)
  refine .belongsTo negated (fun v hmem => ?_) fun _ => hfield
  obtain ⟨n, -, rfl⟩ := List.mem_map.1 hmem
  exact hmake n

/-- **The operands of an accepted value are those that its argument needs.** -/
theorem wellTyped_operands (hv : ';' ∉ value)
    (h : operands zone kind value name = .ok (op, values)) (negated : Bool) :
    Predicate.WellTyped ⟨name.field, negated, op, values⟩ := by
  cases name with
  | product =>
    refine wellTyped_items (fun _ => rfl) (fun item word hi hr => ?_) hv h negated
    obtain ⟨t, ht, hitem, -⟩ := writes_checkedWord hi hr
    obtain rfl : word = t := Option.some.inj ht
    exact .text (.inl rfl) hitem
  | fwSubproduct => exact wellTyped_texts (fun _ => rfl) (.inr (.inl rfl)) hv h negated
  | administrator => exact wellTyped_texts (fun _ => rfl) (.inr (.inr rfl)) hv h negated
  | action =>
    refine wellTyped_items (fun _ => rfl) (fun _ _ _ hr => ?_) hv h negated
    exact .action (mem_of_codeOf hr)
  | proto =>
    refine wellTyped_items (fun _ => rfl) (fun _ _ _ hr => ?_) hv h negated
    exact .proto (mem_of_codeOf hr)
  | orig =>
    refine wellTyped_items (fun _ => rfl) (fun _ _ _ _ => ?_) hv h negated
    exact .address _ (.inl rfl)
  | src => exact wellTyped_addresses (fun _ => rfl) (.inl rfl) hv h negated
  | dst => exact wellTyped_addresses (fun _ => rfl) (.inr rfl) hv h negated
  | rule =>
    refine wellTyped_ranges (fun _ => rfl) (.inl rfl) (fun _ => ?_) h negated
    exact .rule _
  | service =>
    refine wellTyped_ranges (fun _ => rfl) (.inr rfl) (fun _ => ?_) h negated
    exact .service _
  | startTime =>
    obtain ⟨t, -, h⟩ := bind_eq_ok_iff.1 h
    obtain ⟨rfl, rfl⟩ := Prod.mk.inj (Except.ok.inj h)
    exact .greaterEqual negated t
  | endTime =>
    obtain ⟨t, -, h⟩ := bind_eq_ok_iff.1 h
    obtain ⟨rfl, rfl⟩ := Prod.mk.inj (Except.ok.inj h)
    exact .smallerEqual negated t

/-! ### Rulebases -/

/-- Records of the kind can be asked for the attribute of the predicate. -/
def Predicate.OfKind (kind : RecordKind) (p : Predicate) : Prop :=
  ∃ name ∈ ArgumentName.vocabulary kind, p.field = name.field

/-- What a session may rely on in a rulebase for a kind of records. -/
structure Rulebase.WellTyped (kind : RecordKind) (t : Rulebase) : Prop where
  /-- It is for this kind. -/
  kind_eq : t.kind = kind
  /-- Its predicates are on attributes of the kind. -/
  ofKind : ∀ r ∈ t.rules, ∀ p ∈ r.predicates, p.OfKind kind
  /-- Their operands fit. -/
  typed : ∀ r ∈ t.rules, ∀ p ∈ r.predicates, p.WellTyped
  /-- Its rules pass records; only the first one may drop those of virtual private networks. -/
  passes : ∀ i r, t.rules[i]? = some r → r.action = .pass ∨ i = 0 ∧ r = dropVpn

/-- What a condition compiles to. -/
theorem wellTyped_of_compileCondition {condition : List Char} {p : Predicate}
    (hc : ';' ∉ condition) (h : compileCondition zone kind condition = .ok p) :
    p.OfKind kind ∧ p.WellTyped := by
  obtain ⟨argument, name, op, values, hargument, hname, hvalues, rfl⟩ :=
    compileCondition_eq_ok_iff.1 h
  have hvalue : ';' ∉ argument.value := fun hmem => hc (mem_of_mem_value hargument hmem)
  exact ⟨⟨name, (parse?_eq_some_iff.1 hname).1, rfl⟩, wellTyped_operands hvalue hvalues _⟩

/-- A rule that passes records, by predicates that fit them. -/
def Rule.Passes (kind : RecordKind) (r : Rule) : Prop :=
  r.action = .pass ∧ ∀ p ∈ r.predicates, p.OfKind kind ∧ p.WellTyped

/-- What a list of rule texts compiles to. -/
theorem passes_of_compile {rules : List String} {t : Rulebase}
    (h : compile zone kind rules = .ok t) : t.kind = kind ∧ ∀ r ∈ t.rules, r.Passes kind := by
  obtain ⟨hkind, hrules⟩ := exists_rule_of_compile h
  refine ⟨hkind, fun r hr => ?_⟩
  obtain ⟨rule, hrule⟩ := hrules r hr
  refine ⟨action_of_compileRule hrule, fun p hp => ?_⟩
  obtain ⟨condition, hsemi, hcompiled⟩ := exists_condition_of_mem hrule hp
  exact wellTyped_of_compileCondition hsemi hcompiled

/-- Rules that pass records are a well-typed rulebase. -/
theorem Rulebase.WellTyped.of_passes {rules : List Rule} (h : ∀ r ∈ rules, r.Passes kind) :
    Rulebase.WellTyped kind ⟨kind, rules⟩ where
  kind_eq := rfl
  ofKind r hr p hp := ((h r hr).2 p hp).1
  typed r hr p hp := ((h r hr).2 p hp).2
  passes _ _ hi := .inl (h _ (List.mem_of_getElem? hi)).1

/-- The rule that leaves out records of virtual private networks fits traffic. -/
theorem wellTyped_dropVpn : ∀ p ∈ dropVpn.predicates, p.OfKind .traffic ∧ p.WellTyped := by
  intro p hp
  obtain rfl := List.mem_singleton.1 hp
  refine ⟨⟨.fwSubproduct, by decide, rfl⟩, .belongsTo false (fun v hv => ?_) (by simp)⟩
  obtain rfl := List.mem_singleton.1 hv
  exact .text (.inr (.inl rfl)) (isItem_of_plain (by decide) (by decide))

/-- So it may stand in front of rules that pass records. -/
theorem Rulebase.WellTyped.dropVpn_cons {rules : List Rule} (h : ∀ r ∈ rules, r.Passes .traffic) :
    Rulebase.WellTyped .traffic ⟨.traffic, dropVpn :: rules⟩ := by
  have hall : ∀ r ∈ dropVpn :: rules, ∀ p ∈ r.predicates, p.OfKind .traffic ∧ p.WellTyped :=
    List.forall_mem_cons.2 ⟨wellTyped_dropVpn, fun r hr => (h r hr).2⟩
  refine ⟨rfl, fun r hr p hp => (hall r hr p hp).1, fun r hr p hp => (hall r hr p hp).2, ?_⟩
  intro i r hi
  cases i with
  | zero => exact .inr ⟨rfl, (Option.some.inj hi).symm⟩
  | succ i => exact .inl (h r (List.mem_of_getElem? hi)).1

/-- **Compiled rulebases are well typed**: that of a list of rule texts, whose rules all pass
records, and that of a session. -/
theorem compiled_rulebases_are_well_typed (zone : Calendar.Zone) (kind : RecordKind) :
    (∀ rules t, compile zone kind rules = .ok t →
      t.WellTyped kind ∧ ∀ r ∈ t.rules, r.action = .pass) ∧
    ∀ mode rules t, sessionRulebase zone kind mode rules = .ok (some t) → t.WellTyped kind := by
  constructor
  · rintro rules ⟨_, compiled⟩ h
    obtain ⟨rfl, hpasses⟩ := passes_of_compile h
    exact ⟨.of_passes hpasses, fun r hr => (hpasses r hr).1⟩
  · intro mode rules t h
    obtain ⟨user, huser, rfl⟩ := exists_user_of_sessionRulebase h
    have hpasses : ∀ r ∈ user.rules ++ addedRules kind mode, r.Passes kind := by
      intro r hr
      obtain hr | hr := List.mem_append.1 hr
      · exact (passes_of_compile huser).2 r hr
      · exact (passes_of_compile (compile_addedTexts zone kind mode)).2 r hr
    -- A rule that drops records stands in front for traffic only.
    rw [leadingRules]
    split
    · rename_i hdrops
      obtain ⟨rfl, -, -⟩ := hdrops
      exact .dropVpn_cons hpasses
    · exact .of_passes hpasses

/-- A network, an empty range and a time, behind the rule that drops records. -/
theorem compiled_rulebases_are_well_typed_firewall :
    let rule : Rule := ⟨.pass, [⟨"src", false, .belongsToMask, [.ipAddress 10, .ipAddress 255]⟩,
      ⟨"service", true, .belongsTo, []⟩, ⟨"time", false, .smallerEqual, [.unixTime 86399]⟩]⟩
    let last : Rule := ⟨.pass, [⟨"product", false, .belongsTo, [.string "VPN-1 & FireWall-1"]⟩]⟩
    let texts := ["src=10.0.0.0/8;service!=9-3;endtime=19700101235959"]
    compile .universal .traffic texts = .ok ⟨.traffic, [rule]⟩ ∧
      Rulebase.WellTyped .traffic ⟨.traffic, [rule]⟩ ∧
      sessionRulebase .universal .traffic .firewall texts =
        .ok (some ⟨.traffic, [dropVpn, rule, last]⟩) ∧
      Rulebase.WellTyped .traffic ⟨.traffic, [dropVpn, rule, last]⟩ := by
  intro rule last texts
  have hcompile : compile .universal .traffic texts = .ok ⟨.traffic, [rule]⟩ := by rfl
  have hsession : sessionRulebase .universal .traffic .firewall texts =
      .ok (some ⟨.traffic, [dropVpn, rule, last]⟩) := by rfl
  obtain ⟨hplain, hmode⟩ := compiled_rulebases_are_well_typed .universal .traffic
  exact ⟨hcompile, (hplain _ _ hcompile).1, hsession, hmode _ _ _ hsession⟩

end LogCollector.Filter
