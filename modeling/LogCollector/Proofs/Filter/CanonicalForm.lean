import LogCollector.Proofs.Filter.Arguments
import LogCollector.Proofs.Filter.SessionRulebase

/-!
# Canonical rule texts compile to their rules

Every predicate that a condition compiles to has a canonical condition, and this condition
compiles to the same predicate (`exists_condition`). Conditions are put together to rules
(`exists_ruleText`) and rules to rulebases, so that compiling the canonical texts of a compiled
rulebase gives the rulebase back, and those of a session's rulebase give back its rules that
pass records (`canonical_texts_recompile`).
-/

namespace LogCollector.Filter

open Text
open List (Forall₂)

variable {zone : Calendar.Zone} {kind : RecordKind}

/-! ### Conditions -/

/-- What stands before the `=` of the condition for an argument. -/
def conditionHead (name : ArgumentName) (negated : Bool) : List Char :=
  (name.word ++ if negated then "!" else "").toList

/-- The head of a condition has no other meaning than its argument and its negation. -/
theorem conditionHead_spec (name : ArgumentName) (negated : Bool) :
    '=' ∉ conditionHead name negated ∧ ';' ∉ conditionHead name negated ∧
      (conditionHead name negated).all isBlank = false ∧
      trim (conditionHead name negated) = conditionHead name negated ∧
      ((conditionHead name negated).getLast? == some '!') = negated ∧
      (if negated then Argument.dropBangs (conditionHead name negated)
        else conditionHead name negated) = name.word.toList := by
  cases name <;> cases negated <;> decide

theorem lower_word (name : ArgumentName) :
    lower name.word.toList = name.word.toList ∧ name.word.toList.isEmpty = false := by
  cases name <;> decide

/-- The argument, its negation and its value are read from a condition. -/
theorem parse_conditionHead (name : ArgumentName) (negated : Bool) {value : List Char}
    (h : Trimmed value) :
    Argument.parse (conditionHead name negated ++ '=' :: value) =
      .ok ⟨name.word, negated, value⟩ := by
  obtain ⟨hequals, -, -, htrim, hlast, hname⟩ := conditionHead_spec name negated
  obtain ⟨hlower, hne⟩ := lower_word name
  simp only [Argument.parse, cut?_append hequals, htrim, hlast, hname, hlower, hne, h.trim_eq,
    String.ofList_toList]
  rfl

/-- What a condition compiles to comes from its parts. -/
theorem compileCondition_eq_ok_iff {condition : List Char} {p : Predicate} :
    compileCondition zone kind condition = .ok p ↔ ∃ argument name op values,
      Argument.parse condition = .ok argument ∧
      ArgumentName.parse? kind argument.name = some name ∧
      operands zone kind argument.value name = .ok (op, values) ∧
      p = ⟨name.field, argument.negated, op, values⟩ := by
  constructor
  · intro h
    unfold compileCondition at h
    split at h
    · cases h
    · rename_i argument hargument
      split at h
      · cases h
      · rename_i name hname
        split at h
        · cases h
        · rename_i op values hvalues
          exact ⟨argument, name, op, values, hargument, hname, hvalues, (Except.ok.inj h).symm⟩
  · rintro ⟨argument, name, op, values, hargument, hname, hvalues, rfl⟩
    simp only [compileCondition, hargument, hname, hvalues]

/-- The value of a condition is a part of it. -/
theorem mem_of_mem_value {condition : List Char} {argument : Argument}
    (h : Argument.parse condition = .ok argument) {c : Char} (hc : c ∈ argument.value) :
    c ∈ condition := by
  unfold Argument.parse at h
  split at h
  · cases h
  · rename_i before after hcut
    rw [ite_error_eq_ok_iff] at h
    obtain rfl := Except.ok.inj h.2
    rw [eq_of_cut? hcut]
    exact List.mem_append_right _ (List.mem_cons_of_mem _ (mem_of_mem_trim hc))

/-- A text between two semicolons of a rule that compiles to a predicate. -/
structure StandsFor (zone : Calendar.Zone) (kind : RecordKind) (condition : List Char)
    (p : Predicate) : Prop where
  /-- It does not end before its end. -/
  semicolon : ';' ∉ condition
  /-- It is not left out. -/
  visible : allBlank condition = false
  /-- It compiles to the predicate. -/
  compiles : compileCondition zone kind condition = .ok p

/-- A value that is read for an argument makes a condition of it. -/
theorem standsFor_conditionHead {name : ArgumentName} {value : List Char} {op : Comparison}
    {values : List Value} (negated : Bool)
    (hname : ArgumentName.parse? kind name.word = some name) (htrim : Trimmed value)
    (hsemi : ';' ∉ value) (hvalues : operands zone kind value name = .ok (op, values)) :
    StandsFor zone kind (conditionHead name negated ++ '=' :: value)
      ⟨name.field, negated, op, values⟩ := by
  obtain ⟨-, hhead, hblank, -⟩ := conditionHead_spec name negated
  refine ⟨?_, ?_, compileCondition_eq_ok_iff.2
    ⟨_, name, op, values, parse_conditionHead name negated htrim, hname, hvalues, rfl⟩⟩
  · rw [List.mem_append, List.mem_cons, not_or, not_or]
    exact ⟨hhead, by decide, hsemi⟩
  · rw [allBlank, List.all_append, hblank, Bool.false_and]

/-- **A compiled predicate has a canonical condition that stands for it.** -/
theorem exists_condition {condition : List Char} {p : Predicate} (hc : ';' ∉ condition)
    (h : compileCondition zone kind condition = .ok p) :
    ∃ text, p.condition? zone = some text ∧ StandsFor zone kind text.toList p := by
  obtain ⟨argument, name, op, values, hargument, hname, hvalues, rfl⟩ :=
    compileCondition_eq_ok_iff.1 h
  have hvalue : ';' ∉ argument.value := fun hmem => hc (mem_of_mem_value hargument hmem)
  obtain ⟨key, text, hparts, hword, htrim, hsemi, hback⟩ := restores_operands hvalue hvalues
  refine ⟨name.word ++ (if argument.negated then "!" else "") ++ "=" ++ text, ?_, ?_⟩
  · simp only [Predicate.condition?, hparts, Option.map_some, hword]
  · have htext : (name.word ++ (if argument.negated then "!" else "") ++ "=" ++ text).toList =
        conditionHead name argument.negated ++ '=' :: text.toList := by
      simp [conditionHead, String.toList_append]
    -- The word of an argument is the name by which it was found.
    have hfound : name.word = argument.name := by
      simpa using List.find?_some hname
    rw [htext]
    exact standsFor_conditionHead argument.negated (by rw [hfound, hname]) htrim hsemi hback

/-! ### Rules -/

/-- Conditions between semicolons are the conditions of the rule. -/
theorem conditions_join {pieces : List (List Char)} {ps : List Predicate}
    (h : Forall₂ (StandsFor zone kind) pieces ps) : conditions (join [';'] pieces) = pieces := by
  have hall : ∀ piece ∈ pieces, ';' ∉ piece ∧ allBlank piece = false := by
    intro piece hpiece
    obtain ⟨p, -, hp⟩ := exists_left_of_forall₂ h.flip hpiece
    exact ⟨hp.semicolon, hp.visible⟩
  by_cases hne : pieces = []
  · subst hne
    rfl
  · rw [conditions, splitOn_join hne fun piece hpiece => (hall piece hpiece).1, List.filter_eq_self]
    intro piece hpiece
    rw [(hall piece hpiece).2]
    rfl

/-- Conditions between semicolons compile to the rule that has their predicates. -/
theorem compileRule_join {pieces : List (List Char)} {ps : List Predicate}
    (h : Forall₂ (StandsFor zone kind) pieces ps) :
    compileRule zone kind (.ofList (join [';'] pieces)) = .ok ⟨.pass, ps⟩ := by
  refine bind_eq_ok_iff.2 ⟨ps, ?_, rfl⟩
  rw [String.toList_ofList, conditions_join h]
  exact mapM_eq_ok_iff.2 (h.imp fun _ _ h => h.compiles)

/-- Each predicate of a compiled rule comes from a condition between semicolons. -/
theorem exists_condition_of_mem {rule : String} {r : Rule} (h : compileRule zone kind rule = .ok r)
    {p : Predicate} (hp : p ∈ r.predicates) :
    ∃ condition, ';' ∉ condition ∧ compileCondition zone kind condition = .ok p := by
  obtain ⟨ps, hps, h⟩ := bind_eq_ok_iff.1 h
  obtain rfl := Except.ok.inj h
  obtain ⟨condition, hcondition, hcompiled⟩ := exists_left_of_forall₂ (mapM_eq_ok_iff.1 hps) hp
  exact ⟨condition, (splitOn_pieces (List.mem_of_mem_filter hcondition)).1, hcompiled⟩

/-- **A compiled rule has a canonical text that compiles to it.** -/
theorem exists_ruleText {rule : String} {r : Rule} (h : compileRule zone kind rule = .ok r) :
    ∃ text, r.ruleText? zone = some text ∧ compileRule zone kind text = .ok r := by
  obtain ⟨ps, -, hr⟩ := bind_eq_ok_iff.1 h
  obtain rfl := Except.ok.inj hr
  have hcanonical : ∀ p ∈ ps, ∃ text : String,
      p.condition? zone = some text ∧ StandsFor zone kind text.toList p := by
    intro p hp
    obtain ⟨condition, hsemi, hcompiled⟩ := exists_condition_of_mem h hp
    exact exists_condition hsemi hcompiled
  obtain ⟨texts, htexts⟩ := exists_forall₂ hcanonical
  have hstands : Forall₂ (StandsFor zone kind) (texts.map String.toList) ps :=
    List.forall₂_map_left_iff.2 (htexts.flip.imp fun _ _ h => h.2)
  refine ⟨";".intercalate texts, ?_, ?_⟩
  · simp only [Rule.ruleText?, mapM_eq_some (htexts.imp fun _ _ h => h.1), Option.map_some]
  · have hjoin : ";".intercalate texts = .ofList (join [';'] (texts.map String.toList)) := by
      rw [← String.ofList_toList (s := ";".intercalate texts), toList_intercalate]
      rfl
    rw [hjoin, compileRule_join hstands]

/-- Compiled rules pass records. -/
theorem action_of_compileRule {rule : String} {r : Rule} (h : compileRule zone kind rule = .ok r) :
    r.action = .pass := by
  obtain ⟨ps, -, h⟩ := bind_eq_ok_iff.1 h
  rw [← Except.ok.inj h]

/-! ### Rulebases -/

/-- Rules that were each compiled are compiled from their canonical texts. -/
theorem exists_ruleTexts {rules : List Rule}
    (h : ∀ r ∈ rules, ∃ rule, compileRule zone kind rule = .ok r) :
    ∃ texts, Forall₂ (fun r text => r.ruleText? zone = some text) rules texts ∧
      compile zone kind texts = .ok ⟨kind, rules⟩ := by
  have hcanonical : ∀ r ∈ rules, ∃ text,
      r.ruleText? zone = some text ∧ compileRule zone kind text = .ok r := by
    intro r hr
    obtain ⟨rule, hrule⟩ := h r hr
    exact exists_ruleText hrule
  obtain ⟨texts, htexts⟩ := exists_forall₂ hcanonical
  have hcompile : texts.mapM (compileRule zone kind) = .ok rules :=
    mapM_eq_ok_iff.2 (htexts.flip.imp fun _ _ h => h.2)
  exact ⟨texts, htexts.imp fun _ _ h => h.1, bind_eq_ok_iff.2 ⟨rules, hcompile, rfl⟩⟩

/-- The rules of a compiled rulebase were each compiled. -/
theorem exists_rule_of_compile {rules : List String} {t : Rulebase}
    (h : compile zone kind rules = .ok t) :
    t.kind = kind ∧ ∀ r ∈ t.rules, ∃ rule, compileRule zone kind rule = .ok r := by
  obtain ⟨compiled, hcompiled, h⟩ := bind_eq_ok_iff.1 h
  obtain rfl := Except.ok.inj h
  refine ⟨rfl, fun r hr => ?_⟩
  obtain ⟨rule, -, hrule⟩ := exists_left_of_forall₂ (mapM_eq_ok_iff.1 hcompiled) hr
  exact ⟨rule, hrule⟩

/-- The rules of a session are compiled ones, behind at most one that drops records. -/
theorem sessionRulebase_spec {mode : Mode} {userRules : List String} {t : Rulebase}
    (h : sessionRulebase zone kind mode userRules = .ok (some t)) :
    ∃ dropped compiled, t = ⟨kind, dropped ++ compiled⟩ ∧ (dropped = [dropVpn] ∨ dropped = []) ∧
      ∀ r ∈ compiled, ∃ rule, compileRule zone kind rule = .ok r := by
  obtain ⟨user, huser, rfl⟩ := exists_user_of_sessionRulebase h
  refine ⟨_, _, rfl, ?_, fun r hr => ?_⟩
  · rw [leadingRules]
    split
    · exact .inl rfl
    · exact .inr rfl
  · -- The rule that the mode adds has a text as well.
    obtain hr | hr := List.mem_append.1 hr
    · exact (exists_rule_of_compile huser).2 r hr
    · exact (exists_rule_of_compile (compile_addedTexts zone kind mode)).2 r hr

/-- **Canonical texts recompile.** Each rule of a compiled rulebase has a text, and the texts
compile to the rulebase; the texts of a session's rulebase compile to its rules that pass
records, in order. -/
theorem canonical_texts_recompile (zone : Calendar.Zone) (kind : RecordKind) :
    (∀ rules t, compile zone kind rules = .ok t →
      (∀ r ∈ t.rules, (r.ruleText? zone).isSome) ∧
      (t.ruleTexts zone).length = t.rules.length ∧
      compile zone kind (t.ruleTexts zone) = .ok t) ∧
    (∀ mode rules t, sessionRulebase zone kind mode rules = .ok (some t) →
      compile zone kind (t.ruleTexts zone) = .ok ⟨kind, t.rules.filter (·.action = .pass)⟩) := by
  constructor
  · intro rules t h
    obtain ⟨hkind, hrules⟩ := exists_rule_of_compile h
    obtain ⟨texts, htexts, hback⟩ := exists_ruleTexts hrules
    have hall : t.ruleTexts zone = texts := filterMap_eq_of_forall₂ htexts
    refine ⟨fun r hr => ?_, ?_, ?_⟩
    · obtain ⟨text, -, htext⟩ := exists_left_of_forall₂ htexts.flip hr
      exact Option.isSome_iff_exists.2 ⟨text, htext⟩
    · rw [hall, htexts.length_eq]
    · rw [hall, hback, ← hkind]
  · intro mode rules t h
    obtain ⟨dropped, compiled, rfl, hdropped, hcompiled⟩ := sessionRulebase_spec h
    obtain ⟨texts, htexts, hback⟩ := exists_ruleTexts hcompiled
    have hpass : compiled.filter (·.action = .pass) = compiled := by
      refine List.filter_eq_self.2 fun r hr => ?_
      obtain ⟨rule, hrule⟩ := hcompiled r hr
      exact decide_eq_true (action_of_compileRule hrule)
    have hfilter : (dropped ++ compiled).filter (·.action = .pass) = compiled := by
      obtain rfl | rfl := hdropped
      · exact hpass
      · exact hpass
    have hall : Rulebase.ruleTexts zone ⟨kind, dropped ++ compiled⟩ = texts := by
      obtain rfl | rfl := hdropped
      · exact (List.filterMap_cons_none rfl).trans (filterMap_eq_of_forall₂ htexts)
      · exact filterMap_eq_of_forall₂ htexts
    rw [hall, hback, hfilter]

/-- A network, an empty range and an hour that the clock shows twice; the rulebase of firewall
mode drops records first and passes others last. -/
theorem canonical_texts_recompile_firewall :
    let rule : Rule := ⟨.pass, [⟨"src", false, .belongsToMask, [.ipAddress 10, .ipAddress 255]⟩,
      ⟨"service", false, .belongsTo, []⟩, ⟨"time", true, .greaterEqual, [.unixTime 1730615400]⟩]⟩
    let last : Rule := ⟨.pass, [⟨"product", false, .belongsTo, [.string "VPN-1 & FireWall-1"]⟩]⟩
    let texts := ["src = 10.0.0.0/8; service=9-3; starttime!=20241103013000"]
    compile .easternStates .traffic texts = .ok ⟨.traffic, [rule]⟩ ∧
      compile .easternStates .traffic (Rulebase.ruleTexts .easternStates ⟨.traffic, [rule]⟩) =
        .ok ⟨.traffic, [rule]⟩ ∧
      sessionRulebase .easternStates .traffic .firewall texts =
        .ok (some ⟨.traffic, [dropVpn, rule, last]⟩) ∧
      compile .easternStates .traffic
          (Rulebase.ruleTexts .easternStates ⟨.traffic, [dropVpn, rule, last]⟩) =
        .ok ⟨.traffic, [rule, last]⟩ := by
  intro rule last texts
  have hcompile : compile .easternStates .traffic texts = .ok ⟨.traffic, [rule]⟩ := by rfl
  have hsession : sessionRulebase .easternStates .traffic .firewall texts =
      .ok (some ⟨.traffic, [dropVpn, rule, last]⟩) := by rfl
  obtain ⟨hplain, hmode⟩ := canonical_texts_recompile .easternStates .traffic
  exact ⟨hcompile, (hplain _ _ hcompile).2.2, hsession, hmode _ _ _ hsession⟩

end LogCollector.Filter
