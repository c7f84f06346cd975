import LogCollector.Filter.Compile
import Mathlib.Logic.Basic

/-!
# How the rulebase of a session is put together

A session puts rules of its own around those of the user. In firewall mode the first rule drops
the records of virtual private networks, unless some rule of the user is on the product
(`DropsVpn`); behind the rules of the user stands the rule that the mode adds (`addedRules`). The
texts of the modes compile in every zone, so only a rule of the user can be at fault
(`session_rulebase_in_order`).
-/

namespace LogCollector.Filter

variable {zone : Calendar.Zone} {kind : RecordKind} {mode : Mode} {userRules : List String}
  {user : Rulebase}

/-! ### The rules of the session -/

/-- Some predicate of the rules is on the product that wrote the record, or on a part of it. -/
def OnProduct (rules : List Rule) : Prop :=
  ∃ r ∈ rules, ∃ p ∈ r.predicates, p.field = "product" ∨ p.field = "fw_subproduct"

instance (rules : List Rule) : Decidable (OnProduct rules) :=
  inferInstanceAs (Decidable (∃ r ∈ rules, ∃ p ∈ r.predicates, _ ∨ _))

/-- The session leaves out the records of virtual private networks: it reads traffic in firewall
mode, and the user does not ask for products. -/
def DropsVpn (kind : RecordKind) (mode : Mode) (user : List Rule) : Prop :=
  kind = .traffic ∧ mode = .firewall ∧ ¬ OnProduct user

instance (kind : RecordKind) (mode : Mode) (user : List Rule) :
    Decidable (DropsVpn kind mode user) :=
  inferInstanceAs (Decidable (_ ∧ _ ∧ ¬ _))

/-- What stands in front of the rules of the user. -/
def leadingRules (kind : RecordKind) (mode : Mode) (user : List Rule) : List Rule :=
  if DropsVpn kind mode user then [dropVpn] else []

/-- The texts of the rules that a mode adds for a kind of records. -/
def addedTexts : RecordKind → Mode → List String
  | .traffic, mode => mode.impliedRule?.toList
  | .audit, _ => []

/-- What stands behind the rules of the user. -/
def addedRules : RecordKind → Mode → List Rule
  | .traffic, .ips => [⟨.pass, [⟨"product", false, .belongsTo, [.string "SmartDefense"]⟩]⟩]
  | .traffic, .vpn => [⟨.pass, [⟨"fw_subproduct", false, .belongsTo, [.string "VPN-1"]⟩]⟩]
  | .traffic, .firewall =>
    [⟨.pass, [⟨"product", false, .belongsTo, [.string "VPN-1 & FireWall-1"]⟩]⟩]
  | _, _ => []

/-- The texts of a mode compile to its rules wherever the collector runs. -/
theorem compile_addedTexts (zone : Calendar.Zone) (kind : RecordKind) (mode : Mode) :
    compile zone kind (addedTexts kind mode) = .ok ⟨kind, addedRules kind mode⟩ := by
  cases kind with
  | traffic => cases mode <;> rfl
  | audit => rfl

/-- The rule of firewall mode is itself on the product. -/
theorem onProduct_addedRules_firewall : OnProduct (addedRules .traffic .firewall) := by decide

/-- Asking each rule for the two attributes is asking whether a predicate is on one of them. -/
theorem any_constrains_iff {rules : List Rule} :
    rules.any (fun r => r.constrains "fw_subproduct" || r.constrains "product") = true ↔
      OnProduct rules := by
  simp only [List.any_eq_true, Bool.or_eq_true, Rule.constrains, beq_iff_eq, OnProduct]
  constructor
  · rintro ⟨r, hr, ⟨p, hp, hfield⟩ | ⟨p, hp, hfield⟩⟩
    · exact ⟨r, hr, p, hp, .inr hfield⟩
    · exact ⟨r, hr, p, hp, .inl hfield⟩
  · rintro ⟨r, hr, p, hp, hfield | hfield⟩
    · exact ⟨r, hr, .inr ⟨p, hp, hfield⟩⟩
    · exact ⟨r, hr, .inl ⟨p, hp, hfield⟩⟩

/-! ### The rulebase -/

/-- A rulebase of some rules, if there are any. -/
def registered (kind : RecordKind) (rules : List Rule) : Option Rulebase :=
  if rules.isEmpty then none else some ⟨kind, rules⟩

theorem registered_eq_none_iff {rules : List Rule} : registered kind rules = none ↔ rules = [] := by
  simp [registered]

theorem registered_eq_some_iff {rules : List Rule} {t : Rulebase} :
    registered kind rules = some t ↔ rules ≠ [] ∧ t = ⟨kind, rules⟩ := by
  cases rules with
  | nil => simp [registered]
  | cons r rules => simp [registered, eq_comm]

/-- **The rules of the user stand between those of the session**, as they were compiled. -/
theorem sessionRulebase_of_compile (h : compile zone kind userRules = .ok user) :
    sessionRulebase zone kind mode userRules =
      .ok (registered kind
        (leadingRules kind mode user.rules ++ user.rules ++ addedRules kind mode)) := by
  have hleading : leadingRules kind mode user.rules =
      if kind = .traffic ∧ mode = .firewall ∧
        ¬ user.rules.any (fun r => r.constrains "fw_subproduct" || r.constrains "product") = true
      then [dropVpn] else [] := by
    refine if_congr ?_ rfl rfl
    rw [any_constrains_iff, DropsVpn]
  rw [sessionRulebase, h, hleading]
  cases kind with
  | traffic => cases mode <;> rfl
  | audit => cases mode <;> rfl

/-- **Only the rules of the user can be at fault.** -/
theorem sessionRulebase_eq_error_iff {fault : FilterFault} :
    sessionRulebase zone kind mode userRules = .error fault ↔
      compile zone kind userRules = .error fault := by
  cases h : compile zone kind userRules with
  | error other =>
    have hsession : sessionRulebase zone kind mode userRules = .error other := by
      rw [sessionRulebase, h]
      rfl
    rw [hsession, Except.error.injEq, Except.error.injEq]
  | ok user =>
    rw [sessionRulebase_of_compile h]
    simp

/-- What is registered for a session has the compiled rules of the user in it. -/
theorem exists_user_of_sessionRulebase {t : Rulebase}
    (h : sessionRulebase zone kind mode userRules = .ok (some t)) :
    ∃ user, compile zone kind userRules = .ok user ∧
      t = ⟨kind, leadingRules kind mode user.rules ++ (user.rules ++ addedRules kind mode)⟩ := by
  cases huser : compile zone kind userRules with
  | error fault =>
    rw [sessionRulebase_eq_error_iff.2 huser] at h
    cases h
  | ok user =>
    rw [sessionRulebase_of_compile huser, Except.ok.injEq, registered_eq_some_iff] at h
    exact ⟨user, rfl, by rw [h.2, List.append_assoc]⟩

/-- **The rules of a session stand in order.** A session fails exactly when compiling the rules of
the user does, with the same fault. Otherwise its rules are the one that drops records, if it
stands there, those of the user, and those of the mode; without any rule there is no rulebase. In
firewall mode the rule of the mode is on the product, and still the first rule drops records when
the user does not ask for products. -/
theorem session_rulebase_in_order (zone : Calendar.Zone) (kind : RecordKind) (mode : Mode)
    (userRules : List String) :
    (∀ fault, sessionRulebase zone kind mode userRules = .error fault ↔
      compile zone kind userRules = .error fault) ∧
    ∀ user, compile zone kind userRules = .ok user →
      ∃ first last answer, sessionRulebase zone kind mode userRules = .ok answer ∧
        (first = [dropVpn] ∧ DropsVpn kind mode user.rules ∨
          first = [] ∧ ¬ DropsVpn kind mode user.rules) ∧
        compile zone kind (addedTexts kind mode) = .ok ⟨kind, last⟩ ∧
        (answer = none ↔ first ++ user.rules ++ last = []) ∧
        (∀ t, answer = some t → t = ⟨kind, first ++ user.rules ++ last⟩) ∧
        (kind = .traffic → mode = .firewall → OnProduct last ∧
          (¬ OnProduct user.rules →
            answer = some ⟨.traffic, dropVpn :: (user.rules ++ last)⟩)) := by
  refine ⟨fun fault => sessionRulebase_eq_error_iff, fun user h => ?_⟩
  refine ⟨leadingRules kind mode user.rules, addedRules kind mode, _,
    sessionRulebase_of_compile h, ?_, compile_addedTexts zone kind mode, registered_eq_none_iff,
    fun t ht => (registered_eq_some_iff.1 ht).2, ?_⟩
  · by_cases hdrops : DropsVpn kind mode user.rules
    · exact .inl ⟨if_pos hdrops, hdrops⟩
    · exact .inr ⟨if_neg hdrops, hdrops⟩
  · rintro rfl rfl
    refine ⟨onProduct_addedRules_firewall, fun huser => ?_⟩
    rw [leadingRules, if_pos ⟨rfl, rfl, huser⟩]
    rfl

/-- A negated condition and an empty range; the rule that drops records stands in front of them
although the last rule is on the product. -/
theorem session_rulebase_in_order_firewall :
    let rule : Rule := ⟨.pass, [⟨"action", true, .belongsTo, [.actionCode 2]⟩,
      ⟨"service", false, .belongsTo, []⟩]⟩
    let last : Rule := ⟨.pass, [⟨"product", false, .belongsTo, [.string "VPN-1 & FireWall-1"]⟩]⟩
    compile .universal .traffic ["action!=drop;service=9-3"] = .ok ⟨.traffic, [rule]⟩ ∧
      ¬ OnProduct [rule] ∧
      sessionRulebase .universal .traffic .firewall ["action!=drop;service=9-3"] =
        .ok (some ⟨.traffic, [dropVpn, rule, last]⟩) := by
  intro rule last
  have hcompile : compile .universal .traffic ["action!=drop;service=9-3"] =
      .ok ⟨.traffic, [rule]⟩ := by rfl
  have huser : ¬ OnProduct [rule] := by decide
  obtain ⟨first, added, answer, hsession, -, hadded, -, -, hfirewall⟩ :=
    (session_rulebase_in_order .universal .traffic .firewall _).2 _ hcompile
  have hlast : compile .universal .traffic (addedTexts .traffic .firewall) =
      .ok ⟨.traffic, [last]⟩ := by rfl
  obtain rfl : added = [last] := by simpa [hlast, eq_comm] using hadded
  exact ⟨hcompile, huser, by rw [hsession, (hfirewall rfl rfl).2 huser]; rfl⟩

end LogCollector.Filter
