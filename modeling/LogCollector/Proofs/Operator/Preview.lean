import LogCollector.Operator.Answer
import LogCollector.Proofs.Filter.SessionRulebase
import LogCollector.Proofs.Session.FilterFirst

/-!
# Previewed rules

An operator who asks for the rules of a session sees the ones that a session without a settings
document registers (`preview_shows_registration`). The two are found in different ways: the session
reads audit records in audit mode, whatever mode is configured, and the preview asks for the rules
of the configured mode. They agree since no mode adds a rule to those on audit records
(`sessionRulebase_audit`). A session on a server of the year 2000 registers nothing, which the
preview does not show.
-/

namespace LogCollector

open LogCollector.Filter (Rulebase sessionRulebase)
open Operator (RulesReport)

/-! ### What is registered without a settings document -/

/-- **The mode does not matter** for the rules on audit records. -/
theorem Filter.sessionRulebase_audit (zone : Calendar.Zone) (mode : Mode) (rules : List String) :
    sessionRulebase zone .audit mode rules = sessionRulebase zone .audit .audit rules := by
  cases h : compile zone .audit rules with
  | error fault => rw [sessionRulebase_eq_error_iff.2 h, sessionRulebase_eq_error_iff.2 h]
  | ok user =>
    rw [sessionRulebase_of_compile h, sessionRulebase_of_compile h]
    cases mode <;> rfl

namespace Plan

/-- The rulebase of the kind of records and of the mode that are planned. -/
def rulebase (p : Plan) : Except FilterFault (Option Rulebase) :=
  sessionRulebase p.zone p.kind p.mode (p.rulesFor p.kind)

/-- The terms of a session without a settings document that registers a rulebase. -/
def termsWith (p : Plan) (rulebase : Option Rulebase) : SessionTerms :=
  let (kind, mode) := SessionTerms.kindAndMode p .unspecified
  ⟨kind, mode, p.resolve, p.online, rulebase, .unspecified⟩

variable {plan : Plan}

/-- The session finds the planned rulebase, although it may be in another mode. -/
theorem sessionRulebase_kindAndMode (plan : Plan) :
    let found := SessionTerms.kindAndMode plan .unspecified
    sessionRulebase plan.zone found.1 found.2 (plan.rulesFor found.1) = plan.rulebase := by
  rw [rulebase]
  cases hkind : plan.kind with
  | traffic => simp only [SessionTerms.kindAndMode, ConnectionParams.unspecified, hkind]
  | audit =>
    rw [Filter.sessionRulebase_audit]
    simp only [SessionTerms.kindAndMode, ConnectionParams.unspecified, hkind]

/-- **Without a settings document** a session has the terms with the planned rulebase, and only a
fault of the rules can keep it from them. -/
theorem derive_unspecified (h : plan.legacy = false) :
    SessionTerms.derive plan .unspecified =
      (plan.rulebase.mapError RunFault.filter).map plan.termsWith := by
  have honline : (plan.online || ConnectionParams.unspecified.online) = plan.online :=
    Bool.or_false _
  have hfound := sessionRulebase_kindAndMode plan
  rw [SessionTerms.derive, h, honline]
  unfold termsWith
  -- Which kind and mode were found is not looked at any more: the rulebase is the planned one.
  generalize SessionTerms.kindAndMode plan .unspecified = found at hfound ⊢
  obtain ⟨kind, mode⟩ := found
  dsimp only at hfound ⊢
  rw [hfound]
  cases plan.rulebase <;> rfl

/-- A session without a settings document has no terms exactly because of a fault of the rules. -/
theorem derive_unspecified_eq_error_iff (h : plan.legacy = false) {fault : RunFault} :
    SessionTerms.derive plan .unspecified = .error fault ↔
      ∃ f, fault = .filter f ∧ plan.rulebase = .error f := by
  rw [derive_unspecified h]
  cases plan.rulebase with
  | error f =>
    show Except.error (RunFault.filter f) = _ ↔ _
    constructor
    · rintro ⟨⟩
      exact ⟨f, rfl, rfl⟩
    · rintro ⟨g, rfl, ⟨⟩⟩
      rfl
  | ok t =>
    show Except.ok (plan.termsWith t) = _ ↔ _
    constructor
    · rintro ⟨⟩
    · rintro ⟨g, -, ⟨⟩⟩

/-- There is no empty rulebase to be registered. -/
theorem rules_ne_nil_of_rulebase {t : Rulebase} (h : plan.rulebase = .ok (some t)) :
    t.rules ≠ [] := by
  cases huser : Filter.compile plan.zone plan.kind (plan.rulesFor plan.kind) with
  | error fault =>
    rw [rulebase, Filter.sessionRulebase_eq_error_iff.2 huser] at h
    cases h
  | ok user =>
    rw [rulebase, Filter.sessionRulebase_of_compile huser, Except.ok.injEq,
      Filter.registered_eq_some_iff] at h
    obtain ⟨hrules, rfl⟩ := h
    exact hrules

end Plan

/-! ### The session -/

namespace Controller

variable {σ : Type} (w : World σ) {a : Assignment}

/-- Without a settings document a session is requested with no parameters. -/
theorem start_unspecified (hsource : a.source = .unspecified) (c : Controller) :
    Yields (fun r => ∀ request, r.1 = .ok request → request.params = .unspecified)
      (start w a c) := by
  have hterms : Yields (fun r => ∀ terms, r = .ok terms → terms.params = .unspecified)
      (a.source.terms w a.plan) := by
    rw [hsource]
    exact fun _ _ h => SessionTerms.params_of_derive h
  unfold start
  split
  · exact .pure fun _ h => nomatch h
  · refine hterms.bind fun terms hterms => ?_
    cases terms with
    | error f => exact .pure fun _ h => nomatch h
    | ok terms =>
      dsimp only
      split
      · refine .next fun found => ?_
        cases found with
        | error f => exact .pure fun _ h => nomatch h
        | ok found =>
          refine .pure fun request h => ?_
          rw [← Except.ok.inj h]
          exact hterms terms rfl
      · refine .pure fun request h => ?_
        rw [← Except.ok.inj h]
        exact hterms terms rfl

/-- A session without a settings document that is requested has the terms that the plan comes to,
and if it is opened it registers their rulebase. -/
theorem registrations_of_opened (hsource : a.source = .unspecified) {c : Controller} {fuel : Nat}
    {s : σ} {request : SessionRequest} {answer : Except SessionFault Unit}
    (hopened : (request, answer) ∈ openings (runSession w a fuel c ⟨s, []⟩).2.journal) :
    ∃ terms, SessionTerms.derive a.plan .unspecified = .ok terms ∧ (answer = .ok () →
      registrations (runSession w a fuel c ⟨s, []⟩).2.journal = terms.rulebase.toList) := by
  have hderives := start_derives w (a := a) c ⟨s, []⟩
  have hparams := start_unspecified w hsource c ⟨s, []⟩
  have haside : ∀ step ∈ (start w a c ⟨s, []⟩).2.journal, step.IsAside := by
    obtain ⟨new, hnew, haside⟩ := adds_start_aside w (a := a) c ⟨s, []⟩
    rw [hnew, List.append_nil]
    exact haside
  rw [runSession_eq, Run.bind_apply] at hopened ⊢
  generalize start w a c ⟨s, []⟩ = prepared at hderives hparams haside hopened ⊢
  obtain ⟨⟨result, c'⟩, t⟩ := prepared
  cases result with
  | error f =>
    have hnone : (request, answer) ∈ openings t.journal := hopened
    rw [openings_of_aside haside] at hnone
    cases hnone
  | ok first =>
    obtain ⟨terms, hderive, -, hstate, hpending⟩ := hderives first rfl
    rw [hparams first rfl] at hderive
    have hconduct : Triple (.owing fun _ => True) (fun j => ∀ step ∈ j, step.IsAside)
        (conduct w a fuel first c') (Screened terms.rulebase first) :=
      conduct_triple w hstate hpending fuel
    obtain ⟨other, haccount, -⟩ := hconduct.result t haside
    refine ⟨terms, hderive, fun hanswer => haccount.registrations ?_⟩
    -- A session is requested only once, so this is the request that was answered.
    have hone : (request, answer) ∈ [(first, other)] := haccount.openings ▸ hopened
    rw [← hanswer]
    exact (Prod.ext_iff.1 (List.mem_singleton.1 hone)).2.symm

end Controller

/-! ### The preview -/

namespace Plan

/-- The texts of the rules to be registered, in order. -/
def shown (t : Option Rulebase) : List String := (t.elim [] (·.rules)).map (·.text)

/-- The report on the planned rules with those that a session adds. -/
def preview (p : Plan) : Except FilterFault RulesReport :=
  RulesReport.compile p.zone (p.rulesFor p.kind) p.kind (some p.mode)

/-- The report on a rulebase to be registered. -/
def reportOn (p : Plan) (t : Option Rulebase) : RulesReport :=
  let base := t.getD ⟨p.kind, []⟩
  ⟨p.kind, some p.mode, base.rules.map (·.text), base.ruleTexts p.zone⟩

/-- What a session of the plan does without a settings document. -/
def journal {σ : Type} (p : Plan) (w : World σ) (store : CheckpointStore) (target : LogFile)
    (c : Controller) (fuel : Nat) (s : σ) : List Step :=
  (Controller.runSession w ⟨p, store, .unspecified, target⟩ fuel c ⟨s, []⟩).2.journal

variable {plan : Plan}

/-- Nothing is shown exactly when nothing is registered. -/
theorem shown_eq_nil_iff {t : Option Rulebase} (h : plan.rulebase = .ok t) :
    shown t = [] ↔ t = none := by
  cases t with
  | none => exact iff_of_true rfl rfl
  | some t =>
    refine iff_of_false ?_ nofun
    rw [shown, List.map_eq_nil_iff]
    exact rules_ne_nil_of_rulebase h

/-- The preview is the report on the planned rulebase. -/
theorem preview_eq (plan : Plan) : plan.preview = plan.rulebase.map plan.reportOn := by
  rw [preview, rulebase, RulesReport.compile]
  cases sessionRulebase plan.zone plan.kind plan.mode (plan.rulesFor plan.kind) <;> rfl

/-- The preview fails exactly because of a fault of the rules. -/
theorem preview_eq_error_iff {fault : FilterFault} :
    plan.preview = .error fault ↔ plan.rulebase = .error fault := by
  rw [preview_eq]
  cases plan.rulebase with
  | error f =>
    show Except.error f = _ ↔ _
    rw [Except.error.injEq, Except.error.injEq]
  | ok t =>
    show Except.ok (plan.reportOn t) = _ ↔ _
    constructor
    · rintro ⟨⟩
    · rintro ⟨⟩

/-- The preview shows the planned rulebase. -/
theorem rules_of_preview {report : RulesReport} (h : plan.preview = .ok report) :
    ∃ t, plan.rulebase = .ok t ∧ report.rules = shown t := by
  rw [preview_eq] at h
  cases hrulebase : plan.rulebase with
  | error f =>
    rw [hrulebase] at h
    cases h
  | ok t =>
    rw [hrulebase] at h
    refine ⟨t, rfl, ?_⟩
    rw [← Except.ok.inj h]
    cases t <;> rfl

/-- The operator's program compiles rules in the configured mode. -/
theorem compileRules_session {s : Surroundings} {path : String} {c : Config}
    (h : s.loadConfig path = .ok c) (rules : List String) (kind : RecordKind) :
    Operator.compileRules s path rules kind true =
      (RulesReport.compile s.zone rules kind (some c.lea.mode)).mapError .filter := by
  rw [Operator.compileRules, h]
  rfl

/-- **The preview shows what a session registers.** It fails exactly when the terms of a session
without a settings document cannot be found, with the same fault, and then no session is requested.
Otherwise it shows the rules of the rulebase that the terms have, in order, and none exactly when
there is no rulebase; a session that is opened registers that rulebase and nothing else. The preview
is what the operator's program answers for the configured rules. -/
theorem preview_shows_registration (hlegacy : plan.legacy = false) :
    (∀ fault, plan.preview = .error fault ↔
      SessionTerms.derive plan .unspecified = .error (.filter fault)) ∧
    (∀ fault, SessionTerms.derive plan .unspecified = .error fault →
      (∃ f, fault = .filter f) ∧ ∀ {σ : Type} (w : World σ) store target c fuel s,
        openings (plan.journal w store target c fuel s) = []) ∧
    (∀ report, plan.preview = .ok report → ∃ terms,
      SessionTerms.derive plan .unspecified = .ok terms ∧
      report.rules = shown terms.rulebase ∧ (report.rules = [] ↔ terms.rulebase = none) ∧
      ∀ {σ : Type} (w : World σ) store target c fuel s request,
        (request, .ok ()) ∈ openings (plan.journal w store target c fuel s) →
          registrations (plan.journal w store target c fuel s) = terms.rulebase.toList) ∧
    ∀ (s : Surroundings) (path : String) (c : Config), s.loadConfig path = .ok c →
      c.plan s.zone = plan →
        Operator.compileRules s path (plan.rulesFor plan.kind) plan.kind true =
          plan.preview.mapError .filter := by
  refine ⟨fun fault => ?_, fun fault h => ⟨?_, ?_⟩, fun report h => ?_, ?_⟩
  · rw [preview_eq_error_iff, derive_unspecified_eq_error_iff hlegacy]
    simp
  · obtain ⟨f, hf, -⟩ := (derive_unspecified_eq_error_iff hlegacy).1 h
    exact ⟨f, hf⟩
  · intro σ w store target c fuel s
    refine List.eq_nil_iff_forall_not_mem.2 fun (request, answer) hopened => ?_
    obtain ⟨terms, hterms, -⟩ := Controller.registrations_of_opened w rfl hopened
    cases h.symm.trans hterms
  · obtain ⟨t, hrulebase, hrules⟩ := rules_of_preview h
    have hderive : SessionTerms.derive plan .unspecified = .ok (plan.termsWith t) := by
      rw [derive_unspecified hlegacy, hrulebase]
      rfl
    refine ⟨_, hderive, hrules, hrules ▸ shown_eq_nil_iff hrulebase, ?_⟩
    intro σ w store target c fuel s request hopened
    obtain ⟨terms, hterms, hregistered⟩ := Controller.registrations_of_opened w rfl hopened
    rw [Except.ok.inj (hderive.symm.trans hterms)]
    exact hregistered rfl
  · rintro s path c hload rfl
    exact compileRules_session hload _ _

/-- In the mode of intrusion prevention the rule of the mode is shown behind the one of the user; a
rule with a misspelt action keeps both the report and the terms from being made. -/
theorem preview_shows_registration_ips :
    let ips (rule : String) : Plan :=
      { Plan.standard .universal with mode := .ips, trafficRules := [rule] }
    (∃ terms, SessionTerms.derive (ips "action=accept") .unspecified = .ok terms ∧
      shown terms.rulebase =
        ["PASS action BELONGS_TO[ACTION_CODE:4]", "PASS product BELONGS_TO[STRING:SmartDefense]"]) ∧
    ∃ fault, SessionTerms.derive (ips "action=axept") .unspecified = .error (.filter fault) ∧
      fault.message =
        "syntax error in rule argument 'action=axept': invalid value for action: 'axept'" := by
  intro ips
  obtain ⟨report, hreport, hrules⟩ : ∃ report, (ips "action=accept").preview = .ok report ∧
      report.rules =
        ["PASS action BELONGS_TO[ACTION_CODE:4]", "PASS product BELONGS_TO[STRING:SmartDefense]"] :=
    ⟨_, rfl, by decide +kernel⟩
  obtain ⟨fault, hfault, hmessage⟩ : ∃ fault, (ips "action=axept").preview = .error fault ∧
      fault.message =
        "syntax error in rule argument 'action=axept': invalid value for action: 'axept'" :=
    ⟨_, rfl, by decide +kernel⟩
  obtain ⟨-, -, hok, -⟩ := @preview_shows_registration (ips "action=accept") rfl
  obtain ⟨terms, hterms, hshown, -⟩ := hok report hreport
  refine ⟨⟨terms, hterms, hshown.symm.trans hrules⟩, fault, ?_, hmessage⟩
  exact ((@preview_shows_registration (ips "action=axept") rfl).1 fault).1 hfault

/-- The two rules of firewall mode are shown for a server of the year 2000, and none is
registered. -/
example :
    let p : Plan := { Plan.standard .universal with legacy := true }
    p.preview.map (·.rules.length) = .ok 2 ∧
      (SessionTerms.derive p .unspecified).map (·.rulebase) = .ok none :=
  ⟨rfl, rfl⟩

end Plan

end LogCollector
