import LogCollector.Proofs.Collector.Reports
import LogCollector.Proofs.Filter.SessionRulebase
import LogCollector.Proofs.Run.Tallies
import LogCollector.Proofs.Session.EffectiveSettings

/-!
# Runs that fail at their start

Before anything is collected a run finds out the terms of its sessions and its log files.
`ParamsSource.Fails` says when there are no terms: when the settings cannot be fetched or read, when
they lack a parameter, or when a rule for the records that they ask for does not compile. A run
without terms ends with that fault and has done nothing but fetch the settings and flush the sink; a
run without log files has besides asked the server for them (`startup_faults_touch_nothing`).
-/

namespace LogCollector

/-! ### Why there are no terms -/

/-- A step that fetches a settings document, or measures that. -/
def Step.Fetches : Step → Prop
  | .called _ _ params _ => params = []
  | .measured m => m = .called
  | _ => False

/-- The faults for which parameters of a connection do not fit a plan. -/
inductive SessionTerms.Refuses (plan : Plan) (params : ConnectionParams) : RunFault → Prop where
  /-- A parameter that is required is missing. -/
  | incomplete {f : ConfigFault} : params.check plan.legacy = .error f →
      Refuses plan params (.config f)
  /-- A rule for the records of the session does not compile; it is the first such rule. Servers of
  the year 2000 are given no rules. -/
  | badRule {f : FilterFault} {earlier later : List String} {rule : String} :
      params.check plan.legacy = .ok () → plan.legacy = false →
      plan.rulesFor (kindAndMode plan params).1 = earlier ++ rule :: later →
      (∀ r ∈ earlier, Succeeds (Filter.compileRule plan.zone (kindAndMode plan params).1 r)) →
      Filter.compileRule plan.zone (kindAndMode plan params).1 rule = .error f →
      Refuses plan params (.filter f)

/-- The faults for which an answer of the settings service is of no use. -/
inductive SessionTerms.Rejects (plan : Plan) (endpoint : String) :
    Except StatusFault Status.Response → RunFault → Prop where
  /-- There is no answer. -/
  | unreachable {f : StatusFault} : Rejects plan endpoint (.error f) (.status f)
  /-- The service fails. -/
  | failing {r : Status.Response} : r.isSuccess = false →
      Rejects plan endpoint (.ok r) (.status (.httpStatus endpoint r.status))
  /-- The settings cannot be read. -/
  | malformed {r : Status.Response} {f : ConfigFault} : r.isSuccess = true →
      ConnectionParams.ofDocument (.parse r.body) = .error f →
      Rejects plan endpoint (.ok r) (.config f)
  /-- The settings do not fit the plan. -/
  | unfit {r : Status.Response} {params : ConnectionParams} {f : RunFault} : r.isSuccess = true →
      ConnectionParams.ofDocument (.parse r.body) = .ok params → Refuses plan params f →
      Rejects plan endpoint (.ok r) f

namespace Filter

/-- The fault of a list of rules is that of the first one that does not compile. -/
theorem compile_eq_error_iff {zone : Calendar.Zone} {kind : RecordKind} {rules : List String}
    {fault : FilterFault} : compile zone kind rules = .error fault ↔
      ∃ earlier rule later, rules = earlier ++ rule :: later ∧
        (∀ r ∈ earlier, Succeeds (compileRule zone kind r)) ∧
        compileRule zone kind rule = .error fault := by
  rw [← mapM_eq_error_iff, compile]
  cases rules.mapM (compileRule zone kind) with
  | error f =>
    show (Except.error f : Except FilterFault Rulebase) = _ ↔ _
    rw [Except.error.injEq, Except.error.injEq]
  | ok rs => exact iff_of_false nofun nofun

end Filter

/-- **There are no terms** for parameters that do not fit the plan. -/
theorem SessionTerms.derive_eq_error_iff {plan : Plan} {params : ConnectionParams} {f : RunFault} :
    derive plan params = .error f ↔ Refuses plan params f := by
  have hderive : derive plan params = (do
      (params.check plan.legacy).mapError .config
      let rulebase ←
        if plan.legacy then pure none
        else (Filter.sessionRulebase plan.zone (kindAndMode plan params).1
          (kindAndMode plan params).2 (plan.rulesFor (kindAndMode plan params).1)).mapError .filter
      return ⟨(kindAndMode plan params).1, (kindAndMode plan params).2,
        params.resolve.getD plan.resolve, plan.online || params.online, rulebase, params⟩) := rfl
  rw [hderive]
  constructor
  · intro h
    cases hcheck : params.check plan.legacy with
    | error g =>
      rw [hcheck] at h
      obtain rfl := Except.error.inj h
      exact .incomplete hcheck
    | ok _ =>
      rw [hcheck] at h
      cases hlegacy : plan.legacy with
      | true =>
        rw [hlegacy] at h
        cases h
      | false =>
        rw [hlegacy] at h
        cases hrules : Filter.sessionRulebase plan.zone (kindAndMode plan params).1
          (kindAndMode plan params).2 (plan.rulesFor (kindAndMode plan params).1) with
        | error g =>
          rw [hrules] at h
          obtain rfl := Except.error.inj h
          rw [Filter.sessionRulebase_eq_error_iff, Filter.compile_eq_error_iff] at hrules
          obtain ⟨earlier, rule, later, hsplit, hearlier, hrule⟩ := hrules
          exact .badRule hcheck hlegacy hsplit hearlier hrule
        | ok _ =>
          rw [hrules] at h
          cases h
  · intro h
    cases h with
    | incomplete hcheck =>
      rw [hcheck]
      rfl
    | badRule hcheck hlegacy hsplit hearlier hrule =>
      have hcompile := Filter.compile_eq_error_iff.2 ⟨_, _, _, hsplit, hearlier, hrule⟩
      have hrules : Filter.sessionRulebase _ _ (kindAndMode plan params).2 _ = _ :=
        Filter.sessionRulebase_eq_error_iff.2 hcompile
      rw [hcheck, hlegacy, if_neg Bool.false_ne_true, hrules]
      rfl

/-- The endpoint of the settings document of an entity. -/
def Tracking.settingsEndpoint (tr : Tracking) : String :=
  (Status.Endpoints.ofApp tr.app).settings ++ tr.entity

namespace ParamsSource

/-- The parameters that an answer of the settings service contains. -/
def paramsIn (endpoint : String) :
    Except StatusFault Status.Response → Except RunFault ConnectionParams
  | .error f => .error (.status f)
  | .ok r =>
    if r.isSuccess then (ConnectionParams.ofDocument (.parse r.body)).mapError .config
    else .error (.status (.httpStatus endpoint r.status))

theorem derive_paramsIn_eq_error_iff {plan : Plan} {endpoint : String}
    {answer : Except StatusFault Status.Response} {f : RunFault} :
    (paramsIn endpoint answer).bind (SessionTerms.derive plan) = .error f ↔
      SessionTerms.Rejects plan endpoint answer f := by
  constructor
  · intro h
    cases answer with
    | error g =>
      obtain rfl := Except.error.inj h
      exact .unreachable
    | ok r =>
      cases hsuccess : r.isSuccess with
      | false =>
        rw [paramsIn, hsuccess] at h
        obtain rfl := Except.error.inj h
        exact .failing hsuccess
      | true =>
        cases hparams : ConnectionParams.ofDocument (.parse r.body) with
        | error g =>
          rw [paramsIn, if_pos hsuccess, hparams] at h
          obtain rfl := Except.error.inj h
          exact .malformed hsuccess hparams
        | ok params =>
          rw [paramsIn, if_pos hsuccess, hparams] at h
          exact .unfit hsuccess hparams (SessionTerms.derive_eq_error_iff.1 h)
  · intro h
    cases h with
    | unreachable => rfl
    | failing hsuccess =>
      rw [paramsIn, hsuccess]
      rfl
    | malformed hsuccess hparams =>
      rw [paramsIn, if_pos hsuccess, hparams]
      rfl
    | unfit hsuccess hparams hrefuses =>
      rw [paramsIn, if_pos hsuccess, hparams]
      exact SessionTerms.derive_eq_error_iff.2 hrefuses

variable {σ : Type} (w : World σ)

/-- The faults for which a run has no terms, from a state of the world on. -/
inductive Fails (plan : Plan) (s : σ) : ParamsSource → RunFault → Prop where
  /-- Nothing is known about the connection, and this does not fit the plan. -/
  | unspecified {f : RunFault} : SessionTerms.Refuses plan .unspecified f →
      Fails plan s .unspecified f
  /-- What the service answers is of no use. -/
  | document {role : ServiceRole} {tr : Tracking} {f : RunFault} :
      SessionTerms.Rejects plan tr.settingsEndpoint
        (w.call role tr.settingsEndpoint [] s).1 f →
      Fails plan s (.document role tr) f

/-- The steps that it takes to look the settings up, the latest one first. -/
def lookUp (s : σ) : ParamsSource → List Step
  | .unspecified => []
  | .document role tr =>
    [.measured .called, .called role tr.settingsEndpoint []
      (w.call role tr.settingsEndpoint [] s).1]

variable {w} {plan : Plan} {source : ParamsSource} {t : Tape σ} {f : RunFault}

/-- One settings document is fetched at most. -/
theorem lookUp_quiet (w : World σ) (s : σ) (source : ParamsSource) :
    (∀ step ∈ source.lookUp w s, step.Fetches) ∧
      (source.lookUp w s).countP Step.isCall ≤ 1 := by
  cases source with
  | unspecified => exact ⟨List.forall_mem_nil _, Nat.zero_le _⟩
  | document role tr =>
    rw [lookUp, List.forall_mem_cons, List.forall_mem_singleton]
    exact ⟨⟨rfl, rfl⟩, Nat.le_refl _⟩

theorem fetch_eq (role : ServiceRole) (tr : Tracking) :
    fetch w role tr = (w.serve role tr.settingsEndpoint [] >>= fun answer =>
      pure (paramsIn tr.settingsEndpoint answer)) := by
  unfold fetch Tracking.settingsEndpoint
  refine bind_congr fun answer => ?_
  cases answer with
  | error f => rfl
  | ok r =>
    simp only [paramsIn]
    split <;> rfl

/-- **Why there are no terms.** -/
theorem terms_eq_error_iff :
    (source.terms w plan t).1 = .error f ↔ source.Fails w plan t.world f := by
  cases source with
  | unspecified =>
    have hterms : (terms w .unspecified plan t).1 = SessionTerms.derive plan .unspecified := rfl
    rw [hterms, SessionTerms.derive_eq_error_iff]
    constructor
    · exact .unspecified
    · intro h
      cases h with
      | unspecified h => exact h
  | document role tr =>
    rw [terms, acquire, fetch_eq]
    refine derive_paramsIn_eq_error_iff.trans ⟨.document, fun h => ?_⟩
    cases h with
    | document h => exact h

/-- Finding out the terms, the run looks the settings up, and nothing else happens. -/
theorem journal_terms (plan : Plan) (source : ParamsSource) (t : Tape σ) :
    (source.terms w plan t).2.journal = source.lookUp w t.world ++ t.journal := by
  cases source with
  | unspecified => rfl
  | document role tr =>
    rw [terms, acquire, fetch_eq]
    rfl

end ParamsSource

/-! ### Why there are no log files -/

/-- Log files cannot be found out only where the server has to list them and does not. -/
theorem Targets.resolve_of_error {σ : Type} {w : World σ} {plan : Plan} {kind : RecordKind}
    {online : Bool} {params : ConnectionParams} {t : Tape σ} {f : RunFault}
    (h : (resolve w plan kind online params t).1 = .error f) :
    kind = .traffic ∧ online = false ∧ ∃ g, f = .session g ∧
      (w.listFiles params t.world).1 = .error g ∧
      (resolve w plan kind online params t).2.journal = .listed (.error g) :: t.journal := by
  cases kind with
  | audit => cases h
  | traffic =>
    cases online with
    | true => cases h
    | false =>
      have hlisted : (w.enumerate params t).1 = (w.listFiles params t.world).1 := rfl
      refine ⟨rfl, rfl, ?_⟩
      rw [resolve, Run.bind_apply, hlisted] at h
      cases hlist : (w.listFiles params t.world).1 with
      | ok files =>
        rw [hlist] at h
        cases h
      | error g =>
        rw [hlist] at h
        refine ⟨g, (Except.error.inj h).symm, rfl, ?_⟩
        rw [← hlist]
        rfl

namespace Collector

variable {σ : Type} (w : World σ) (c : Collector) (fuel : Nat) (t : Tape σ)

/-- A run that is given up with a fault. All that it has done before it flushes the sink is of a
kind, and the status service is called once at most. -/
structure GivenUp (f : RunFault) (S : Step → Prop) : Prop where
  /-- The fault is the result of the run. -/
  fault : (c.run w fuel t).1 = some (.error f)
  /-- What has been done. -/
  steps : ∃ new flushed, (c.run w fuel t).2.journal = .flushed flushed :: (new ++ t.journal) ∧
    (∀ s ∈ new, S s) ∧ new.countP Step.isCall ≤ 1

variable {w c fuel t}

/-- A run without log files only flushes the sink. -/
theorem run_of_logFiles_error (fuel : Nat) {f : RunFault} (h : (c.logFiles w t).1 = .error f) :
    (c.run w fuel t).1 = some (.error f) ∧
      ∃ flushed, (c.run w fuel t).2.journal =
        .flushed flushed :: (c.logFiles w t).2.journal := by
  rw [run_eq, collect_eq, Run.bind_apply, Run.bind_apply, h]
  exact ⟨rfl, _, rfl⟩

/-- **Without terms there are no log files**, and nothing has been done but to look the settings
up. -/
theorem logFiles_of_fails {f : RunFault} (h : c.source.Fails w c.plan t.world f) :
    (c.logFiles w t).1 = .error f ∧
      (c.logFiles w t).2.journal = c.source.lookUp w t.world ++ t.journal := by
  have hjournal := ParamsSource.journal_terms (w := w) c.plan c.source t
  rw [← ParamsSource.terms_eq_error_iff] at h
  rw [← hjournal, logFiles, Run.bind_apply, h]
  exact ⟨rfl, rfl⟩

/-- With terms the log files are what the targets come to. -/
theorem logFiles_of_terms {terms : SessionTerms} (h : (c.source.terms w c.plan t).1 = .ok terms) :
    c.logFiles w t = Targets.resolve w c.plan terms.kind terms.online terms.params
      (c.source.terms w c.plan t).2 := by
  rw [logFiles, Run.bind_apply, h]

/-- **A fault at the start touches nothing.** There are no terms exactly for the faults of
`ParamsSource.Fails`. A run without terms ends with that fault and has fetched one settings document
at most; a run with terms whose log files cannot be found out ends with that fault, and has besides
asked for them in vain. -/
theorem startup_faults_touch_nothing (w : World σ) (c : Collector) (fuel : Nat) (t : Tape σ) :
    (∀ f, (c.source.terms w c.plan t).1 = .error f ↔ c.source.Fails w c.plan t.world f) ∧
    (∀ f, c.source.Fails w c.plan t.world f → GivenUp w c fuel t f Step.Fetches) ∧
    ∀ terms f, (c.source.terms w c.plan t).1 = .ok terms →
      (Targets.resolve w c.plan terms.kind terms.online terms.params
        (c.source.terms w c.plan t).2).1 = .error f →
      GivenUp w c fuel t f fun s => s.Fetches ∨ ∃ g, s = .listed (.error g) := by
  obtain ⟨hfetches, hcalls⟩ := ParamsSource.lookUp_quiet w t.world c.source
  refine ⟨fun f => ParamsSource.terms_eq_error_iff, fun f h => ?_, fun terms f hterms h => ?_⟩
  · obtain ⟨herror, hjournal⟩ := logFiles_of_fails h
    obtain ⟨hfault, flushed, hrun⟩ := run_of_logFiles_error fuel herror
    rw [hjournal] at hrun
    exact ⟨hfault, _, flushed, hrun, hfetches, hcalls⟩
  · rw [← logFiles_of_terms hterms] at h
    obtain ⟨hfault, flushed, hrun⟩ := run_of_logFiles_error fuel h
    rw [logFiles_of_terms hterms] at h hrun
    obtain ⟨-, -, g, -, -, hjournal⟩ := Targets.resolve_of_error h
    rw [hjournal, ParamsSource.journal_terms] at hrun
    refine ⟨hfault, .listed (.error g) :: c.source.lookUp w t.world, flushed, hrun, ?_, ?_⟩
    · exact List.forall_mem_cons.2 ⟨.inr ⟨g, rfl⟩, fun s hs => .inl (hfetches s hs)⟩
    · rwa [List.countP_cons_of_neg Bool.false_ne_true]

/-! ### Runs on a stage -/

/-- A collector with a rule for audit records that does not compile; the rules for traffic records,
which it is set up for, do. -/
def misruled : Collector :=
  { follower .traffic with
    plan := { (follower .traffic).plan with
      trafficRules := ["action=drop"], auditRules := ["action=accept", "port=80"] } }

/-- A stage with a server that lists no log files. -/
def unlisted : Stage :=
  { Stage.bare .universal 0 with
    collaborator := .scenes { Stage.Troupe.empty with listError := some "connection refused" } }

/-- A settings document that asks for audit records brings the rule to light before any session is
opened; and the server keeps another collector from its log files. -/
theorem startup_faults_touch_nothing_staged :
    (build misruled.plan true true true false = .ok misruled ∧
      misruled.source.Fails Stage.world misruled.plan (guided .audit)
        (.filter (.unknownArgument "port" "audit")) ∧
      GivenUp Stage.world misruled 3 ⟨guided .audit, []⟩
        (.filter (.unknownArgument "port" "audit")) Step.Fetches) ∧
    build touring.plan true true false false = .ok touring ∧
      GivenUp Stage.world touring 3 ⟨unlisted, []⟩
        (.session (.openFailed "list" "connection refused"))
        fun s => s.Fetches ∨ ∃ g, s = .listed (.error g) := by
  have hterms : (misruled.source.terms Stage.world misruled.plan ⟨guided .audit, []⟩).1 =
      .error (.filter (.unknownArgument "port" "audit")) := by decide +kernel
  have htouring : (touring.source.terms Stage.world touring.plan ⟨unlisted, []⟩).1 =
      .ok ⟨.traffic, .firewall, false, false, none, .unspecified⟩ := by decide +kernel
  obtain ⟨hfails, hgivenUp, -⟩ :=
    startup_faults_touch_nothing Stage.world misruled 3 ⟨guided .audit, []⟩
  have hfault := (hfails _).1 hterms
  refine ⟨⟨by decide +kernel, hfault, hgivenUp _ hfault⟩, by decide +kernel, ?_⟩
  exact (startup_faults_touch_nothing Stage.world touring 3 ⟨unlisted, []⟩).2.2 _ _ htouring rfl

end Collector

end LogCollector
