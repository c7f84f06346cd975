import LogCollector.Config.Check
import LogCollector.Proofs.Session.FilterFirst
import LogCollector.Proofs.Session.NoSkippedRecords

/-!
# Settings that go together

A configuration is only accepted if its settings about log sessions go together: the log file of
audit records is read as such, records are read as they are written from one log file only, and a
server of the year 2000 has no audit records. A settings document may then change the kind of
records, and whether they are read as they are written, and this is not looked at again.

Every session that a run opens is requested with what the plan, the settings document and the list
of log files come to (`Derived`). So the sessions of an accepted configuration are consistent
exactly when the document suits the configuration (`sessions_consistent_iff`).
-/

namespace LogCollector

/-! ### What goes together -/

/-- What an accepted configuration is meant to ensure for every session. -/
structure SessionRequest.Consistent (legacy : Bool) (r : SessionRequest) : Prop where
  /-- The log file of audit records is not read as traffic. -/
  audit_only : r.target.name = auditFile → r.kind = .audit
  /-- Traffic records are read as they are written from one log file only. -/
  online_file : r.online = true → r.kind = .traffic → r.target.name = trafficFile
  /-- A server of the year 2000 is not asked for audit records. -/
  not_legacy : r.kind = .audit → legacy = false
  /-- Audit records are read from their own log file. -/
  audit_file : r.kind = .audit → r.target = ⟨auditFile, -1⟩

/-- A settings document suits the configuration, given the log files of the server. Without a
document nothing is changed. A document that asks for audit records does not suit a server of the
year 2000. One that asks for traffic records as they are written needs the log file that this is
done with. Where audit records were configured, a document that asks for traffic records only does
no harm if the server has log files for which the log file of audit records is part of the name. -/
def Config.Suits (c : Config) (params : ConnectionParams) (files : List LogFile) : Prop :=
  match params.mode.map Mode.recordKind, c.lea.kind with
  | none, _ => True
  | some .audit, _ => c.lea.legacy = false
  | some .traffic, .traffic => params.online = true → c.lea.logfile = trafficFile
  | some .traffic, .audit => c.lea.online = false ∧ params.online = false ∧
    ∃ f ∈ files, Text.contains auditFile.toList f.name.toList = true

/-! ### What a run finds -/

/-- The call that fetches the settings document. -/
def ParamsSource.lookUp? : ParamsSource → Option (ServiceRole × String)
  | .unspecified => none
  | .document role t => some (role, (Status.Endpoints.ofApp t.app).settings ++ t.entity)

/-- The parameters when the settings document is the given one. -/
def ParamsSource.given (body : String) : ParamsSource → Except ConfigFault ConnectionParams
  | .unspecified => .ok .unspecified
  | .document _ _ => ConnectionParams.ofDocument (.parse body)

/-- The settings document is the given one whenever it is fetched, and the log files are the given
ones when they are listed. -/
def Step.Finds (source : ParamsSource) (body : String) (files : List LogFile) : Step → Prop
  | .called role endpoint params (.ok r) => source.lookUp? = some (role, endpoint) →
    params = [] → r.isSuccess = true → r.body = body
  | .listed (.ok found) => found = files
  | _ => True

instance (source : ParamsSource) (body : String) (files : List LogFile) (s : Step) :
    Decidable (s.Finds source body files) :=
  match s with
  | .called role endpoint params (.ok r) =>
    inferInstanceAs (Decidable (source.lookUp? = some (role, endpoint) → params = [] →
      r.isSuccess = true → r.body = body))
  | .listed (.ok found) => inferInstanceAs (Decidable (found = files))
  | .called _ _ _ (.error _) | .listed (.error _) | .slept _ | .opened _ _ | .registered _ _
  | .resumed _ | .received _ | .wrote _ _ | .flushed _ | .polled _ | .measured _ => .isTrue trivial

/-- The log files of a run, given those of the server. -/
def Targets.chosen (plan : Plan) (kind : RecordKind) (online : Bool) (files : List LogFile) :
    List LogFile :=
  match kind, online with
  | .audit, _ => [auditFile]
  | .traffic, true => [namedFile plan]
  | .traffic, false => select plan files

/-- A request with what the plan, the settings document and the log files come to. -/
structure Derived (plan : Plan) (source : ParamsSource) (body : String) (files : List LogFile)
    (r : SessionRequest) : Prop where
  /-- The parameters are those of the document. -/
  given : source.given body = .ok r.params
  /-- The kind of records. -/
  kind : r.kind = (SessionTerms.kindAndMode plan r.params).1
  /-- Whether they are read as they are written. -/
  online : r.online = (plan.online || r.params.online)
  /-- The log file. -/
  target : r.target ∈ Targets.chosen plan r.kind r.online files

/-! ### When the settings go together -/

section

variable {legacy : Bool} {r : SessionRequest}

theorem consistent_audit_iff (hkind : r.kind = .audit) (htarget : r.target = ⟨auditFile, -1⟩) :
    r.Consistent legacy ↔ legacy = false := by
  constructor
  · intro h
    exact h.not_legacy hkind
  · intro h
    refine ⟨fun _ => hkind, fun _ htraffic => ?_, fun _ => h, fun _ => htarget⟩
    rw [hkind] at htraffic
    cases htraffic

theorem consistent_online_iff (hkind : r.kind = .traffic) (honline : r.online = true) :
    r.Consistent legacy ↔ r.target.name = trafficFile := by
  have hnot : r.kind ≠ .audit := by
    rw [hkind]
    exact RecordKind.noConfusion
  constructor
  · intro h
    exact h.online_file honline hkind
  · intro h
    refine ⟨fun haudit => ?_, fun _ _ => h, fun haudit => absurd haudit hnot,
      fun haudit => absurd haudit hnot⟩
    rw [h] at haudit
    exact absurd haudit (by decide)

theorem consistent_offline_iff (hkind : r.kind = .traffic) (honline : r.online = false) :
    r.Consistent legacy ↔ r.target.name ≠ auditFile := by
  have hnot : r.kind ≠ .audit := by
    rw [hkind]
    exact RecordKind.noConfusion
  constructor
  · intro h haudit
    exact hnot (h.audit_only haudit)
  · intro h
    refine ⟨fun haudit => absurd haudit h, fun htrue => ?_, fun haudit => absurd haudit hnot,
      fun haudit => absurd haudit hnot⟩
    rw [honline] at htrue
    cases htrue

end

namespace Targets

variable {plan : Plan} {files : List LogFile} {target : LogFile}

/-- What is chosen among the log files of the server: one of those with the text of the plan in
their name or, if there is none, the log file that the plan names. -/
theorem mem_select (h : target ∈ select plan files) (hall : plan.readsAll = false) :
    target ∈ matching plan.logfile files ∨
      matching plan.logfile files = [] ∧ target = namedFile plan := by
  unfold select at h
  rw [hall, if_neg Bool.false_ne_true] at h
  split at h
  · rename_i hnone
    exact .inr ⟨hnone, List.mem_singleton.1 h⟩
  · exact .inl h

theorem mem_or_eq_of_mem_select (h : target ∈ select plan files) :
    target ∈ files ∨ target = namedFile plan := by
  by_cases hall : plan.readsAll = true
  · unfold select at h
    rw [if_pos hall] at h
    split at h
    · exact .inr (List.mem_singleton.1 h)
    · exact .inl h
  · rcases mem_select h (Bool.eq_false_iff.2 hall) with hmem | ⟨-, hnamed⟩
    · exact .inl (List.mem_filter.1 hmem).1
    · exact .inr hnamed

/-- Among log files without that of audit records, the latter is only chosen where it was named and
no log file has a name with it. -/
theorem name_ne_auditFile_iff (hfiles : ∀ f ∈ files, f.name ≠ LogCollector.auditFile)
    (htarget : target ∈ select plan files) :
    target.name ≠ LogCollector.auditFile ↔ (plan.logfile = LogCollector.auditFile →
      ∃ f ∈ files, Text.contains LogCollector.auditFile.toList f.name.toList = true) := by
  by_cases hlogfile : plan.logfile = LogCollector.auditFile
  · have hall : plan.readsAll = false := by
      rw [Plan.readsAll, hlogfile]
      decide
    have hmem : target ∈ matching LogCollector.auditFile files ∨
        matching LogCollector.auditFile files = [] ∧ target = namedFile plan := by
      rw [← hlogfile]
      exact mem_select htarget hall
    rcases hmem with hmem | ⟨hnone, rfl⟩
    · obtain ⟨hmem, hcontains⟩ := List.mem_filter.1 hmem
      exact iff_of_true (hfiles target hmem) fun _ => ⟨target, hmem, hcontains⟩
    · refine iff_of_false (fun hname => hname hlogfile) fun h => ?_
      obtain ⟨f, hf, hcontains⟩ := h hlogfile
      have hmatch : f ∈ matching LogCollector.auditFile files := List.mem_filter.2 ⟨hf, hcontains⟩
      rw [hnone] at hmatch
      cases hmatch
  · refine iff_of_true ?_ fun h => absurd h hlogfile
    rcases mem_or_eq_of_mem_select htarget with hmem | rfl
    · exact hfiles target hmem
    · exact hlogfile

end Targets

namespace Config

variable {c : Config}

/-- The settings about log sessions of an accepted configuration go together. -/
theorem lea_of_check (h : c.check = .ok c) :
    (c.lea.online = true → c.lea.kind = .traffic → c.lea.logfile = trafficFile) ∧
      (c.lea.kind = .traffic → c.lea.logfile ≠ auditFile) ∧
      (c.lea.legacy = true → c.lea.kind = .traffic) := by
  have hall := (check_eq_ok_iff.1 h).2
  simp only [requirements, List.forall_mem_cons, decide_eq_true_eq] at hall
  obtain ⟨-, -, -, -, -, -, honline, haudit, hlegacy, -⟩ := hall
  exact ⟨fun h h' => honline ⟨h, h'⟩, haudit, hlegacy⟩

/-- What the configuration has to be like for sessions of a kind to be consistent, given whether
records are read as they are written, and the log files of the server. -/
def Admits (c : Config) (kind : RecordKind) (online : Bool) (files : List LogFile) : Prop :=
  match kind, online with
  | .audit, _ => c.lea.legacy = false
  | .traffic, true => c.logfile = trafficFile
  | .traffic, false => c.logfile = auditFile →
    ∃ f ∈ files, Text.contains auditFile.toList f.name.toList = true

/-- An accepted configuration admits the sessions that it asks for itself. -/
theorem admits_own (h : c.check = .ok c) (files : List LogFile) :
    c.Admits c.lea.kind c.lea.online files := by
  obtain ⟨honline, haudit, hlegacy⟩ := lea_of_check h
  cases hkind : c.lea.kind with
  | audit =>
    show c.lea.legacy = false
    refine Bool.eq_false_iff.2 fun hold => ?_
    have htraffic := hlegacy hold
    rw [hkind] at htraffic
    cases htraffic
  | traffic =>
    cases hlive : c.lea.online with
    | true =>
      show c.logfile = trafficFile
      rw [logfile_of_traffic hkind]
      exact honline hlive hkind
    | false =>
      show c.logfile = auditFile → _
      rw [logfile_of_traffic hkind]
      exact fun hlogfile => absurd hlogfile (haudit hkind)

/-- When an accepted configuration admits sessions of traffic that the document asks for. -/
theorem admits_traffic_iff (h : c.check = .ok c) {params : ConnectionParams} {files : List LogFile}
    (hmode : params.mode.map Mode.recordKind = some .traffic) :
    c.Admits .traffic (c.lea.online || params.online) files ↔ c.Suits params files := by
  obtain ⟨honline, haudit, -⟩ := lea_of_check h
  unfold Suits
  rw [hmode]
  cases hkind : c.lea.kind with
  | traffic =>
    have hlogfile : c.logfile = c.lea.logfile := logfile_of_traffic hkind
    cases hparams : params.online with
    | true =>
      rw [Bool.or_true]
      show c.logfile = trafficFile ↔ (true = true → c.lea.logfile = trafficFile)
      rw [hlogfile]
      exact ⟨fun hfile _ => hfile, fun hfile => hfile rfl⟩
    | false =>
      -- The document asks for what the configuration asks for itself.
      have hown : c.Admits c.lea.kind c.lea.online files := admits_own h files
      rw [hkind] at hown
      rw [Bool.or_false]
      exact iff_of_true hown fun hlive => absurd hlive Bool.false_ne_true
  | audit =>
    have hlogfile : c.logfile = auditFile := logfile_of_audit hkind
    cases hlive : c.lea.online || params.online with
    | true =>
      show c.logfile = trafficFile ↔ _
      rw [hlogfile]
      refine iff_of_false (by decide) ?_
      rintro ⟨hc, hp, -⟩
      rw [hc, hp] at hlive
      cases hlive
    | false =>
      show (c.logfile = auditFile → _) ↔ _
      obtain ⟨hc, hp⟩ := Bool.or_eq_false_iff.1 hlive
      constructor
      · intro hfile
        exact ⟨hc, hp, hfile hlogfile⟩
      · rintro ⟨-, -, hfile⟩ _
        exact hfile

end Config

theorem ParamsSource.online_of_given {source : ParamsSource} {body : String}
    {params : ConnectionParams} (h : source.given body = .ok params) (hmode : params.mode = none) :
    params.online = false := by
  cases source with
  | unspecified =>
    rw [← Except.ok.inj h]
    rfl
  | document role t =>
    rw [(ConnectionParams.mode_online_of_ofDocument h).1] at hmode
    cases hmode

section

variable {c : Config} {zone : Calendar.Zone} {source : ParamsSource} {body : String}
  {files : List LogFile} {r : SessionRequest}

theorem Derived.consistent_iff_admits (h : Derived (c.plan zone) source body files r)
    (hfiles : ∀ f ∈ files, f.name ≠ auditFile) :
    r.Consistent c.lea.legacy ↔ c.Admits r.kind r.online files := by
  have htarget := h.target
  cases hkind : r.kind with
  | audit =>
    rw [hkind] at htarget
    exact consistent_audit_iff hkind (List.mem_singleton.1 htarget)
  | traffic =>
    cases honline : r.online with
    | true =>
      rw [hkind, honline] at htarget
      rw [consistent_online_iff hkind honline, List.mem_singleton.1 htarget]
      rfl
    | false =>
      rw [hkind, honline] at htarget
      rw [consistent_offline_iff hkind honline]
      exact Targets.name_ne_auditFile_iff hfiles htarget

/-- **When a request is consistent**: the settings document suits the configuration. -/
theorem Derived.consistent_iff_suits (h : Derived (c.plan zone) source body files r)
    (hcheck : c.check = .ok c) (hfiles : ∀ f ∈ files, f.name ≠ auditFile) :
    r.Consistent c.lea.legacy ↔ c.Suits r.params files := by
  have honline : r.online = (c.lea.online || r.params.online) := h.online
  rw [h.consistent_iff_admits hfiles, honline, h.kind]
  cases hmode : r.params.mode with
  | none =>
    have hkind : (SessionTerms.kindAndMode (c.plan zone) r.params).1 = c.lea.kind := by
      rw [SessionTerms.kindAndMode, hmode]
      cases hlocal : c.lea.kind <;> simp [Config.plan, hlocal]
    rw [hkind, ParamsSource.online_of_given h.given hmode, Bool.or_false]
    refine iff_of_true (Config.admits_own hcheck files) ?_
    rw [Config.Suits, hmode]
    trivial
  | some mode =>
    have hkind : (SessionTerms.kindAndMode (c.plan zone) r.params).1 = mode.recordKind := by
      rw [SessionTerms.kindAndMode, hmode]
    rw [hkind]
    cases hrecords : mode.recordKind with
    | audit =>
      rw [Config.Suits, hmode, Option.map_some, hrecords]
      exact Iff.rfl
    | traffic =>
      refine Config.admits_traffic_iff hcheck ?_
      rw [hmode, Option.map_some, hrecords]

end

/-! ### What is requested -/

/-- Terms that the plan and the settings document come to. -/
structure FoundTerms (plan : Plan) (source : ParamsSource) (body : String) (terms : SessionTerms) :
    Prop where
  /-- The parameters are those of the document. -/
  given : source.given body = .ok terms.params
  /-- The kind of records. -/
  kind : terms.kind = (SessionTerms.kindAndMode plan terms.params).1
  /-- Whether they are read as they are written. -/
  online : terms.online = (plan.online || terms.params.online)

/-- The contract of a run that always finds the same document and the same log files: sessions are
requested with what these come to. -/
def finding (plan : Plan) (source : ParamsSource) (body : String) (files : List LogFile) :
    Contract where
  rely _ s := s.Finds source body files
  guarantee
    | .opened r _ :: _ => Derived plan source body files r
    | _ => True

/-- A step other than the opening of a session. -/
def Step.Unopened : Step → Prop
  | .opened _ _ => False
  | _ => True

theorem Step.IsAside.unopened {s : Step} (h : s.IsAside) : s.Unopened := by
  cases s <;> trivial

variable {σ : Type} (w : World σ) {plan : Plan} {source : ParamsSource} {body : String}
  {files : List LogFile}

/-- A part of a run that opens no session leaves facts about other things than the journal. -/
theorem Triple.of_unopened {α : Type} {φ : Prop} {m : Run σ α} (h : Adds Step.Unopened m) :
    Triple (finding plan source body files) (fun _ => φ) m fun _ _ => φ := by
  refine .of_adds h fun s j _ _ hs hφ => ⟨?_, hφ⟩
  cases s with
  | opened r answer => exact hs.elim
  | _ => trivial

theorem World.unopened_drain : Adds Step.Unopened w.drain := .demand fun _ => trivial

theorem World.unopened_poll : Adds Step.Unopened w.poll := .demand fun _ => trivial

/-- The parameters of a connection are those of the document. -/
theorem ParamsSource.acquire_finding_triple (source : ParamsSource) :
    Triple (finding plan source body files) (fun _ => True) (source.acquire w)
      fun result _ => ∀ params, result = .ok params → source.given body = .ok params := by
  cases source with
  | unspecified => exact .pure fun _ _ _ params h => congrArg _ (Except.ok.inj h)
  | document role t =>
    let Answered (answer : Except StatusFault Status.Response) (_ : List Step) : Prop :=
      ∀ r, answer = .ok r → r.isSuccess = true → r.body = body
    have hserve : Triple (finding plan (.document role t) body files) (fun _ => True)
        (w.serve role ((Status.Endpoints.ofApp t.app).settings ++ t.entity) []) Answered := by
      refine .serve (fun answer j _ hr _ => ⟨trivial, ?_⟩) fun answer j _ _ h => ⟨trivial, h⟩
      rintro r rfl hsuccess
      exact hr rfl rfl hsuccess
    refine hserve.bind fun answer => ?_
    cases answer with
    | error f => exact .pure fun _ _ _ params h => nomatch h
    | ok response =>
      dsimp only
      split
      · rename_i hsuccess
        refine .pure fun _ _ h params hparams => ?_
        rw [h response rfl hsuccess] at hparams
        show ConnectionParams.ofDocument (.parse body) = .ok params
        cases hread : ConnectionParams.ofDocument (.parse body) with
        | error f =>
          rw [hread] at hparams
          cases hparams
        | ok params' =>
          rw [hread] at hparams
          exact congrArg _ (Except.ok.inj hparams)
      · exact .pure fun _ _ _ params h => nomatch h

/-- What the terms of a session come to. -/
theorem ParamsSource.terms_finding_triple {φ : Prop} (source : ParamsSource) (plan : Plan) :
    Triple (finding plan source body files) (fun _ => φ) (source.terms w plan)
      fun result _ => φ ∧ ∀ terms, result = .ok terms → FoundTerms plan source body terms := by
  have hterms : Triple (finding plan source body files) (fun _ => True) (source.terms w plan)
      fun result _ => ∀ terms, result = .ok terms → FoundTerms plan source body terms := by
    refine (source.acquire_finding_triple w).map fun result j _ h terms hterms => ?_
    cases result with
    | error f => cases hterms
    | ok params =>
      have hderive : SessionTerms.derive plan params = .ok terms := hterms
      have hparams : terms.params = params := SessionTerms.params_of_derive hderive
      subst hparams
      exact ⟨h _ rfl, SessionTerms.kind_of_derive hderive, SessionTerms.online_of_derive hderive⟩
  exact hterms.frame.mono (fun _ _ h => ⟨h, trivial⟩) fun _ _ _ h => h

namespace Controller

variable {a : Assignment}

/-- The log file is among those of the run. -/
def IsChosen (a : Assignment) (body : String) (files : List LogFile) : Prop :=
  ∀ terms, FoundTerms a.plan a.source body terms →
    a.target ∈ Targets.chosen a.plan terms.kind terms.online files

theorem IsChosen.derived (h : IsChosen a body files) {terms : SessionTerms}
    (hterms : FoundTerms a.plan a.source body terms) (position : StartPosition) :
    Derived a.plan a.source body files (requestFor a terms position) :=
  ⟨hterms.given, hterms.kind, hterms.online, h terms hterms⟩

/-- Sessions of a chosen log file are requested with what the settings come to. -/
theorem start_finding_triple (c : Controller) :
    Triple (finding a.plan a.source body files) (fun _ => IsChosen a body files) (start w a c)
      fun result _ => IsChosen a body files ∧
        ∀ r, result.1 = .ok r → Derived a.plan a.source body files r := by
  unfold start
  split
  · exact .pure fun _ _ h => ⟨h, fun r hr => absurd hr (by simp)⟩
  · refine (a.source.terms_finding_triple w a.plan).bind fun terms => ?_
    cases terms with
    | error f => exact .pure fun _ _ h => ⟨h.1, fun r hr => absurd hr (by simp)⟩
    | ok terms =>
      dsimp only
      split
      · have hresume : Adds Step.Unopened (resumePosition w a) :=
          (adds_resumePosition w).mono fun _ h => (isAside_of_serves h).unopened
        refine (Triple.of_unopened hresume).bind fun stored => ?_
        cases stored with
        | error f => exact .pure fun _ _ h => ⟨h.1, fun r hr => absurd hr (by simp)⟩
        | ok stored =>
          refine .pure fun _ _ ⟨hchosen, hterms⟩ => ⟨hchosen, fun r hr => ?_⟩
          rw [← Except.ok.inj hr]
          exact hchosen.derived (hterms terms rfl) _
      · refine .pure fun _ _ ⟨hchosen, hterms⟩ => ⟨hchosen, fun r hr => ?_⟩
        rw [← Except.ok.inj hr]
        exact hchosen.derived (hterms terms rfl) _

theorem unopened_attach (c : Controller) : Adds Step.Unopened (attach w c) := by
  unfold attach
  split
  · exact (Adds.demand fun _ => trivial).bind fun _ => .pure _
  · split
    · exact .pure _
    · exact .pure _

/-- No other session is opened during a session. -/
theorem unopened_pump (fuel : Nat) (c : Controller) : Adds Step.Unopened (pump w a fuel c) := by
  have hhandle : ∀ c event, Adds Step.Unopened (handle w a c event) := by
    refine fun c event => (adds_handle w c event).mono fun s hs => ?_
    rcases hs with haside | ⟨line, answer, rfl⟩
    · exact haside.unopened
    · trivial
  induction fuel generalizing c with
  | zero => exact .pure _
  | succ fuel ih =>
    refine (Adds.demand fun _ => trivial).bind fun answer =>
      (hhandle c _).bind fun ⟨result, c'⟩ => ?_
    cases result with
    | error f => exact .pure _
    | ok directive =>
      cases directive with
      | proceed => exact ih c'
      | resume =>
        refine (Adds.demand fun _ => trivial).bind fun answer => ?_
        cases answer with
        | error f => exact .pure _
        | ok _ => exact ih c'
      | finish outcome => exact .pure _

/-- A session of a chosen log file. -/
theorem runSession_finding_triple (c : Controller) (fuel : Nat) :
    Triple (finding a.plan a.source body files) (fun _ => IsChosen a body files)
      (runSession w a fuel c) fun _ _ => IsChosen a body files := by
  rw [runSession_eq]
  refine (start_finding_triple w c).bind fun ⟨result, c₁⟩ => ?_
  cases result with
  | error f => exact .pure fun _ _ h => h.1
  | ok request =>
    have hconnect : Triple (finding a.plan a.source body files)
        (fun _ => IsChosen a body files ∧ ∀ r, Except.ok (ε := RunFault) request = .ok r →
          Derived a.plan a.source body files r) (w.connect request)
        fun _ _ => IsChosen a body files :=
      .demand fun answer j _ _ h => ⟨h.2 request rfl, h.1⟩
    refine hconnect.bind fun answer => .of_unopened ?_
    cases answer with
    | error f =>
      have hfinish : Adds Step.Unopened (finish w a c₁ .unableToAttachComm 0) :=
        (adds_finish_aside w c₁ _ _).mono fun _ hs => hs.unopened
      exact hfinish.bind fun _ => .pure _
    | ok _ =>
      refine (unopened_attach w c₁).bind fun ⟨result, c₂⟩ => ?_
      cases result with
      | error f => exact .pure _
      | ok _ => exact unopened_pump w fuel c₂

end Controller

/-- An opened session is the latest step of some journal before. -/
theorem exists_of_mem_openings {j : List Step} {r : SessionRequest}
    {answer : Except SessionFault Unit} (h : (r, answer) ∈ openings j) :
    ∃ past, .opened r answer :: past <:+ j := by
  obtain ⟨s, hs, hopened⟩ := List.mem_filterMap.1 h
  obtain ⟨later, past, rfl⟩ := List.append_of_mem hs
  cases s with
  | opened r' answer' =>
    cases hopened
    exact ⟨past, later, rfl⟩
  | _ => cases hopened

/-- The log files of the run are chosen among those that the server has. -/
theorem Targets.resolve_finding_triple {φ : Prop} (plan' : Plan) (kind : RecordKind) (online : Bool)
    (params : ConnectionParams) :
    Triple (finding plan source body files) (fun _ => φ) (resolve w plan' kind online params)
      fun result _ => φ ∧
        ∀ targets, result = .ok targets → targets = chosen plan' kind online files := by
  unfold resolve
  split
  · exact .pure fun _ _ h => ⟨h, fun targets htargets => (Except.ok.inj htargets).symm⟩
  · exact .pure fun _ _ h => ⟨h, fun targets htargets => (Except.ok.inj htargets).symm⟩
  · have hlist : Triple (finding plan source body files) (fun _ => φ) (w.enumerate params)
        fun answer _ => φ ∧ ∀ found, answer = .ok found → found = files := by
      refine .demand fun answer j _ hr h => ⟨trivial, h, ?_⟩
      rintro found rfl
      exact hr
    refine hlist.bind fun answer => .pure fun _ _ ⟨h, hfound⟩ => ⟨h, fun targets htargets => ?_⟩
    cases answer with
    | error f => cases htargets
    | ok found =>
      obtain rfl := hfound found rfl
      exact (Except.ok.inj htargets).symm

namespace Collector

variable {c : Collector}

/-- All sessions of a chosen log file. -/
theorem readTarget_finding_triple {target : LogFile} (fuel rounds sessions : Nat)
    (controller : Controller) :
    Triple (finding c.plan c.source body files)
      (fun _ => Controller.IsChosen (c.assignment target) body files)
      (readTarget w c fuel target sessions controller rounds) fun _ _ => True := by
  induction rounds generalizing sessions controller with
  | zero => exact .pure fun _ _ _ => trivial
  | succ rounds ih =>
    refine (Controller.runSession_finding_triple w (a := c.assignment target) controller fuel).bind
      fun ⟨result, controller'⟩ => ?_
    match result with
    | none => exact .pure fun _ _ _ => trivial
    | some (.error f) => exact .pure fun _ _ _ => trivial
    | some (.ok outcome) =>
      refine (Triple.of_unopened w.unopened_drain).bind fun flushed => ?_
      cases flushed with
      | error f => exact .pure fun _ _ _ => trivial
      | ok _ =>
        cases outcome with
        | terminated reason => exact .pure fun _ _ _ => trivial
        | reconnect reason =>
          have hwait : Adds Step.Unopened (waitOut w c.plan.recovery.nanoseconds) := by
            refine (adds_waitOut w _).mono fun s hs => ?_
            cases s <;> trivial
          refine (Triple.of_unopened (Adds.measure trivial)).bind fun _ =>
            (Triple.of_unopened hwait).bind fun again => ?_
          cases again with
          | false => exact .pure fun _ _ _ => trivial
          | true => exact ih (sessions + 1) controller'

/-- All sessions of the chosen log files. -/
theorem readTargets_finding_triple (fuel : Nat) (interrupted : Bool) (done : List TargetReport)
    (targets : List LogFile) :
    Triple (finding c.plan c.source body files)
      (fun _ => ∀ target ∈ targets, Controller.IsChosen (c.assignment target) body files)
      (readTargets w c fuel interrupted done targets) fun _ _ => True := by
  induction targets generalizing interrupted done with
  | nil => exact .pure fun _ _ _ => trivial
  | cons target rest ih =>
    refine (Triple.of_unopened w.unopened_poll).bind fun stop => ?_
    cases stop with
    | true => exact .pure fun _ _ _ => trivial
    | false =>
      have htarget : Triple (finding c.plan c.source body files)
          (fun _ => ∀ target' ∈ target :: rest,
            Controller.IsChosen (c.assignment target') body files)
          (readTarget w c fuel target 0 .initial fuel)
          fun _ _ => (∀ target' ∈ rest, Controller.IsChosen (c.assignment target') body files) ∧
            True := by
        refine (readTarget_finding_triple w fuel fuel 0 .initial).frame.mono ?_ fun _ _ _ h => h
        intro j _ h
        exact (List.forall_mem_cons.1 h).symm
      refine htarget.bind fun result => ?_
      match result with
      | none => exact .pure fun _ _ _ => trivial
      | some (.error f) => exact .pure fun _ _ _ => trivial
      | some (.ok report) => exact (ih _ _).mono (fun _ _ h => h.1) fun _ _ _ h => h

/-- **Every session is requested with what the settings come to.** -/
theorem run_finding_triple (c : Collector) (fuel : Nat) :
    Triple (finding c.plan c.source body files) (fun _ => True) (c.run w fuel) fun _ _ => True := by
  have hcollect : Triple (finding c.plan c.source body files) (fun _ => True) (c.collect w fuel)
      fun _ _ => True := by
    refine (c.source.terms_finding_triple w c.plan).bind fun terms => ?_
    cases terms with
    | error f => exact .pure fun _ _ _ => trivial
    | ok terms =>
      refine (Targets.resolve_finding_triple w c.plan terms.kind terms.online terms.params).bind
        fun targets => ?_
      cases targets with
      | error f => exact .pure fun _ _ _ => trivial
      | ok targets =>
        refine (readTargets_finding_triple w fuel false [] targets).mono ?_ fun _ _ _ h => h
        rintro j _ ⟨⟨-, hterms⟩, htargets⟩ target htarget terms' hterms'
        -- Terms come to the same whenever they are found out.
        have hfound := hterms terms rfl
        have hparams : terms'.params = terms.params :=
          Except.ok.inj (hterms'.given.symm.trans hfound.given)
        rw [hterms'.kind, hterms'.online, hparams]
        rw [htargets targets rfl, hfound.kind, hfound.online] at htarget
        exact htarget
  refine hcollect.bind fun result => ?_
  cases result with
  | none => exact .pure fun _ _ _ => trivial
  | some result =>
    exact (Triple.of_unopened w.unopened_drain).bind fun _ => .pure fun _ _ _ => trivial

theorem plan_of_build {plan : Plan} {connector sink statusService settingsService : Bool}
    (h : build plan connector sink statusService settingsService = .ok c) : c.plan = plan := by
  obtain ⟨plan', hcheck, hrest⟩ := bind_eq_ok_iff.1 h
  rw [← (Plan.check_eq_ok_iff.1 hcheck).1]
  cases connector with
  | false => cases hrest
  | true =>
    cases sink with
    | false => cases hrest
    | true =>
      cases htracking : plan'.tracking with
      | none =>
        simp only [htracking] at hrest
        rw [← Except.ok.inj hrest]
      | some t =>
        simp only [htracking] at hrest
        cases statusService with
        | false => cases hrest
        | true => rw [← Except.ok.inj hrest]

/-- **When the sessions of an accepted configuration are consistent.** The settings document is the
same whenever it is fetched, and the log files of the server, when they are listed, do not include
that of audit records. A session is consistent exactly if the document suits the configuration. -/
theorem sessions_consistent_iff {config : Config} (hcheck : config.check = .ok config)
    {zone : Calendar.Zone} {connector sink statusService settingsService : Bool}
    (hbuild : build (config.plan zone) connector sink statusService settingsService = .ok c)
    (hfiles : ∀ f ∈ files, f.name ≠ auditFile) (fuel : Nat) (s : σ)
    (hfinds : ∀ step ∈ (c.run w fuel ⟨s, []⟩).2.journal, step.Finds c.source body files)
    {r : SessionRequest} {answer : Except SessionFault Unit}
    (hopened : (r, answer) ∈ openings (c.run w fuel ⟨s, []⟩).2.journal) :
    c.source.given body = .ok r.params ∧
      (r.Consistent config.lea.legacy ↔ config.Suits r.params files) := by
  have hsafe : (finding c.plan c.source body files).Safe (c.run w fuel ⟨s, []⟩).2.journal :=
    (run_finding_triple w c fuel).safe_of_nil trivial trivial s
  obtain ⟨past, hpast⟩ := exists_of_mem_openings hopened
  have hderived : Derived c.plan c.source body files r := by
    refine hsafe _ hpast (Contract.kept_of_forall fun step hstep _ => ?_)
    exact hfinds step (hpast.subset hstep)
  rw [plan_of_build hbuild] at hderived
  exact ⟨hderived.given, hderived.consistent_iff_suits hcheck hfiles⟩

/-! ### Runs on a stage -/

/-- A configuration with an entity whose progress is kept. -/
def following (kind : RecordKind) : Config :=
  { lea := { kind }, status := { entity := "fw1", app := "app" } }

/-- The collector for it. -/
def follower (kind : RecordKind) : Collector :=
  ⟨(following kind).plan .universal, ⟨some ⟨"fw1", "app"⟩⟩, .document .status ⟨"fw1", "app"⟩⟩

/-- A settings document with a mode. -/
def settingsOf (mode : Mode) : String := Stage.PlayedService.document
  [("mode", mode.name), ("lea_server_ip", "10.0.0.1"), ("lea_server_port", "18184")]

/-- A stage with this document, one log file and one session. -/
def guided (mode : Mode) : Stage :=
  { Stage.bare .universal 0 with
    status := .played { Stage.PlayedService.empty with
      documents := [((Status.Endpoints.ofApp "app").settings ++ "fw1", settingsOf mode)]
      remembers := true }
    collaborator := .scenes { Stage.Troupe.empty with
      files := [⟨"fw.log", 1⟩]
      scenes := [{ Stage.Scene.empty with
        events := [some .established, some (.ended .endByApplication 0)] }] } }

/-- The journal of the run of this collector there. -/
@[irreducible]
def guidedJournal (kind : RecordKind) (mode : Mode) : List Step :=
  ((follower kind).run Stage.world 3 ⟨guided mode, []⟩).2.journal

/-- The log files that sessions were opened for, with the kind of records and the mode of the
document. -/
def openedFor (j : List Step) : List (LogFile × RecordKind × Option Mode) :=
  (openings j).map fun o => (o.1.target, o.1.kind, o.1.params.mode)

theorem exists_of_openedFor {j : List Step} {file : LogFile} {kind : RecordKind}
    {mode : Option Mode} (h : (file, kind, mode) ∈ openedFor j) :
    ∃ r answer, (r, answer) ∈ openings j ∧
      r.target = file ∧ r.kind = kind ∧ r.params.mode = mode := by
  obtain ⟨⟨r, answer⟩, hmem, heq⟩ := List.mem_map.1 h
  cases heq
  exact ⟨r, answer, hmem, rfl, rfl, rfl⟩

/-- A document that asks for audit records in place of traffic leads to a consistent session. -/
theorem sessions_consistent_iff_audit :
    (following .traffic).check = .ok (following .traffic) ∧
      build ((following .traffic).plan .universal) true true true false = .ok (follower .traffic) ∧
      (∀ f ∈ [(⟨"fw.log", 1⟩ : LogFile)], f.name ≠ auditFile) ∧
      (∀ step ∈ guidedJournal .traffic .audit,
        step.Finds (follower .traffic).source (settingsOf .audit) [⟨"fw.log", 1⟩]) ∧
      ∃ r answer, (r, answer) ∈ openings (guidedJournal .traffic .audit) ∧
        r.target = ⟨auditFile, -1⟩ ∧ r.Consistent (following .traffic).lea.legacy := by
  have hcheck : (following .traffic).check = .ok (following .traffic) := by decide +kernel
  have hbuild : build ((following .traffic).plan .universal) true true true false =
      .ok (follower .traffic) := by decide +kernel
  have hfiles : ∀ f ∈ [(⟨"fw.log", 1⟩ : LogFile)], f.name ≠ auditFile := by decide
  have hfinds : ∀ step ∈ guidedJournal .traffic .audit,
      step.Finds (follower .traffic).source (settingsOf .audit) [⟨"fw.log", 1⟩] := by decide +kernel
  have hopened : (⟨auditFile, -1⟩, RecordKind.audit, some Mode.audit) ∈
      openedFor (guidedJournal .traffic .audit) := by decide +kernel
  obtain ⟨r, answer, hmem, htarget, -, hmode⟩ := exists_of_openedFor hopened
  have hsuits : (following .traffic).Suits r.params [⟨"fw.log", 1⟩] := by
    rw [Config.Suits, hmode]
    rfl
  refine ⟨hcheck, hbuild, hfiles, hfinds, r, answer, hmem, htarget, ?_⟩
  rw [guidedJournal] at hfinds hmem
  exact (sessions_consistent_iff Stage.world hcheck hbuild hfiles 3 _ hfinds hmem).2.2 hsuits

/-- **The log file of audit records, read as traffic.** The configuration asks for audit records,
the document for others: the log file stays the one of audit records. -/
theorem audit_file_read_as_traffic :
    (following .audit).check = .ok (following .audit) ∧
      build ((following .audit).plan .universal) true true true false = .ok (follower .audit) ∧
      (∀ f ∈ [(⟨"fw.log", 1⟩ : LogFile)], f.name ≠ auditFile) ∧
      (∀ step ∈ guidedJournal .audit .nonAudit,
        step.Finds (follower .audit).source (settingsOf .nonAudit) [⟨"fw.log", 1⟩]) ∧
      ∃ r answer, (r, answer) ∈ openings (guidedJournal .audit .nonAudit) ∧
        r.target.name = auditFile ∧ r.kind = .traffic ∧
        ¬ r.Consistent (following .audit).lea.legacy := by
  have hopened : (⟨auditFile, 0⟩, RecordKind.traffic, some Mode.nonAudit) ∈
      openedFor (guidedJournal .audit .nonAudit) := by decide +kernel
  obtain ⟨r, answer, hmem, htarget, hkind, -⟩ := exists_of_openedFor hopened
  have hname : r.target.name = auditFile := by rw [htarget]
  refine ⟨by decide +kernel, by decide +kernel, by decide, by decide +kernel, r, answer, hmem,
    hname, hkind, fun h => ?_⟩
  have haudit : r.kind = .audit := h.audit_only hname
  rw [hkind] at haudit
  cases haudit

end Collector

end LogCollector
