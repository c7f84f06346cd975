import LogCollector.Daemon.Run
import LogCollector.Proofs.Line.Selection

/-!
# Accepted configurations make accepted plans

A configuration is checked when it has been loaded and once more when a request has changed it; the
plan that it amounts to is checked again when a collector is built. What the plan needs
(`Plan.Sound`) follows from what the configuration has satisfied, although the plan keeps one
character of the separator and forgets the log file of a configuration for audit records
(`sound_plan`). So only a part that is missing can keep a collector from being built
(`accepted_config_is_planned`).
-/

namespace LogCollector

/-! ### Plans -/

/-- What a plan has to satisfy. -/
structure Plan.Sound (p : Plan) : Prop where
  /-- The separator is no character that has another meaning on a line. -/
  separator : p.separator ≠ '\n' ∧ p.separator ≠ '\\' ∧ p.separator ≠ '='
  /-- Some log files are named. -/
  logfile : p.logfile ≠ ""
  /-- A commit is tried. -/
  maxRetries : p.maxRetries ≠ 0
  /-- Waits do not vanish. -/
  retryFactor : p.retryFactor ≠ 0
  /-- Progress is kept for an application. -/
  app : ∀ t ∈ p.tracking, t.app ≠ ""

/-- A plan is sound when it satisfies all requirements. -/
theorem Plan.sound_iff {p : Plan} : p.Sound ↔ ∀ r ∈ p.requirements, r.1 = true := by
  have hseparator : p.separator ∉ ['\n', '\\', '='] ↔
      p.separator ≠ '\n' ∧ p.separator ≠ '\\' ∧ p.separator ≠ '=' := by simp
  have happ : p.tracking.all (·.app ≠ "") = true ↔ ∀ t ∈ p.tracking, t.app ≠ "" := by
    simp [Option.all_eq_true]
  simp only [requirements, List.forall_mem_cons, decide_eq_true_eq, hseparator, happ]
  constructor
  · rintro ⟨hseparator, hlogfile, hretries, hfactor, happ⟩
    exact ⟨hseparator, hlogfile, hretries, hfactor, happ, List.forall_mem_nil _⟩
  · rintro ⟨hseparator, hlogfile, hretries, hfactor, happ, -⟩
    exact ⟨hseparator, hlogfile, hretries, hfactor, happ⟩

/-- A sound plan is accepted. -/
theorem Plan.Sound.check {p : Plan} (h : p.Sound) : p.check = .ok p :=
  check_eq_ok_iff.2 ⟨rfl, sound_iff.1 h⟩

/-- **A collector is built** for a sound plan as soon as its parts are there: sessions, a sink, and
a status service if progress is kept. -/
theorem Plan.Sound.build_iff {p : Plan} (h : p.Sound)
    (connector sink statusService settingsService : Bool) :
    Succeeds (Collector.build p connector sink statusService settingsService) ↔
      connector = true ∧ sink = true ∧ (p.tracking.isSome = true → statusService = true) := by
  simp only [Collector.build, h.check, bind, Except.bind]
  cases connector with
  | false => exact iff_of_false (not_succeeds_error _) fun h => Bool.noConfusion h.1
  | true =>
    cases sink with
    | false => exact iff_of_false (not_succeeds_error _) fun h => Bool.noConfusion h.2.1
    | true =>
      cases p.tracking with
      | none => exact iff_of_true (succeeds_ok _) ⟨rfl, rfl, nofun⟩
      | some t =>
        cases statusService with
        | false => exact iff_of_false (not_succeeds_error _) fun h => Bool.noConfusion (h.2.2 rfl)
        | true => exact iff_of_true (succeeds_ok _) ⟨rfl, rfl, fun _ => rfl⟩

/-! ### Configurations -/

namespace Config

variable {c d : Config}

/-- An accepted configuration has the settings that a plan needs. -/
theorem settings_of_check (h : c.check = .ok d) :
    c.lea.logfile ≠ "" ∧ (c.status.entity ≠ "" → c.status.app ≠ "") ∧ c.status.maxRetries ≠ 0 ∧
      c.status.retryFactor ≠ 0 := by
  have hall := (check_eq_ok_iff.1 h).2
  simp only [requirements, List.forall_mem_cons, decide_eq_true_eq] at hall
  obtain ⟨-, -, -, -, -, hlogfile, -, -, -, happ, hretries, hfactor, -⟩ := hall
  exact ⟨hlogfile, by simpa [StatusSettings.tracks] using happ, hretries, hfactor⟩

/-- Progress is kept for the entity that is named, and for no other. -/
theorem tracking_eq_some_iff {t : Tracking} (zone : Calendar.Zone) :
    (c.plan zone).tracking = some t ↔
      c.status.entity ≠ "" ∧ t = ⟨c.status.entity, c.status.app⟩ := by
  show c.status.tracking = some t ↔ _
  rw [StatusSettings.tracking, Option.ite_none_right_eq_some, StatusSettings.tracks,
    decide_eq_true_eq, Option.some.injEq]
  exact and_congr_right fun _ => eq_comm

/-- Progress is kept exactly when an entity is named. -/
theorem isSome_tracking_iff (zone : Calendar.Zone) :
    (c.plan zone).tracking.isSome = true ↔ c.status.entity ≠ "" := by
  rw [Option.isSome_iff_exists]
  constructor
  · rintro ⟨t, ht⟩
    exact ((tracking_eq_some_iff zone).1 ht).1
  · intro hentity
    exact ⟨_, (tracking_eq_some_iff zone).2 ⟨hentity, rfl⟩⟩

/-- A server of the year 2000 is given no rules, whatever is configured. -/
theorem rulesFor_plan_of_legacy (h : c.lea.legacy = true) (zone : Calendar.Zone)
    (kind : RecordKind) : (c.plan zone).rulesFor kind = [] := by
  have hrules (kind : RecordKind) : c.rules kind = [] := if_pos h
  cases kind with
  | traffic => exact hrules .traffic
  | audit => exact hrules .audit

/-- **The plan of an accepted configuration is sound.** -/
theorem sound_plan (h : c.check = .ok d) (zone : Calendar.Zone) : (c.plan zone).Sound := by
  obtain ⟨hlogfile, happ, hretries, hfactor⟩ := settings_of_check h
  refine ⟨(separator_of_check h).2, ?_, hretries, hfactor, fun t ht => ?_⟩
  · show c.logfile ≠ ""
    -- The setting is not looked at for audit records.
    cases hkind : c.lea.kind with
    | traffic =>
      rw [logfile_of_traffic hkind]
      exact hlogfile
    | audit =>
      rw [logfile_of_audit hkind]
      decide
  · obtain ⟨hentity, rfl⟩ := (tracking_eq_some_iff zone).1 ht
    exact happ hentity

end Config

/-! ### The daemon -/

namespace Daemon

variable {s : Surroundings} {c d : Config}

/-- The daemon has a collector for a sound plan unless it needs a status service and cannot find
it. -/
theorem succeeds_collector_iff (h : (d.plan s.zone).Sound) :
    Succeeds (collector s d) ↔ (d.status.entity ≠ "" → Succeeds s.knowsCommand) := by
  have hbuild (others : Bool) : Succeeds ((Collector.build (d.plan s.zone) true true
      d.status.tracks others).mapError Trouble.build) := by
    refine succeeds_mapError_iff.2 ((h.build_iff ..).2 ⟨rfl, rfl, fun htracking => ?_⟩)
    exact decide_eq_true ((Config.isSome_tracking_iff s.zone).1 htracking)
  by_cases hentity : d.status.entity = ""
  · have htracks : ¬ d.status.tracks = true := by simpa [StatusSettings.tracks] using hentity
    rw [collector, if_neg htracks]
    exact iff_of_true (hbuild _) fun h => absurd hentity h
  · have htracks : d.status.tracks = true := by simpa [StatusSettings.tracks] using hentity
    rw [collector, if_pos htracks, forall_prop_of_true hentity,
      succeeds_bind_of_forall fun _ => hbuild _, succeeds_mapError_iff]

/-- **An accepted configuration is planned.** When a configuration is accepted with what a request
puts in place of its settings, its plan is accepted as well. The separator of the plan is all of
the configured one, audit records are read from their own log file, progress is kept exactly when
an entity is named, and a server of the year 2000 is given no rules. A collector is built for the
plan unless a part is missing, whatever the values are. -/
theorem accepted_config_is_planned {r : Request} (h : (r.override c).check = .ok d)
    (zone : Calendar.Zone) :
    d = r.override c ∧ (d.plan zone).check = .ok (d.plan zone) ∧
    d.output.separator = String.ofList [(d.plan zone).separator] ∧
    (d.lea.kind = .audit → (d.plan zone).logfile = auditFile) ∧
    ((d.plan zone).tracking.isSome = true ↔ d.status.entity ≠ "") ∧
    (d.lea.legacy = true → ∀ kind, (d.plan zone).rulesFor kind = []) ∧
    (∀ connector sink statusService settingsService,
      Succeeds (Collector.build (d.plan zone) connector sink statusService settingsService) ↔
        connector = true ∧ sink = true ∧ (d.status.entity ≠ "" → statusService = true)) ∧
    ∀ s : Surroundings, Succeeds (collector s d) ↔
      (d.status.entity ≠ "" → Succeeds s.knowsCommand) := by
  obtain ⟨rfl, -⟩ := Config.check_eq_ok_iff.1 h
  have hsound : ∀ zone, ((r.override c).plan zone).Sound := Config.sound_plan h
  refine ⟨rfl, (hsound zone).check, ?_,
    Config.logfile_of_audit, Config.isSome_tracking_iff zone,
    fun hlegacy => Config.rulesFor_plan_of_legacy hlegacy zone,
    fun connector sink statusService settingsService => ?_,
    fun s => succeeds_collector_iff (hsound s.zone)⟩
  · rw [← String.ofList_toList (s := (r.override c).output.separator),
      (Config.separator_of_check h).1]
    rfl
  · rw [← Config.isSome_tracking_iff zone]
    exact (hsound zone).build_iff connector sink statusService settingsService

/-- The audit records of an entity, with a separator of three bytes; they are not read from the log
file that the request names. The same settings with a server of the year 2000 and traffic records,
for which the rules of both kinds are dropped. -/
theorem accepted_config_is_planned_audit :
    let c : Config := {
      output := { separator := "→" }
      filter := { trafficRules := ["action=drop"], auditRules := ["operation=Log In"] }
      status := { entity := "gateway", app := "loggrabber" } }
    let audit : Config := { c with lea := { kind := .audit } }
    let legacy : Config := { c with lea := { legacy := true } }
    let r : Request := ⟨"", none, none, none, some "old.log", false, false, false⟩
    let p := (r.override audit).plan .universal
    let q := (r.override legacy).plan .universal
    (r.override audit).check = .ok (r.override audit) ∧ p.check = .ok p ∧ p.separator = '→' ∧
      p.logfile = "fw.adtlog" ∧ p.tracking = some ⟨"gateway", "loggrabber"⟩ ∧
      p.auditRules = ["operation=Log In"] ∧ Succeeds (Collector.build p true true true false) ∧
    (r.override legacy).check = .ok (r.override legacy) ∧ q.check = .ok q ∧
      q.logfile = "old.log" ∧ q.trafficRules = [] ∧ q.auditRules = [] := by
  intro c audit legacy r p q
  have haudit : (r.override audit).check = .ok (r.override audit) := by decide +kernel
  have hlegacy : (r.override legacy).check = .ok (r.override legacy) := by decide +kernel
  obtain ⟨-, hp, -, hlogfile, -, -, hbuild, -⟩ := accepted_config_is_planned haudit .universal
  obtain ⟨-, hq, -, -, -, hrules, -⟩ := accepted_config_is_planned hlegacy .universal
  exact ⟨haudit, hp, by decide +kernel, hlogfile rfl, rfl, rfl,
    (hbuild true true true false).2 ⟨rfl, rfl, fun _ => rfl⟩, hlegacy, hq, rfl,
    hrules rfl .traffic, hrules rfl .audit⟩

end Daemon

end LogCollector
