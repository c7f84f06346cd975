import LogCollector.Proofs.Collector.Reports

/-!
# When a fault fails the run

The fault of a log file is one of the run if there is no other log file. A run in which nothing
else fails is to give the report in all other cases (`LoneFaultFails`).

Whether there are other log files is told by the report, and the report is about the log files that
have been read. A run that is asked to stop behind the first of several log files, when this one has
ended in a fault, fails as if it had no other one; in all other runs the verdict is right
(`lone_fault_fails_iff`).
-/

namespace LogCollector

/-- One log file has been read, and its last session ended in a fault. -/
def RunReport.OneFault (r : RunReport) : Prop :=
  ∃ entry reason, r.targets = [entry] ∧ entry.reason = some reason ∧ reason.isError = true

/-- There is one log file only, and its last session ended in a fault. -/
def RunReport.LoneFault (r : RunReport) (targets : List LogFile) : Prop :=
  ∃ entry reason, targets = [entry.target] ∧ r.targets = [entry] ∧ entry.reason = some reason ∧
    reason.isError = true

/-- The result of a run with a report: a lone fault fails it, and nothing else does. -/
structure RunReport.LoneFaultFails (r : RunReport) (targets : List LogFile)
    (result : Option (Except RunFault RunReport)) : Prop where
  /-- The run fails exactly if there is a lone fault. -/
  fails : (∃ text, result = some (.error (.session (.terminated text)))) ↔ r.LoneFault targets
  /-- Otherwise the report is the result. -/
  succeeds : ¬ r.LoneFault targets → result = some (.ok r)

/-- Whether a step tells that the sink could not be flushed. -/
def Step.flushFails : Step → Bool
  | .flushed (.error _) => true
  | _ => false

theorem flushed_of_flushFails {j : List Step} (h : j.any Step.flushFails = false)
    (answer : Except SinkFault Unit) (hanswer : .flushed answer ∈ j) : answer = .ok () := by
  cases answer with
  | ok _ => rfl
  | error f => exact absurd rfl (List.any_eq_false.1 h _ hanswer)

namespace RunReport

variable {r : RunReport} {targets : List LogFile}

/-- A report of one fault is about the first log file. -/
theorem OneFault.exists_eq_cons (h : r.OneFault)
    (horder : r.targets.map (·.target) <+: targets) :
    ∃ entry reason rest, targets = entry.target :: rest ∧ r.targets = [entry] ∧
      entry.reason = some reason ∧ reason.isError = true := by
  obtain ⟨entry, reason, hone, hreason, herror⟩ := h
  rw [hone] at horder
  obtain ⟨rest, rfl⟩ := horder
  exact ⟨entry, reason, rest, rfl, hone, hreason, herror⟩

/-- The one fault is a lone one if there are no further log files. -/
theorem loneFault_iff (horder : r.targets.map (·.target) <+: targets) :
    r.LoneFault targets ↔ r.OneFault ∧ targets.length = 1 := by
  constructor
  · rintro ⟨entry, reason, rfl, hone, hreason, herror⟩
    exact ⟨⟨entry, reason, hone, hreason, herror⟩, rfl⟩
  · rintro ⟨h, hlength⟩
    obtain ⟨entry, reason, rest, rfl, hone, hreason, herror⟩ := h.exists_eq_cons horder
    have hrest : rest = [] := List.length_eq_zero_iff.1 (Nat.succ.inj hlength)
    exact ⟨entry, reason, by rw [hrest], hone, hreason, herror⟩

end RunReport

namespace Collector

variable {r : RunReport} {targets : List LogFile}

/-- The verdict goes by the log files that have been read. -/
theorem verdict_of_oneFault (h : r.OneFault) :
    ∃ text, verdict r = .error (.session (.terminated text)) := by
  obtain ⟨⟨target, sessions, _⟩, reason, hone, rfl, herror⟩ := h
  refine ⟨reason.description, ?_⟩
  rw [verdict, hone]
  exact if_pos herror

theorem verdict_of_not_oneFault (h : ¬ r.OneFault) : verdict r = .ok r := by
  unfold verdict
  split
  · rename_i target sessions reason hone
    exact if_neg fun herror => h ⟨_, reason, hone, rfl, herror⟩
  · rfl

/-- The verdict is right unless the one fault is not that of the only log file. -/
theorem verdict_is_right_iff (horder : r.targets.map (·.target) <+: targets) :
    r.LoneFaultFails targets (some (verdict r)) ↔ (r.OneFault → targets.length = 1) := by
  constructor
  · intro h hone
    obtain ⟨text, htext⟩ := verdict_of_oneFault hone
    exact ((RunReport.loneFault_iff horder).1 (h.fails.1 ⟨text, congrArg some htext⟩)).2
  · intro h
    by_cases hone : r.OneFault
    · have hlone := (RunReport.loneFault_iff horder).2 ⟨hone, h hone⟩
      obtain ⟨text, htext⟩ := verdict_of_oneFault hone
      exact ⟨⟨fun _ => hlone, fun _ => ⟨text, congrArg some htext⟩⟩, fun hno => absurd hlone hno⟩
    · have hno : ¬ r.LoneFault targets := fun hlone =>
        hone ((RunReport.loneFault_iff horder).1 hlone).1
      rw [verdict_of_not_oneFault hone]
      exact ⟨⟨nofun, fun hlone => absurd hlone hno⟩, fun _ => rfl⟩

/-! ### Whole runs -/

section

variable {σ : Type} (w : World σ) (c : Collector)

/-- A report is about log files that have been found out, in their order. -/
theorem logFiles_of_collect {fuel : Nat} {t : Tape σ}
    (h : (collect w c fuel t).1 = some (.ok r)) :
    ∃ targets, (logFiles w c t).1 = .ok targets ∧ r.targets.map (·.target) <+: targets := by
  rw [collect_eq, Run.bind_apply] at h
  generalize logFiles w c t = found at h ⊢
  obtain ⟨result, t'⟩ := found
  cases result with
  | error f => exact absurd (Option.some.inj h) nofun
  | ok targets => exact ⟨targets, rfl, readTargets_order w c fuel false [] targets t' r h⟩

/-- If the sink can be flushed, a run with a report ends with the verdict. -/
theorem windUp_eq_verdict {t : Tape σ}
    (hflushed : ∀ answer,
      .flushed answer ∈ (windUp w (some (.ok r)) t).2.journal → answer = .ok ()) :
    (windUp w (some (.ok r)) t).1 = some (verdict r) := by
  have hanswer : (w.drain t).1 = .ok () := hflushed _ List.mem_cons_self
  rw [windUp, Run.bind_apply, hanswer]
  rfl

/-- **When only a lone fault fails the run.** In a run that comes to its end, with neither a fault
while it collects nor one of the sink when it is flushed, the result is right unless there are
several log files and the one that was read ended in a fault. -/
theorem lone_fault_fails_iff (fuel : Nat) (s : σ) (hended : (c.run w fuel ⟨s, []⟩).1 ≠ none)
    (hcollected : ∀ f, (c.collect w fuel ⟨s, []⟩).1 ≠ some (.error f))
    (hflushed : ∀ answer, .flushed answer ∈ (c.run w fuel ⟨s, []⟩).2.journal → answer = .ok ()) :
    ∃ targets r, (c.logFiles w ⟨s, []⟩).1 = .ok targets ∧
      (c.collect w fuel ⟨s, []⟩).1 = some (.ok r) ∧
      (r.LoneFaultFails targets (c.run w fuel ⟨s, []⟩).1 ↔
        ¬ (1 < targets.length ∧ r.OneFault)) := by
  rw [run_eq, Run.bind_apply] at hended hflushed ⊢
  match hcollect : (collect w c fuel ⟨s, []⟩).1 with
  | none =>
    rw [hcollect] at hended
    exact absurd rfl hended
  | some (.error f) => exact absurd hcollect (hcollected f)
  | some (.ok r) =>
    obtain ⟨targets, htargets, horder⟩ := logFiles_of_collect w c hcollect
    rw [hcollect] at hflushed
    refine ⟨targets, r, htargets, rfl, ?_⟩
    rw [windUp_eq_verdict w hflushed, verdict_is_right_iff horder, not_and']
    refine imp_congr_right fun hone => ?_
    obtain ⟨entry, reason, rest, rfl, -⟩ := hone.exists_eq_cons horder
    rw [List.length_cons]
    omega

end

/-! ### Runs on a stage -/

/-- A stage with some log files, on which the peer cannot be authenticated behind a first record;
the run is asked to stop when the record has been written. -/
def rejecting (files : List LogFile) : Stage :=
  { Stage.bare .universal 0 with
    collaborator := .scenes { Stage.Troupe.empty with
      files
      scenes := [{ Stage.Scene.empty with
        events := [some .established, some (.record ⟨1, []⟩), some (.ended .sicFailure 1)] }] }
    stopAfterLines := some 1 }

/-- The collecting there. -/
@[irreducible]
def rejectedCollecting (files : List LogFile) : Option (Except RunFault RunReport) × Tape Stage :=
  collect Stage.world touring 4 ⟨rejecting files, []⟩

/-- The run there. -/
@[irreducible]
def rejectedRun (files : List LogFile) : Option (Except RunFault RunReport) × Tape Stage :=
  run Stage.world touring 4 ⟨rejecting files, []⟩

/-- The report on the first log file, and whether others are missing. -/
def rejectedReport (interrupted : Bool) : RunReport :=
  ⟨[⟨⟨"a.log", 1⟩, 1, some .sicFailure⟩], interrupted⟩

/-- The run has one log file only and fails. -/
theorem lone_fault_fails_iff_alone :
    (rejectedRun [⟨"a.log", 1⟩]).1 ≠ none ∧
      (∀ f, (rejectedCollecting [⟨"a.log", 1⟩]).1 ≠ some (.error f)) ∧
      (∀ answer, .flushed answer ∈ (rejectedRun [⟨"a.log", 1⟩]).2.journal → answer = .ok ()) ∧
      ∃ targets r, (touring.logFiles Stage.world ⟨rejecting [⟨"a.log", 1⟩], []⟩).1 = .ok targets ∧
        (rejectedCollecting [⟨"a.log", 1⟩]).1 = some (.ok r) ∧
        r.LoneFaultFails targets (rejectedRun [⟨"a.log", 1⟩]).1 := by
  have hended : (rejectedRun [⟨"a.log", 1⟩]).1 ≠ none := by decide +kernel
  have hcollected : (rejectedCollecting [⟨"a.log", 1⟩]).1 = some (.ok (rejectedReport false)) := by
    decide +kernel
  have hok : ∀ f, (rejectedCollecting [⟨"a.log", 1⟩]).1 ≠ some (.error f) := by
    rw [hcollected]
    exact fun f => nofun
  have hflushed := flushed_of_flushFails (j := (rejectedRun [⟨"a.log", 1⟩]).2.journal)
    (by decide +kernel)
  have htargets : (touring.logFiles Stage.world ⟨rejecting [⟨"a.log", 1⟩], []⟩).1 =
      .ok [⟨"a.log", 1⟩] := by decide +kernel
  refine ⟨hended, hok, hflushed, ?_⟩
  rw [rejectedRun] at hended hflushed ⊢
  rw [rejectedCollecting] at hok ⊢
  obtain ⟨targets, r, hfound, hreport, hiff⟩ :=
    lone_fault_fails_iff Stage.world touring 4 _ hended hok hflushed
  refine ⟨targets, r, hfound, hreport, hiff.2 fun h => ?_⟩
  rw [← Except.ok.inj (htargets.symm.trans hfound)] at h
  exact Nat.lt_irrefl 1 h.1

/-- **A fault that is not alone fails the run.** There is another log file, but the run is asked to
stop before it is read. -/
theorem fault_fails_run_with_more_files :
    (rejectedRun [⟨"a.log", 1⟩, ⟨"b.log", 2⟩]).1 ≠ none ∧
      (∀ f, (rejectedCollecting [⟨"a.log", 1⟩, ⟨"b.log", 2⟩]).1 ≠ some (.error f)) ∧
      (∀ answer, .flushed answer ∈ (rejectedRun [⟨"a.log", 1⟩, ⟨"b.log", 2⟩]).2.journal →
        answer = .ok ()) ∧
      (touring.logFiles Stage.world ⟨rejecting [⟨"a.log", 1⟩, ⟨"b.log", 2⟩], []⟩).1 =
        .ok [⟨"a.log", 1⟩, ⟨"b.log", 2⟩] ∧
      (rejectedCollecting [⟨"a.log", 1⟩, ⟨"b.log", 2⟩]).1 = some (.ok (rejectedReport true)) ∧
      (rejectedRun [⟨"a.log", 1⟩, ⟨"b.log", 2⟩]).1 =
        some (.error (.session (.terminated "SIC authentication failure"))) ∧
      ¬ (rejectedReport true).LoneFaultFails [⟨"a.log", 1⟩, ⟨"b.log", 2⟩]
        (rejectedRun [⟨"a.log", 1⟩, ⟨"b.log", 2⟩]).1 := by
  have hcollected : (rejectedCollecting [⟨"a.log", 1⟩, ⟨"b.log", 2⟩]).1 =
      some (.ok (rejectedReport true)) := by decide +kernel
  have hfails : (rejectedRun [⟨"a.log", 1⟩, ⟨"b.log", 2⟩]).1 =
      some (.error (.session (.terminated "SIC authentication failure"))) := by decide +kernel
  refine ⟨?_, ?_, flushed_of_flushFails (by decide +kernel), by decide +kernel, hcollected, hfails,
    fun h => ?_⟩
  · rw [hfails]
    exact nofun
  · rw [hcollected]
    exact fun f => nofun
  · obtain ⟨entry, -, htargets, -⟩ := h.fails.1 ⟨_, hfails⟩
    exact absurd (List.cons.inj htargets).2 (List.cons_ne_nil _ _)

end Collector

end LogCollector
