import LogCollector.Proofs.Collector.Reports
import LogCollector.Proofs.Run.Readings
import LogCollector.Proofs.Session.Counting
import LogCollector.Proofs.Session.PostIndependence

/-!
# The metrics add up

After every run, however it ends, the metrics agree with each other and with what the run has done
(`metrics_add_up`): no record is lost between its delivery and its fate, every line is counted,
every post of a position is a commit or a further attempt of one, and every call of the status
service is measured.

A session that comes to an outcome is counted as ended. If it calls for another one, a reconnect is
counted, but only after the sink has been flushed: when this fails the run is over. The journal does
not tell of outcomes, so that they are remembered beside the run (`runEnds`).
-/

namespace LogCollector

/-- The end of a session during a run. -/
structure SessionEnd where
  /-- Its outcome. -/
  outcome : SessionOutcome
  /-- Whether the sink could be flushed afterwards. -/
  flushed : Bool
  deriving DecidableEq

namespace SessionEnd

/-- Whether the session calls for another one. -/
def callsForAnother (e : SessionEnd) : Bool := e.outcome matches .reconnect _

/-- Whether another session is prepared for. -/
def leadsOn (e : SessionEnd) : Bool := e.flushed && e.callsForAnother

end SessionEnd

namespace Collector

variable {σ : Type} (w : World σ) (c : Collector)

/-! ### Runs that remember the ends of their sessions -/

/-- Reads a log file and remembers the ends of its sessions. -/
def readTargetEnds (fuel : Nat) (target : LogFile) (sessions : Nat) (controller : Controller) :
    Nat → Run σ (Option (Except RunFault TargetReport) × List SessionEnd)
  | 0 => return (none, [])
  | rounds + 1 => do
    match ← controller.runSession w (c.assignment target) fuel with
    | (none, _) => return (none, [])
    | (some (.error f), _) => return (some (.error f), [])
    | (some (.ok outcome), controller) =>
      match ← w.drain with
      | .error f => return (some (.error (.sink f)), [⟨outcome, false⟩])
      | .ok () =>
        match outcome with
        | .terminated reason =>
          return (some (.ok ⟨target, sessions + 1, some reason⟩), [⟨outcome, true⟩])
        | .reconnect _ =>
          Run.measure .reconnected
          if ← waitOut w c.plan.recovery.nanoseconds then
            let (result, later) ← readTargetEnds fuel target (sessions + 1) controller rounds
            return (result, ⟨outcome, true⟩ :: later)
          else return (some (.ok ⟨target, sessions + 1, none⟩), [⟨outcome, true⟩])

/-- Reads log files and remembers the ends of their sessions. -/
def readTargetsEnds (fuel : Nat) (interrupted : Bool) (done : List TargetReport) :
    List LogFile → Run σ (Option (Except RunFault RunReport) × List SessionEnd)
  | [] => return (some (.ok ⟨done.reverse, interrupted⟩), [])
  | target :: rest => do
    if ← w.poll then return (some (.ok ⟨done.reverse, true⟩), [])
    match ← readTargetEnds w c fuel target 0 .initial fuel with
    | (none, ends) => return (none, ends)
    | (some (.error f), ends) => return (some (.error f), ends)
    | (some (.ok report), ends) =>
      let (result, later) ←
        readTargetsEnds fuel (interrupted || report.reason.isNone) (report :: done) rest
      return (result, ends ++ later)

/-- Runs the collector and remembers the ends of all sessions, in order. -/
def runEnds (fuel : Nat) : Run σ (Option (Except RunFault RunReport) × List SessionEnd) := do
  match ← logFiles w c with
  | .error f => return (← windUp w (some (.error f)), [])
  | .ok targets =>
    let (result, ends) ← readTargetsEnds w c fuel false [] targets
    return (← windUp w result, ends)

theorem fst_readTargetEnds (fuel : Nat) (target : LogFile) (sessions : Nat)
    (controller : Controller) (rounds : Nat) :
    Prod.fst <$> readTargetEnds w c fuel target sessions controller rounds =
      readTarget w c fuel target sessions controller rounds := by
  induction rounds generalizing sessions controller with
  | zero => rfl
  | succ rounds ih =>
    rw [readTargetEnds, readTarget, map_bind]
    refine bind_congr fun ⟨result, controller'⟩ => ?_
    match result with
    | none => rfl
    | some (.error f) => rfl
    | some (.ok outcome) =>
      dsimp only
      rw [map_bind]
      refine bind_congr fun flushed => ?_
      cases flushed with
      | error f => rfl
      | ok _ =>
        cases outcome with
        | terminated reason => rfl
        | reconnect reason =>
          dsimp only
          rw [map_bind]
          refine bind_congr fun _ => ?_
          rw [map_bind]
          refine bind_congr fun waited => ?_
          cases waited with
          | true =>
            rw [if_pos rfl, if_pos rfl, ← ih, map_bind, map_eq_pure_bind]
            rfl
          | false => rfl

theorem fst_readTargetsEnds (fuel : Nat) (interrupted : Bool) (done : List TargetReport)
    (targets : List LogFile) :
    Prod.fst <$> readTargetsEnds w c fuel interrupted done targets =
      readTargets w c fuel interrupted done targets := by
  induction targets generalizing interrupted done with
  | nil => rfl
  | cons target rest ih =>
    rw [readTargetsEnds, readTargets, map_bind]
    refine bind_congr fun stop => ?_
    cases stop with
    | true => rfl
    | false =>
      rw [if_neg Bool.false_ne_true, if_neg Bool.false_ne_true, ← fst_readTargetEnds,
        map_bind, bind_map_left]
      refine bind_congr fun ⟨result, ends⟩ => ?_
      match result with
      | none => rfl
      | some (.error f) => rfl
      | some (.ok report) =>
        dsimp only
        rw [← ih, map_bind, map_eq_pure_bind]
        rfl

/-- To remember the ends of the sessions does not change a run. -/
theorem fst_runEnds (fuel : Nat) : Prod.fst <$> runEnds w c fuel = run w c fuel := by
  rw [run_eq, collect_eq, runEnds, map_bind, bind_assoc]
  refine bind_congr fun found => ?_
  cases found with
  | error f =>
    dsimp only
    rw [map_bind, pure_bind]
    exact bind_pure _
  | ok targets =>
    dsimp only
    rw [← fst_readTargetsEnds, map_bind, bind_map_left]
    refine bind_congr fun ⟨result, ends⟩ => ?_
    dsimp only
    rw [map_bind]
    exact bind_pure _

/-! ### Counts -/

/-- Some steps, in which sessions have ended, count what they do. -/
def Accounted (ends : List SessionEnd) (new : List Step) : Prop :=
  Tallies 0 ends.length (ends.countP SessionEnd.leadsOn) new

variable {c} {ends later : List SessionEnd} {new newer : List Step}

theorem Accounted.append (hnewer : Accounted later newer) (h : Accounted ends new) :
    Accounted (ends ++ later) (newer ++ new) := by
  unfold Accounted at *
  rw [List.length_append, List.countP_append]
  exact Tallies.append hnewer h

theorem tallied_waitOut (remaining : Nat) : Tallied (waitOut w remaining) := by
  refine .of_adds ((adds_waitOut w remaining).mono fun s hs => ?_)
  cases s <;> first | rfl | exact hs.elim

/-- The sessions of a log file are accounted for. -/
theorem tells_readTargetEnds (hretries : 1 ≤ c.plan.maxRetries) (fuel : Nat) (target : LogFile)
    (sessions : Nat) (controller : Controller) (rounds : Nat) :
    Tells (fun x new => Accounted x.2 new)
      (readTargetEnds w c fuel target sessions controller rounds) := by
  induction rounds generalizing sessions controller with
  | zero => exact .pure tallies_nil
  | succ rounds ih =>
    refine (Controller.tells_runSession_tallies w (a := c.assignment target) hretries fuel
      controller).bind fun ⟨result, controller'⟩ new hnew => ?_
    match result with
    | none => exact .pure hnew
    | some (.error f) => exact .pure hnew
    | some (.ok outcome) =>
      have hflushed : ∀ answer, Tallies 0 1 0 ([.flushed answer] ++ new) := fun answer =>
        (tallies_of_isWeightless rfl).append hnew
      refine .demand_bind fun flushed => ?_
      cases flushed with
      | error f => exact .pure (hflushed _)
      | ok _ =>
        cases outcome with
        | terminated reason => exact .pure (hflushed _)
        | reconnect reason =>
          have hreconnected : Tallies 0 0 1 [.measured .reconnected] :=
            ⟨rfl, rfl, rfl, rfl, rfl, rfl⟩
          have hended : Accounted [⟨.reconnect reason, true⟩]
              ([.measured .reconnected] ++ ([.flushed (.ok ())] ++ new)) :=
            hreconnected.append (hflushed _)
          refine .measure_bind ((tallied_waitOut w _).tells.bind fun waited wait hwait => ?_)
          have hwaited : Accounted [⟨.reconnect reason, true⟩]
              (wait ++ [.measured .reconnected] ++ [.flushed (.ok ())] ++ new) := by
            rw [List.append_assoc, List.append_assoc]
            exact Tallies.append hwait hended
          cases waited with
          | false => exact .pure hwaited
          | true =>
            exact (ih (sessions + 1) controller').map fun x newer hnewer => by
              simpa using hnewer.append hwaited

/-- The sessions of all log files are accounted for. -/
theorem tells_readTargetsEnds (hretries : 1 ≤ c.plan.maxRetries) (fuel : Nat) (interrupted : Bool)
    (done : List TargetReport) (targets : List LogFile) :
    Tells (fun x new => Accounted x.2 new)
      (readTargetsEnds w c fuel interrupted done targets) := by
  induction targets generalizing interrupted done with
  | nil => exact .pure tallies_nil
  | cons target rest ih =>
    refine .demand_bind fun stop => ?_
    have hpolled : Accounted [] [.polled stop] := tallies_of_isWeightless rfl
    cases stop with
    | true => exact .pure hpolled
    | false =>
      refine (tells_readTargetEnds w hretries fuel target 0 .initial fuel).bind
        fun ⟨result, ends⟩ new hnew => ?_
      match result with
      | none => exact .pure (hnew.append hpolled)
      | some (.error f) => exact .pure (hnew.append hpolled)
      | some (.ok report) =>
        exact (ih _ _).map fun x newer hnewer => by
          simpa using hnewer.append (hnew.append hpolled)

theorem tallied_logFiles : Tallied (logFiles w c) := by
  refine (c.source.tallied_terms w c.plan).bind fun terms => ?_
  cases terms with
  | error f => exact .pure _
  | ok terms =>
    unfold Targets.resolve
    dsimp only
    split
    · exact .pure _
    · exact .pure _
    · exact (Tallied.demand fun _ => rfl).bind fun _ => .pure _

theorem tallied_windUp (result : Option (Except RunFault RunReport)) :
    Tallied (windUp w result) := by
  cases result with
  | none => exact .pure _
  | some result => exact (Tallied.demand fun _ => rfl).bind fun _ => .pure _

/-- All sessions of a run are accounted for. -/
theorem tells_runEnds (hretries : 1 ≤ c.plan.maxRetries) (fuel : Nat) :
    Tells (fun x new => Accounted x.2 new) (runEnds w c fuel) := by
  refine (tallied_logFiles w).tells.bind fun found new hnew => ?_
  cases found with
  | error f => exact (tallied_windUp w _).tells.map fun _ _ hnewer => hnewer.behind hnew
  | ok targets =>
    refine (tells_readTargetsEnds w hretries fuel false [] targets).bind
      fun ⟨result, ends⟩ newer hnewer => ?_
    have hread : Accounted ends (newer ++ new) := Tallies.behind hnewer hnew
    refine (tallied_windUp w result).tells.map fun _ newest hnewest => ?_
    rw [List.append_assoc]
    exact Tallies.append hnewest hread

/-- The metrics agree with each other, and with the ends of the sessions and the steps of a run. -/
structure AddsUp (ends : List SessionEnd) (j : List Step) : Prop where
  /-- Every record that was received was written, left out or lost. -/
  records : total .recordsReceived j =
    total .recordsEmitted j + total .recordsSuppressed j + total .writeErrors j
  /-- Every record that was written was a line. -/
  lines : total .recordsEmitted j = j.countP Step.isWritten
  /-- The outcomes of sessions, of both classes, are counted. -/
  sessions : total .sessionsEnded j = ends.length
  /-- Reconnects are outcomes that call for another session, behind which the sink was flushed. -/
  reconnects : total .reconnects j = ends.countP SessionEnd.leadsOn
  /-- Commits, successful or not, and further attempts are the posts of positions. -/
  posts : total .commits j + total .commitRetries j = j.countP Step.postsPosition
  /-- Calls are measured once. -/
  calls : total .callDuration j = j.countP Step.isCall

theorem Accounted.addsUp (h : Accounted ends new) : AddsUp ends new := by
  have htouches : ∀ metric : Metric, metric.type ≠ .gauge → total metric new = touches metric new :=
    fun metric htype => total_eq_touches htype new
  constructor
  · rw [htouches _ (by decide), htouches _ (by decide), htouches _ (by decide),
      htouches _ (by decide), h.records]
    push_cast
    rfl
  · rw [htouches _ (by decide), h.lines]
  · rw [htouches _ (by decide), h.ended]
  · rw [htouches _ (by decide), h.again]
  · rw [htouches _ (by decide), htouches _ (by decide), ← h.posts, Int.add_zero]
  · rw [htouches _ (by decide), h.calls]

/-- **The metrics of every run add up**, however it ends, if a commit may be attempted at all. The
run that remembers the ends of its sessions is the same run (`fst_runEnds`). -/
theorem metrics_add_up (c : Collector) (hretries : 1 ≤ c.plan.maxRetries) (fuel : Nat) (s : σ) :
    AddsUp (runEnds w c fuel ⟨s, []⟩).1.2 (run w c fuel ⟨s, []⟩).2.journal := by
  obtain ⟨new, hnew, haccounted⟩ := tells_runEnds w hretries fuel ⟨s, []⟩
  rw [List.append_nil] at hnew
  rw [← fst_runEnds]
  exact hnew ▸ haccounted.addsUp

/-- When no post is accepted, each of three commits is attempted three times. -/
theorem metrics_add_up_unavailable :
    1 ≤ attentive.plan.maxRetries ∧ total .commits (postingRun (some 503)).2.journal = 3 ∧
      total .commitRetries (postingRun (some 503)).2.journal = 6 ∧
      AddsUp (runEnds Stage.world attentive 5 ⟨posting (some 503), []⟩).1.2
        (postingRun (some 503)).2.journal := by
  have hcommits : total .commits (postingRun (some 503)).2.journal = 3 := by
    rw [total_eq_touches (by decide)]
    decide +kernel
  have hretries : total .commitRetries (postingRun (some 503)).2.journal = 6 := by
    rw [total_eq_touches (by decide)]
    decide +kernel
  refine ⟨by decide, hcommits, hretries, ?_⟩
  rw [postingRun]
  exact metrics_add_up Stage.world attentive (by decide) 5 (posting (some 503))

/-- A stage on which the connection fails, and then the sink cannot be flushed. -/
def unflushable : Stage :=
  { Stage.bare .universal 0 with
    collaborator := .scenes { Stage.Troupe.empty with
      files := [⟨"a.log", 1⟩]
      scenes := [sceneEnding .commFailure] }
    flushError := some "disk full" }

/-- The run there. -/
@[irreducible]
def unflushableRun : Option (Except RunFault RunReport) × Tape Stage :=
  run Stage.world touring 3 ⟨unflushable, []⟩

/-- The ends of its sessions. -/
@[irreducible]
def unflushableEnds : List SessionEnd := (runEnds Stage.world touring 3 ⟨unflushable, []⟩).1.2

/-- There the outcome of the session calls for another one, but no reconnect is counted. -/
theorem reconnect_uncounted_unflushable :
    1 ≤ touring.plan.maxRetries ∧
      unflushableRun.1 = some (.error (.sink (.writeFailed "disk full"))) ∧
      total .reconnects unflushableRun.2.journal ≠
        unflushableEnds.countP SessionEnd.callsForAnother := by
  have hresult : unflushableRun.1 = some (.error (.sink (.writeFailed "disk full"))) := by
    decide +kernel
  have hreconnects : total .reconnects unflushableRun.2.journal = 0 := by
    rw [total_eq_touches (by decide)]
    decide +kernel
  have hends : unflushableEnds = [⟨.reconnect .commFailure, false⟩] := by decide +kernel
  rw [hreconnects, hends]
  exact ⟨by decide, hresult, by decide⟩

end Collector

end LogCollector
