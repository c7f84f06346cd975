import LogCollector.Proofs.Collector.Reports
import LogCollector.Proofs.Run.StopRequest

/-!
# Stopping between sessions

A collector looks at the request to stop between sessions and while it waits for the next one. A
session, once begun, goes to its end, with its last commit and the report on the connection,
whenever the request comes. So of two runs in the same world the one that is asked to stop earlier
does a part of what the other one does: all of it until the end of some session
(`stops_between_sessions`).

This rests on two facts about a session: it is the same whatever the request to stop
(`runSession_asked`), and if it has an outcome its end has been measured at last
(`runSession_ended_triple`).
-/

namespace LogCollector

/-! ### Where the request is not looked at -/

section

variable {σ : Type} (w : World σ) (stop : σ → Bool × σ)

theorem RetryPolicy.attemptsFrom_asked (p : RetryPolicy)
    (operation : Nat → Run σ (Except String Unit)) (made : Nat) (lastError : String)
    (delay : Duration) (left : Nat) :
    p.attemptsFrom (w.asked stop) operation made lastError delay left =
      p.attemptsFrom w operation made lastError delay left := by
  induction left generalizing made lastError delay with
  | zero => rfl
  | succ left ih =>
    simp only [attemptsFrom, ih]
    rfl

theorem CheckpointStore.commitWithRetry_asked (s : CheckpointStore) (p : RetryPolicy)
    (c : Checkpoint) : s.commitWithRetry (w.asked stop) p c = s.commitWithRetry w p c := by
  cases ht : s.tracking with
  | none => simp only [commitWithRetry, ht]
  | some t =>
    rw [commitWithRetry_eq _ ht, commitWithRetry_eq _ ht, RetryPolicy.run, RetryPolicy.run,
      RetryPolicy.attemptsFrom_asked]
    rfl

namespace Controller

variable (a : Assignment)

theorem commit_asked (c : Controller) (position : Int) :
    commit (w.asked stop) a c position = commit w a c position := by
  unfold commit
  simp only [CheckpointStore.commitWithRetry_asked]

theorem onRecord_asked (c : Controller) (r : Record) :
    onRecord (w.asked stop) a c r = onRecord w a c r := by
  unfold onRecord
  simp only [commit_asked]
  rfl

theorem finish_asked (c : Controller) (reason : EndReason) (position : Int) :
    finish (w.asked stop) a c reason position = finish w a c reason position := by
  unfold finish
  simp only [commit_asked]
  rfl

theorem handle_asked (c : Controller) (event : SessionEvent) :
    handle (w.asked stop) a c event = handle w a c event := by
  cases event with
  | record r => simp only [handle, onRecord_asked]
  | ended reason position => simp only [handle, finish_asked]
  | _ => rfl

theorem pump_asked (fuel : Nat) (c : Controller) :
    pump (w.asked stop) a fuel c = pump w a fuel c := by
  induction fuel generalizing c with
  | zero => rfl
  | succ fuel ih =>
    simp only [pump, ih, handle_asked]
    rfl

/-- **During a session** the request to stop is not looked at. -/
theorem runSession_asked (fuel : Nat) (c : Controller) :
    runSession (w.asked stop) a fuel c = runSession w a fuel c := by
  simp only [runSession, pump_asked, finish_asked]
  rfl

end Controller

end

/-! ### The end of a session -/

namespace Controller

variable {σ : Type} (w : World σ) {a : Assignment}

/-- A result of a session with an outcome comes with the end of the session. -/
def Finished (x : Option (Except RunFault SessionOutcome) × Controller) (j : List Step) : Prop :=
  ∀ outcome, x.1 = some (.ok outcome) → EndsSession j

theorem finish_ended_triple (c : Controller) (reason : EndReason) (position : Int) :
    Triple (.owing fun _ => True) (fun _ => True) (finish w a c reason position)
      fun x => Finished (some x.1, x.2) := by
  have hend : ∀ x : Except RunFault SessionOutcome × Controller, Triple (σ := σ)
      (.owing fun _ => True) (fun _ => True) (do Run.measure (.ended reason.cls); return x)
      fun x => Finished (some x.1, x.2) := by
    refine fun x => Triple.bind (R := fun _ => EndsSession) (.measure fun j _ _ _ => ?_)
      fun _ => .pure fun j _ h _ _ => h
    exact ⟨trivial, reason.cls, j, rfl⟩
  rw [finish_eq]
  split
  · refine (Triple.of_adds_true (.measure (S := fun _ => True) trivial)).bind fun _ => ?_
    split
    · have hreport := (Triple.of_adds_true (a.store.adds_reportHealth_served w false)).bind
        fun _ => hend (.ok (c.conclude reason).1, (c.conclude reason).2)
      split
      · exact (Triple.of_adds_true (adds_commit_served w _ position)).bind fun _ => hreport
      · exact hreport
    · exact hend _
  · exact .pure fun _ _ _ _ h => nomatch h

theorem handle_ended_triple (c : Controller) (event : SessionEvent) :
    Triple (.owing fun _ => True) (fun _ => True) (handle w a c event)
      (Directs (fun _ _ => True) (fun _ _ => True) Finished) := by
  cases event with
  | ended reason position =>
    refine (finish_ended_triple w c reason position).bind fun ⟨result, c'⟩ => .pure fun j _ h => ?_
    cases result with
    | error f => exact fun _ h => nomatch h
    | ok outcome => exact h
  | _ =>
    refine .of_tells (tells_handle w c _) fun x new j _ h => ?_
    cases h <;> first | exact trivial | exact fun _ h => nomatch h

/-- **A session with an outcome has been processed to its end.** -/
theorem runSession_ended_triple (c : Controller) (fuel : Nat) :
    Triple (.owing fun _ => True) (fun _ => True) (runSession w a fuel c) Finished := by
  have hhandle : ∀ c (answer : Except SessionFault SessionEvent),
      Triple (.owing fun _ => True) (fun _ => True) (handle w a c (c.eventOf answer))
        (Directs (fun _ _ => True) (fun _ _ => True) Finished) :=
    fun c answer => handle_ended_triple w c _
  have hpump : ∀ c, Triple (.owing fun _ => True) (fun _ => True) (pump w a fuel c) Finished := by
    refine fun c => pump_rule w a (fun _ _ _ _ _ _ => ⟨trivial, trivial⟩) hhandle
      (fun c answer j _ _ _ => ⟨trivial, ?_⟩) (fun _ _ _ _ h => nomatch h) fuel c
    cases answer with
    | error f => exact fun _ h => nomatch h
    | ok _ => exact trivial
  rw [runSession_eq]
  refine (Triple.of_adds_true (adds_start w c)).bind fun ⟨result, c₁⟩ => ?_
  cases result with
  | error f => exact .pure fun _ _ _ _ h => nomatch h
  | ok request =>
    refine (Triple.of_adds_true (Adds.demand (S := fun _ => True) fun _ => trivial)).bind
      fun answer => ?_
    cases answer with
    | error f => exact (finish_ended_triple w c₁ _ _).bind fun _ => .pure fun _ _ h => h
    | ok _ =>
      refine (Triple.of_adds_true (adds_attach w c₁)).bind fun ⟨result, c₂⟩ => ?_
      cases result with
      | error f => exact .pure fun _ _ _ _ h => nomatch h
      | ok _ => exact hpump c₂

end Controller

namespace Collector

variable {σ : Type} (w : World σ) (c : Collector) {early late : σ → Bool × σ}

/-- Both runs wait alike, or the first one breaks off the wait. -/
theorem waitOut_stopsShort (h : World.StopsEarlier early late) (remaining : Nat) :
    StopsShort early start (fun j => LeavesOff start j j) (waitOut (w.asked early) remaining)
      (waitOut (w.asked late) remaining) (· = false) fun _ j => LeavesOff start j j := by
  induction remaining using Nat.strongRecOn with
  | ind remaining ih =>
    rw [waitOut, waitOut]
    split
    · refine (StopsShort.poll w h).bind (fun _ => .pure fun _ hj => hj) ?_
      rintro _ rfl
      exact .pure rfl
    · rename_i hne
      refine (StopsShort.poll w h).bind (fun stop => ?_) ?_
      · cases stop with
        | true => exact .pure fun _ hj => hj
        | false =>
          refine .next (Triple.of_idle (m := w.pause _) (.demand fun _ => rfl)) fun _ => ih _ ?_
          simp only [pollInterval, Duration.ofMilliseconds]
          omega
      · rintro _ rfl
        exact .pure rfl

/-- A log file is read alike, or the first run leaves off behind one of its sessions. -/
theorem readTarget_stopsShort (h : World.StopsEarlier early late) (fuel : Nat) (target : LogFile)
    (sessions : Nat) (controller : Controller) (rounds : Nat) :
    StopsShort early start (fun _ => True)
      (readTarget (w.asked early) c fuel target sessions controller rounds)
      (readTarget (w.asked late) c fuel target sessions controller rounds)
      (fun result => ∃ report, result = some (.ok report))
      fun result j => ∀ report, result = some (.ok report) → LeavesOff start j j := by
  induction rounds generalizing sessions controller with
  | zero => exact .pure fun _ _ _ h => nomatch h
  | succ rounds ih =>
    rw [readTarget, readTarget, Controller.runSession_asked, Controller.runSession_asked]
    refine .next (Controller.runSession_ended_triple w controller fuel)
      fun ⟨result, controller'⟩ => ?_
    match result with
    | none => exact .pure fun _ _ _ h => nomatch h
    | some (.error f) => exact .pure fun _ _ _ h => nomatch h
    | some (.ok outcome) =>
      have hdrain : Triple (.owing fun _ => True)
          (Controller.Finished (some (.ok outcome), controller')) w.drain
          fun _ j => LeavesOff start j j :=
        (Triple.of_idle (.demand fun _ => rfl)).mono (fun j _ hj => (hj outcome rfl).leavesOff)
          fun _ _ _ hj => hj
      refine .next hdrain fun flushed => ?_
      match flushed, outcome with
      | .error f, _ => exact .pure fun _ _ _ h => nomatch h
      | .ok (), .terminated reason => exact .pure fun _ hj _ _ => hj
      | .ok (), .reconnect reason =>
        refine .next (Triple.of_idle (.measure rfl)) fun _ =>
          (waitOut_stopsShort w h _).bind (fun waited => ?_) ?_
        · cases waited with
          | true => exact (ih _ _).weaken fun _ _ => trivial
          | false => exact .pure fun _ hj _ _ => hj
        · rintro _ rfl
          exact .pure ⟨_, rfl⟩

/-- A run that has been asked to stop reads no further log file. -/
theorem halts_readTargets (h : World.StopsEarlier early late) (fuel : Nat) (interrupted : Bool)
    (done : List TargetReport) (targets : List LogFile) :
    Halts early (fun result => ∃ report, result = some (.ok report))
      (readTargets (w.asked early) c fuel interrupted done targets) := by
  cases targets with
  | nil => exact .pure ⟨_, rfl⟩
  | cons target rest =>
    intro t hstop
    rw [readTargets, Run.bind_apply, World.poll_asked, hstop]
    exact ⟨⟨_, rfl⟩, h.lasts _ hstop, [_], rfl, List.forall_mem_singleton.2 rfl⟩

/-- The log files are read alike, or the first run leaves off between two sessions. -/
theorem readTargets_stopsShort (h : World.StopsEarlier early late) (fuel : Nat) (interrupted : Bool)
    (done : List TargetReport) (targets : List LogFile) :
    StopsShort early start (fun j => LeavesOff start j j)
      (readTargets (w.asked early) c fuel interrupted done targets)
      (readTargets (w.asked late) c fuel interrupted done targets)
      (fun result => ∃ report, result = some (.ok report)) fun _ _ => True := by
  induction targets generalizing interrupted done with
  | nil => exact .pure fun _ _ => trivial
  | cons target rest ih =>
    refine (StopsShort.poll w h).bind (fun stop => ?_) ?_
    · cases stop with
      | true => exact .pure fun _ _ => trivial
      | false =>
        have htarget : StopsShort early start (fun j => LeavesOff start j j) _ _ _ _ :=
          (readTarget_stopsShort w c h fuel target 0 .initial fuel).weaken fun _ _ => trivial
        refine htarget.bind (fun result => ?_) ?_
        · match result with
          | none => exact .pure fun _ _ => trivial
          | some (.error f) => exact .pure fun _ _ => trivial
          | some (.ok report) => exact (ih _ _).weaken fun j hj => hj report rfl
        · rintro _ ⟨report, rfl⟩
          exact halts_readTargets w c h fuel _ _ rest
    · rintro _ rfl
      exact .pure ⟨_, rfl⟩

/-- Two runs do the same, or the first one leaves off between two sessions. -/
theorem run_stopsShort (h : World.StopsEarlier early late) (fuel : Nat) (s : σ) :
    c.run (w.asked early) fuel ⟨s, []⟩ = c.run (w.asked late) fuel ⟨s, []⟩ ∨
      LeavesOff (c.logFiles (w.asked late) ⟨s, []⟩).2.journal
        (c.run (w.asked early) fuel ⟨s, []⟩).2.journal
        (c.run (w.asked late) fuel ⟨s, []⟩).2.journal := by
  have hfiles : c.logFiles (w.asked early) = c.logFiles (w.asked late) := rfl
  have hwindUp : windUp (w.asked early) = windUp (w.asked late) := rfl
  rw [run_eq, run_eq, collect_eq, collect_eq, hfiles, hwindUp]
  simp only [Run.bind_apply]
  generalize c.logFiles (w.asked late) ⟨s, []⟩ = found
  obtain ⟨result, t⟩ := found
  cases result with
  | error f => exact .inl rfl
  | ok targets =>
    have hstart : LeavesOff t.journal t.journal t.journal :=
      ⟨t.journal, List.suffix_refl _, rfl, .inl rfl⟩
    dsimp only
    obtain ⟨heq, -⟩ | ⟨⟨report, hreport⟩, -, hleaves⟩ :=
      (readTargets_stopsShort w c h fuel false [] targets).splits t hstart
    · exact .inl (by rw [heq])
    · refine .inr ?_
      rw [hreport]
      have hflushed : ∀ answer, ∀ s ∈ [Step.flushed answer], s.isIdle = true :=
        fun _ => List.forall_mem_singleton.2 rfl
      have hwindUp := windUp_record_triple (w.asked late) fun _ _ => True
      exact (hleaves.idle (hflushed _)).grow ((hwindUp _).grows _)

/-- **A run is only cut short between sessions.** Of two runs in the same world, the one that is
asked to stop earlier does the same as the other one, or it does exactly what the other one has done
until the end of some session, or before its first one. -/
theorem stops_between_sessions (fuel : Nat) {early late : ℕ∞} (h : early ≤ late) (s : σ) :
    c.run (w.stoppedAt early) fuel ⟨(s, 0), []⟩ = c.run (w.stoppedAt late) fuel ⟨(s, 0), []⟩ ∨
      LeavesOff (c.logFiles (w.stoppedAt late) ⟨(s, 0), []⟩).2.journal
        (c.run (w.stoppedAt early) fuel ⟨(s, 0), []⟩).2.journal
        (c.run (w.stoppedAt late) fuel ⟨(s, 0), []⟩).2.journal :=
  run_stopsShort w.counted c (World.stopsEarlier_reached h) fuel (s, 0)

/-! ### Runs on a stage -/

/-- The run on the stage on which the connection fails, asked to stop at a moment. -/
@[irreducible]
def stoppedRun (moment : ℕ∞) : Option (Except RunFault RunReport) × Tape (Stage × ℕ) :=
  run (Stage.world.stoppedAt moment) touring 4 ⟨(unsteady, 0), []⟩

/-- Asked to stop in the middle of its first session the run leaves off at the end of this session;
asked in the middle of the third one it goes that far. -/
theorem stops_between_sessions_unsteady :
    (3 : ℕ∞) ≤ 17 ∧ (openings (stoppedRun 3).2.journal).length = 1 ∧
      (openings (stoppedRun 17).2.journal).length = 3 ∧
      LeavesOff (touring.logFiles (Stage.world.stoppedAt 17) ⟨(unsteady, 0), []⟩).2.journal
        (stoppedRun 3).2.journal (stoppedRun 17).2.journal := by
  have hle : (3 : ℕ∞) ≤ 17 := by decide +kernel
  have hone : (openings (stoppedRun 3).2.journal).length = 1 := by decide +kernel
  have hthree : (openings (stoppedRun 17).2.journal).length = 3 := by decide +kernel
  refine ⟨hle, hone, hthree, ?_⟩
  rw [stoppedRun] at hone hthree
  rw [stoppedRun, stoppedRun]
  obtain heq | hleaves := stops_between_sessions Stage.world touring 4 hle unsteady
  · rw [heq] at hone
    exact absurd (hone.symm.trans hthree) (by decide)
  · exact hleaves

end Collector

end LogCollector
