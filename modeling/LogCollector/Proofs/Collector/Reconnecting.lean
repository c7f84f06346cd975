import LogCollector.Proofs.Collector.Unfinished

/-!
# The sessions of a log file and the waits between them

A log file is read through one session after another. The end of a session calls for another one if
its reason is transient and some session of the log file has been established; then the recovery
interval is slept through in short sleeps, and a request to stop that is noticed meanwhile is the
end of it. `Course` lists what reading a log file comes to, with all steps in order: sessions, as
the journal tells of them, and waits. A fault comes only of a session that cannot be requested or
breaks off, or of a sink that cannot be flushed behind a session (`target_is_read_in_sessions`).
-/

namespace LogCollector

/-- The steps of a session of a log file that ended for a reason, the first one first. -/
structure IsSession (target : LogFile) (established : Bool) (reason : EndReason)
    (steps : List Step) : Prop where
  /-- Whether the run is to stop is not looked at. -/
  unpolled : ∀ s ∈ steps, s.Unpolled
  /-- The session is the only one that they tell of. -/
  record : sessionRecords steps.reverse = [⟨target, established, some reason⟩]

/-- What reading a log file comes to, through so many further sessions of so many events each and
given whether a session has been established before and how many there have been: the result and
the steps, the first one first. -/
inductive Course (a : Assignment) (fuel : Nat) :
    Nat → Bool → Nat → Option (Except RunFault TargetReport) → List Step → Prop where
  /-- There are no sessions left. -/
  | exhausted {before : Bool} {sessions : Nat} : Course a fuel 0 before sessions none []
  /-- A session goes on. -/
  | unfinished {rounds : Nat} {before : Bool} {sessions : Nat} {steps : List Step} :
      (∀ s ∈ steps, s.Unpolled) → IsOpened a.target steps.reverse →
      fuel ≤ steps.countP Step.isEvent →
      Course a fuel (rounds + 1) before sessions none steps
  /-- No session is requested. -/
  | unstarted {rounds : Nat} {before : Bool} {sessions : Nat} {steps : List Step} {f : RunFault} :
      Unstarted a f steps.reverse →
      Course a fuel (rounds + 1) before sessions (some (.error f)) steps
  /-- A session breaks off. -/
  | broken {rounds : Nat} {before : Bool} {sessions : Nat} {steps : List Step} {f : RunFault} :
      (∀ s ∈ steps, s.Unpolled) → IsOpened a.target steps.reverse → Breaks f steps.reverse →
      Course a fuel (rounds + 1) before sessions (some (.error f)) steps
  /-- A session ends, and the sink cannot be flushed. -/
  | unflushed {rounds : Nat} {before established : Bool} {sessions : Nat} {reason : EndReason}
      {steps : List Step} (f : SinkFault) : IsSession a.target established reason steps →
      Course a fuel (rounds + 1) before sessions (some (.error (.sink f)))
        (steps ++ [.flushed (.error f)])
  /-- A session ends for a reason that is not transient, or none has been established. -/
  | ended {rounds : Nat} {before established : Bool} {sessions : Nat} {reason : EndReason}
      {steps : List Step} : IsSession a.target established reason steps →
      ¬ (reason.cls = .transient ∧ (before || established) = true) →
      Course a fuel (rounds + 1) before sessions
        (some (.ok ⟨a.target, sessions + 1, some reason⟩)) (steps ++ [.flushed (.ok ())])
  /-- A session ends, and in the wait for another one the run is asked to stop. -/
  | stopped {rounds : Nat} {before established : Bool} {sessions : Nat} {reason : EndReason}
      {steps wait : List Step} {sleeps : List Duration} :
      IsSession a.target established reason steps →
      reason.cls = .transient ∧ (before || established) = true →
      Collector.Waited a.plan.recovery.nanoseconds true sleeps wait →
      Course a fuel (rounds + 1) before sessions
        (some (.ok ⟨a.target, sessions + 1, none⟩))
        (steps ++ [.flushed (.ok ()), .measured .reconnected] ++ wait)
  /-- A session ends, and another one follows after the wait. -/
  | again {rounds : Nat} {before established : Bool} {sessions : Nat} {reason : EndReason}
      {result : Option (Except RunFault TargetReport)} {steps wait later : List Step}
      {sleeps : List Duration} : IsSession a.target established reason steps →
      reason.cls = .transient ∧ (before || established) = true →
      Collector.Waited a.plan.recovery.nanoseconds false sleeps wait →
      Course a fuel rounds (before || established) (sessions + 1) result later →
      Course a fuel (rounds + 1) before sessions result
        (steps ++ [.flushed (.ok ()), .measured .reconnected] ++ wait ++ later)

/-- The sleep of a step. -/
def Step.sleep? : Step → Option Duration
  | .slept d => some d
  | _ => none

theorem EndReason.callsForReconnect_iff {reason : EndReason} {established : Bool} :
    reason.callsForReconnect established = true ↔
      reason.cls = .transient ∧ established = true := by
  rw [callsForReconnect, Bool.and_eq_true, decide_eq_true_eq]

namespace Collector

variable {σ : Type} (w : World σ) (c : Collector)

/-- **Sessions and waits follow one another** as the ends of the sessions call for it. -/
theorem tells_readTarget (fuel : Nat) (target : LogFile) (sessions : Nat) {controller : Controller}
    (hstate : controller.state = .init ∨ controller.state = .reconnect) (rounds : Nat) :
    Tells (fun result new => Course (c.assignment target) fuel rounds controller.established
        sessions result new.reverse)
      (readTarget w c fuel target sessions controller rounds) := by
  induction rounds generalizing sessions controller with
  | zero => exact .pure .exhausted
  | succ rounds ih =>
    refine ((Controller.tells_runSession w (c.assignment target) fuel hstate).and_adds
      (Controller.adds_runSession_unpolled w _ controller fuel)).bind
      fun ⟨result, controller'⟩ new ⟨hunpolled, hleft⟩ => ?_
    rw [← List.reverse_reverse new] at hleft
    simp only [← @List.mem_reverse _ _ new] at hunpolled
    obtain ⟨f, hfault, hunstarted⟩ | hleft := hleft
    · cases hfault
      exact .pure (.unstarted hunstarted)
    match result, hleft with
    | none, ⟨hopened, hevents⟩ =>
      rw [List.countP_reverse] at hevents
      exact .pure (.unfinished hunpolled hopened hevents)
    | some (.error f), ⟨hopened, hbreaks⟩ => exact .pure (.broken hunpolled hopened hbreaks)
    | some (.ok outcome), ⟨hended, hnext⟩ =>
      refine .demand_bind fun flushed => ?_
      cases flushed with
      | error f =>
        obtain ⟨established, hrecords⟩ := hended.latest_eq
        refine .pure ?_
        rw [List.nil_append, List.reverse_append]
        exact .unflushed f ⟨hunpolled, hrecords⟩
      | ok _ =>
        cases outcome with
        | terminated reason =>
          obtain ⟨established, hrecords, hno⟩ := hended.of_terminated
          rw [← Bool.not_eq_true, EndReason.callsForReconnect_iff] at hno
          refine .pure ?_
          rw [List.nil_append, List.reverse_append]
          exact .ended ⟨hunpolled, hrecords⟩ hno
        | reconnect reason =>
          obtain ⟨established, hrecords, hestablished, hagain⟩ := hended.of_reconnect
          rw [EndReason.callsForReconnect_iff] at hagain
          refine .measure_bind ((tells_waitOut w _).bind fun waited wait ⟨sleeps, hwaited⟩ => ?_)
          cases waited with
          | false =>
            refine .pure ?_
            have hcourse : Course (c.assignment target) fuel (rounds + 1) controller.established
                sessions (some (.ok ⟨target, sessions + 1, none⟩)) _ :=
              .stopped ⟨hunpolled, hrecords⟩ hagain hwaited
            simpa using hcourse
          | true =>
            refine (ih (sessions + 1) (.inr (hnext reason rfl))).mono fun result later hlater => ?_
            rw [hestablished] at hlater
            simpa using Course.again ⟨hunpolled, hrecords⟩ hagain hwaited hlater

/-- **A log file is read in sessions**, one after another. The first session that ends for a reason
which is not transient, or by whose end none of them has been established, is the last one, and its
reason is reported. Before each further session the recovery interval is slept through, with a look
at the request to stop before each sleep and behind the last one; if the run is asked to stop, no
further session is opened and no reason is reported. -/
theorem target_is_read_in_sessions (fuel rounds : Nat) (target : LogFile) (t : Tape σ) :
    ∃ steps, (readTarget w c fuel target 0 .initial rounds t).2.journal =
        steps.reverse ++ t.journal ∧
      Course (c.assignment target) fuel rounds false 0
        (readTarget w c fuel target 0 .initial rounds t).1 steps := by
  have hstate : Controller.initial.state = .init ∨ Controller.initial.state = .reconnect := .inl rfl
  obtain ⟨new, hnew, hcourse⟩ := tells_readTarget w c fuel target 0 hstate rounds t
  exact ⟨new.reverse, by rw [List.reverse_reverse, hnew], hcourse⟩

/-- A log file is read in two sessions, since the connection fails in the first one; half a second
lies between them. If the run is asked to stop after half of that, there is one session only. -/
theorem target_is_read_in_sessions_unsteady :
    let file : LogFile := ⟨"a.log", 1⟩
    let quarter := Duration.ofMilliseconds 250
    let r := readTarget Stage.world touring 4 file 0 .initial 4 ⟨unsteady, []⟩
    let r' := readTarget Stage.world touring 4 file 0 .initial 4
      ⟨{ unsteady with stopAfterSleeps := some 1 }, []⟩
    r.1 = some (.ok ⟨file, 2, some .endByApplication⟩) ∧
      sessionRecords r.2.journal =
        [⟨file, true, some .endByApplication⟩, ⟨file, true, some .commFailure⟩] ∧
      r.2.journal.filterMap Step.sleep? = [quarter, quarter] ∧
      (∃ steps, r.2.journal = steps.reverse ++ [] ∧
        Course (touring.assignment file) 4 4 false 0 r.1 steps) ∧
      r'.1 = some (.ok ⟨file, 1, none⟩) ∧
      sessionRecords r'.2.journal = [⟨file, true, some .commFailure⟩] ∧
      r'.2.journal.filterMap Step.sleep? = [quarter] ∧
      ∃ steps, r'.2.journal = steps.reverse ++ [] ∧
        Course (touring.assignment file) 4 4 false 0 r'.1 steps := by
  intro file quarter r r'
  refine ⟨by decide +kernel, by decide +kernel, by decide +kernel, ?_, by decide +kernel,
    by decide +kernel, by decide +kernel, ?_⟩
  · exact target_is_read_in_sessions Stage.world touring 4 4 file ⟨unsteady, []⟩
  · exact target_is_read_in_sessions Stage.world touring 4 4 file
      ⟨{ unsteady with stopAfterSleeps := some 1 }, []⟩

end Collector

end LogCollector
