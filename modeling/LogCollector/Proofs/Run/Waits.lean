import LogCollector.Proofs.Run.ServiceCalls
import Mathlib.Algebra.GroupWithZero.Nat

/-!
# The wait between sessions

A wait is cut into sleeps, so that a request to stop is soon noticed: it is looked for before each
sleep and once more behind the last one. The sleeps add up to the wait, unless the run is asked to
stop (`tells_waitOut`).
-/

namespace LogCollector

/-- A step that does not look at the request to stop. -/
def Step.Unpolled (s : Step) : Prop := ∀ stop, s ≠ .polled stop

theorem unpolled_of_serves {P : ServiceRole → String → Status.Parameters → Prop} {s : Step}
    (h : Serves P s) : s.Unpolled := by
  rintro stop rfl
  exact h.elim

namespace Collector

/-- Sleeps, before each of which the run has not been asked to stop. -/
def naps (sleeps : List Duration) : List Step := sleeps.flatMap fun d => [.polled false, .slept d]

/-- What a wait of some nanoseconds comes to, given whether the run is asked to stop meanwhile: the
steps, the first one first. -/
structure Waited (remaining : Nat) (stopped : Bool) (sleeps : List Duration) (steps : List Step) :
    Prop where
  /-- The request to stop is looked at before each sleep, and in the end. -/
  polls : steps = naps sleeps ++ [.polled stopped]
  /-- No sleep is longer than the request may go unnoticed. -/
  short : ∀ d ∈ sleeps, d.nanoseconds ≤ (Duration.ofMilliseconds 250).nanoseconds
  /-- The sleeps do not exceed the wait. -/
  within : (sleeps.map (·.nanoseconds)).sum ≤ remaining
  /-- They make it up if the run is not asked to stop. -/
  total : stopped = false → (sleeps.map (·.nanoseconds)).sum = remaining

/-- A sleep in front of the rest of a wait. -/
theorem Waited.nap {remaining step : Nat} {stopped : Bool} {sleeps : List Duration}
    {steps : List Step} (h : Waited (remaining - step) stopped sleeps steps)
    (hstep : step ≤ remaining) (hshort : step ≤ (Duration.ofMilliseconds 250).nanoseconds) :
    Waited remaining stopped (⟨step⟩ :: sleeps) (.polled false :: .slept ⟨step⟩ :: steps) where
  polls := by
    rw [h.polls]
    rfl
  short := List.forall_mem_cons.2 ⟨hshort, h.short⟩
  within := by
    have := h.within
    simp only [List.map_cons, List.sum_cons]
    omega
  total hstopped := by
    have := h.total hstopped
    simp only [List.map_cons, List.sum_cons]
    omega

/-- **A wait is slept through in short sleeps**, or it is broken off since the run is asked to
stop. -/
theorem tells_waitOut {σ : Type} (w : World σ) (remaining : Nat) :
    Tells (fun waited new => ∃ sleeps, Waited remaining (!waited) sleeps new.reverse)
      (waitOut w remaining) := by
  induction remaining using Nat.strongRecOn with
  | ind remaining ih =>
    rw [waitOut]
    split
    · rename_i hzero
      refine .demand_bind fun stop =>
        .pure ⟨[], ?_, by simp, Nat.zero_le _, fun _ => hzero.symm⟩
      rw [Bool.not_not]
      rfl
    · rename_i hne
      refine .demand_bind fun stop => ?_
      cases stop with
      | true => exact .pure ⟨[], rfl, by simp, Nat.zero_le _, fun h => absurd h (by decide)⟩
      | false =>
        have hpoll : 0 < pollInterval.nanoseconds := by decide
        refine .demand_bind fun _ => (ih _ (by omega)).mono ?_
        rintro waited new ⟨sleeps, h⟩
        refine ⟨⟨min remaining pollInterval.nanoseconds⟩ :: sleeps, ?_⟩
        simpa using h.nap (Nat.min_le_left _ _) (Nat.min_le_right _ _)

end Collector

end LogCollector
