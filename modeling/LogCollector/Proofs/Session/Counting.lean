import LogCollector.Proofs.Run.Tallies
import LogCollector.Proofs.Session.Answering

/-!
# What a session counts

Every part of a session counts what it does (`Tallied`), also one that fails half way: a record is
counted as received before it is written, and its fate is counted at once. The end of a session is
counted exactly if the session comes to an outcome (`tells_runSession_tallies`).
-/

namespace LogCollector

namespace Controller

/-- How many sessions have ended with a result: one, if it is an outcome. -/
def outcomes : Option (Except RunFault SessionOutcome) → Nat
  | some (.ok _) => 1
  | _ => 0

/-- How many sessions an answer to an event has ended. -/
def endings : Except RunFault Directive → Nat
  | .ok (.finish _) => 1
  | _ => 0

variable {σ : Type} (w : World σ) {a : Assignment}

/-! ### Before a session -/

theorem tallied_start (a : Assignment) (c : Controller) : Tallied (start w a c) := by
  have hresume : Tallied (resumePosition w a) :=
    (a.store.tallied_lastPosition w _).bind fun _ => .pure _
  unfold start
  split
  · exact .pure _
  · refine (a.source.tallied_terms w a.plan).bind fun terms => ?_
    cases terms with
    | error f => exact .pure _
    | ok terms =>
      dsimp only
      split
      · refine hresume.bind fun stored => ?_
        cases stored with
        | error f => exact .pure _
        | ok stored => exact .pure _
      · exact .pure _

theorem tallied_attach (c : Controller) :
    Tallied (attach w c) := by
  unfold attach
  split
  · exact (Tallied.demand fun _ => rfl).bind fun _ => .pure _
  · split
    · exact .pure _
    · exact .pure _

/-! ### Records -/

theorem Dispatched.tallies {format : LineFormat} {r : Record}
    {result : Except RunFault Unit} {new : List Step} (h : Dispatched format r result new) :
    Tallies 0 0 0 new := by
  cases h with
  | suppressed _ => exact ⟨rfl, rfl, rfl, rfl, rfl, rfl⟩
  | written _ => exact ⟨rfl, rfl, rfl, rfl, rfl, rfl⟩
  | lost f _ => exact ⟨rfl, rfl, rfl, rfl, rfl, rfl⟩

theorem tallied_commit (hretries : 1 ≤ a.plan.maxRetries) (c : Controller) (position : Int) :
    Tallied (commit w a c position) := by
  cases ht : a.store.tracking with
  | none =>
    simp only [commit, ht]
    exact .pure _
  | some t =>
    rw [commit_eq w ht]
    exact (CheckpointStore.tallied_commitWithRetry w _ hretries _).bind fun _ => .pure _

theorem tallied_onRecord (hretries : 1 ≤ a.plan.maxRetries) (c : Controller) (r : Record) :
    Tallied (onRecord w a c r) := by
  unfold onRecord
  split
  · exact .pure _
  · rename_i session _
    have hdispatch : Tallied (dispatch w session.format r) :=
      .of_tells ((tells_dispatch w session.format r).mono fun _ _ h => h.tallies)
    refine hdispatch.bind fun result => ?_
    cases result with
    | error f => exact .pure _
    | ok _ =>
      dsimp only
      split
      · exact (tallied_commit w hretries _ _).bind fun _ =>
          (a.store.tallied_reportHealth w true).bind fun _ => .pure _
      · exact .pure _

/-! ### The end of a session -/

/-- A session that is wound up has ended. -/
theorem tells_finish_tallies (hretries : 1 ≤ a.plan.maxRetries) (c : Controller)
    (reason : EndReason) (position : Int) :
    Tells (fun x new => Tallies 0 (outcomes (some x.1)) 0 new)
      (finish w a c reason position) := by
  have hend : Tells (σ := σ) (fun x new => Tallies 0 (outcomes (some x.1)) 0 new) (do
      Run.measure (.ended reason.cls)
      return (Except.ok (ε := RunFault) (c.conclude reason).1, (c.conclude reason).2)) :=
    .measure_bind (.pure ⟨rfl, rfl, rfl, rfl, rfl, rfl⟩)
  have hreport : Tells (σ := σ) (fun x new => Tallies 0 (outcomes (some x.1)) 0 new) (do
      let _ ← a.store.reportHealth w false
      Run.measure (.ended reason.cls)
      return (Except.ok (ε := RunFault) (c.conclude reason).1, (c.conclude reason).2)) :=
    (a.store.tallied_reportHealth w false).tells_bind fun _ => hend
  rw [finish_eq]
  split
  · refine (Tallied.measure rfl).tells_bind fun _ => ?_
    split
    · split
      · exact (tallied_commit w hretries _ position).tells_bind fun _ => hreport
      · exact hreport
    · exact hend
  · exact .pure tallies_nil

/-- Answering an event counts what it comes to. -/
theorem tells_handle_tallies (hretries : 1 ≤ a.plan.maxRetries) (c : Controller)
    (event : SessionEvent) :
    Tells (fun x new => Tallies 0 (endings x.1) 0 new) (handle w a c event) := by
  cases event with
  | established => exact (Tallied.measure rfl).tells_bind fun _ => .pure tallies_nil
  | filterAck =>
    unfold handle
    dsimp only
    split
    · exact .pure tallies_nil
    · exact .pure tallies_nil
  | record r =>
    unfold handle
    dsimp only
    split
    · refine (tallied_onRecord w hretries c r).tells_bind fun ⟨result, c'⟩ => ?_
      cases result with
      | error f => exact .pure tallies_nil
      | ok _ => exact .pure tallies_nil
    · exact .pure tallies_nil
  | logSwitch file => exact .pure tallies_nil
  | ended reason position =>
    refine (tells_finish_tallies w hretries c reason position).map fun ⟨result, c'⟩ new hnew => ?_
    cases result with
    | error f => exact hnew
    | ok outcome => exact hnew

/-! ### A whole session -/

theorem tells_pump_tallies (hretries : 1 ≤ a.plan.maxRetries) (fuel : Nat) (c : Controller) :
    Tells (fun x new => Tallies 0 (outcomes x.1) 0 new) (pump w a fuel c) := by
  induction fuel generalizing c with
  | zero => exact .pure tallies_nil
  | succ fuel ih =>
    refine (Tallied.demand fun _ => rfl).tells_bind fun answer =>
      (tells_handle_tallies w hretries c _).bind fun ⟨result, c'⟩ new hnew => ?_
    cases result with
    | error f => exact .pure hnew
    | ok directive =>
      cases directive with
      | proceed => exact (ih c').mono fun _ _ hnewer => hnewer.behind hnew
      | resume =>
        have hresumed : ∀ answer, Tallies 0 0 0 ([.resumed answer] ++ new) := fun answer =>
          (tallies_of_isWeightless rfl).append hnew
        refine .demand_bind fun answer => ?_
        cases answer with
        | error f => exact .pure (hresumed _)
        | ok _ =>
          refine (ih c').mono fun _ newer hnewer => ?_
          rw [List.append_assoc]
          exact hnewer.behind (hresumed _)
      | finish outcome => exact .pure hnew

/-- **A session counts what it does**, and its end exactly if it comes to an outcome. -/
theorem tells_runSession_tallies (hretries : 1 ≤ a.plan.maxRetries) (fuel : Nat)
    (c : Controller) :
    Tells (fun x new => Tallies 0 (outcomes x.1) 0 new) (runSession w a fuel c) := by
  refine (tallied_start w a c).tells_bind fun ⟨result, c₁⟩ => ?_
  cases result with
  | error f => exact .pure tallies_nil
  | ok request =>
    refine (Tallied.demand fun _ => rfl).tells_bind fun answer => ?_
    cases answer with
    | error f =>
      exact (tells_finish_tallies w hretries c₁ _ _).map fun _ _ hnew => hnew
    | ok _ =>
      refine (tallied_attach w c₁).tells_bind fun ⟨result, c₂⟩ => ?_
      cases result with
      | error f => exact .pure tallies_nil
      | ok _ => exact tells_pump_tallies w hretries fuel c₂

end Controller

end LogCollector
