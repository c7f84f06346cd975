import LogCollector.Proofs.Run.ServiceCalls

/-!
# What is counted

The measurements of a run are weighed against what they measure (`Tallies`): a record that has been
received is written, left out or lost; a line that has been written is a record that was; a commit
and its further attempts are the posts of a position; and a call of the status service is measured
once. Steps that follow one another are weighed together (`Tallies.append`), so that each part of a
run is weighed by itself.
-/

namespace LogCollector

/-! ### Counts -/

/-- A step that touches a metric. -/
def Step.touches (metric : Metric) : Step → Bool
  | .measured m => m.metric = metric
  | _ => false

/-- How often a metric is touched. -/
def touches (metric : Metric) (j : List Step) : Nat := j.countP (Step.touches metric)

theorem touches_append (metric : Metric) (new j : List Step) :
    touches metric (new ++ j) = touches metric new + touches metric j := List.countP_append

/-- A line was written. -/
def Step.isWritten : Step → Bool
  | .wrote _ (.ok _) => true
  | _ => false

/-- The status service was called. -/
def Step.isCall : Step → Bool
  | .called _ _ _ _ => true
  | _ => false

/-- The endpoint is that of the positions of an application. -/
def Status.isPositions (endpoint : String) : Bool :=
  "log_status/".toList.isSuffixOf endpoint.toList

theorem Status.isPositions_positions (app : String) :
    isPositions (Endpoints.ofApp app).positions = true := by
  have hpositions : (Endpoints.ofApp app).positions =
      ("/servicesNS/nobody/" ++ app ++ "/opsec/") ++ "log_status/" := rfl
  rw [isPositions, List.isSuffixOf_iff_suffix, hpositions, String.toList_append]
  exact List.suffix_append _ _

theorem Status.isPositions_health (app : String) :
    isPositions (Endpoints.ofApp app).health = false := by
  have hhealth : (Endpoints.ofApp app).health =
      ("/servicesNS/nobody/" ++ app ++ "/opsec/") ++ "entity_health/" := rfl
  rw [Bool.eq_false_iff, isPositions, ne_eq, List.isSuffixOf_iff_suffix, hhealth,
    String.toList_append]
  intro h
  have hsuffix := List.suffix_of_suffix_length_le h (List.suffix_append _ _) (by decide)
  exact absurd hsuffix (by decide)

/-- A step that posts to the endpoint of positions. -/
def Step.postsPosition : Step → Bool
  | .called _ endpoint params _ => !params.isEmpty && Status.isPositions endpoint
  | _ => false

/-- Some steps are weighed against what they measure: so many posts of positions are still to be
counted, so many sessions have ended, and so many reconnects have been begun. -/
structure Tallies (uncounted : Int) (ended again : Nat) (j : List Step) : Prop where
  /-- Records that have been received are written, left out or lost. -/
  records : touches .recordsReceived j =
    touches .recordsEmitted j + touches .recordsSuppressed j + touches .writeErrors j
  /-- Records that are written are lines. -/
  lines : touches .recordsEmitted j = j.countP Step.isWritten
  /-- Commits and further attempts are posts. -/
  posts : (touches .commits j + touches .commitRetries j : Int) + uncounted =
    j.countP Step.postsPosition
  /-- Calls are measured. -/
  calls : touches .callDuration j = j.countP Step.isCall
  /-- Ends of sessions are counted. -/
  ended : touches .sessionsEnded j = ended
  /-- Reconnects are counted. -/
  again : touches .reconnects j = again

variable {store : CheckpointStore} {uncounted uncounted' : Int} {ended ended' again again' : Nat}
  {new j : List Step}

theorem tallies_nil : Tallies 0 0 0 [] := ⟨rfl, rfl, rfl, rfl, rfl, rfl⟩

/-- Steps that follow one another are weighed together. -/
theorem Tallies.append (hnew : Tallies uncounted' ended' again' new)
    (h : Tallies uncounted ended again j) :
    Tallies (uncounted + uncounted') (ended + ended') (again + again') (new ++ j) := by
  obtain ⟨hrecords, hlines, hposts, hcalls, hended, hagain⟩ := h
  obtain ⟨hrecords', hlines', hposts', hcalls', hended', hagain'⟩ := hnew
  constructor <;> simp only [touches_append, List.countP_append] <;> omega

/-- Steps with nothing left to be counted weigh nothing. -/
theorem Tallies.behind (hnew : Tallies uncounted ended again new)
    (h : Tallies 0 0 0 j) : Tallies uncounted ended again (new ++ j) := by
  simpa using hnew.append h

/-- A step that is not weighed. -/
def Step.isWeightless : Step → Bool
  | .called _ _ _ _ | .wrote _ (.ok _) => false
  | .measured (.position _) | .measured (.connection _) => true
  | .measured _ => false
  | _ => true

theorem tallies_of_isWeightless {s : Step} (h : s.isWeightless = true) : Tallies 0 0 0 [s] := by
  match s, h with
  | .slept _, _ | .listed _, _ | .opened _ _, _ | .registered _ _, _ | .resumed _, _
  | .received _, _ | .wrote _ (.error _), _ | .flushed _, _ | .polled _, _
  | .measured (.position _), _ | .measured (.connection _), _ =>
    exact ⟨rfl, rfl, rfl, rfl, rfl, rfl⟩

theorem tallies_of_forall_isWeightless (h : ∀ s ∈ new, s.isWeightless = true) :
    Tallies 0 0 0 new := by
  induction new with
  | nil => exact tallies_nil
  | cons s new ih =>
    rw [List.forall_mem_cons] at h
    exact (tallies_of_isWeightless h.1).behind (ih h.2)

/-- A call is measured; whether it posts a position decides whether it is still to be counted. -/
theorem tallies_called {role : ServiceRole} {endpoint : String} {params : Status.Parameters}
    {answer : Except StatusFault Status.Response} (posts : Bool)
    (h : (Step.called role endpoint params answer).postsPosition = posts) :
    Tallies posts.toNat 0 0 [.measured .called, .called role endpoint params answer] := by
  have hposts : List.countP Step.postsPosition
      [.measured .called, .called role endpoint params answer] = posts.toNat := by
    rw [List.countP_cons, List.countP_singleton, h]
    cases posts <;> rfl
  refine ⟨rfl, rfl, ?_, rfl, rfl, rfl⟩
  rw [hposts]
  exact Int.zero_add _

/-! ### Parts of a run -/

/-- All that a part of a run does is counted; no session ends in it. -/
def Tallied {σ α : Type} (m : Run σ α) : Prop := Tells (fun _ new => Tallies 0 0 0 new) m

namespace Tallied

variable {σ α β : Type} {m : Run σ β} {f : β → Run σ α}

theorem tells (h : Tallied m) : Tells (fun _ new => Tallies 0 0 0 new) m := h

theorem of_tells (h : Tells (fun _ new => Tallies 0 0 0 new) m) : Tallied m := h

theorem of_adds (h : Adds (fun s => s.isWeightless = true) m) : Tallied m :=
  (Tells.of_adds h).mono fun _ _ hnew => tallies_of_forall_isWeightless hnew

/-- In front of another part. -/
theorem tells_bind {ends agains : α → Nat} (hm : Tallied m)
    (hf : ∀ x, Tells (fun y new => Tallies 0 (ends y) (agains y) new) (f x)) :
    Tells (fun y new => Tallies 0 (ends y) (agains y) new) (m >>= f) :=
  hm.tells.bind fun _ _ hnew => (hf _).mono fun _ _ hnewer => hnewer.behind hnew

theorem bind (hm : Tallied m) (hf : ∀ x, Tallied (f x)) : Tallied (m >>= f) :=
  hm.tells_bind hf

theorem pure (x : α) : Tallied (Pure.pure x : Run σ α) := Tells.pure tallies_nil

theorem demand {ask : σ → α × σ} {step : α → Step} (h : ∀ x, (step x).isWeightless = true) :
    Tallied (Run.demand ask step) := Tells.demand fun x => tallies_of_isWeightless (h x)

theorem measure {m : Measurement} (h : (Step.measured m).isWeightless = true) :
    Tallied (Run.measure m : Run σ Unit) := .of_tells (.measure (tallies_of_isWeightless h))

theorem clock (w : World σ) : Tallied w.clock := fun _ => ⟨[], rfl, tallies_nil⟩

/-- A look-up is a call that is measured. -/
theorem lookUp (w : World σ) (role : ServiceRole) (endpoint : String) :
    Tallied (w.serve role endpoint []) :=
  .of_tells (.demand_bind fun _ => .measure_bind (.pure (tallies_called false rfl)))

end Tallied

/-! ### The status service -/

variable {σ : Type} (w : World σ) {t : Tracking}

theorem ParamsSource.tallied_terms (s : ParamsSource) (plan : Plan) :
    Tallied (s.terms w plan) := by
  refine Tallied.bind ?_ fun _ => .pure _
  cases s with
  | unspecified => exact .pure _
  | document role t =>
    refine (Tallied.lookUp w role _).bind fun answer => ?_
    cases answer with
    | error f => exact .pure _
    | ok r =>
      dsimp only
      split
      · exact .pure _
      · exact .pure _

namespace CheckpointStore

/-- A post is one call. -/
theorem tells_post (endpoint : String) (params : Status.Parameters) :
    Tells (fun _ new => ∃ answer,
      new = [.measured .called, .called .status endpoint params answer])
      (post w endpoint params) := by
  refine .bind (R := fun _ new => ∃ answer,
    new = [.measured .called, .called .status endpoint params answer])
    (.demand_bind fun answer => .measure_bind (.pure ⟨answer, rfl⟩)) fun answer new hnew => ?_
  cases answer with
  | error f => exact .pure hnew
  | ok r => exact .pure hnew

/-- A post to another endpoint than that of positions. -/
theorem tallied_post {endpoint : String} (params : Status.Parameters)
    (h : Status.isPositions endpoint = false) : Tallied (post w endpoint params) := by
  refine .of_tells ((tells_post w endpoint params).mono ?_)
  rintro _ _ ⟨answer, rfl⟩
  exact tallies_called false (by rw [Step.postsPosition, h, Bool.and_false])

theorem tallied_lastPosition (fileId : Int) : Tallied (store.lastPosition w fileId) := by
  unfold lastPosition
  split
  · exact .pure _
  · exact (Tallied.lookUp w _ _).bind fun _ => .pure _

/-- An attempt to store a position is a post, and it is counted if it is a further one. -/
theorem tells_attempt (ht : store.tracking = some t) (c : Checkpoint) (number : Nat) :
    Tells (fun _ new => Tallies (if number > 1 then 0 else 1) 0 0 new)
      (attempt w store c number) := by
  have hcommit : Tells (fun _ new => Tallies 1 0 0 new) (store.commit w c) := by
    simp only [commit, ht]
    refine (tells_post w _ _).bind ?_
    rintro result _ ⟨answer, rfl⟩
    have hpost : Tallies 1 0 0 [.measured .called, .called .status
        (Status.Endpoints.ofApp t.app).positions (Status.positionParameters c) answer] :=
      tallies_called true (Status.isPositions_positions t.app)
    split
    · exact .measure_bind (.pure ((tallies_of_isWeightless rfl).append hpost))
    · exact .pure hpost
  unfold attempt
  split
  · refine .measure_bind (hcommit.map fun _ new hnew => ?_)
    have hretried : Tallies (-1) 0 0 [.measured .retried] := ⟨rfl, rfl, rfl, rfl, rfl, rfl⟩
    exact hnew.append hretried
  · exact hcommit.map fun _ new hnew => hnew

/-- Further attempts are counted. -/
theorem tallied_attemptsFrom (ht : store.tracking = some t) (p : RetryPolicy) (c : Checkpoint)
    (left made : Nat) (lastError : String) (delay : Duration) (hmade : 0 < made) :
    Tallied (p.attemptsFrom w (attempt w store c) made lastError delay left) := by
  induction left generalizing made lastError delay with
  | zero => exact .pure _
  | succ left ih =>
    have hattempt : Tallied (attempt w store c (made + 1)) := by
      have h := tells_attempt w ht c (made + 1)
      rwa [if_pos (by omega)] at h
    refine hattempt.bind fun result => ?_
    cases result with
    | ok _ => exact .pure _
    | error e =>
      exact (Tallied.demand fun _ => rfl).bind fun _ => ih _ _ _ (Nat.succ_pos made)

/-- **A commit and its further attempts are the posts of a position**, given that one attempt is
made at least. -/
theorem tallied_commitWithRetry (p : RetryPolicy) (hp : 1 ≤ p.maxAttempts) (c : Checkpoint) :
    Tallied (store.commitWithRetry w p c) := by
  cases ht : store.tracking with
  | none =>
    simp only [commitWithRetry, ht]
    exact .pure _
  | some t =>
    have hcommit : ∀ outcome : RetryOutcome, Tells (σ := σ)
        (fun _ new => Tallies (-1) 0 0 new) (do
          Run.measure (.committed outcome.isSuccess)
          return outcome) :=
      fun outcome => .measure_bind (.pure ⟨rfl, rfl, rfl, rfl, rfl, rfl⟩)
    obtain ⟨left, hleft⟩ := Nat.exists_eq_add_of_le' hp
    have hrun : Tells (fun _ new => Tallies 1 0 0 new) (p.run w (attempt w store c)) := by
      rw [RetryPolicy.run, hleft, RetryPolicy.attemptsFrom]
      refine (tells_attempt w ht c 1).bind fun result new hnew => ?_
      rw [if_neg (Nat.lt_irrefl 1)] at hnew
      cases result with
      | ok _ => exact .pure hnew
      | error e =>
        refine .demand_bind fun _ =>
          (tallied_attemptsFrom w ht p c left 1 e _ Nat.one_pos).tells.mono
          fun _ newer hnewer => ?_
        rw [List.append_assoc]
        exact hnewer.append ((tallies_of_isWeightless (s := .slept _) rfl).append hnew)
    rw [commitWithRetry_eq w ht]
    exact hrun.bind fun outcome new hnew => (hcommit outcome).mono fun _ _ hnewer =>
      hnewer.append hnew

theorem tallied_reportHealth (connected : Bool) : Tallied (store.reportHealth w connected) := by
  unfold reportHealth
  split
  · exact .pure _
  · rename_i t _
    refine Tallied.bind ?_ fun result => ?_
    · unfold connectionTime
      split
      · exact (Tallied.clock w).bind fun _ => .pure _
      · exact (Tallied.lookUp w _ _).bind fun _ => .pure _
    · cases result with
      | error f => exact .pure _
      | ok time =>
        exact (tallied_post w _ (Status.isPositions_health t.app)).bind fun _ => .pure _

end CheckpointStore

end LogCollector
