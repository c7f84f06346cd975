import LogCollector.Collector
import LogCollector.Proofs.Run.Triple

/-!
# What the parts of a run add to its journal

The parts of a run that talk to the status service only add calls, sleeps and measurements,
and each part calls with parameters of its own: the settings are fetched, a position is posted,
the connection is reported on. A wait between sessions only sleeps and looks at the request to
stop.
-/

namespace LogCollector

variable {σ : Type} (w : World σ)

/-- A call of the status service of a kind, or a sleep or measurement beside it; records are
not dispatched meanwhile. -/
def Serves (P : ServiceRole → String → Status.Parameters → Prop) : Step → Prop
  | .called role endpoint params _ => P role endpoint params
  | .slept _ => True
  | .measured m => m ≠ .suppressed
  | _ => False

/-- A step of a wait. -/
def Waits : Step → Prop
  | .slept _ | .polled _ => True
  | _ => False

theorem Serves.mono {P Q : ServiceRole → String → Status.Parameters → Prop} {s : Step}
    (h : Serves P s)
    (hPQ : ∀ role endpoint params, P role endpoint params → Q role endpoint params) :
    Serves Q s := by
  cases s with
  | called role endpoint params answer => exact hPQ _ _ _ h
  | slept d => trivial
  | measured m => exact h
  | _ => exact h.elim

/-- A step that goes with calls of the status service, whichever these are. -/
abbrev Step.IsServed : Step → Prop := Serves fun _ _ _ => True

/-- A step that goes with look-ups. -/
abbrev Step.LooksUp : Step → Prop := Serves fun _ _ params => params = []

/-! ### Settings -/

/-- A call that fetches a settings document. -/
def FetchesSettings (role : ServiceRole) (endpoint : String) (params : Status.Parameters)
    (s : ParamsSource) : Prop :=
  ∃ t, s = .document role t ∧ endpoint = (Status.Endpoints.ofApp t.app).settings ++ t.entity ∧
    params = []

/-- Finding out the terms of a session looks a settings document up, if there is one. -/
theorem ParamsSource.adds_terms (s : ParamsSource) (plan : Plan) :
    Adds Step.LooksUp (s.terms w plan) := by
  refine Adds.bind ?_ fun _ => .pure _
  cases s with
  | unspecified => exact .pure _
  | document role t =>
    refine (Adds.serve w (fun _ => rfl) nofun).bind fun answer => ?_
    cases answer with
    | error f => exact .pure _
    | ok r =>
      dsimp only
      split
      · exact .pure _
      · exact .pure _

/-! ### Retries -/

/-- Retries add what the operation adds, and sleeps. -/
theorem RetryPolicy.adds_attemptsFrom {S : Step → Prop} (p : RetryPolicy)
    {operation : Nat → Run σ (Except String Unit)} (hop : ∀ attempt, Adds S (operation attempt))
    (hsleep : ∀ d, S (.slept d)) (left made : Nat) (lastError : String) (delay : Duration) :
    Adds S (p.attemptsFrom w operation made lastError delay left) := by
  induction left generalizing made lastError delay with
  | zero => exact .pure _
  | succ left ih =>
    refine (hop _).bind fun result => ?_
    cases result with
    | ok _ => exact .pure _
    | error e => exact (Adds.demand fun _ => hsleep delay).bind fun _ => ih _ _ _

/-! ### Positions -/

namespace CheckpointStore

variable (s : CheckpointStore)

theorem adds_post (endpoint : String) (params : Status.Parameters) :
    Adds (Serves fun role e p => role = .status ∧ e = endpoint ∧ p = params)
      (post w endpoint params) := by
  refine (Adds.serve w (fun _ => ⟨rfl, rfl, rfl⟩) nofun).bind fun answer => ?_
  cases answer with
  | error f => exact .pure _
  | ok r => exact .pure _

/-- A call that posts a position. -/
def PostsPosition (t : Tracking) (c : Checkpoint) (role : ServiceRole) (endpoint : String)
    (params : Status.Parameters) : Prop :=
  role = .status ∧ endpoint = (Status.Endpoints.ofApp t.app).positions ∧
    params = Status.positionParameters c

variable {s} {t : Tracking}

theorem isEnabled_of_tracking (ht : s.tracking = some t) : s.isEnabled = true := by
  rw [isEnabled, ht]
  rfl

theorem adds_commit (ht : s.tracking = some t) (c : Checkpoint) :
    Adds (Serves (PostsPosition t c)) (s.commit w c) := by
  simp only [commit, ht]
  refine (adds_post w _ _).bind fun result => ?_
  split
  · exact (Adds.measure nofun).bind fun _ => .pure _
  · exact .pure _

/-- One attempt to store a position. -/
def attempt (s : CheckpointStore) (c : Checkpoint) (number : Nat) :
    Run σ (Except String Unit) := do
  if number > 1 then Run.measure .retried
  return (← s.commit w c).mapError StatusFault.message

theorem adds_attempt (ht : s.tracking = some t) (c : Checkpoint) (number : Nat) :
    Adds (Serves (PostsPosition t c)) (attempt w s c number) := by
  unfold attempt
  split
  · exact (Adds.measure nofun).bind fun _ => (adds_commit w ht c).bind fun _ => .pure _
  · exact (adds_commit w ht c).bind fun _ => .pure _

theorem commitWithRetry_eq (ht : s.tracking = some t) (p : RetryPolicy) (c : Checkpoint) :
    s.commitWithRetry w p c = do
      let outcome ← p.run w (attempt w s c)
      Run.measure (.committed outcome.isSuccess)
      return outcome := by
  simp only [commitWithRetry, ht]
  rfl

/-- Storing a position posts this position only, however often it is tried. -/
theorem adds_commitWithRetry (ht : s.tracking = some t) (p : RetryPolicy) (c : Checkpoint) :
    Adds (Serves (PostsPosition t c)) (s.commitWithRetry w p c) := by
  rw [commitWithRetry_eq w ht]
  exact (p.adds_attemptsFrom w (adds_attempt w ht c) (fun _ => trivial) _ _ _ _).bind fun _ =>
    (Adds.measure nofun).bind fun _ => .pure _

/-- The first attempt posts the position; what is asserted after it holds to the end if further
attempts preserve it. -/
theorem commitWithRetry_triple {k : Contract} {P N : List Step → Prop} (ht : s.tracking = some t)
    {p : RetryPolicy} {c : Checkpoint} (hp : p.maxAttempts ≠ 0)
    (hfirst : ∀ answer j, k.Kept j → P j →
      let s : Step := .called .status (Status.Endpoints.ofApp t.app).positions
        (Status.positionParameters c) answer
      k.guarantee (s :: j) ∧ N (s :: j))
    (hN : Stable k (Serves (PostsPosition t c)) N) :
    Triple k P (s.commitWithRetry w p c) fun _ => N := by
  have hend : ∀ {α : Type} (m : Measurement) (x : α), m ≠ .suppressed →
      Triple (σ := σ) k N (do Run.measure m; return x) fun _ => N :=
    fun _ x hm => .of_adds ((Adds.measure hm).bind fun _ => .pure x) hN
  have hcall : Triple k P (w.serve .status (Status.Endpoints.ofApp t.app).positions
      (Status.positionParameters c)) fun _ => N :=
    .serve (fun answer j hk _ h => hfirst answer j hk h) fun _ j hk hr h => hN _ j hk hr nofun h
  have hcommit : Triple k P (s.commit w c) fun _ => N := by
    simp only [commit, ht]
    refine Triple.bind (R := fun _ => N) (hcall.bind fun answer => ?_) fun result => ?_
    · cases answer with
      | error f => exact .pure fun _ _ h => h
      | ok r => exact .pure fun _ _ h => h
    · split
      · exact hend (.position c.position) _ nofun
      · exact .pure fun _ _ h => h
  have hfirst' : Triple k P (attempt w s c 1) fun _ => N :=
    hcommit.bind fun _ => .pure fun _ _ h => h
  obtain ⟨left, hleft⟩ := Nat.exists_eq_succ_of_ne_zero hp
  rw [commitWithRetry_eq w ht]
  refine Triple.bind (R := fun _ => N) ?_ fun outcome => hend (.committed _) outcome nofun
  rw [RetryPolicy.run, hleft, RetryPolicy.attemptsFrom]
  refine hfirst'.bind fun result => ?_
  cases result with
  | ok _ => exact .pure fun _ _ h => h
  | error e =>
    have hpause : Triple k N (w.pause p.baseDelay) fun _ => N :=
      .of_adds (S := Serves (PostsPosition t c)) (Adds.demand fun _ => trivial) hN
    exact hpause.bind fun _ => .of_adds
      (p.adds_attemptsFrom w (adds_attempt w ht c) (fun _ => trivial) _ _ _ _) hN

/-! ### Connections -/

/-- A call that looks up or reports the connection of an entity. -/
def CallsHealth (t : Tracking) (role : ServiceRole) (endpoint : String)
    (params : Status.Parameters) : Prop :=
  role = .status ∧
    (endpoint = (Status.Endpoints.ofApp t.app).health ++ t.entity ∧ params = [] ∨
      endpoint = (Status.Endpoints.ofApp t.app).health ∧
        ∃ r : HealthReport, r.entity = t.entity ∧ params = Status.healthParameters r)

/-- Reporting on a connection calls the endpoint of connections only. -/
theorem adds_reportHealth (ht : s.tracking = some t) (connected : Bool) :
    Adds (Serves (CallsHealth t)) (s.reportHealth w connected) := by
  simp only [reportHealth, ht]
  refine Adds.bind ?_ fun result => ?_
  · unfold connectionTime
    split
    · exact (Adds.clock w).bind fun _ => .pure _
    · exact (Adds.serve w (fun _ => ⟨rfl, .inl ⟨rfl, rfl⟩⟩) nofun).bind fun _ => .pure _
  · cases result with
    | error f => exact .pure _
    | ok time =>
      refine Adds.bind ((adds_post w _ _).mono fun s hs => hs.mono ?_) fun _ => .pure _
      rintro role endpoint params ⟨rfl, rfl, rfl⟩
      exact ⟨rfl, .inr ⟨rfl, _, rfl, rfl⟩⟩

theorem adds_reportHealth_served (connected : Bool) :
    Adds Step.IsServed (s.reportHealth w connected) := by
  cases ht : s.tracking with
  | none =>
    simp only [reportHealth, ht]
    exact .pure _
  | some t => exact (adds_reportHealth w ht connected).mono fun _ h => h.mono fun _ _ _ _ => trivial

end CheckpointStore

/-! ### Before a session -/

/-- The stored position is only asked for. -/
theorem Controller.adds_resumePosition {a : Assignment} :
    Adds Step.LooksUp (resumePosition w a) := by
  refine Adds.bind ?_ fun _ => .pure _
  unfold CheckpointStore.lastPosition
  split
  · exact .pure _
  · exact (Adds.serve w (fun _ => rfl) nofun).bind fun _ => .pure _

/-- Before a session is opened the status service is only asked for what it holds. -/
theorem Controller.adds_start {a : Assignment} (c : Controller) :
    Adds Step.LooksUp (start w a c) := by
  unfold start
  split
  · exact .pure _
  · refine (a.source.adds_terms w a.plan).bind fun terms => ?_
    cases terms with
    | error f => exact .pure _
    | ok terms =>
      dsimp only
      split
      · refine (adds_resumePosition w).bind fun stored => ?_
        cases stored with
        | error f => exact .pure _
        | ok stored => exact .pure _
      · exact .pure _

/-! ### The commits of a session -/

/-- The checkpoint that a session stores for a position. -/
def Controller.checkpoint (c : Controller) (a : Assignment) (t : Tracking) (position : Int) :
    Checkpoint :=
  ⟨t.entity, (c.currentFile a).fileId, position, (c.currentFile a).name⟩

theorem Controller.commit_eq {a : Assignment} {t : Tracking} (ht : a.store.tracking = some t)
    (c : Controller) (position : Int) : commit w a c position =
      (a.store.commitWithRetry w (.ofAttempts a.plan.maxRetries a.plan.retryFactor)
        (c.checkpoint a t position) >>= fun _ => pure ()) := by
  simp only [commit, ht]
  rfl

/-- A commit of a session posts the position with the log file of the session. -/
theorem Controller.adds_commit {a : Assignment} {t : Tracking} (ht : a.store.tracking = some t)
    (c : Controller) (position : Int) :
    Adds (Serves (CheckpointStore.PostsPosition t (c.checkpoint a t position)))
      (commit w a c position) := by
  rw [commit_eq w ht]
  exact (CheckpointStore.adds_commitWithRetry w ht _ _).bind fun _ => .pure _

theorem Controller.adds_commit_served {a : Assignment} (c : Controller) (position : Int) :
    Adds Step.IsServed (commit w a c position) := by
  cases ht : a.store.tracking with
  | none =>
    simp only [commit, ht]
    exact .pure _
  | some t => exact (adds_commit w ht c position).mono fun _ h => h.mono fun _ _ _ _ => trivial

/-! ### The end of a session -/

/-- The outcome of a session that has ended, and the controller afterwards. -/
def Controller.conclude (c : Controller) (reason : EndReason) : SessionOutcome × Controller :=
  if reason.callsForReconnect c.established then
    (.reconnect reason, { c with state := .reconnect, active := none })
  else (.terminated reason, { c with state := .terminated, active := none })

/-- Winding a session up, with the decision on another session made at once. -/
theorem Controller.finish_eq (a : Assignment) (c : Controller) (reason : EndReason)
    (position : Int) : finish w a c reason position =
      if c.state.allows .ending then do
        Run.measure (.connection false)
        if a.store.isEnabled then
          if 0 < position then commit w a { c with state := .ending } position
          let _ ← a.store.reportHealth w false
        Run.measure (.ended reason.cls)
        return (.ok (c.conclude reason).1, (c.conclude reason).2)
      else
        return (.error (.session (.invalidTransition c.state.name SessionState.ending.name)),
          c) := by
  unfold finish moveTo
  by_cases hallows : c.state.allows .ending = true
  · rw [if_pos hallows, if_pos hallows]
    unfold conclude
    by_cases hagain : reason.callsForReconnect c.established = true
    · simp only [hagain, if_true]
    · simp only [hagain, if_false, Bool.false_eq_true]
  · rw [if_neg hallows, if_neg hallows]

theorem Controller.adds_finish_served {a : Assignment} (c : Controller) (reason : EndReason)
    (position : Int) : Adds Step.IsServed (finish w a c reason position) := by
  have hend : Adds (σ := σ) Step.IsServed (do
      Run.measure (.ended reason.cls)
      return (Except.ok (ε := RunFault) (c.conclude reason).1, (c.conclude reason).2)) :=
    (Adds.measure nofun).bind fun _ => .pure _
  have hreport : Adds (σ := σ) Step.IsServed (do
      let _ ← a.store.reportHealth w false
      Run.measure (.ended reason.cls)
      return (Except.ok (ε := RunFault) (c.conclude reason).1, (c.conclude reason).2)) :=
    (CheckpointStore.adds_reportHealth_served w false).bind fun _ => hend
  rw [finish_eq]
  split
  · refine (Adds.measure nofun).bind fun _ => ?_
    split
    · split
      · exact (adds_commit_served w _ position).bind fun _ => hreport
      · exact hreport
    · exact hend
  · exact .pure _

/-! ### Waits -/

/-- A wait between sessions sleeps and looks at the request to stop. -/
theorem Collector.adds_waitOut (remaining : Nat) : Adds Waits (waitOut w remaining) := by
  induction remaining using Nat.strongRecOn with
  | ind remaining ih =>
    rw [waitOut]
    split
    · exact (Adds.demand fun _ => trivial).bind fun _ => .pure _
    · rename_i hne
      refine (Adds.demand fun _ => trivial).bind fun stop => ?_
      split
      · exact .pure _
      · refine (Adds.demand fun _ => trivial).bind fun _ => ih _ ?_
        simp only [pollInterval, Duration.ofMilliseconds]
        omega

end LogCollector
