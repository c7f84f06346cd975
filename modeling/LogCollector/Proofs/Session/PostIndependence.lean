import LogCollector.Proofs.Fallible
import LogCollector.Proofs.Run.SideBySide
import LogCollector.Proofs.Session.FilterFirst

/-!
# Failing posts do not matter

Positions and connections are posted to the status service, and it may fail as it likes: two runs
of a collector with the same collaborator and sink, whose look-ups get the same answers, request
the same sessions, write the same lines and end in the same way, whatever becomes of their posts
(`posts_do_not_matter`).

Part by part the two runs are followed side by side. Commits are not seen at all, however often
they are tried; the end of a connection is reported with a look-up, which is seen, and a post.
-/

namespace LogCollector

variable {σ σ₁ σ₂ : Type} {w : World σ} {w₁ : World σ₁} {w₂ : World σ₂} {R : σ₁ → σ₂ → Prop}

/-! ### Commits and reports -/

theorem RetryPolicy.silent_attemptsFrom (p : RetryPolicy)
    {operation : Nat → Run σ (Except String Unit)} (hop : ∀ number, Silent w (operation number))
    (left made : Nat) (lastError : String) (delay : Duration) :
    Silent w (p.attemptsFrom w operation made lastError delay left) := by
  induction left generalizing made lastError delay with
  | zero => exact .pure _
  | succ left ih =>
    refine (hop _).bind fun result => ?_
    cases result with
    | ok _ => exact .pure _
    | error e => exact (Silent.pause delay).bind fun _ => ih _ _ _

namespace CheckpointStore

variable (s : CheckpointStore)

theorem silent_post {endpoint : String} {params : Status.Parameters} (h : params ≠ []) :
    Silent w (post w endpoint params) := by
  refine (Silent.serve h).bind fun answer => ?_
  cases answer with
  | error f => exact .pure _
  | ok r => exact .pure _

theorem silent_commit (c : Checkpoint) : Silent w (s.commit w c) := by
  unfold commit
  split
  · exact .pure _
  · refine (silent_post (List.cons_ne_nil _ _)).bind fun result => ?_
    split
    · exact (Silent.measure _).bind fun _ => .pure _
    · exact .pure _

/-- Storing a position is not seen, however often it is tried. -/
theorem silent_commitWithRetry (p : RetryPolicy) (c : Checkpoint) :
    Silent w (s.commitWithRetry w p c) := by
  unfold commitWithRetry
  split
  · exact .pure _
  · refine (p.silent_attemptsFrom (fun number => ?_) _ _ _ _).bind fun _ =>
      (Silent.measure _).bind fun _ => .pure _
    split
    · exact (Silent.measure _).bind fun _ => (s.silent_commit c).bind fun _ => .pure _
    · exact (s.silent_commit c).bind fun _ => .pure _

/-- A report on a connection is not seen. -/
theorem silent_reportConnected : Silent w (s.reportHealth w true) := by
  unfold reportHealth
  split
  · exact .pure _
  · refine Silent.bind (Silent.clock.bind fun _ => .pure _) fun time => ?_
    cases time with
    | error f => exact .pure _
    | ok time => exact (silent_post (List.cons_ne_nil _ _)).bind fun _ => .pure _

/-- Of a report on the end of a connection the look-up is seen, and what comes of it is not. -/
theorem sideBySide_reportDisconnected (h : SameParts w₁ w₂ R) :
    SideBySide R (fun _ _ => True) (s.reportHealth w₁ false) (s.reportHealth w₂ false) := by
  unfold reportHealth
  split
  · exact .pure trivial
  · rename_i t _
    have htime : SideBySide R Eq (connectionTime w₁ t false) (connectionTime w₂ t false) :=
      (SideBySide.lookUp h _ _).bind fun _ => .pure rfl
    refine htime.bind fun time => ?_
    cases time with
    | error f => exact .pure trivial
    | ok time =>
      exact .of_silent h ((silent_post (List.cons_ne_nil _ _)).bind fun _ => .pure _)
        ((silent_post (List.cons_ne_nil _ _)).bind fun _ => .pure _)

/-- The stored position is the same. -/
theorem sideBySide_lastPosition (h : SameParts w₁ w₂ R) (fileId : Int) :
    SideBySide R Eq (s.lastPosition w₁ fileId) (s.lastPosition w₂ fileId) := by
  unfold lastPosition
  split
  · exact .pure rfl
  · exact (SideBySide.lookUp h _ _).bind fun _ => .pure rfl

end CheckpointStore

/-- The terms of a session are the same. -/
theorem ParamsSource.sideBySide_terms (h : SameParts w₁ w₂ R) (s : ParamsSource) (plan : Plan) :
    SideBySide R Eq (s.terms w₁ plan) (s.terms w₂ plan) := by
  refine SideBySide.bind ?_ fun _ => .pure rfl
  cases s with
  | unspecified => exact .pure rfl
  | document role t =>
    refine (SideBySide.lookUp h _ _).bind fun answer => ?_
    cases answer with
    | error f => exact .pure rfl
    | ok r =>
      dsimp only
      split
      · exact .pure rfl
      · exact .pure rfl

namespace Controller

variable (a : Assignment)

/-! ### Sessions -/

theorem silent_commit (c : Controller) (position : Int) : Silent w (commit w a c position) := by
  unfold commit
  split
  · exact .pure _
  · exact (a.store.silent_commitWithRetry _ _).bind fun _ => .pure _

theorem sideBySide_start (h : SameParts w₁ w₂ R) (c : Controller) :
    SideBySide R Eq (start w₁ a c) (start w₂ a c) := by
  have hresume : SideBySide R Eq (resumePosition w₁ a) (resumePosition w₂ a) :=
    (a.store.sideBySide_lastPosition h _).bind fun _ => .pure rfl
  unfold start
  split
  · exact .pure rfl
  · refine (a.source.sideBySide_terms h a.plan).bind fun terms => ?_
    cases terms with
    | error f => exact .pure rfl
    | ok terms =>
      dsimp only
      split
      · refine hresume.bind fun found => ?_
        cases found with
        | error f => exact .pure rfl
        | ok found => exact .pure rfl
      · exact .pure rfl

theorem sideBySide_attach (h : SameParts w₁ w₂ R) (c : Controller) :
    SideBySide R Eq (attach w₁ c) (attach w₂ c) := by
  unfold attach
  split
  · exact (SideBySide.demand fun s₁ s₂ => h.register _ s₁ s₂).bind fun _ => .pure rfl
  · split <;> exact .pure rfl

theorem sideBySide_dispatch (h : SameParts w₁ w₂ R) (format : LineFormat) (r : Record) :
    SideBySide R Eq (dispatch w₁ format r) (dispatch w₂ format r) := by
  refine (SideBySide.measure h _).next ?_
  dsimp only
  split
  · exact (SideBySide.measure h _).next (.pure rfl)
  · refine (SideBySide.demand fun s₁ s₂ => h.write _ s₁ s₂).bind fun answer => ?_
    cases answer with
    | error f => exact (SideBySide.measure h _).next (.pure rfl)
    | ok _ => exact (SideBySide.measure h _).next (.pure rfl)

theorem sideBySide_onRecord (h : SameParts w₁ w₂ R) (c : Controller) (r : Record) :
    SideBySide R Eq (onRecord w₁ a c r) (onRecord w₂ a c r) := by
  unfold onRecord
  split
  · exact .pure rfl
  · refine (sideBySide_dispatch h _ r).bind fun result => ?_
    cases result with
    | error f => exact .pure rfl
    | ok _ =>
      dsimp only
      split
      · exact (SideBySide.of_silent h (silent_commit a _ _) (silent_commit a _ _)).next
          ((SideBySide.of_silent h a.store.silent_reportConnected
            a.store.silent_reportConnected).next (.pure rfl))
      · exact .pure rfl

theorem sideBySide_finish (h : SameParts w₁ w₂ R) (c : Controller) (reason : EndReason)
    (position : Int) :
    SideBySide R Eq (finish w₁ a c reason position) (finish w₂ a c reason position) := by
  have hend : ∀ r : Except RunFault SessionOutcome × Controller, SideBySide R Eq
      (do Run.measure (.ended reason.cls); return r)
      (do Run.measure (.ended reason.cls); return r) :=
    fun r => (SideBySide.measure h _).next (.pure rfl)
  rw [finish_eq, finish_eq]
  split
  · refine (SideBySide.measure h _).next ?_
    split
    · have hreport := (a.store.sideBySide_reportDisconnected h).next
        (hend (.ok (c.conclude reason).1, (c.conclude reason).2))
      split
      · exact (SideBySide.of_silent h (silent_commit a _ _) (silent_commit a _ _)).next hreport
      · exact hreport
    · exact hend _
  · exact .pure rfl

theorem sideBySide_handle (h : SameParts w₁ w₂ R) (c : Controller) (event : SessionEvent) :
    SideBySide R Eq (handle w₁ a c event) (handle w₂ a c event) := by
  cases event with
  | established => exact (SideBySide.measure h _).next (.pure rfl)
  | filterAck =>
    unfold handle
    dsimp only
    split <;> exact .pure rfl
  | record r =>
    unfold handle
    dsimp only
    split
    · exact (sideBySide_onRecord a h c r).bind fun _ => .pure rfl
    · exact .pure rfl
  | logSwitch file => exact .pure rfl
  | ended reason position =>
    exact (sideBySide_finish a h c reason position).bind fun _ => .pure rfl

/-- Through all events two sessions do the same. -/
theorem sideBySide_pump (h : SameParts w₁ w₂ R) (fuel : Nat) (c : Controller) :
    SideBySide R Eq (pump w₁ a fuel c) (pump w₂ a fuel c) := by
  induction fuel generalizing c with
  | zero => exact .pure rfl
  | succ fuel ih =>
    refine (SideBySide.demand h.nextEvent).bind fun answer => ?_
    refine (sideBySide_handle a h c (c.eventOf answer)).bind fun ⟨result, c'⟩ => ?_
    cases result with
    | error f => exact .pure rfl
    | ok directive =>
      cases directive with
      | proceed => exact ih c'
      | resume =>
        refine (SideBySide.demand h.resume).bind fun answer => ?_
        cases answer with
        | error f => exact .pure rfl
        | ok _ => exact ih c'
      | finish outcome => exact .pure rfl

/-- **Two sessions do the same**, whatever becomes of their posts. -/
theorem sideBySide_runSession (h : SameParts w₁ w₂ R) (fuel : Nat) (c : Controller) :
    SideBySide R Eq (runSession w₁ a fuel c) (runSession w₂ a fuel c) := by
  refine (sideBySide_start a h c).bind fun ⟨result, c₁⟩ => ?_
  cases result with
  | error f => exact .pure rfl
  | ok request =>
    refine (SideBySide.demand (h.openSession request)).bind fun answer => ?_
    cases answer with
    | error f => exact (sideBySide_finish a h c₁ _ _).bind fun _ => .pure rfl
    | ok _ =>
      refine (sideBySide_attach h c₁).bind fun ⟨result, c₂⟩ => ?_
      cases result with
      | error f => exact .pure rfl
      | ok _ => exact sideBySide_pump a h fuel c₂

end Controller

/-! ### Whole runs -/

theorem Targets.sideBySide_resolve (h : SameParts w₁ w₂ R) (plan : Plan) (kind : RecordKind)
    (online : Bool) (params : ConnectionParams) :
    SideBySide R Eq (resolve w₁ plan kind online params) (resolve w₂ plan kind online params) := by
  unfold resolve
  split
  · exact .pure rfl
  · exact .pure rfl
  · exact (SideBySide.demand (h.listFiles params)).bind fun _ => .pure rfl

namespace Collector

/-- Neither wait is broken off. -/
theorem sideBySide_waitOut (h : SameParts w₁ w₂ R) (remaining : Nat) :
    SideBySide R Eq (waitOut w₁ remaining) (waitOut w₂ remaining) := by
  induction remaining using Nat.strongRecOn with
  | ind remaining ih =>
    rw [waitOut, waitOut]
    split
    · exact (SideBySide.poll h).bind fun _ => .pure rfl
    · rename_i hne
      refine (SideBySide.poll h).bind fun stop => ?_
      split
      · exact .pure rfl
      · refine (SideBySide.of_silent h (.pause _) (.pause _)).next (ih _ ?_)
        simp only [pollInterval, Duration.ofMilliseconds]
        omega

variable (c : Collector)

/-- The sessions of a log file are the same. -/
theorem sideBySide_readTarget (h : SameParts w₁ w₂ R) (fuel : Nat) (target : LogFile)
    (rounds sessions : Nat) (controller : Controller) :
    SideBySide R Eq (readTarget w₁ c fuel target sessions controller rounds)
      (readTarget w₂ c fuel target sessions controller rounds) := by
  induction rounds generalizing sessions controller with
  | zero => exact .pure rfl
  | succ rounds ih =>
    refine (Controller.sideBySide_runSession _ h fuel controller).bind fun ⟨result, c'⟩ => ?_
    match result with
    | none => exact .pure rfl
    | some (.error f) => exact .pure rfl
    | some (.ok outcome) =>
      refine (SideBySide.demand h.flush).bind fun answer => ?_
      cases answer with
      | error f => exact .pure rfl
      | ok _ =>
        cases outcome with
        | terminated reason => exact .pure rfl
        | reconnect reason =>
          refine (SideBySide.measure h _).next ((sideBySide_waitOut h _).bind fun waited => ?_)
          cases waited with
          | true => exact ih _ _
          | false => exact .pure rfl

/-- The log files are read in the same way. -/
theorem sideBySide_readTargets (h : SameParts w₁ w₂ R) (fuel : Nat) (targets : List LogFile)
    (interrupted : Bool) (done : List TargetReport) :
    SideBySide R Eq (readTargets w₁ c fuel interrupted done targets)
      (readTargets w₂ c fuel interrupted done targets) := by
  induction targets generalizing interrupted done with
  | nil => exact .pure rfl
  | cons target rest ih =>
    refine (SideBySide.poll h).bind fun stop => ?_
    cases stop with
    | true => exact .pure rfl
    | false =>
      refine (sideBySide_readTarget c h fuel target fuel 0 .initial).bind fun result => ?_
      match result with
      | none => exact .pure rfl
      | some (.error f) => exact .pure rfl
      | some (.ok report) => exact ih _ _

theorem sideBySide_collect (h : SameParts w₁ w₂ R) (fuel : Nat) :
    SideBySide R Eq (collect w₁ c fuel) (collect w₂ c fuel) := by
  refine (c.source.sideBySide_terms h c.plan).bind fun terms => ?_
  cases terms with
  | error f => exact .pure rfl
  | ok terms =>
    refine (Targets.sideBySide_resolve h c.plan terms.kind terms.online terms.params).bind
      fun targets => ?_
    cases targets with
    | error f => exact .pure rfl
    | ok targets => exact sideBySide_readTargets c h fuel targets false []

/-- **Two runs of a collector do the same.** -/
theorem sideBySide_run (h : SameParts w₁ w₂ R) (fuel : Nat) :
    SideBySide R Eq (run w₁ c fuel) (run w₂ c fuel) := by
  refine (sideBySide_collect c h fuel).bind fun result => ?_
  cases result with
  | none => exact .pure rfl
  | some result => exact (SideBySide.demand h.flush).bind fun _ => .pure rfl

/-- The lines of a journal with the answers of the sink, the latest one first. -/
def writes (j : List Step) : List (String × Except SinkFault Unit) :=
  j.filterMap fun
    | .wrote line answer => some (line, answer)
    | _ => none

/-- **Failing posts do not matter.** Two runs of a collector, with the same collaborator and sink
and not asked to stop, in which the look-ups get the same answers, have the same result, write the
same lines and request the same sessions. -/
theorem posts_do_not_matter {σ₁ σ₂ : Type} {w₁ : World σ₁} {w₂ : World σ₂} {R : σ₁ → σ₂ → Prop}
    (h : SameParts w₁ w₂ R) (c : Collector) (fuel : Nat) {s₁ : σ₁} {s₂ : σ₂} (hR : R s₁ s₂)
    (hcomparable : Comparable (run w₁ c fuel ⟨s₁, []⟩).2.journal
      (run w₂ c fuel ⟨s₂, []⟩).2.journal) :
    (run w₁ c fuel ⟨s₁, []⟩).1 = (run w₂ c fuel ⟨s₂, []⟩).1 ∧
      writes (run w₁ c fuel ⟨s₁, []⟩).2.journal = writes (run w₂ c fuel ⟨s₂, []⟩).2.journal ∧
      openings (run w₁ c fuel ⟨s₁, []⟩).2.journal =
        openings (run w₂ c fuel ⟨s₂, []⟩).2.journal := by
  obtain ⟨hresult, -, hseen⟩ := (sideBySide_run c h fuel).agree ⟨s₁, []⟩ ⟨s₂, []⟩ hR rfl hcomparable
  refine ⟨hresult, ?_, ?_⟩
  · rw [writes, writes, ← filterMap_seen, hseen, filterMap_seen]
    all_goals
      intro s hs
      cases s <;> first | rfl | cases hs
  · rw [openings, openings, ← filterMap_seen, hseen, filterMap_seen]
    all_goals
      intro s hs
      cases s <;> first | rfl | cases hs

/-! ### Runs on a stage -/

/-- Two stages with the same collaborator and sink; their status services may differ. -/
structure SameFront (s₁ s₂ : Stage) : Prop where
  /-- The collaborators. -/
  collaborator : s₁.collaborator = s₂.collaborator
  /-- The sinks. -/
  sink : s₁.sink = s₂.sink
  /-- Whether the sinks can be flushed. -/
  flushError : s₁.flushError = s₂.flushError
  /-- The times that the sinks are told. -/
  localTime : s₁.localTime = s₂.localTime

theorem leaves_sameFront {P : Stage → Prop} (hP : ∀ s s', SameFront s s' → P s → P s') :
    Stage.world.Leaves P where
  call role endpoint params s h := by
    cases role <;> exact hP s _ ⟨rfl, rfl, rfl, rfl⟩ h
  now s h := h
  sleep d s h := hP s _ ⟨rfl, rfl, rfl, rfl⟩ h
  stopRequested s h := h

theorem SameFront.symm {s₁ s₂ : Stage} (h : SameFront s₁ s₂) : SameFront s₂ s₁ :=
  ⟨h.1.symm, h.2.symm, h.3.symm, h.4.symm⟩

theorem SameFront.trans {s₁ s₂ s₃ : Stage} (h : SameFront s₁ s₂) (h' : SameFront s₂ s₃) :
    SameFront s₁ s₃ :=
  ⟨h.1.trans h'.1, h.2.trans h'.2, h.3.trans h'.3, h.4.trans h'.4⟩

/-- A demand on the collaborators of two stages. -/
theorem SameFront.ask {α : Type} (ask : Stage.Collaborator → α × Stage.Collaborator)
    {s₁ s₂ : Stage} (h : SameFront s₁ s₂) :
    (Stage.askCollaborator ask s₁).1 = (Stage.askCollaborator ask s₂).1 ∧
      SameFront (Stage.askCollaborator ask s₁).2 (Stage.askCollaborator ask s₂).2 := by
  simp only [Stage.askCollaborator, h.collaborator, true_and]
  exact ⟨rfl, h.sink, h.flushError, h.localTime⟩

theorem sameParts_stage : SameParts Stage.world Stage.world SameFront where
  listFiles _ s₁ s₂ h := ⟨congrArg Stage.Collaborator.list h.collaborator, h⟩
  openSession request _ _ h := h.ask (·.openSession request)
  register _ _ _ h := h.ask (·.register)
  resume _ _ h := h.ask (·.resume)
  nextEvent _ _ h := h.ask (·.next)
  write line s₁ s₂ h := by
    simp only [Stage.world, h.sink, h.localTime]
    split
    · exact ⟨rfl, h.collaborator, rfl, h.flushError, h.localTime⟩
    · exact ⟨rfl, h.collaborator, rfl, h.flushError, h.localTime⟩
  flush s₁ s₂ h := by
    simp only [Stage.world, h.sink, h.flushError]
    split
    · exact ⟨rfl, h⟩
    · exact ⟨rfl, h.collaborator, rfl, rfl, h.localTime⟩
  leaves₁ s₂ := leaves_sameFront fun _ _ h h' => h.symm.trans h'
  leaves₂ s₁ := leaves_sameFront fun _ _ h h' => h'.trans h

/-- A collector that stores the position of each record. -/
def attentive : Collector where
  plan := { Plan.standard .universal with
    legacy := true, commitInterval := 1, tracking := some ⟨"fw1", "app"⟩ }
  store := ⟨some ⟨"fw1", "app"⟩⟩
  source := .unspecified

/-- A stage with a service that knows a position and answers posts with some status, and one session
of two records. -/
def posting (failPosts : Option Nat) : Stage :=
  { Stage.bare .universal 0 with
    status := .played { Stage.PlayedService.empty with
      documents := [("/servicesNS/nobody/app/opsec/log_status/0@fw1",
        Stage.PlayedService.document [(Status.positionKey, "4")])]
      failPosts }
    collaborator := .scenes { Stage.Troupe.empty with scenes := [{ Stage.Scene.empty with
      events := [some .established, some (.record ⟨4, []⟩), some (.record ⟨5, []⟩),
        some (.ended .endByApplication 5)] }] } }

/-- The run of this collector on such a stage. -/
@[irreducible]
def postingRun (failPosts : Option Nat) : Option (Except RunFault RunReport) × Tape Stage :=
  run Stage.world attentive 5 ⟨posting failPosts, []⟩

/-- It does not matter that all posts fail, and are made again and again. -/
theorem posts_do_not_matter_unavailable :
    SameParts Stage.world Stage.world SameFront ∧ SameFront (posting none) (posting (some 503)) ∧
      (postingRun none).2.journal.length < (postingRun (some 503)).2.journal.length ∧
      Comparable (postingRun none).2.journal (postingRun (some 503)).2.journal ∧
      (postingRun none).1 = (postingRun (some 503)).1 ∧
      writes (postingRun none).2.journal = writes (postingRun (some 503)).2.journal ∧
      openings (postingRun none).2.journal = openings (postingRun (some 503)).2.journal := by
  have hfront : SameFront (posting none) (posting (some 503)) := ⟨rfl, rfl, rfl, rfl⟩
  have hcomparable : Comparable (postingRun none).2.journal (postingRun (some 503)).2.journal :=
    comparable_of_lookUps_eq (by decide +kernel) (by decide +kernel) (by decide +kernel)
  refine ⟨sameParts_stage, hfront, by decide +kernel, hcomparable, ?_⟩
  rw [postingRun, postingRun] at hcomparable ⊢
  exact posts_do_not_matter sameParts_stage attentive 5 hfront hcomparable

end Collector

end LogCollector
