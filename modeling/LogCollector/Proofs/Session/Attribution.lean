import LogCollector.Proofs.Session.Rules
import LogCollector.Proofs.Status.StoredDocument

/-!
# The log files of stored positions

A position is stored under the number of the log file that records come from. After a switch of
the log file the session still remembers the position of the last record, which belongs to the
file before; when the connection then fails before another record comes, this position is stored
under the new file. `attributed_iff` says that this is the only way in which a session that its
collaborator does not end stores a position under a log file none of whose records has it.
-/

namespace LogCollector

open CheckpointStore (CallsHealth PostsPosition)

/-! ### Posts of positions -/

/-- A post of a position under the number of a log file. -/
def Posts (t : Tracking) (fileId position : Int) (s : Step) : Prop :=
  ∃ c : Checkpoint, c.fileId = fileId ∧ c.position = position ∧ ∃ answer,
    s = .called .status (Status.Endpoints.ofApp t.app).positions (Status.positionParameters c)
      answer

variable {t : Tracking} {s : Step} {fileId position : Int}

/-- Quiet steps post no position. -/
theorem not_posts_of_quiet (h : Quiet t s) : ¬ Posts t fileId position s := by
  rintro ⟨c, -, -, answer, rfl⟩
  obtain hparams | ⟨-, ⟨-, hparams⟩ | ⟨hendpoint, -⟩⟩ := h
  · cases hparams
  · cases hparams
  · exact Status.positions_ne_health t.app "" "" (congrArg (· ++ "") hendpoint)

/-- A commit posts its own position only. -/
theorem eq_of_posts {c : Checkpoint} (h : Serves (PostsPosition t c) s)
    (hpost : Posts t fileId position s) : fileId = c.fileId ∧ position = c.position := by
  obtain ⟨c', rfl, rfl, answer, rfl⟩ := hpost
  obtain ⟨-, -, hparams⟩ := h
  exact Status.positionParameters_inj hparams

/-! ### Attribution -/

/-- Every position that was posted is that of a record which had been delivered in the session
while the log file of the post was the current one. -/
def Attributed (t : Tracking) (target : LogFile) (j : List Step) : Prop :=
  ∀ s past, s :: past <:+ j → ∀ fileId position, Posts t fileId position s →
    (fileId, position) ∈ (progress target past).delivered

/-- The wait for an event has failed. -/
def Failed (j : List Step) : Prop := ∃ f, .received (.error f) ∈ j

/-- The position of the last record may be stored under the current log file: no position is
stored at all, or that file has delivered a record at this position. -/
def Covered (a : Assignment) (j : List Step) : Prop :=
  a.plan.maxRetries = 0 ∨ ∀ position, (progress a.target j).last? = some position → 0 < position →
    ((progress a.target j).file.fileId, position) ∈ (progress a.target j).delivered

variable {target : LogFile} {j : List Step}

theorem attributed_nil : Attributed t target [] := by
  intro s past h
  exact absurd (List.suffix_nil.1 h) (List.cons_ne_nil s past)

theorem attributed_cons_iff : Attributed t target (s :: j) ↔
    (∀ fileId position, Posts t fileId position s →
      (fileId, position) ∈ (progress target j).delivered) ∧ Attributed t target j := by
  constructor
  · exact fun h => ⟨h s j (List.suffix_refl _),
      fun s' past hs => h s' past (hs.trans (List.suffix_cons s j))⟩
  · rintro ⟨hs, hj⟩ s' past hsuffix
    obtain heq | hsuffix := List.suffix_cons_iff.1 hsuffix
    · obtain ⟨rfl, rfl⟩ := List.cons.inj heq
      exact hs
    · exact hj s' past hsuffix

theorem attributed_of_quiet (h : Quiet t s) :
    Attributed t target (s :: j) ↔ Attributed t target j := by
  rw [attributed_cons_iff]
  exact and_iff_right fun _ _ hpost => absurd hpost (not_posts_of_quiet h)

theorem failed_cons_iff (h : ∀ f, s ≠ .received (.error f)) : Failed (s :: j) ↔ Failed j := by
  simp only [Failed, List.mem_cons]
  refine exists_congr fun f => or_iff_right fun he => h f he.symm

theorem not_failed_nil : ¬ Failed [] := fun ⟨_, h⟩ => absurd h List.not_mem_nil

theorem covered_of_progress_eq {a : Assignment} {j' : List Step}
    (h : progress a.target j' = progress a.target j) : Covered a j' ↔ Covered a j := by
  rw [Covered, Covered, h]

/-! ### During a session -/

/-- Whether a step is the end of a session, reported by its collaborator. -/
def Step.isEnding : Step → Bool
  | .received (.ok (.ended _ _)) => true
  | _ => false

/-- The contract with a collaborator that ends no session. -/
def unending : Contract where
  rely _ s := s.isEnding = false
  guarantee _ := True

/-- All posts so far were right, and the progress has a property. -/
structure Orderly (t : Tracking) (target : LogFile) (failed : Prop) (R : Progress → Prop)
    (j : List Step) : Prop where
  /-- What the progress is like. -/
  shows : R (progress target j)
  /-- All posts so far were right. -/
  attributed : Attributed t target j
  /-- Whether the wait for an event has failed. -/
  failed_iff : Failed j ↔ failed

variable {failed : Prop} {R : Progress → Prop}

theorem Orderly.imp {R' : Progress → Prop} (h : Orderly t target failed R j)
    (hR : ∀ p, R p → R' p) :
    Orderly t target failed R' j := ⟨hR _ h.shows, h.attributed, h.failed_iff⟩

theorem stable_orderly : Stable unending (Quiet t) (Orderly t target failed R) := by
  intro s j _ _ hs h
  refine ⟨trivial, ?_, (attributed_of_quiet hs).2 h.attributed, ?_⟩
  · rw [progress_of_quiet hs]
    exact h.shows
  · rw [failed_cons_iff]
    · exact h.failed_iff
    · rintro f rfl
      exact hs

/-- A commit is right if the record has been delivered from the log file. -/
theorem stable_orderly_of_mem {c : Checkpoint}
    (hR : ∀ p, R p → (c.fileId, c.position) ∈ p.delivered) :
    Stable unending (Serves (PostsPosition t c)) (Orderly t target failed R) := by
  intro s j _ _ hs h
  refine ⟨trivial, ?_, attributed_cons_iff.2 ⟨fun fileId position hpost => ?_, h.attributed⟩, ?_⟩
  · rw [progress_of_serves hs]
    exact h.shows
  · obtain ⟨rfl, rfl⟩ := eq_of_posts hs hpost
    exact hR _ h.shows
  · rw [failed_cons_iff]
    · exact h.failed_iff
    · rintro f rfl
      exact hs

/-- A step that is no post and no failed wait. -/
theorem Orderly.step {R' : Progress → Prop} (h : Orderly t target failed R j)
    (hpost : ∀ fileId position, ¬ Posts t fileId position s) (hs : ∀ f, s ≠ .received (.error f))
    (hR : R' ((progress target j).after target s)) : Orderly t target failed R' (s :: j) :=
  ⟨hR, attributed_cons_iff.2 ⟨fun _ _ hp => absurd hp (hpost _ _), h.attributed⟩,
    (failed_cons_iff hs).trans h.failed_iff⟩

theorem not_posts_of_not_called
    (h : ∀ role endpoint params answer, s ≠ .called role endpoint params answer) :
    ¬ Posts t fileId position s :=
  fun ⟨_, _, _, _, he⟩ => h _ _ _ _ he

/-- What holds when the session is over. -/
def Settled (t : Tracking) (a : Assignment) (j : List Step) : Prop :=
  ¬ Failed j ∧ Attributed t a.target j ∨ Failed j ∧ (Attributed t a.target j ↔ Covered a j)

theorem stable_settled {a : Assignment} : Stable unending (Quiet t) (Settled t a) := by
  intro s j _ _ hs h
  have hfailed : Failed (s :: j) ↔ Failed j := failed_cons_iff fun f he => by
    rw [he] at hs
    exact hs
  refine ⟨trivial, ?_⟩
  rw [Settled, hfailed, attributed_of_quiet hs, covered_of_progress_eq (progress_of_quiet hs _ _)]
  exact h

theorem Orderly.settled {a : Assignment} (h : Orderly t a.target False R j) : Settled t a j :=
  .inl ⟨h.failed_iff.1, h.attributed⟩

theorem Orderly.settled_of_covered {a : Assignment} (h : Orderly t a.target True R j)
    (hcovered : Covered a j) : Settled t a j :=
  .inr ⟨h.failed_iff.2 trivial, iff_of_true h.attributed hcovered⟩

namespace Controller

variable {σ : Type} (w : World σ) {a : Assignment}

/-- The session of a controller agrees with the journal on the log file. -/
def OnFile (c : Controller) (p : Progress) : Prop := ∃ s, c.active = some s ∧ s.file = p.file

/-- The session of a controller agrees with the journal on the last record as well. -/
def Follows (c : Controller) (p : Progress) : Prop :=
  c.OnFile p ∧ c.lastPosition = p.last?.getD 0

theorem OnFile.currentFile {c : Controller} {p : Progress} (h : c.OnFile p) (a : Assignment) :
    c.currentFile a = p.file := by
  obtain ⟨s, hs, hfile⟩ := h
  rw [Controller.currentFile, hs]
  exact hfile

/-- The commit of a position that the current file has delivered. -/
theorem commit_covered_triple (ht : a.store.tracking = some t) {c : Controller} {position : Int}
    (hR : ∀ p, R p → c.OnFile p ∧ p.last? = some position ∧
      (p.file.fileId, position) ∈ p.delivered) :
    Triple unending (Orderly t a.target True R) (commit w a c position) fun _ => Settled t a := by
  have hmem : ∀ p, R p → ((c.checkpoint a t position).fileId, position) ∈ p.delivered := by
    intro p hp
    obtain ⟨hfile, -, hmem⟩ := hR p hp
    rw [checkpoint, hfile.currentFile]
    exact hmem
  refine (Triple.of_adds (adds_commit w ht c position) (stable_orderly_of_mem hmem)).mono
    (fun _ _ h => h) fun _ j _ h => h.settled_of_covered (.inr fun q hq _ => ?_)
  obtain ⟨-, hlast, hmem⟩ := hR _ h.shows
  rw [hlast] at hq
  rw [← Option.some.inj hq]
  exact hmem

/-- The commit of a position that another file has delivered: unless no attempt is made, the first
one posts it under the wrong file. -/
theorem commit_uncovered_triple (ht : a.store.tracking = some t) {c : Controller} {position : Int}
    (hpos : 0 < position)
    (hR : ∀ p, R p → c.OnFile p ∧ p.last? = some position ∧
      (p.file.fileId, position) ∉ p.delivered) :
    Triple unending (Orderly t a.target True R) (commit w a c position) fun _ => Settled t a := by
  rw [commit_eq w ht]
  by_cases hretries : a.plan.maxRetries = 0
  · have hnone : Adds (Quiet t) (a.store.commitWithRetry w
        (.ofAttempts a.plan.maxRetries a.plan.retryFactor) (c.checkpoint a t position)) := by
      rw [CheckpointStore.commitWithRetry_eq w ht, RetryPolicy.run, RetryPolicy.ofAttempts,
        hretries]
      exact (Adds.pure _).bind fun _ => (Adds.measure Measurement.noConfusion).bind fun _ => .pure _
    exact (Triple.of_adds (hnone.bind fun _ => .pure _) stable_orderly).mono
      (fun _ _ h => h) fun _ j _ h => h.settled_of_covered (.inl hretries)
  · let Wrong (j : List Step) : Prop := ¬ Attributed t a.target j ∧ Failed j ∧ ¬ Covered a j
    have hstable :
        Stable unending (Serves (PostsPosition t (c.checkpoint a t position))) Wrong := by
      rintro s j - - hs ⟨hattributed, ⟨f, hf⟩, hcovered⟩
      refine ⟨trivial, fun h => hattributed (attributed_cons_iff.1 h).2,
        ⟨f, List.mem_cons_of_mem s hf⟩, ?_⟩
      rwa [covered_of_progress_eq (progress_of_serves hs _ _)]
    refine Triple.bind (CheckpointStore.commitWithRetry_triple w ht (N := Wrong) hretries
      (fun answer j _ h => ⟨trivial, fun hattributed => ?_, ?_, ?_⟩) hstable)
      fun _ => .pure fun j _ h => .inr ⟨h.2.1, iff_of_false h.1 h.2.2⟩
    · obtain ⟨hfile, -, hnot⟩ := hR _ h.shows
      have hpost := (attributed_cons_iff.1 hattributed).1 _ _ ⟨_, rfl, rfl, answer, rfl⟩
      rw [checkpoint, hfile.currentFile] at hpost
      exact hnot hpost
    · obtain ⟨f, hf⟩ := h.failed_iff.2 trivial
      exact ⟨f, List.mem_cons_of_mem _ hf⟩
    · obtain ⟨-, hlast, hnot⟩ := hR _ h.shows
      rintro (h0 | hcovered)
      · exact hretries h0
      · exact hnot (hcovered position hlast hpos)

/-- **The commit after a failed wait** is right exactly when the last record is covered. -/
theorem finalCommit_triple (ht : a.store.tracking = some t) {c : Controller} {position : Int}
    (hpos : 0 < position)
    (hR : ∀ p, R p → c.OnFile p ∧ position = p.last?.getD 0) :
    Triple unending (Orderly t a.target True R) (commit w a c position) fun _ => Settled t a := by
  have hlast : ∀ p, R p → p.last? = some position := by
    intro p hp
    have h := (hR p hp).2
    cases hl : p.last? with
    | none => rw [hl] at h; exact absurd hpos (by rw [h]; decide)
    | some q => rw [hl] at h; rw [h]; rfl
  -- The current file has delivered the record, or the record belongs to another one.
  have hsplit : ∀ j, Orderly t a.target True R j →
      Orderly t a.target True (fun p => R p ∧ (p.file.fileId, position) ∈ p.delivered) j ∨
        Orderly t a.target True (fun p => R p ∧ (p.file.fileId, position) ∉ p.delivered) j := by
    intro j h
    by_cases hmem : ((progress a.target j).file.fileId, position) ∈ (progress a.target j).delivered
    · exact .inl ⟨⟨h.shows, hmem⟩, h.attributed, h.failed_iff⟩
    · exact .inr ⟨⟨h.shows, hmem⟩, h.attributed, h.failed_iff⟩
  refine Triple.mono (Triple.or ?_ ?_) (fun j _ h => hsplit j h) fun _ _ _ h => h
  · exact commit_covered_triple w ht fun p ⟨hp, hmem⟩ => ⟨(hR p hp).1, hlast p hp, hmem⟩
  · exact commit_uncovered_triple w ht hpos fun p ⟨hp, hnot⟩ => ⟨(hR p hp).1, hlast p hp, hnot⟩

/-- Winding a session up after a failed wait. -/
theorem finish_settled_triple (ht : a.store.tracking = some t) {c : Controller} (reason : EndReason)
    {position : Int}
    (hR : ∀ p, R p → c.state.allows .ending = true ∧ c.OnFile p ∧ position = p.last?.getD 0) :
    Triple unending (Orderly t a.target True R) (finish w a c reason position)
      fun _ => Settled t a := by
  refine finish_triple w a ht c reason position stable_orderly stable_settled
    (fun hpos => finalCommit_triple w ht hpos fun p hp => (hR p hp).2) (fun hpos j h => ?_)
    fun hrefused j h => absurd (hR _ h.shows).1 hrefused
  refine h.settled_of_covered (.inr fun q hq hq' => ?_)
  have hlast := (hR _ h.shows).2.2
  rw [hq] at hlast
  exact absurd (hlast ▸ hq') hpos

/-- What holds while an event is waited for. -/
def Awaits (t : Tracking) (a : Assignment) (c : Controller) : List Step → Prop :=
  Orderly t a.target False fun p => c.Rests ∧ c.Follows p

/-- What holds after an event has come, or a fault in its place. -/
def Received (t : Tracking) (a : Assignment) (c : Controller) :
    Except SessionFault SessionEvent → List Step → Prop
  | .ok .established | .ok .filterAck => Awaits t a c
  | .ok (.record r) => Orderly t a.target False fun p =>
    c.Rests ∧ c.OnFile p ∧ p.delivered.head? = some (p.file.fileId, r.position)
  | .ok (.logSwitch file) => Orderly t a.target False fun p =>
    c.Rests ∧ c.active.isSome ∧ p.file = file ∧ c.lastPosition = p.last?.getD 0
  | .ok (.ended _ _) => fun _ => False
  | .error _ => Orderly t a.target True fun p => c.Rests ∧ c.Follows p

theorem received_of_awaits {c : Controller} {answer : Except SessionFault SessionEvent}
    {j : List Step} (hr : unending.rely j (.received answer)) (h : Awaits t a c j) :
    Received t a c answer (.received answer :: j) := by
  obtain ⟨⟨hrests, hfollows⟩, hattributed, hfailed⟩ := h
  have hattributed' : Attributed t a.target (.received answer :: j) :=
    attributed_cons_iff.2 ⟨fun _ _ ⟨_, _, _, _, he⟩ => (nomatch he), hattributed⟩
  have hfailed' : ∀ {event}, answer = .ok event → (Failed (.received answer :: j) ↔ False) := by
    intro event he
    rw [failed_cons_iff fun f hf => by rw [he] at hf; cases hf]
    exact hfailed
  match answer with
  | .error f => exact ⟨⟨hrests, hfollows⟩, hattributed', iff_true_intro ⟨f, by simp⟩⟩
  | .ok .established => exact ⟨⟨hrests, hfollows⟩, hattributed', hfailed' rfl⟩
  | .ok .filterAck => exact ⟨⟨hrests, hfollows⟩, hattributed', hfailed' rfl⟩
  | .ok (.record r) => exact ⟨⟨hrests, hfollows.1, rfl⟩, hattributed', hfailed' rfl⟩
  | .ok (.logSwitch file) =>
    obtain ⟨⟨s, hs, -⟩, hlast⟩ := hfollows
    exact ⟨⟨hrests, by rw [hs]; rfl, rfl, hlast⟩, hattributed', hfailed' rfl⟩
  | .ok (.ended reason position) => exact Bool.noConfusion hr

/-- The end of a session, whatever its outcome. -/
def Ends (t : Tracking) (a : Assignment)
    (_ : Option (Except RunFault SessionOutcome) × Controller) : List Step → Prop := Settled t a

/-- Answering a record commits at most its own position. -/
theorem onRecord_orderly_triple (ht : a.store.tracking = some t) (c : Controller) (r : Record) :
    Triple unending (Received t a c (.ok (.record r))) (onRecord w a c r) fun result j =>
      match result.1 with
      | .ok () => Awaits t a result.2 j
      | .error _ => Settled t a j := by
  cases hactive : c.active with
  | none =>
    unfold onRecord
    rw [hactive]
    exact .pure fun _ _ h => h.settled
  | some session =>
    let Done : Progress → Prop := fun p => (c.recorded session r).Rests ∧
      (c.recorded session r).Follows p ∧ (session.file.fileId, r.position) ∈ p.delivered
    have hdone : ∀ p : Progress, c.Rests ∧ c.OnFile p ∧
        p.delivered.head? = some (p.file.fileId, r.position) → Done p := by
      rintro p ⟨hrests, ⟨s, hs, hfile⟩, hhead⟩
      obtain rfl : session = s := Option.some.inj (hactive ▸ hs)
      have hsome := hrests.active_iff.1 (by rw [hactive]; rfl)
      refine ⟨⟨hrests.settled, iff_of_true rfl hsome⟩, ⟨⟨_, rfl, hfile⟩, ?_⟩, ?_⟩
      · rw [Progress.last?, hhead]
        rfl
      · rw [hfile]
        exact List.mem_of_mem_head? hhead
    have hdispatch : ∀ s j, Dispatches (session.format.line r) s → unending.Kept j →
        Received t a c (.ok (.record r)) j → True ∧ Orderly t a.target False Done (s :: j) := by
      rintro s j (rfl | rfl) _ h
      · exact ⟨trivial, h.step (fun _ _ => not_posts_of_not_called nofun) nofun (hdone _ h.shows)⟩
      · exact ⟨trivial, h.step (fun _ _ => not_posts_of_not_called nofun) nofun (hdone _ h.shows)⟩
    refine (onRecord_triple w a ht hactive r stable_orderly stable_orderly hdispatch
      fun _ => stable_orderly_of_mem fun _ hp => hp.2.2).mono (fun _ _ h => h)
      fun result j _ h => ?_
    match result, h with
    | (.ok (), _), ⟨rfl, h⟩ => exact h.imp fun _ hp => ⟨hp.1, hp.2.1⟩
    | (.error f, _), h => exact Orderly.settled h

/-- Answering an event leads to the next wait or to the end of the session. -/
theorem handle_orderly_triple (ht : a.store.tracking = some t) (c : Controller)
    (answer : Except SessionFault SessionEvent) :
    Triple unending (Received t a c answer) (handle w a c (c.eventOf answer))
      (AfterEvent (Awaits t a) (Ends t a)) := by
  refine handle_triple (t := t) w a ?_
  match answer with
  | .error f =>
    refine finish_settled_triple w ht .commFailure fun p ⟨hrests, hfile, hlast⟩ =>
      ⟨?_, hfile, hlast⟩
    obtain ⟨s, hs, -⟩ := hfile
    exact hrests.allows_ending (by rw [hs]; rfl)
  | .ok .established =>
    refine ⟨stable_orderly, fun j h => Orderly.imp h ?_⟩
    rintro p ⟨hrests, hfollows⟩
    exact ⟨⟨hrests.settled, hrests.active_iff⟩, hfollows⟩
  | .ok .filterAck =>
    refine fun j h => ⟨h, fun hstate => Orderly.imp h ?_⟩
    rintro p ⟨hrests, hfollows⟩
    exact ⟨⟨⟨SessionState.noConfusion, SessionState.noConfusion⟩,
      iff_of_true (hrests.active_iff.2 (.inl hstate)) (.inr rfl)⟩, hfollows⟩
  | .ok (.record r) => exact ⟨fun _ h => h.settled, onRecord_orderly_triple w ht c r⟩
  | .ok (.logSwitch file) =>
    refine fun j h => Orderly.imp h ?_
    rintro p ⟨hrests, hsome, hfile, hlast⟩
    obtain ⟨s, hs⟩ := Option.isSome_iff_exists.1 hsome
    refine ⟨⟨hrests.settled, ?_⟩, ⟨{ s with file }, ?_, hfile.symm⟩, ?_⟩
    · rw [Option.isSome_map]
      exact hrests.active_iff
    · rw [hs]
      rfl
    · rw [← hlast, Controller.lastPosition, Controller.lastPosition, hs]
      rfl
  | .ok (.ended reason position) =>
    exact (finish_settled_triple w ht (R := fun _ => False) reason fun _ h => h.elim).mono
      (fun _ _ h => h.elim) fun _ _ _ h => h

/-! ### The whole session -/

/-- A whole session ends settled. -/
theorem runSession_settled_triple (ht : a.store.tracking = some t) (c : Controller) (fuel : Nat) :
    Triple unending (Orderly t a.target False fun _ => True) (runSession w a fuel c)
      (Ends t a) := by
  let Prepared : Except RunFault SessionRequest → List Step → Prop := fun _ =>
    Orderly t a.target False fun _ => True
  have hstart : Triple unending (Orderly t a.target False fun _ => True) (start w a c)
      fun result => Prepared result.1 := .of_adds (quiet_start w c) stable_orderly
  have hpump : ∀ c₂, Triple unending (Awaits t a c₂) (pump w a fuel c₂) (Ends t a) := by
    intro c₂
    refine pump_triple w a ?_ (handle_orderly_triple w ht) (fun _ => stable_orderly)
      (fun _ _ _ h => h.settled) (fun _ _ h => h.settled) fuel c₂
    exact fun c answer j _ hr h => ⟨trivial, received_of_awaits hr h⟩
  refine runSession_triple w a ht c fuel hstart (fun _ _ h => h.settled) ?_ ?_ ?_ ?_ hpump
  · intro request answer c' terms j _ h
    exact ⟨trivial, h.step (fun _ _ => not_posts_of_not_called nofun) nofun
      ⟨rests_ready a c' terms, ⟨_, rfl, rfl⟩, rfl⟩⟩
  · exact fun _ => stable_orderly
  · exact fun _ _ h => Orderly.settled h
  · intro c₁ c₂ j hactive hleads h
    refine Orderly.imp h fun p ⟨hrests, ⟨s, hs, hfile⟩, hlast⟩ =>
      ⟨(hleads hrests).rests, ⟨s, hactive.trans hs, hfile⟩, ?_⟩
    rw [← hlast, Controller.lastPosition, Controller.lastPosition, hactive]

/-- **Which positions are stored under the right log file.** In a session that its collaborator
does not end, every stored position is that of a record delivered while the log file of the post
was the current one, exactly when the connection does not fail after a switch to a log file that
has not delivered a record at the last position. -/
theorem attributed_iff (ht : a.store.tracking = some t) (c : Controller) (fuel : Nat) (s : σ)
    (hunended : (runSession w a fuel c ⟨s, []⟩).2.journal.any Step.isEnding = false) :
    Attributed t a.target (runSession w a fuel c ⟨s, []⟩).2.journal ↔
      (Failed (runSession w a fuel c ⟨s, []⟩).2.journal →
        Covered a (runSession w a fuel c ⟨s, []⟩).2.journal) := by
  have hkept : unending.Kept (runSession w a fuel c ⟨s, []⟩).2.journal :=
    Contract.kept_of_forall fun step hstep _ =>
      Bool.eq_false_iff.2 (List.any_eq_false.1 hunended step hstep)
  have hstart : Orderly t a.target False (fun _ => True) [] :=
    ⟨trivial, attributed_nil, iff_false_intro not_failed_nil⟩
  obtain ⟨hfailed, hattributed⟩ | ⟨hfailed, hiff⟩ :=
    (runSession_settled_triple w ht c fuel).result_of_nil trivial hstart s hkept
  · exact iff_of_true hattributed fun h => absurd h hfailed
  · exact hiff.trans ⟨fun h _ => h, fun h => h hfailed⟩

/-! ### Runs on a stage -/

/-- An assignment to read a log file of an entity whose positions are kept. -/
def tracked : Assignment where
  plan := { Plan.standard .universal with legacy := true }
  store := ⟨some ⟨"fw1", "app"⟩⟩
  source := .unspecified
  target := ⟨"fw.log", 1⟩

/-- A stage with a service that remembers posts and one session of some events, after which the
connection fails. -/
def failing (events : List SessionEvent) : Stage :=
  { Stage.bare .universal 0 with
    status := .played { Stage.PlayedService.empty with remembers := true }
    collaborator := .scenes
      { Stage.Troupe.empty with scenes := [{ Stage.Scene.empty with events := events.map some }] } }

/-- The journal of a session of some events on such a stage. -/
@[irreducible]
def failingJournal (events : List SessionEvent) : List Step :=
  (runSession Stage.world tracked (events.length + 1) .initial ⟨failing events, []⟩).2.journal

/-- The journal of a session whose record comes behind the switch of the log file. -/
def recordLast : List Step :=
  failingJournal [.established, .logSwitch ⟨"b.log", 9⟩, .record ⟨5, []⟩]

/-- The journal of a session whose record comes before the switch. -/
def switchLast : List Step :=
  failingJournal [.established, .record ⟨5, []⟩, .logSwitch ⟨"b.log", 9⟩]

/-- A record that comes behind the switch is stored under the new log file. -/
theorem attributed_iff_record_last : tracked.store.tracking = some ⟨"fw1", "app"⟩ ∧
    recordLast.any Step.isEnding = false ∧ Attributed ⟨"fw1", "app"⟩ tracked.target recordLast := by
  have hunended : recordLast.any Step.isEnding = false := by decide +kernel
  have hlast : (progress tracked.target recordLast).last? = some 5 := by decide +kernel
  have hmem : ((progress tracked.target recordLast).file.fileId, 5) ∈
      (progress tracked.target recordLast).delivered := by decide +kernel
  have hcovered : Covered tracked recordLast := by
    refine .inr fun position hposition _ => ?_
    obtain rfl : 5 = position := Option.some.inj (hlast.symm.trans hposition)
    exact hmem
  refine ⟨rfl, hunended, ?_⟩
  rw [recordLast, failingJournal] at hunended hcovered ⊢
  exact (attributed_iff Stage.world rfl initial _ _ hunended).2 fun _ => hcovered

/-- Whether a journal begins, at its latest step, with a post of a position of no record that its
log file has delivered. -/
def misplaces (t : Tracking) (target : LogFile) (c : Checkpoint) : List Step → Bool
  | .called .status endpoint params _ :: past =>
    endpoint = (Status.Endpoints.ofApp t.app).positions ∧ params = Status.positionParameters c ∧
      (c.fileId, c.position) ∉ (progress target past).delivered
  | _ => false

theorem not_attributed_of_misplaces {c : Checkpoint} {n : Nat}
    (h : misplaces t target c (j.drop n) = true) : ¬ Attributed t target j := by
  intro hattributed
  have hsuffix := List.drop_suffix n j
  generalize j.drop n = rest at h hsuffix
  unfold misplaces at h
  split at h
  · rename_i endpoint params answer past
    obtain ⟨hendpoint, hparams, hnot⟩ := of_decide_eq_true h
    refine hnot (hattributed _ past hsuffix _ _ ⟨c, rfl, rfl, answer, ?_⟩)
    rw [hendpoint, hparams]
  · cases h

/-- **A position under the wrong log file.** When the connection fails right after a switch, the
position of the last record of the old file is stored under the new one. -/
theorem not_attributed_switch_last : switchLast.any Step.isEnding = false ∧
    ¬ Attributed ⟨"fw1", "app"⟩ tracked.target switchLast := by
  -- Behind the post are eight more steps.
  have hmisplaced : misplaces ⟨"fw1", "app"⟩ tracked.target ⟨"fw1", 9, 5, "b.log"⟩
      (switchLast.drop 8) = true := by decide +kernel
  exact ⟨by decide +kernel, not_attributed_of_misplaces hmisplaced⟩

end Controller

end LogCollector
