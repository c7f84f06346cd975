import LogCollector.Proofs.Run.StoredPosition
import LogCollector.Proofs.Session.Lifecycle
import LogCollector.Stage.World

/-!
# Resuming at a stored position

A position is stored with all its digits, but it is only read back if it has 32 bits. So the next
session begins at the position that was stored as long as this is small enough; beyond that every
attempt to begin fails, although the service does nothing wrong (`start_after_commit`).
-/

namespace LogCollector

open Status (positionKey positionParameters)

variable {σ : Type} {t : Tracking} {file : LogFile} {position : Int}

/-! ### Commits that succeed -/

namespace CheckpointStore

variable (w : World σ) {s : CheckpointStore}

/-- Whatever the world does, the position is stored if a part of a run ends with success. -/
abbrev StoresIf {α : Type} (t : Tracking) (file : LogFile) (position : Int) (m : Run σ α)
    (success : α → Prop) : Prop :=
  Triple (.owing fun _ => True) (fun _ => True) m fun x j => success x → Stores t file j position

/-- A measurement stores nothing. -/
theorem measure_stores {φ : Prop} (m : Measurement) :
    Triple (σ := σ) (.owing fun _ => True) (fun j => φ → Stores t file j position) (Run.measure m)
      fun _ j => φ → Stores t file j position :=
  .measure fun _ _ _ h => ⟨trivial, fun hφ => (stored_cons_of_none rfl).trans (h hφ)⟩

theorem post_stores : StoresIf t file position
    (post w (Status.Endpoints.ofApp t.app).positions
      (positionParameters (t.checkpoint file position))) (· = .ok ()) := by
  let Answered (answer : Except StatusFault Status.Response) (j : List Step) : Prop :=
    ∀ r, answer = .ok r → r.isSuccess = true → Stores t file j position
  have hserve : Triple (.owing fun _ => True) (fun _ => True)
      (w.serve .status (Status.Endpoints.ofApp t.app).positions
        (positionParameters (t.checkpoint file position))) Answered := by
    refine .serve (fun answer j _ _ _ => ⟨trivial, ?_⟩) fun answer j _ _ h => ⟨trivial, ?_⟩
    · rintro r rfl hr
      exact stored_cons_of_some (if_pos ⟨nofun, hr, rfl⟩)
    · intro r hanswer hr
      exact (stored_cons_of_none rfl).trans (h r hanswer hr)
  refine hserve.bind fun answer => ?_
  cases answer with
  | error f => exact .pure fun _ _ _ hresult => nomatch hresult
  | ok r =>
    refine .pure fun j _ h hresult => ?_
    by_cases hr : r.isSuccess = true
    · exact h r rfl hr
    · rw [if_neg hr] at hresult
      cases hresult

theorem commit_stores (ht : s.tracking = some t) :
    StoresIf t file position (s.commit w (t.checkpoint file position)) (· = .ok ()) := by
  simp only [commit, ht]
  refine (post_stores w).bind fun result => ?_
  split
  · exact (measure_stores (.position position)).bind fun _ => .pure fun _ _ h => h
  · exact .pure fun _ _ h => h

theorem attempt_stores (ht : s.tracking = some t) (number : Nat) :
    StoresIf t file position (attempt w s (t.checkpoint file position) number) (· = .ok ()) := by
  have hcommit : StoresIf t file position
      (do return (← s.commit w (t.checkpoint file position)).mapError StatusFault.message)
      (· = .ok ()) := by
    refine (commit_stores w ht).map fun result j _ h hresult => h ?_
    cases result with
    | error f => cases hresult
    | ok _ => rfl
  unfold attempt
  split
  · have hmeasure : Triple (σ := σ) (.owing fun _ => True) (fun _ => True) (Run.measure .retried)
        fun _ _ => True := .measure fun _ _ _ _ => ⟨trivial, trivial⟩
    exact hmeasure.bind fun _ => hcommit
  · exact hcommit

/-- Retries end with success only after an attempt that has stored the position. -/
theorem attemptsFrom_stores (ht : s.tracking = some t) (p : RetryPolicy) (left made : Nat)
    (lastError : String) (delay : Duration) : StoresIf t file position
      (p.attemptsFrom w (attempt w s (t.checkpoint file position)) made lastError delay left)
      (·.isSuccess = true) := by
  induction left generalizing made lastError delay with
  | zero => exact .pure fun _ _ _ h => nomatch h
  | succ left ih =>
    refine (attempt_stores w ht _).bind fun result => ?_
    cases result with
    | ok _ => exact .pure fun _ _ h _ => h rfl
    | error e =>
      have hpause : Triple (.owing fun _ => True)
          (fun j => Except.error e = .ok () → Stores t file j position) (w.pause delay)
          fun _ _ => True := .demand fun _ _ _ _ _ => ⟨trivial, trivial⟩
      exact hpause.bind fun _ => ih _ _ _

end CheckpointStore

namespace Controller

variable (w : World σ) {a : Assignment} {c c' : Controller} {tape : Tape σ}

/-- The commit of a position has ended with success, which it measures last. -/
def Committed (a : Assignment) (c : Controller) (position : Int) (tape : Tape σ) : Prop :=
  (commit w a c position tape).2.journal.head? = some (.measured (.committed true))

/-- A commit that succeeds stores the position for the log file of the session. -/
theorem stores_of_committed (ht : a.store.tracking = some t)
    (h : Committed w a c position tape) :
    Stores t (c.currentFile a) (commit w a c position tape).2.journal position := by
  rw [Committed, commit_eq w ht, CheckpointStore.commitWithRetry_eq w ht] at h
  rw [commit_eq w ht, CheckpointStore.commitWithRetry_eq w ht]
  let policy := RetryPolicy.ofAttempts a.plan.maxRetries a.plan.retryFactor
  let outcome :=
    (policy.run w (CheckpointStore.attempt w a.store (c.checkpoint a t position)) tape).1
  have hsuccess : outcome.isSuccess = true := by
    have hlast : some (Step.measured (.committed outcome.isSuccess)) =
        some (.measured (.committed true)) := h
    rw [Option.some.injEq, Step.measured.injEq, Measurement.committed.injEq] at hlast
    exact hlast
  have hattempts : CheckpointStore.StoresIf t (c.currentFile a) position
      (policy.run w (CheckpointStore.attempt w a.store (c.checkpoint a t position)))
      (·.isSuccess = true) := CheckpointStore.attemptsFrom_stores w ht policy _ _ _ _
  have hstores := hattempts.sound tape (fun _ _ _ => trivial) (Contract.kept_owing _ _) trivial
  exact (stored_cons_of_none rfl).trans (hstores.2 (Contract.kept_owing _ _) hsuccess)

/-! ### The start of the next session -/

/-- A look-up of what is stored at the entry of a log file succeeds and tells it. -/
def AnswersStored (t : Tracking) (file : LogFile) (past : List Step) : Step → Prop
  | .called .status endpoint [] answer => endpoint = t.entry file →
    ∀ params, stored (t.entry file) past = some params →
      ∃ r, answer = .ok r ∧ r.isSuccess = true ∧ Status.Conveys r.body params
  | _ => True

/-- The contract with a service that does so. -/
def answering (t : Tracking) (file : LogFile) : Contract := ⟨AnswersStored t file, fun _ => True⟩

/-- The fault of a start that cannot make out the stored position. -/
def unreadable (a : Assignment) (position : Int) : RunFault :=
  .session (.resumeFailed a.target.name
    (StatusFault.invalidValue positionKey (Numeral.intText position)).message)

/-- What the look-up of a stored position comes to. -/
theorem resumePosition_of_stores (ht : a.store.tracking = some t) (he : '<' ∉ t.entity.toList)
    (hf : '<' ∉ a.target.name.toList) (hpos : 0 < position)
    (hstores : Stores t a.target tape.journal position)
    (hkept : (answering t a.target).Kept (resumePosition w a tape).2.journal) :
    (resumePosition w a tape).1 =
      if position ≤ 2147483647 then .ok (some position) else .error (unreadable a position) := by
  rw [resumePosition, CheckpointStore.lastPosition_eq w ht] at hkept ⊢
  obtain ⟨r, hanswer, hsuccess, htells⟩ := hkept.2.1 rfl _ hstores
  have hread : Status.storedPosition (t.entry a.target) r =
      (Status.readPosition (Numeral.intText position)).map some :=
    Status.storedPosition_eq_of_conveys (c := t.checkpoint a.target position) he hf hsuccess
      htells _
  have hresult : ((w.call .status (t.entry a.target) [] tape.world).1.bind
      (Status.storedPosition (t.entry a.target))) =
        (Status.readPosition (Numeral.intText position)).map some := by
    rw [hanswer]
    exact hread
  refine (congrArg (Except.mapError _) hresult).trans ?_
  rw [Status.readPosition_intText]
  by_cases hsmall : position ≤ 2147483647
  · rw [if_pos hsmall, if_pos ⟨by omega, hsmall⟩]
    rfl
  · rw [if_neg hsmall, if_neg fun h => hsmall h.2]
    rfl

/-- A start whose terms are found goes on to the look-up of the stored position. -/
theorem start_of_terms (ht : a.store.tracking = some t) {c₁ : Controller}
    (henter : c.enter = .ok c₁) {terms : SessionTerms}
    (hterms : (a.source.terms w a.plan tape).1 = .ok terms) :
    let look := resumePosition w a (a.source.terms w a.plan tape).2
    start w a c tape = (match look.1 with
      | .error f => (.error f, { c₁ with state := .resuming }.abort)
      | .ok found => (.ok (requestFor a terms (startFor terms.online found)),
        { c₁ with state := .resuming }.ready a terms), look.2) := by
  intro look
  unfold start
  rw [henter]
  dsimp only
  rw [Run.bind_apply, hterms]
  dsimp only
  rw [if_pos (CheckpointStore.isEnabled_of_tracking ht), Run.bind_apply]
  cases look.1 with
  | error f => rfl
  | ok found => rfl

/-- Finding out the terms of a session stores no position. -/
theorem stored_terms (entry : LogFile) (tape : Tape σ) :
    stored (t.entry entry) (a.source.terms w a.plan tape).2.journal =
      stored (t.entry entry) tape.journal := by
  obtain ⟨new, hnew, hquiet⟩ := ParamsSource.adds_terms w a.source a.plan tape
  rw [hnew]
  clear hnew
  induction new with
  | nil => rfl
  | cons s new ih =>
    rw [List.forall_mem_cons] at hquiet
    exact (stored_of_quiet (quiet_of_looksUp hquiet.1)).trans (ih hquiet.2)

/-- **Resuming at a stored position.** A session of a log file has stored a position, and nothing
has been stored for the log file since. When the next session is about to begin, offline and with
its terms found out, and the service tells what is stored, the request is for this position if it
has 32 bits. Otherwise the session does not begin, and the controller is at its end. -/
theorem start_after_commit {a a' : Assignment} (ht : a.store.tracking = some t)
    (ht' : a'.store.tracking = some t) (he : '<' ∉ t.entity.toList)
    (hf : '<' ∉ a'.target.name.toList) (hpos : 0 < position) {before tape : Tape σ}
    (hfile : c.currentFile a = a'.target) (hcommit : Committed w a c position before)
    {between : List Step}
    (htape : tape.journal = between ++ (commit w a c position before).2.journal)
    (hbetween : ∀ s ∈ between, s.stores? (t.entry a'.target) = none) {c₁ : Controller}
    (henter : c'.enter = .ok c₁) {terms : SessionTerms}
    (hterms : (a'.source.terms w a'.plan tape).1 = .ok terms) (hoffline : terms.online = false)
    (hkept : (answering t a'.target).Kept (start w a' c' tape).2.journal) :
    ((start w a' c' tape).1.1, (start w a' c' tape).1.2.state) =
      if position ≤ 2147483647 then (.ok (requestFor a' terms (.at position)), .filterRegistered)
      else (.error (unreadable a' position), .terminated) := by
  have hstores : Stores t a'.target (a'.source.terms w a'.plan tape).2.journal position := by
    rw [Stores, stored_terms, htape, stored, List.findSome?_append,
      List.findSome?_eq_none_iff.2 hbetween, ← hfile]
    exact stores_of_committed w ht hcommit
  rw [start_of_terms w ht' henter hterms] at hkept ⊢
  have hlook := resumePosition_of_stores w ht' he hf hpos hstores hkept
  rw [hlook]
  by_cases hsmall : position ≤ 2147483647
  · rw [if_pos hsmall, if_pos hsmall]
    simp only [startFor, hoffline, if_pos hpos, Bool.false_eq_true, if_false]
    rfl
  · rw [if_neg hsmall, if_neg hsmall]
    rfl

/-! ### A start on a stage -/

/-- Whether a step that looks up what is stored is answered with its document. -/
def repeats (t : Tracking) (file : LogFile) (past : List Step) : Step → Bool
  | .called .status endpoint [] answer => endpoint ≠ t.entry file ||
    (stored (t.entry file) past).all fun params =>
      answer.toOption = some ⟨200, Stage.PlayedService.document params⟩ &&
        params.all fun p => !p.1.toList.contains '"'
  | _ => true

theorem answersStored_of_repeats {past : List Step} {s : Step} (h : repeats t file past s = true) :
    AnswersStored t file past s := by
  unfold AnswersStored
  split
  · rename_i answer
    rintro rfl params hstored
    simp only [repeats, hstored, ne_eq, not_true_eq_false, decide_false, Bool.false_or,
      Option.all_some, Bool.and_eq_true, decide_eq_true_eq] at h
    obtain ⟨hanswer, hkeys⟩ := h
    cases answer with
    | error f => cases hanswer
    | ok r =>
      obtain rfl := Option.some.inj hanswer
      refine ⟨_, rfl, rfl, Status.conveys_document fun p hp => ?_⟩
      simpa using List.all_eq_true.1 hkeys p hp
  · trivial

/-- An assignment to read a log file of an entity whose positions are kept. -/
def followed : Assignment where
  plan := { Plan.standard .universal with legacy := true }
  store := ⟨some ⟨"fw1", "app"⟩⟩
  source := .unspecified
  target := ⟨"fw.log", 1⟩

/-- A stage with a service that remembers posts. -/
def rememberingStage : Tape Stage :=
  ⟨{ Stage.bare .universal 0 with
    status := .played { Stage.PlayedService.empty with remembers := true } }, []⟩

/-- A start after a position has been stored there. -/
@[irreducible]
def startAfter (position : Int) : (Except RunFault SessionRequest × Controller) × Tape Stage :=
  start Stage.world followed .initial
    (commit Stage.world followed .initial position rememberingStage).2

/-- The greatest position of 32 bits is begun at. -/
theorem start_after_commit_greatest :
    (startAfter 2147483647).1.1 = .ok
        ⟨⟨"fw.log", 1⟩, .at 2147483647, .traffic, false, false, false, .unspecified⟩ ∧
      (startAfter 2147483647).1.2.state = .filterRegistered := by
  have hkept : Contract.passes (repeats ⟨"fw1", "app"⟩ followed.target)
      (startAfter 2147483647).2.journal = true := by decide +kernel
  have hcommit : Committed Stage.world followed initial 2147483647 rememberingStage := rfl
  have ht : followed.store.tracking = some ⟨"fw1", "app"⟩ := rfl
  have henter : initial.enter = .ok initial := rfl
  rw [startAfter] at hkept ⊢
  have h := start_after_commit Stage.world ht ht (by decide) (by decide) (by decide) rfl hcommit
    (List.nil_append _).symm (fun _ hs => absurd hs List.not_mem_nil) henter rfl rfl
    (Contract.kept_of_passes (fun _ _ => answersStored_of_repeats) hkept)
  rw [if_pos (by decide), Prod.mk.injEq] at h
  exact h

/-- **A position that is stored and never read back.** The position behind it is stored as well,
and the service tells it, but no session begins. -/
theorem no_start_after_commit_next :
    Committed Stage.world followed initial 2147483648 rememberingStage ∧
      (answering ⟨"fw1", "app"⟩ followed.target).Kept (startAfter 2147483648).2.journal ∧
      (∃ terms, (followed.source.terms Stage.world followed.plan
        (commit Stage.world followed initial 2147483648 rememberingStage).2).1 = .ok terms ∧
          terms.online = false) ∧
      (startAfter 2147483648).1.1 = .error (.session (.resumeFailed "fw.log"
        "invalid value for 'last_rec_pos': 2147483648")) ∧
      (startAfter 2147483648).1.2.state = .terminated := by
  obtain ⟨hkept, hfault, hstate⟩ :
      Contract.passes (repeats ⟨"fw1", "app"⟩ followed.target) (startAfter 2147483648).2.journal =
          true ∧
        faultOf? (startAfter 2147483648).1.1 = some (.session (.resumeFailed "fw.log"
          "invalid value for 'last_rec_pos': 2147483648")) ∧
        (startAfter 2147483648).1.2.state = .terminated := by decide +kernel
  have hcommit : Committed Stage.world followed initial 2147483648 rememberingStage := rfl
  exact ⟨hcommit, Contract.kept_of_passes (fun _ _ => answersStored_of_repeats) hkept,
    ⟨_, rfl, rfl⟩, faultOf?_eq_some_iff.1 hfault, hstate⟩

end Controller

end LogCollector
