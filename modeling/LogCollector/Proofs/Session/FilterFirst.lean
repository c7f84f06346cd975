import LogCollector.Proofs.Session.Rules
import LogCollector.Stage.World

/-!
# No record before the filter

A session whose records are to be filtered is opened suspended, and its rulebase is registered
before any event is waited for. It is resumed, once, when the filter has been acknowledged, and no
line is written before. A record that comes too early ends the run (`no_unfiltered_record`).

While an event is waited for, a session either has its filter registered and has neither been
resumed nor written a line, or its records may come (`Expects`); every event leads from there to
the next wait or to the end of the session.
-/

namespace LogCollector

/-! ### What a session may do -/

/-- A step that neither asks anything of a session nor writes a line. -/
def Step.IsAside : Step → Prop
  | .opened _ _ | .registered _ _ | .resumed _ | .received _ | .wrote _ _ => False
  | _ => True

/-- A step that writes a line, or tries to. -/
def Step.Writes (s : Step) : Prop := ∃ line answer, s = .wrote line answer

/-- A step that resumes a session or writes a line. -/
def Step.Touches : Step → Prop
  | .resumed _ | .wrote _ _ => True
  | _ => False

/-- The requests for sessions with the answers, the latest one first. -/
def openings (j : List Step) : List (SessionRequest × Except SessionFault Unit) :=
  j.filterMap fun
    | .opened request answer => some (request, answer)
    | _ => none

/-- The rulebases that were registered, the latest one first. -/
def registrations (j : List Step) : List Filter.Rulebase :=
  j.filterMap fun
    | .registered rulebase _ => some rulebase
    | _ => none

/-- Something holds of every step of a journal and of what came before it. -/
def AtEachStep (P : List Step → Step → Prop) (j : List Step) : Prop :=
  ∀ s past, s :: past <:+ j → P past s

/-- A rulebase has been registered, and after that a filter has been acknowledged. -/
def Acknowledged (rulebase : Filter.Rulebase) (j : List Step) : Prop :=
  [Step.received (.ok .filterAck), .registered rulebase (.ok ())].Sublist j

/-- Records may come: the filter of the session has been acknowledged, if it has one. -/
def Cleared (rulebase : Option Filter.Rulebase) (j : List Step) : Prop :=
  ∀ r ∈ rulebase, Acknowledged r j

/-- What a session with or without a rulebase may do after a journal: the rulebase is registered
once and before any event is waited for, the session is resumed once and when the filter has been
acknowledged, and no line is written before. -/
def Allowed (rulebase : Option Filter.Rulebase) (past : List Step) : Step → Prop
  | .registered r _ =>
    rulebase = some r ∧ registrations past = [] ∧ ∀ answer, .received answer ∉ past
  | .received _ => ∀ r ∈ rulebase, .registered r (.ok ()) ∈ past
  | .resumed _ => (∃ r, rulebase = some r ∧ Acknowledged r past) ∧ ∀ answer, .resumed answer ∉ past
  | .wrote _ _ => Cleared rulebase past
  | _ => True

/-- Every record has come when records might come. -/
def Timely (rulebase : Option Filter.Rulebase) : List Step → Prop :=
  AtEachStep fun past s => ∀ r, s = .received (.ok (.record r)) → Cleared rulebase past

variable {rulebase : Option Filter.Rulebase} {s : Step} {j : List Step}

theorem atEachStep_cons_iff {P : List Step → Step → Prop} :
    AtEachStep P (s :: j) ↔ P j s ∧ AtEachStep P j := by
  constructor
  · intro h
    refine ⟨h s j (List.suffix_refl _), fun s' past hs => h s' past ?_⟩
    exact hs.trans (List.suffix_cons s j)
  · rintro ⟨hs, hj⟩ s' past hsuffix
    obtain heq | hsuffix := List.suffix_cons_iff.1 hsuffix
    · obtain ⟨rfl, rfl⟩ := List.cons.inj heq
      exact hs
    · exact hj s' past hsuffix

theorem atEachStep_of_forall {P : List Step → Step → Prop} (h : ∀ s ∈ j, ∀ past, P past s) :
    AtEachStep P j := fun s past hs => h s (hs.subset List.mem_cons_self) past

theorem Cleared.cons (h : Cleared rulebase j) (s : Step) : Cleared rulebase (s :: j) :=
  fun r hr => (h r hr).cons s

theorem Step.IsAside.allowed (h : s.IsAside) (past : List Step) : Allowed rulebase past s := by
  cases s <;> trivial

/-- A step that neither opens a session nor registers a rulebase. -/
def Step.IsLater : Step → Prop
  | .opened _ _ | .registered _ _ => False
  | _ => True

theorem openings_cons (h : s.IsLater) : openings (s :: j) = openings j := by
  cases s <;> first | rfl | exact h.elim

theorem registrations_cons (h : s.IsLater) : registrations (s :: j) = registrations j := by
  cases s <;> first | rfl | exact h.elim

theorem Step.IsAside.isLater (h : s.IsAside) : s.IsLater := by
  cases s <;> trivial

theorem openings_of_aside (h : ∀ s ∈ j, s.IsAside) : openings j = [] := by
  induction j with
  | nil => rfl
  | cons s j ih =>
    rw [List.forall_mem_cons] at h
    exact (openings_cons h.1.isLater).trans (ih h.2)

theorem registrations_of_aside (h : ∀ s ∈ j, s.IsAside) : registrations j = [] := by
  induction j with
  | nil => rfl
  | cons s j ih =>
    rw [List.forall_mem_cons] at h
    exact (registrations_cons h.1.isLater).trans (ih h.2)

/-- What the journal of a session tells that was requested with an answer. -/
structure Account (rulebase : Option Filter.Rulebase) (request : SessionRequest)
    (answer : Except SessionFault Unit) (j : List Step) : Prop where
  /-- No other session was requested. -/
  openings : openings j = [(request, answer)]
  /-- The rulebase was registered if the session was opened. -/
  registrations : answer = .ok () → registrations j = rulebase.toList
  /-- Every step was allowed. -/
  allowed : AtEachStep (Allowed rulebase) j

variable {request : SessionRequest} {answer : Except SessionFault Unit}

theorem Account.cons (h : Account rulebase request answer j) (hs : s.IsLater)
    (hallowed : Allowed rulebase j s) : Account rulebase request answer (s :: j) where
  openings := (openings_cons hs).trans h.openings
  registrations hopen := (registrations_cons hs).trans (h.registrations hopen)
  allowed := atEachStep_cons_iff.2 ⟨hallowed, h.allowed⟩

theorem Timely.cons (h : Timely rulebase j)
    (hs : ∀ r, s = .received (.ok (.record r)) → Cleared rulebase j) : Timely rulebase (s :: j) :=
  atEachStep_cons_iff.2 ⟨hs, h⟩

/-- What has been done when a session is requested is of no account. -/
theorem allowed_of_aside (h : ∀ s ∈ j, s.IsAside) :
    AtEachStep (Allowed rulebase) (.opened request answer :: j) :=
  atEachStep_cons_iff.2 ⟨trivial, atEachStep_of_forall fun s hs past => (h s hs).allowed past⟩

theorem timely_of_aside (h : ∀ s ∈ j, s.IsAside) :
    Timely rulebase (.opened request answer :: j) := by
  refine atEachStep_cons_iff.2 ⟨fun _ hs => Step.noConfusion hs, atEachStep_of_forall ?_⟩
  rintro s hs past r rfl
  exact (h _ hs).elim

/-! ### The phases of a session -/

/-- A session has been opened and its rulebase registered, and no record came too early. -/
structure Begun (rulebase : Option Filter.Rulebase) (request : SessionRequest) (j : List Step) :
    Prop where
  /-- The steps were allowed. -/
  account : Account rulebase request (.ok ()) j
  /-- The rulebase has been registered. -/
  registered : ∀ r ∈ rulebase, .registered r (.ok ()) ∈ j
  /-- Every record came when records might come. -/
  timely : Timely rulebase j

/-- The session has neither been resumed nor written a line. -/
def Untouched (j : List Step) : Prop := ∀ s ∈ j, ¬ s.Touches

/-- What holds while an event is waited for: the session waits for its filter, or records may
come. -/
def Expects (rulebase : Option Filter.Rulebase) (request : SessionRequest) (c : Controller)
    (j : List Step) : Prop :=
  Begun rulebase request j ∧
    (c.state = .filterRegistered ∧ rulebase.isSome ∧ Untouched j ∨
      c.state = .streaming ∧ Cleared rulebase j)

/-- What holds when the session is about to be resumed. -/
def Unlocked (rulebase : Option Filter.Rulebase) (request : SessionRequest) (c : Controller)
    (j : List Step) : Prop :=
  Begun rulebase request j ∧ c.state = .streaming ∧ rulebase.isSome ∧ Cleared rulebase j ∧
    ∀ answer, .resumed answer ∉ j

/-- The run has been ended by a record that came too early, without a line having been written. -/
structure Refused (r : Option (Except RunFault SessionOutcome) × Controller) (j : List Step) :
    Prop where
  /-- The run fails because of the record. -/
  result : r.1 = some (.error (.session (.invalidTransition "FILTER_REGISTERED" "record")))
  /-- The controller is at its end. -/
  state : r.2.state = .terminated
  /-- The record was the last step. -/
  last : ∃ record, j.head? = some (.received (.ok (.record record)))
  /-- No line was written. -/
  unwritten : ∀ s ∈ j, ¬ s.Writes

/-- What holds at the end of a session that was requested. -/
def Screened (rulebase : Option Filter.Rulebase) (request : SessionRequest)
    (r : Option (Except RunFault SessionOutcome) × Controller) (j : List Step) : Prop :=
  ∃ answer, Account rulebase request answer j ∧ (Timely rulebase j ∨ Refused r j)

theorem Begun.cons (h : Begun rulebase request j) (hs : s.IsLater)
    (hallowed : Allowed rulebase j s)
    (htimely : ∀ r, s = .received (.ok (.record r)) → Cleared rulebase j) :
    Begun rulebase request (s :: j) where
  account := h.account.cons hs hallowed
  registered r hr := List.mem_cons_of_mem s (h.registered r hr)
  timely := h.timely.cons htimely

theorem Begun.aside (h : Begun rulebase request j) (hs : s.IsAside) :
    Begun rulebase request (s :: j) := by
  refine h.cons hs.isLater (hs.allowed j) ?_
  rintro r rfl
  exact hs.elim

/-- A line may be written when records may come. -/
theorem Begun.wrote (h : Begun rulebase request j) (hcleared : Cleared rulebase j) {line : String}
    {answer : Except SinkFault Unit} : Begun rulebase request (.wrote line answer :: j) :=
  h.cons (s := .wrote line answer) trivial hcleared fun _ hs => Step.noConfusion hs

/-- An event may be waited for, and records may come of it when they may come at all. -/
theorem Begun.received (h : Begun rulebase request j) {answer : Except SessionFault SessionEvent}
    (hrecord : ∀ r, answer = .ok (.record r) → Cleared rulebase j) :
    Begun rulebase request (.received answer :: j) :=
  h.cons (s := .received answer) trivial h.registered fun r hs => hrecord r (Step.received.inj hs)

theorem Begun.ends (h : Begun rulebase request j)
    (r : Option (Except RunFault SessionOutcome) × Controller) : Screened rulebase request r j :=
  ⟨.ok (), h.account, .inl h.timely⟩

theorem Step.IsAside.not_touches (h : s.IsAside) : ¬ s.Touches := by
  cases s <;> first | exact id | exact h.elim

theorem Untouched.cons (h : Untouched j) (hs : ¬ s.Touches) : Untouched (s :: j) :=
  List.forall_mem_cons.2 ⟨hs, h⟩

theorem Untouched.not_resumed (h : Untouched j) (answer : Except SessionFault Unit) :
    .resumed answer ∉ j := fun hmem => h _ hmem trivial

theorem Untouched.not_writes (h : Untouched j) (s : Step) (hs : s ∈ j) : ¬ s.Writes := by
  rintro ⟨line, answer, rfl⟩
  exact h _ hs trivial

/-- A session without a rulebase has begun when it has been opened. -/
theorem begun_opened (h : ∀ s ∈ j, s.IsAside) :
    Begun none request (.opened request (.ok ()) :: j) := by
  have hregistrations : registrations j = [] := registrations_of_aside h
  refine ⟨⟨congrArg _ (openings_of_aside h), fun _ => hregistrations, allowed_of_aside h⟩, ?_,
    timely_of_aside h⟩
  intro r hr
  cases hr

/-- The rulebase of a session is registered when it has been opened. -/
theorem account_registered (h : ∀ s ∈ j, s.IsAside) (r : Filter.Rulebase)
    (answer : Except SessionFault Unit) :
    Account (some r) request (.ok ()) (.registered r answer :: .opened request (.ok ()) :: j) := by
  have hregistrations : registrations j = [] := registrations_of_aside h
  have hreceived : ∀ event, Step.received event ∉ Step.opened request (.ok ()) :: j := by
    intro event hmem
    obtain heq | hmem := List.mem_cons.1 hmem
    · cases heq
    · exact h _ hmem
  exact ⟨congrArg _ (openings_of_aside h), fun _ => congrArg _ hregistrations,
    atEachStep_cons_iff.2 ⟨⟨rfl, hregistrations, hreceived⟩, allowed_of_aside h⟩⟩

theorem timely_registered (h : ∀ s ∈ j, s.IsAside) (r : Filter.Rulebase)
    (answer : Except SessionFault Unit) :
    Timely rulebase (.registered r answer :: .opened request (.ok ()) :: j) :=
  (timely_of_aside h).cons fun _ hs => Step.noConfusion hs

/-- A session with a rulebase has begun when this has been registered. -/
theorem begun_registered (h : ∀ s ∈ j, s.IsAside) (r : Filter.Rulebase) :
    Begun (some r) request (.registered r (.ok ()) :: .opened request (.ok ()) :: j) := by
  refine ⟨account_registered h r (.ok ()), ?_, timely_registered h r (.ok ())⟩
  intro r' hr'
  obtain rfl := Option.some.inj hr'
  exact List.mem_cons_self

/-! ### What the parts of a session add -/

theorem isAside_of_serves {P : ServiceRole → String → Status.Parameters → Prop}
    (h : Serves P s) : s.IsAside := by
  cases s <;> trivial

namespace Controller

variable {σ : Type} (w : World σ) {a : Assignment}

theorem adds_start_aside (c : Controller) : Adds Step.IsAside (start w a c) :=
  (adds_start w c).mono fun _ => isAside_of_serves

theorem adds_finish_aside (c : Controller) (reason : EndReason) (position : Int) :
    Adds Step.IsAside (finish w a c reason position) :=
  (adds_finish_served w c reason position).mono fun _ => isAside_of_serves

/-- A record is answered by writing lines, beside other things. -/
theorem adds_onRecord (c : Controller) (r : Record) :
    Adds (fun s => s.IsAside ∨ s.Writes) (onRecord w a c r) := by
  have haside : ∀ {α : Type} {m : Run σ α}, Adds Step.IsAside m →
      Adds (fun s => s.IsAside ∨ s.Writes) m := fun hm => hm.mono fun _ => .inl
  have hserved : ∀ {α : Type} {m : Run σ α}, Adds Step.IsServed m →
      Adds (fun s => s.IsAside ∨ s.Writes) m :=
    fun hm => haside (hm.mono fun _ => isAside_of_serves)
  have hdispatch : ∀ format, Adds (fun s => s.IsAside ∨ s.Writes) (dispatch w format r) := by
    intro format
    refine (haside (Adds.measure trivial)).bind fun _ => ?_
    dsimp only
    split
    · exact (haside (Adds.measure trivial)).bind fun _ => .pure _
    · refine (Adds.demand fun answer => .inr ⟨_, answer, rfl⟩).bind fun answer => ?_
      cases answer with
      | error f => exact (haside (Adds.measure trivial)).bind fun _ => .pure _
      | ok _ => exact (haside (Adds.measure trivial)).bind fun _ => .pure _
  unfold onRecord
  split
  · exact .pure _
  · refine (hdispatch _).bind fun result => ?_
    cases result with
    | error f => exact .pure _
    | ok _ =>
      dsimp only
      split
      · exact (hserved (adds_commit_served w _ _)).bind fun _ =>
          (hserved (CheckpointStore.adds_reportHealth_served w true)).bind fun _ => .pure _
      · exact .pure _

/-- Other events are answered without a line. -/
theorem adds_handle_aside (c : Controller) {event : SessionEvent} (h : ∀ r, event ≠ .record r) :
    Adds Step.IsAside (handle w a c event) := by
  cases event with
  | established => exact (Adds.measure trivial).bind fun _ => .pure _
  | filterAck =>
    unfold handle
    dsimp only
    split <;> exact .pure _
  | record r => exact absurd rfl (h r)
  | logSwitch file => exact .pure _
  | ended reason position => exact (adds_finish_aside w c reason position).bind fun _ => .pure _

theorem adds_handle (c : Controller) (event : SessionEvent) :
    Adds (fun s => s.IsAside ∨ s.Writes) (handle w a c event) := by
  by_cases h : ∃ r, event = .record r
  · obtain ⟨r, rfl⟩ := h
    unfold handle
    dsimp only
    split
    · exact (adds_onRecord w c r).bind fun _ => .pure _
    · exact .pure _
  · exact (adds_handle_aside w c fun r hr => h ⟨r, hr⟩).mono fun _ => .inl

/-- A record leaves the state as it is. -/
theorem state_onRecord (c : Controller) (r : Record) :
    Yields (fun result => result.2.state = c.state) (onRecord w a c r) := by
  unfold onRecord
  split
  · exact .pure rfl
  · refine .next fun result => ?_
    cases result with
    | error f => exact .pure rfl
    | ok _ =>
      dsimp only
      split
      · exact .next fun _ => .next fun _ => .pure rfl
      · exact .pure rfl

/-- A session is resumed on the acknowledgement of its filter only, and the state is left as it is
when the next event is waited for. -/
theorem handle_directs (c : Controller) (event : SessionEvent) : Yields (fun r =>
    (r.1 = .ok .proceed → r.2.state = c.state) ∧ (r.1 = .ok .resume →
      event = .filterAck ∧ c.state = .filterRegistered ∧ r.2.state = .streaming))
    (handle w a c event) := by
  cases event with
  | established => exact .next fun _ => .pure ⟨fun _ => rfl, nofun⟩
  | filterAck =>
    unfold handle
    dsimp only
    split
    · rename_i hstate
      exact .pure ⟨nofun, fun _ => ⟨rfl, hstate, rfl⟩⟩
    · exact .pure ⟨fun _ => rfl, nofun⟩
  | record r =>
    unfold handle
    dsimp only
    split
    · refine (state_onRecord w c r).bind fun ⟨result, c'⟩ hstate => .pure ⟨fun _ => hstate, ?_⟩
      cases result with
      | error f => exact nofun
      | ok _ => exact nofun
    · exact .pure ⟨nofun, nofun⟩
  | logSwitch file => exact .pure ⟨fun _ => rfl, nofun⟩
  | ended reason position =>
    refine .next fun ⟨result, c'⟩ => ?_
    cases result with
    | error f => exact .pure ⟨nofun, nofun⟩
    | ok _ => exact .pure ⟨nofun, nofun⟩

/-! ### Answers to events -/

/-- What holds after an event has been answered: the next one is waited for, the session is resumed
before, or it is over. -/
abbrev Onward (rulebase : Option Filter.Rulebase) (request : SessionRequest) :
    Except RunFault Directive × Controller → List Step → Prop :=
  Directs (Expects rulebase request) (Unlocked rulebase request) (Screened rulebase request)

/-- While the filter is waited for, other events than records lead on. -/
theorem handle_held_triple {c : Controller} {answer : Except SessionFault SessionEvent}
    (hstate : c.state = .filterRegistered) (hsome : rulebase.isSome)
    (hrecord : ∀ r, answer ≠ .ok (.record r)) :
    Triple (.owing fun _ => True)
      (fun j => Begun rulebase request j ∧ Untouched j ∧
        (answer = .ok .filterAck → Cleared rulebase j))
      (handle w a c (c.eventOf answer)) (Onward rulebase request) := by
  have hevent : ∀ r, c.eventOf answer ≠ .record r := by
    intro r h
    cases answer with
    | error f => cases h
    | ok event => exact hrecord r (congrArg Except.ok h)
  have hstable : Stable (.owing fun _ => True) Step.IsAside fun j =>
      Begun rulebase request j ∧ Untouched j ∧ (answer = .ok .filterAck → Cleared rulebase j) :=
    fun s j _ _ hs ⟨hbegun, huntouched, hack⟩ =>
      ⟨trivial, hbegun.aside hs, huntouched.cons hs.not_touches, fun h => (hack h).cons s⟩
  refine ((Triple.of_adds (adds_handle_aside w c hevent) hstable).and_yields
    (handle_directs w c _)).mono (fun _ _ h => h) fun ⟨result, c'⟩ j _ ⟨hdirects, h⟩ => ?_
  obtain ⟨hbegun, huntouched, hack⟩ := h
  cases result with
  | error f => exact hbegun.ends _
  | ok directive =>
    cases directive with
    | proceed => exact ⟨hbegun, .inl ⟨(hdirects.1 rfl).trans hstate, hsome, huntouched⟩⟩
    | resume =>
      obtain ⟨heq, -, hstreaming⟩ := hdirects.2 rfl
      have hanswer : answer = .ok .filterAck := by
        cases answer with
        | error f => cases heq
        | ok event => exact congrArg Except.ok heq
      exact ⟨hbegun, hstreaming, hsome, hack hanswer, huntouched.not_resumed⟩
    | finish outcome => exact hbegun.ends _

/-- Once records may come, every event leads on. -/
theorem handle_cleared_triple {c : Controller} (hstate : c.state = .streaming)
    (event : SessionEvent) :
    Triple (.owing fun _ => True) (fun j => Begun rulebase request j ∧ Cleared rulebase j)
      (handle w a c event) (Onward rulebase request) := by
  have hstable : Stable (.owing fun _ => True) (fun s => s.IsAside ∨ s.Writes) fun j =>
      Begun rulebase request j ∧ Cleared rulebase j := by
    rintro s j _ _ (hs | ⟨line, answer, rfl⟩) ⟨hbegun, hcleared⟩
    · exact ⟨trivial, hbegun.aside hs, hcleared.cons s⟩
    · exact ⟨trivial, hbegun.wrote hcleared, hcleared.cons _⟩
  refine ((Triple.of_adds (adds_handle w c event) hstable).and_yields
    (handle_directs w c event)).mono (fun _ _ h => h) fun ⟨result, c'⟩ j _ h => ?_
  obtain ⟨hdirects, hbegun, hcleared⟩ := h
  cases result with
  | error f => exact hbegun.ends _
  | ok directive =>
    cases directive with
    | proceed => exact ⟨hbegun, .inr ⟨(hdirects.1 rfl).trans hstate, hcleared⟩⟩
    | resume =>
      obtain ⟨-, hheld, -⟩ := hdirects.2 rfl
      rw [hstate] at hheld
      cases hheld
    | finish outcome => exact hbegun.ends _

/-- A record that comes while the filter is waited for ends the run. -/
theorem handle_early_triple {c : Controller} (hstate : c.state = .filterRegistered) (r : Record) :
    Triple (.owing fun _ => True)
      (fun j => ∃ past, j = .received (.ok (.record r)) :: past ∧ Begun rulebase request past ∧
        Untouched past)
      (handle w a c (.record r)) (Onward rulebase request) := by
  have hhandle : handle w a c (.record r) =
      pure (.error (.session (.invalidTransition c.state.name "record")), c) := by
    unfold handle
    dsimp only
    rw [if_neg (by rw [hstate]; exact SessionState.noConfusion)]
  rw [hhandle]
  refine .pure ?_
  rintro j _ ⟨past, rfl, hbegun, huntouched⟩
  refine ⟨.ok (), hbegun.account.cons trivial hbegun.registered, .inr ⟨?_, ?_, ⟨r, rfl⟩, ?_⟩⟩
  · rw [hstate]
    rfl
  · change c.abort.state = .terminated
    rw [abort, hstate]
    rfl
  · exact (huntouched.cons id).not_writes

/-- **The answer to an event** leads from one wait to the next, or to the end. -/
theorem handle_filter_triple (c : Controller) (answer : Except SessionFault SessionEvent) :
    Triple (.owing fun _ => True)
      (fun j => ∃ past, j = .received answer :: past ∧ Expects rulebase request c past)
      (handle w a c (c.eventOf answer)) (Onward rulebase request) := by
  have hheld : Triple (.owing fun _ => True)
      (fun j => (c.state = .filterRegistered ∧ rulebase.isSome) ∧
        ∃ past, j = .received answer :: past ∧ Begun rulebase request past ∧ Untouched past)
      (handle w a c (c.eventOf answer)) (Onward rulebase request) := by
    refine .given (adds_handle w c _) ?_
    rintro ⟨hstate, hsome⟩
    by_cases hrecord : ∃ r, answer = .ok (.record r)
    · obtain ⟨r, rfl⟩ := hrecord
      exact handle_early_triple w hstate r
    · have hnone : ∀ r, answer ≠ .ok (.record r) := fun r hr => hrecord ⟨r, hr⟩
      refine (handle_held_triple w hstate hsome hnone).mono ?_ fun _ _ _ h => h
      rintro j _ ⟨past, rfl, hbegun, huntouched⟩
      refine ⟨hbegun.received fun r hr => absurd hr (hnone r), huntouched.cons id, ?_⟩
      rintro rfl r hr
      exact (List.singleton_sublist.2 (hbegun.registered r hr)).cons_cons _
  have hcleared : Triple (.owing fun _ => True)
      (fun j => c.state = .streaming ∧
        ∃ past, j = .received answer :: past ∧ Begun rulebase request past ∧ Cleared rulebase past)
      (handle w a c (c.eventOf answer)) (Onward rulebase request) := by
    refine .given (adds_handle w c _) fun hstate => ?_
    refine (handle_cleared_triple w hstate _).mono ?_ fun _ _ _ h => h
    rintro j _ ⟨past, rfl, hbegun, hcleared⟩
    exact ⟨hbegun.received fun _ _ => hcleared, hcleared.cons _⟩
  refine (hheld.or hcleared).mono ?_ fun _ _ _ h => h
  rintro j _ ⟨past, rfl, hbegun, ⟨hstate, hsome, huntouched⟩ | ⟨hstate, hcleared⟩⟩
  · exact .inl ⟨⟨hstate, hsome⟩, past, rfl, hbegun, huntouched⟩
  · exact .inr ⟨hstate, past, rfl, hbegun, hcleared⟩

/-- While events are answered, no record gets through before the filter. -/
theorem pump_filter_triple (fuel : Nat) (c : Controller) :
    Triple (.owing fun _ => True) (Expects rulebase request c) (pump w a fuel c)
      (Screened rulebase request) := by
  refine pump_rule w a (fun c answer j _ _ h => ⟨trivial, j, rfl, h⟩) (handle_filter_triple w)
    (fun c answer j _ _ h => ⟨trivial, ?_⟩) (fun c j h => h.1.ends _) fuel c
  obtain ⟨hbegun, hstate, hsome, hcleared, hresumed⟩ := h
  obtain ⟨r, hr⟩ := Option.isSome_iff_exists.1 hsome
  have hallowed : Allowed rulebase j (.resumed answer) := ⟨⟨r, hr, hcleared r hr⟩, hresumed⟩
  have hbegun' : Begun rulebase request (.resumed answer :: j) :=
    hbegun.cons trivial hallowed fun _ hs => Step.noConfusion hs
  cases answer with
  | error f => exact hbegun'.ends _
  | ok _ => exact ⟨hbegun', .inr ⟨hstate, hcleared.cons _⟩⟩

/-! ### From the request to the end -/

/-- What follows the request for a session. -/
def conduct (a : Assignment) (fuel : Nat) (request : SessionRequest) (c : Controller) :
    Run σ (Option (Except RunFault SessionOutcome) × Controller) := do
  match ← w.connect request with
  | .error _ =>
    let (result, c) ← finish w a c .unableToAttachComm 0
    return (some result, c)
  | .ok () =>
    match ← attach w c with
    | (.error f, c) => return (some (.error f), c.abort)
    | (.ok (), c) => pump w a fuel c

theorem runSession_eq (a : Assignment) (fuel : Nat) (c : Controller) :
    runSession w a fuel c = (start w a c >>= fun
      | (.error f, c) => return (some (.error f), c)
      | (.ok request, c) => conduct w a fuel request c) := rfl

/-- The rulebase is registered before any event, or records may come at once. -/
theorem attach_triple {c : Controller} (hstate : c.state = .filterRegistered)
    (hpending : c.pending = rulebase) :
    Triple (.owing fun _ => True)
      (fun j => ∃ past, j = .opened request (.ok ()) :: past ∧ ∀ s ∈ past, s.IsAside) (attach w c)
      fun r j => match r.1 with
        | .ok () => Expects rulebase request r.2 j
        | .error f => Screened rulebase request (some (.error f), r.2.abort) j := by
  unfold attach
  rw [hpending]
  cases rulebase with
  | none =>
    have hmove : c.moveTo .streaming = .ok { c with state := .streaming } := by
      rw [moveTo, hstate]
      rfl
    dsimp only
    rw [hmove]
    refine .pure ?_
    rintro j _ ⟨past, rfl, haside⟩
    exact ⟨begun_opened haside, .inr ⟨rfl, nofun⟩⟩
  | some r =>
    let Registered (answer : Except SessionFault Unit) (j : List Step) : Prop :=
      ∃ past, j = .registered r answer :: .opened request (.ok ()) :: past ∧
        ∀ s ∈ past, s.IsAside
    have hregister : Triple (.owing fun _ => True)
        (fun j => ∃ past, j = .opened request (.ok ()) :: past ∧ ∀ s ∈ past, s.IsAside)
        (w.registerFilter r) Registered := by
      refine .demand ?_
      rintro answer j _ _ ⟨past, rfl, haside⟩
      exact ⟨trivial, past, rfl, haside⟩
    refine hregister.bind fun answer => .pure ?_
    rintro j _ ⟨past, rfl, haside⟩
    cases answer with
    | error f =>
      exact ⟨.ok (), account_registered haside r _, .inl (timely_registered haside r _)⟩
    | ok _ =>
      have huntouched : Untouched past := fun s hs => (haside s hs).not_touches
      exact ⟨begun_registered haside r, .inl ⟨hstate, rfl, (huntouched.cons id).cons id⟩⟩

theorem conduct_triple {c : Controller} (hstate : c.state = .filterRegistered)
    (hpending : c.pending = rulebase) (fuel : Nat) :
    Triple (.owing fun _ => True) (fun j => ∀ s ∈ j, s.IsAside) (conduct w a fuel request c)
      (Screened rulebase request) := by
  let Answered (answer : Except SessionFault Unit) (j : List Step) : Prop :=
    ∃ past, j = .opened request answer :: past ∧ ∀ s ∈ past, s.IsAside
  have hconnect : Triple (.owing fun _ => True) (fun j => ∀ s ∈ j, s.IsAside) (w.connect request)
      Answered := .demand fun answer j _ _ h => ⟨trivial, j, rfl, h⟩
  refine hconnect.bind fun answer => ?_
  cases answer with
  | error f =>
    have hstable : Stable (.owing fun _ => True) Step.IsAside fun j =>
        Account rulebase request (.error f) j ∧ Timely rulebase j := by
      intro s j _ _ hs ⟨haccount, htimely⟩
      refine ⟨trivial, haccount.cons hs.isLater (hs.allowed j), htimely.cons ?_⟩
      rintro r rfl
      exact hs.elim
    refine ((Triple.of_adds (adds_finish_aside w c .unableToAttachComm 0) hstable).mono ?_
      fun _ _ _ h => h).bind fun _ => .pure fun j _ h => ⟨.error f, h.1, .inl h.2⟩
    rintro j _ ⟨past, rfl, haside⟩
    exact ⟨⟨congrArg _ (openings_of_aside haside), nofun, allowed_of_aside haside⟩,
      timely_of_aside haside⟩
  | ok _ =>
    refine (attach_triple w hstate hpending).bind fun ⟨result, c'⟩ => ?_
    cases result with
    | error f => exact .pure fun _ _ h => h
    | ok _ => exact pump_filter_triple w fuel c'

/-- A prepared session has the request and the controller that the terms come to which its
parameters give. -/
theorem start_ready (c : Controller) : Yields (fun r => ∀ request, r.1 = .ok request →
    ∃ terms stored c', SessionTerms.derive a.plan request.params = .ok terms ∧
      request = requestFor a terms (startFor terms.online stored) ∧ r.2 = ready c' a terms)
    (start w a c) := by
  have hterms : Yields (fun r => ∀ terms, r = .ok terms →
      SessionTerms.derive a.plan terms.params = .ok terms) (a.source.terms w a.plan) := by
    refine .next fun params => .pure fun terms h => ?_
    cases params with
    | error f => cases h
    | ok params =>
      dsimp only [Except.bind] at h
      rw [SessionTerms.params_of_derive h]
      exact h
  unfold start
  split
  · exact .pure fun _ h => absurd h (by simp)
  · rename_i c₁ _
    refine hterms.bind fun terms hterms => ?_
    cases terms with
    | error f => exact .pure fun _ h => absurd h (by simp)
    | ok terms =>
      dsimp only
      split
      · refine .next fun found => ?_
        cases found with
        | error f => exact .pure fun _ h => absurd h (by simp)
        | ok found =>
          refine .pure fun request h => ⟨terms, found, { c₁ with state := .resuming }, ?_⟩
          obtain rfl := Except.ok.inj h
          exact ⟨hterms terms rfl, rfl, rfl⟩
      · refine .pure fun request h => ⟨terms, none, c₁, ?_⟩
        obtain rfl := Except.ok.inj h
        exact ⟨hterms terms rfl, rfl, rfl⟩

/-- The request for a session is suspended if there is a rulebase to be registered. -/
theorem start_derives (c : Controller) : Yields (fun r => ∀ request, r.1 = .ok request →
    ∃ terms, SessionTerms.derive a.plan request.params = .ok terms ∧
      request.suspended = terms.rulebase.isSome ∧ r.2.state = .filterRegistered ∧
      r.2.pending = terms.rulebase) (start w a c) := by
  refine (start_ready w c).mono fun r h request hrequest => ?_
  obtain ⟨terms, stored, c', hderive, rfl, hready⟩ := h request hrequest
  rw [hready]
  exact ⟨terms, hderive, rfl, rfl, rfl⟩

/-- **No unfiltered record gets through.** A run either fails before a session is requested, or it
requests one session, suspended if there is a rulebase to be registered, in which every step is
allowed (`Allowed`). A record that comes before the filter is acknowledged ends the run. -/
theorem no_unfiltered_record {σ : Type} (w : World σ) (a : Assignment) (c : Controller)
    (fuel : Nat) (s : σ) :
    let r := (runSession w a fuel c ⟨s, []⟩).1
    let j := (runSession w a fuel c ⟨s, []⟩).2.journal
    (∃ f, (start w a c ⟨s, []⟩).1.1 = .error f ∧ r.1 = some (.error f) ∧
        ∀ step ∈ j, step.IsAside) ∨
      ∃ request terms answer, (start w a c ⟨s, []⟩).1.1 = .ok request ∧
        SessionTerms.derive a.plan request.params = .ok terms ∧
        request.suspended = terms.rulebase.isSome ∧
        Account terms.rulebase request answer j ∧
        (¬ Timely terms.rulebase j → Refused r j) := by
  have hbegin := start_derives w (a := a) c ⟨s, []⟩
  have haside : ∀ step ∈ (start w a c ⟨s, []⟩).2.journal, step.IsAside := by
    obtain ⟨new, hnew, haside⟩ := adds_start_aside w (a := a) c ⟨s, []⟩
    rw [hnew, List.append_nil]
    exact haside
  rw [runSession_eq, Run.bind_apply]
  generalize start w a c ⟨s, []⟩ = prepared at hbegin haside ⊢
  obtain ⟨⟨result, c'⟩, t⟩ := prepared
  cases result with
  | error f => exact .inl ⟨f, rfl, rfl, haside⟩
  | ok request =>
    obtain ⟨terms, hderive, hsuspended, hstate, hpending⟩ := hbegin request rfl
    have hconduct : Triple (.owing fun _ => True) (fun j => ∀ step ∈ j, step.IsAside)
        (conduct w a fuel request c') (Screened terms.rulebase request) :=
      conduct_triple w hstate hpending fuel
    obtain ⟨answer, haccount, hend⟩ := (hconduct.sound t (fun _ _ _ => trivial)
      (Contract.kept_owing _ _) haside).2 (Contract.kept_owing _ _)
    exact .inr ⟨request, terms, answer, rfl, hderive, hsuspended, haccount, hend.resolve_left⟩

/-- A record of a collaborator that does not acknowledge the filter. -/
example :
    let stage := { Stage.bare .universal 0 with
      collaborator := .scenes { Stage.Troupe.empty with scenes := [{ Stage.Scene.empty with
        events := [some .established, some (.record ⟨0, []⟩)], silent := true }] } }
    let a : Assignment := ⟨Plan.standard .universal, ⟨none⟩, .unspecified, ⟨"fw.log", 1⟩⟩
    let run := runSession Stage.world a 5 .initial ⟨stage, []⟩
    run.1.2.state = .terminated ∧ (registrations run.2.journal).length = 1 := by
  decide +kernel

end Controller

end LogCollector
