import LogCollector.Proofs.Run.ServiceCalls
import LogCollector.Proofs.Run.StoredPosition
import LogCollector.Proofs.Session.FilterFirst

/-!
# What answering an event comes to

`Answered` lists everything that a controller can do with an event: for each way the conditions,
the result, the controller afterwards and all steps, with the calls of the status service in
order. It is proved once (`tells_handle`); laws about whole sessions go through its cases
(`pump_answered_triple`) and look at the code no more.

The status service is called on two occasions only: a position that is due has been reached, or a
session has been left (`Occasion`).
-/

namespace LogCollector

/-- An occasion to call the status service during a session. -/
inductive Occasion where
  /-- A record of a log file, at a position that is to be stored, has been dispatched. -/
  | reached (file : LogFile) (position : Int)
  /-- The session ends at a position of a log file. -/
  | left (file : LogFile) (position : Int)
  deriving DecidableEq

/-- The calls that are made on an occasion; without tracking there are none. -/
def Occasion.Calls (a : Assignment) (o : Occasion) (calls : List ServiceCall) : Prop :=
  match a.store.tracking, o with
  | none, _ => calls = []
  | some t, .reached file position => ∃ posts report, calls = posts ++ report ∧
    StoresPosition t a.plan.maxRetries (t.checkpoint file position) posts ∧
    ReportsConnected t report
  | some t, .left file position => ∃ posts report, calls = posts ++ report ∧
    (if 0 < position then
      StoresPosition t a.plan.maxRetries (t.checkpoint file position) posts
    else posts = []) ∧
    ReportsDisconnected t report

namespace Controller

/-- What dispatching a record comes to: the result and the steps, the latest one first. -/
inductive Dispatched (format : LineFormat) (r : Record) :
    Except RunFault Unit → List Step → Prop where
  /-- The line is empty and is left out. -/
  | suppressed : format.line r = "" → Dispatched format r (.ok ())
      [.measured .suppressed, .measured (.received format.kind)]
  /-- The line is written. -/
  | written : format.line r ≠ "" → Dispatched format r (.ok ())
      [.measured (.emitted format.kind), .wrote (format.line r) (.ok ()),
        .measured (.received format.kind)]
  /-- The line could not be written. -/
  | lost (f : SinkFault) : format.line r ≠ "" → Dispatched format r (.error (.sink f))
      [.measured .writeFailed, .wrote (format.line r) (.error f),
        .measured (.received format.kind)]

/-- The steps behind a dispatched record: its position is stored if that is due. -/
def Recorded (a : Assignment) (file : LogFile) (position : Int) (new : List Step) : Prop :=
  if isDue a position then
    (∀ s ∈ new, s.IsServed) ∧ (Occasion.reached file position).Calls a (serviceCalls new)
  else new = []

/-- What answering an event comes to: the result, the controller afterwards and the steps, the
latest one first. -/
inductive Answered (a : Assignment) (c : Controller) :
    SessionEvent → Except RunFault Directive × Controller → List Step → Prop where
  /-- The session is established. -/
  | established : Answered a c .established (.ok .proceed, { c with established := true })
      [.measured (.connection true)]
  /-- The filter that was waited for is acknowledged. -/
  | acknowledged : c.state = .filterRegistered →
      Answered a c .filterAck (.ok .resume, { c with state := .streaming }) []
  /-- No filter was waited for. -/
  | ignored : c.state ≠ .filterRegistered → Answered a c .filterAck (.ok .proceed, c) []
  /-- A record comes when none may come, or without a session. -/
  | refused (r : Record) : c.state ≠ .streaming ∨ c.active = none → Answered a c (.record r)
      (.error (.session (.invalidTransition c.state.name "record")), c) []
  /-- The line of a record could not be written. -/
  | lost {r : Record} {session : ActiveSession} {f : SinkFault} {new : List Step} :
      c.state = .streaming → c.active = some session →
      Dispatched session.format r (.error (.sink f)) new →
      Answered a c (.record r) (.error (.sink f), c) new
  /-- A record is dispatched. -/
  | recorded {r : Record} {session : ActiveSession} {new newer : List Step} :
      c.state = .streaming → c.active = some session →
      Dispatched session.format r (.ok ()) new → Recorded a session.file r.position newer →
      Answered a c (.record r) (.ok .proceed, c.recorded session r) (newer ++ new)
  /-- The session goes on with another log file. -/
  | switched (file : LogFile) : Answered a c (.logSwitch file)
      (.ok .proceed, { c with active := c.active.map fun s => { s with file } }) []
  /-- The session ends when it may not end. -/
  | unended (reason : EndReason) (position : Int) : c.state.allows .ending = false →
      Answered a c (.ended reason position)
        (.error (.session (.invalidTransition c.state.name SessionState.ending.name)), c) []
  /-- The session ends. -/
  | ended {reason : EndReason} {position : Int} {new : List Step} :
      (∀ s ∈ new, s.IsServed) →
      (Occasion.left (c.currentFile a) position).Calls a (serviceCalls new) →
      Answered a c (.ended reason position)
        (.ok (.finish (c.conclude reason).1), (c.conclude reason).2) new

/-- What attaching to an opened session comes to: the answer to the registration of the rulebase,
if there is one, the controller afterwards and the steps. -/
inductive Attached (c : Controller) :
    Except SessionFault Unit → Controller → List Step → Prop where
  /-- There is no rulebase, and records are read at once. -/
  | unfiltered : c.pending = none → Attached c (.ok ()) { c with state := .streaming } []
  /-- The rulebase is registered. -/
  | filtered (rulebase : Filter.Rulebase) (answer : Except SessionFault Unit) :
      c.pending = some rulebase →
      Attached c answer { c with pending := none } [.registered rulebase answer]

variable {σ : Type} (w : World σ) {a : Assignment}

/-! ### Records -/

theorem tells_dispatch (format : LineFormat) (r : Record) :
    Tells (Dispatched format r) (dispatch w format r) := by
  refine Tells.measure_bind ?_
  dsimp only
  split
  · rename_i hempty
    exact .measure_bind (.pure (.suppressed (String.isEmpty_iff.1 hempty)))
  · rename_i hline
    have hwritten : format.line r ≠ "" := fun h => hline (String.isEmpty_iff.2 h)
    refine Tells.demand_bind fun answer => ?_
    cases answer with
    | error f => exact .measure_bind (.pure (.lost f hwritten))
    | ok _ => exact .measure_bind (.pure (.written hwritten))

theorem makesCalls_commit {t : Tracking} (ht : a.store.tracking = some t) (c : Controller)
    (position : Int) : MakesCalls
      (fun _ => StoresPosition t a.plan.maxRetries (t.checkpoint (c.currentFile a) position))
      (commit w a c position) := by
  rw [commit_eq w ht]
  exact (CheckpointStore.makesCalls_commitWithRetry w ht _ _).map fun _ _ h => h

/-- Storing the position of a record makes the calls of the occasion. -/
theorem makesCalls_reached {β : Type} (c : Controller) (position : Int)
    (henabled : a.store.isEnabled = true) (x : β) : MakesCalls
      (fun y calls => y = x ∧ (Occasion.reached (c.currentFile a) position).Calls a calls) (do
        commit w a c position
        let _ ← a.store.reportHealth w true
        return x) := by
  obtain ⟨t, ht⟩ := Option.isSome_iff_exists.1 henabled
  refine (makesCalls_commit w ht c position).bind fun _ posts hposts => ?_
  refine (CheckpointStore.makesCalls_reportConnected w ht).map fun _ report hreport => ⟨rfl, ?_⟩
  simp only [Occasion.Calls, ht]
  exact ⟨posts, report, rfl, hposts, hreport⟩

theorem tells_onRecord {c : Controller} {session : ActiveSession} (hstate : c.state = .streaming)
    (hactive : c.active = some session) (r : Record) : Tells
      (fun result new => Answered a c (.record r) (result.1.map fun () => .proceed, result.2) new)
      (onRecord w a c r) := by
  unfold onRecord
  rw [hactive]
  refine (tells_dispatch w session.format r).bind fun result new hnew => ?_
  cases result with
  | error f =>
    cases hnew with
    | lost f hline => exact .pure (.lost hstate hactive (.lost f hline))
  | ok _ =>
    have hrecorded : ∀ {newer}, Recorded a session.file r.position newer →
        Answered a c (.record r) (.ok .proceed, c.recorded session r) (newer ++ new) :=
      .recorded hstate hactive hnew
    dsimp only
    split
    · rename_i hdue
      have henabled : a.store.isEnabled = true := by
        simp only [isDue, Bool.and_eq_true] at hdue
        exact hdue.1.1.1
      have hserved : Adds Step.IsServed (do
          commit w a (c.recorded session r) r.position
          let _ ← a.store.reportHealth w true
          return (Except.ok (ε := RunFault) (), c.recorded session r)) :=
        (adds_commit_served w _ _).bind fun _ =>
          (CheckpointStore.adds_reportHealth_served w true).bind fun _ => .pure _
      refine ((makesCalls_reached w (c.recorded session r) r.position henabled
        (Except.ok (ε := RunFault) (), c.recorded session r)).and_adds hserved).mono ?_
      rintro _ newer ⟨hnewer, rfl, hcalls⟩
      refine hrecorded ?_
      rw [Recorded, if_pos hdue]
      exact ⟨hnewer, hcalls⟩
    · rename_i hdue
      refine .pure (hrecorded ?_)
      rw [Recorded, if_neg hdue]

/-! ### The end of a session -/

/-- Winding a session up makes the calls of its end. -/
theorem makesCalls_finish {c : Controller} (hallows : c.state.allows .ending = true)
    (reason : EndReason) (position : Int) : MakesCalls
      (fun result calls => result = (.ok (c.conclude reason).1, (c.conclude reason).2) ∧
        (Occasion.left (c.currentFile a) position).Calls a calls)
      (finish w a c reason position) := by
  let result : Except RunFault SessionOutcome × Controller :=
    (.ok (c.conclude reason).1, (c.conclude reason).2)
  let Left (calls : List ServiceCall) : Prop :=
    (Occasion.left (c.currentFile a) position).Calls a calls
  have hend : ∀ calls, Left calls → MakesCalls (σ := σ) (fun r more => r = result ∧
      Left (calls ++ more)) (do Run.measure (.ended reason.cls); return result) := by
    refine fun calls hcalls => .uncalled_bind (.measure rfl) fun _ => .pure ⟨rfl, ?_⟩
    rwa [List.append_nil]
  rw [finish_eq, if_pos hallows]
  refine .uncalled_bind (.measure rfl) fun _ => ?_
  cases ht : a.store.tracking with
  | none =>
    have hdisabled : ¬ a.store.isEnabled = true := by simp [CheckpointStore.isEnabled, ht]
    rw [if_neg hdisabled]
    exact hend [] (by simp only [Left, Occasion.Calls, ht])
  | some t =>
    -- The report comes behind the posts, if there are any.
    have hreport : ∀ posts, (if 0 < position then StoresPosition t a.plan.maxRetries
          (t.checkpoint (c.currentFile a) position) posts else posts = []) →
        MakesCalls (fun r more => r = result ∧ Left (posts ++ more)) (do
          let _ ← a.store.reportHealth w false
          Run.measure (.ended reason.cls)
          return result) := by
      intro posts hposts
      refine (CheckpointStore.makesCalls_reportDisconnected w ht).bind fun _ report hreport => ?_
      have hleft : Left (posts ++ report) := by
        simp only [Left, Occasion.Calls, ht]
        exact ⟨posts, report, rfl, hposts, hreport⟩
      simpa only [List.append_assoc] using hend (posts ++ report) hleft
    rw [if_pos (CheckpointStore.isEnabled_of_tracking ht)]
    split
    · rename_i hpos
      exact (makesCalls_commit w ht { c with state := .ending } position).bind
        fun _ posts hposts => hreport posts (by rwa [if_pos hpos])
    · rename_i hpos
      exact hreport [] (by rw [if_neg hpos])

theorem tells_finish {c : Controller} (hallows : c.state.allows .ending = true) (reason : EndReason)
    (position : Int) : Tells
      (fun result new => (∀ s ∈ new, s.IsServed) ∧
        result = (.ok (c.conclude reason).1, (c.conclude reason).2) ∧
        (Occasion.left (c.currentFile a) position).Calls a (serviceCalls new))
      (finish w a c reason position) :=
  Tells.and_adds (makesCalls_finish w hallows reason position)
    (adds_finish_served w c reason position)

/-! ### Events -/

/-- **Everything that answering an event can come to.** -/
theorem tells_handle (c : Controller) (event : SessionEvent) :
    Tells (Answered a c event) (handle w a c event) := by
  cases event with
  | established =>
    exact Tells.measure_bind (.pure .established)
  | filterAck =>
    unfold handle
    dsimp only
    split
    · rename_i hstate
      exact .pure (.acknowledged hstate)
    · rename_i hstate
      exact .pure (.ignored hstate)
  | record r =>
    unfold handle
    dsimp only
    split
    · rename_i hstate
      cases hactive : c.active with
      | none =>
        unfold onRecord
        rw [hactive]
        exact .pure (.refused r (.inr hactive))
      | some session => exact (tells_onRecord w hstate hactive r).map fun _ _ h => h
    · rename_i hstate
      exact .pure (.refused r (.inl hstate))
  | logSwitch file => exact .pure (.switched file)
  | ended reason position =>
    by_cases hallows : c.state.allows .ending = true
    · refine (tells_finish w hallows reason position).map ?_
      rintro _ new ⟨hserved, rfl, hcalls⟩
      exact .ended hserved hcalls
    · unfold handle
      dsimp only
      rw [finish_eq, if_neg hallows]
      exact .pure (.unended reason position (Bool.eq_false_iff.2 hallows))

/-- **Through a whole session by the cases of an event**: what holds while an event is waited for
has to pass through every answer to it and through the resumption of the session. -/
theorem pump_answered_triple {Wait Freed : Controller → List Step → Prop}
    {Q : Option (Except RunFault SessionOutcome) × Controller → List Step → Prop}
    (hanswered : ∀ c answer past x new, Wait c past → Answered a c (c.eventOf answer) x new →
      Directs Wait Freed Q x (new ++ .received answer :: past))
    (hresumed : ∀ c answer past, Freed c past →
      Resumes Wait Q c answer (.resumed answer :: past))
    (hfuel : ∀ c j, Wait c j → Q (none, c) j) (fuel : Nat) (c : Controller) :
    Triple (.owing fun _ => True) (Wait c) (pump w a fuel c) Q := by
  let Received (c : Controller) (answer : Except SessionFault SessionEvent)
      (j : List Step) : Prop := ∃ past, j = .received answer :: past ∧ Wait c past
  have hhandle : ∀ c answer, Triple (.owing fun _ => True) (Received c answer)
      (handle w a c (c.eventOf answer)) (Directs Wait Freed Q) := by
    refine fun c answer => .of_tells (tells_handle w c (c.eventOf answer)) ?_
    rintro x new j ⟨past, rfl, h⟩ hx
    exact hanswered c answer past x new h hx
  exact pump_rule w a (fun c answer j _ _ h => ⟨trivial, j, rfl, h⟩) hhandle
    (fun c answer j _ _ h => ⟨trivial, hresumed c answer j h⟩) hfuel fuel c

/-! ### From the request to the first event -/

theorem tells_attach {c : Controller} (hstate : c.state = .filterRegistered) :
    Tells (fun x new => ∃ answer : Except SessionFault Unit,
      x.1 = answer.mapError .session ∧ Attached c answer x.2 new) (attach w c) := by
  unfold attach
  split
  · rename_i rulebase hpending
    exact .demand_bind fun answer => .pure ⟨answer, rfl, .filtered rulebase answer hpending⟩
  · rename_i hpending
    have hmove : c.moveTo .streaming = .ok { c with state := .streaming } := by
      rw [moveTo, hstate]
      rfl
    rw [hmove]
    exact .pure ⟨.ok (), rfl, .unfiltered hpending⟩

/-- **A session from its request on**: it is not opened, it cannot be attached to, or an event is
waited for. -/
theorem conduct_answered_triple {P : List Step → Prop} {Wait : Controller → List Step → Prop}
    {Q : Option (Except RunFault SessionOutcome) × Controller → List Step → Prop} {fuel : Nat}
    {c : Controller} (hstate : c.state = .filterRegistered) {request : SessionRequest}
    (hunopened : ∀ f past new, P past → (∀ s ∈ new, s.IsServed) →
      (Occasion.left (c.currentFile a) 0).Calls a (serviceCalls new) →
      Q (some (.ok (c.conclude .unableToAttachComm).1), (c.conclude .unableToAttachComm).2)
        (new ++ .opened request (.error f) :: past))
    (hattached : ∀ answer c' past new, P past → Attached c answer c' new →
      Resumes Wait Q c' answer (new ++ .opened request (.ok ()) :: past))
    (hpump : ∀ c', Triple (.owing fun _ => True) (Wait c') (pump w a fuel c') Q) :
    Triple (.owing fun _ => True) P (conduct w a fuel request c) Q := by
  let Opened (answer : Except SessionFault Unit) (j : List Step) : Prop :=
    ∃ past, j = .opened request answer :: past ∧ P past
  have hconnect : Triple (.owing fun _ => True) P (w.connect request) Opened :=
    .demand fun answer j _ _ h => ⟨trivial, j, rfl, h⟩
  refine hconnect.bind fun answer => ?_
  cases answer with
  | error f =>
    have hallows : c.state.allows .ending = true := by
      rw [hstate]
      rfl
    have hfinish : Triple (.owing fun _ => True) (Opened (.error f))
        (finish w a c .unableToAttachComm 0) fun result => Q (some result.1, result.2) := by
      refine .of_tells (tells_finish w hallows .unableToAttachComm 0) ?_
      rintro _ new j ⟨past, rfl, h⟩ ⟨hserved, rfl, hcalls⟩
      exact hunopened f past new h hserved hcalls
    exact hfinish.bind fun _ => .pure fun _ _ h => h
  | ok _ =>
    have hattach : Triple (.owing fun _ => True) (Opened (.ok ())) (attach w c) fun x j =>
        ∃ answer : Except SessionFault Unit,
          x.1 = answer.mapError .session ∧ Resumes Wait Q x.2 answer j := by
      refine .of_tells (tells_attach w hstate) ?_
      rintro x new j ⟨past, rfl, h⟩ ⟨answer, hanswer, hnew⟩
      exact ⟨answer, hanswer, hattached answer x.2 past new h hnew⟩
    refine hattach.bind fun ⟨result, c'⟩ => ?_
    cases result with
    | error f =>
      refine .pure fun j _ ⟨answer, hanswer, h⟩ => ?_
      cases answer with
      | error _ =>
        cases hanswer
        exact h
      | ok _ => cases hanswer
    | ok _ =>
      refine (hpump c').mono (fun j _ ⟨answer, hanswer, h⟩ => ?_) fun _ _ _ h => h
      cases answer with
      | error _ => cases hanswer
      | ok _ => exact h

end Controller

end LogCollector
