import LogCollector.Proofs.Session.Answering
import LogCollector.Proofs.Session.Attribution

/-!
# Whether the end of a session is reported

The status service is told that an entity is connected whenever a position has been stored, and
that it is no longer connected when a session is wound up. The reports are read off the calls that
were made (`reportsOf`).

A session that is broken off is not wound up. Before records are read this does no harm, as nothing
was reported until then; afterwards only a line that cannot be written breaks a session off. So a
session that has reported a connection leaves the entity reported as disconnected exactly when no
line was lost (`disconnection_reported_iff`).
-/

namespace LogCollector

/-! ### The reports in a journal -/

/-- What a call reports: whether the entity is connected. Look-ups and posts of positions report
nothing. -/
def ServiceCall.report? (call : ServiceCall) : Option Bool :=
  (call.params.lookup "is_connected").map (· == "1")

/-- The reports that some calls make, the first one first. -/
def reportsOf (calls : List ServiceCall) : List Bool := calls.filterMap ServiceCall.report?

/-- No call of the status service failed: a look-up told what is stored, or that nothing is. -/
def Reliable (j : List Step) : Prop :=
  ∀ call ∈ serviceCalls j, call.role = .status → Known call.answer

/-- A line could not be written. -/
def Step.losesLine : Step → Bool
  | .wrote _ (.error _) => true
  | _ => false

instance (answer : Except StatusFault Status.Response) : Decidable (Known answer) :=
  match answer with
  | .ok r => decidable_of_iff (r.isNotFound = true ∨ r.isSuccess = true) (by simp [Known])
  | .error f => .isFalse (by simp [Known])

instance (j : List Step) : Decidable (Reliable j) :=
  inferInstanceAs (Decidable (∀ call ∈ serviceCalls j, call.role = .status → Known call.answer))

variable {a : Assignment} {t : Tracking} {c : Checkpoint} {calls : List ServiceCall} {s : Step}
  {j past new : List Step} {most : Nat}

@[simp] theorem reportsOf_nil : reportsOf [] = [] := rfl

@[simp] theorem reportsOf_append (calls more : List ServiceCall) :
    reportsOf (calls ++ more) = reportsOf calls ++ reportsOf more := List.filterMap_append

theorem reportsOf_eq_nil (h : ∀ call ∈ calls, call.report? = none) : reportsOf calls = [] :=
  List.filterMap_eq_nil_iff.2 h

/-- Storing a position reports nothing. -/
theorem StoresPosition.reportsOf_eq (h : StoresPosition t most c calls) : reportsOf calls = [] := by
  obtain ⟨answers, -, rfl⟩ := h
  refine reportsOf_eq_nil fun call hcall => ?_
  obtain ⟨answer, -, rfl⟩ := List.mem_map.1 hcall
  rfl

theorem ReportsConnected.reportsOf_eq (h : ReportsConnected t calls) :
    reportsOf calls = [true] := by
  obtain ⟨time, answer, rfl⟩ := h
  rfl

/-- The end of a connection is reported if the look-up does not fail. -/
theorem ReportsDisconnected.reportsOf_eq (h : ReportsDisconnected t calls)
    (hknown : ∀ call ∈ calls, call.role = .status → Known call.answer) :
    reportsOf calls = [false] := by
  obtain ⟨found, posts, rfl, hposts, -⟩ := h
  have hfound : Known found := hknown _ List.mem_cons_self rfl
  obtain ⟨time, answer, -, rfl⟩ := hposts hfound
  rfl

namespace Occasion

variable {file : LogFile} {position : Int}

theorem reportsOf_reached (ht : a.store.tracking = some t)
    (h : (reached file position).Calls a calls) : reportsOf calls = [true] := by
  simp only [Calls, ht] at h
  obtain ⟨posts, report, rfl, hposts, hreport⟩ := h
  rw [reportsOf_append, hposts.reportsOf_eq, hreport.reportsOf_eq, List.nil_append]

theorem reportsOf_left (ht : a.store.tracking = some t) (h : (left file position).Calls a calls)
    (hknown : ∀ call ∈ calls, call.role = .status → Known call.answer) :
    reportsOf calls = [false] := by
  simp only [Calls, ht] at h
  obtain ⟨posts, report, rfl, hposts, hreport⟩ := h
  have hsilent : reportsOf posts = [] := by
    by_cases hpos : 0 < position
    · rw [if_pos hpos] at hposts
      exact hposts.reportsOf_eq
    · rw [if_neg hpos] at hposts
      rw [hposts, reportsOf_nil]
  have hreported : reportsOf report = [false] :=
    hreport.reportsOf_eq fun call hcall => hknown call (List.mem_append_right _ hcall)
  rw [reportsOf_append, hsilent, hreported, List.nil_append]

end Occasion

/-- Steps that go with calls lose no line. -/
theorem any_losesLine_of_served (h : ∀ s ∈ new, s.IsServed) : new.any Step.losesLine = false := by
  refine List.any_eq_false.2 fun s hs hlost => ?_
  have hserved := h s hs
  unfold Step.losesLine at hlost
  split at hlost
  · exact hserved
  · cases hlost

namespace Controller

variable {c : Controller} {r : Record} {x : Except RunFault Directive × Controller}

/-! ### From one event to the next -/

/-- What holds while an event is waited for. -/
structure Watches (c : Controller) (j : List Step) : Prop where
  /-- The session may end. -/
  endable : c.state.allows .ending = true
  /-- There is a session. -/
  active : c.active.isSome
  /-- No line was lost. -/
  kept : j.any Step.losesLine = false
  /-- All reports tell of a connection. -/
  connected : ∀ b ∈ reportsOf (serviceCalls j), b = true
  /-- There are none before records are read. -/
  streaming : c.state = .streaming ∨ reportsOf (serviceCalls j) = []

/-- What holds while a session is to be resumed. -/
def Freed (c : Controller) (j : List Step) : Prop :=
  Watches c j ∧ reportsOf (serviceCalls j) = []

/-- A session that has reported a connection, and whose calls did not fail, has reported at last
that the connection has ended exactly if no line was lost. -/
def Told (j : List Step) : Prop :=
  Reliable j → true ∈ reportsOf (serviceCalls j) →
    ((reportsOf (serviceCalls j)).getLast? = some false ↔ j.any Step.losesLine = false)

theorem told_of_unreported (h : reportsOf (serviceCalls j) = []) : Told j := by
  intro _ hconnected
  rw [h] at hconnected
  cases hconnected

/-- Where no records are read, nothing has been reported. -/
theorem Watches.unreported (h : Watches c j) (hstate : c.state ≠ .streaming) :
    reportsOf (serviceCalls j) = [] := h.streaming.resolve_left hstate

/-- Steps without calls, and without a line that is lost, leave everything as it is. -/
theorem Watches.after (h : Watches c past) (hcalls : serviceCalls j = serviceCalls past)
    (hkept : j.any Step.losesLine = past.any Step.losesLine) : Watches c j where
  endable := h.endable
  active := h.active
  kept := hkept.trans h.kept
  connected := by
    rw [hcalls]
    exact h.connected
  streaming := by
    rw [hcalls]
    exact h.streaming

/-- A session that is broken off by a line that is lost tells nothing of it. -/
theorem Watches.told_of_lost (h : Watches c past) (hcalls : serviceCalls j = serviceCalls past)
    (hlost : j.any Step.losesLine = true) : Told j := by
  intro _ _
  refine iff_of_false (fun hlast => ?_) (by simp [hlost])
  rw [hcalls] at hlast
  cases h.connected false (List.mem_of_getLast? hlast)

/-- A session that is left tells that the connection has ended. -/
theorem told_of_left {file : LogFile} {position : Int} (ht : a.store.tracking = some t)
    (hkept : past.any Step.losesLine = false) (hserved : ∀ s ∈ new, s.IsServed)
    (hcalls : (Occasion.left file position).Calls a (serviceCalls new)) : Told (new ++ past) := by
  intro hreliable _
  have hknown : ∀ call ∈ serviceCalls new, call.role = .status → Known call.answer := by
    intro call hcall
    refine hreliable call ?_
    rw [serviceCalls_append]
    exact List.mem_append_right _ hcall
  have hleft : reportsOf (serviceCalls new) = [false] := Occasion.reportsOf_left ht hcalls hknown
  refine iff_of_true ?_ ?_
  · rw [serviceCalls_append, reportsOf_append, hleft, List.getLast?_append]
    rfl
  · rw [List.any_append, any_losesLine_of_served hserved, hkept]
    rfl

/-- What holds when a session is over. -/
def Over (x : Option (Except RunFault SessionOutcome) × Controller) (j : List Step) : Prop :=
  x.1.isSome → Told j

/-- A record is dispatched, perhaps with a report behind it, or its line is lost. -/
theorem Watches.record (ht : a.store.tracking = some t) (h : Watches c past)
    (hanswered : Answered a c (.record r) x new) :
    Directs Watches Freed Over x (new ++ .received (.ok (.record r)) :: past) := by
  cases hanswered with
  | refused _ hrefused =>
    intro _
    apply told_of_unreported
    have hstate : c.state ≠ .streaming := by
      rcases hrefused with hstate | hnone
      · exact hstate
      · exact absurd h.active (by simp [hnone])
    simpa [Step.call?] using h.unreported hstate
  | lost hstate hsession hnew =>
    intro _
    cases hnew with
    | lost f hline => exact h.told_of_lost (by simp [Step.call?]) (by simp [Step.losesLine])
  | @recorded _ session new newer hstate hsession hnew hnewer =>
    let j := new ++ .received (.ok (.record r)) :: past
    have hdispatched : Watches c j := by
      cases hnew with
      | suppressed => exact h.after (by simp [j, Step.call?]) (by simp [j, Step.losesLine])
      | written => exact h.after (by simp [j, Step.call?]) (by simp [j, Step.losesLine])
    show Watches (c.recorded session r) (newer ++ new ++ .received (.ok (.record r)) :: past)
    rw [List.append_assoc]
    have hendable : (c.recorded session r).state.allows .ending = true := h.endable
    unfold Recorded at hnewer
    split at hnewer
    · obtain ⟨hserved, hcalls⟩ := hnewer
      have hreport : reportsOf (serviceCalls newer) = [true] := Occasion.reportsOf_reached ht hcalls
      refine ⟨hendable, rfl, ?_, ?_, .inl hstate⟩
      · rw [List.any_append, any_losesLine_of_served hserved]
        exact hdispatched.kept
      · rw [serviceCalls_append, reportsOf_append, hreport]
        intro b hb
        rcases List.mem_append.1 hb with hb | hb
        · exact hdispatched.connected b hb
        · exact List.mem_singleton.1 hb
    · subst hnewer
      exact ⟨hendable, rfl, hdispatched.kept, hdispatched.connected, .inl hstate⟩

/-- The end of a session. -/
theorem Watches.ended {reason : EndReason} {position : Int} (ht : a.store.tracking = some t)
    (h : Watches c past) (hanswered : Answered a c (.ended reason position) x new)
    (hs : s.losesLine = false) : Directs Watches Freed Over x (new ++ s :: past) := by
  cases hanswered with
  | unended _ _ hrefused =>
    rw [h.endable] at hrefused
    cases hrefused
  | ended hserved hcalls =>
    intro _
    refine told_of_left ht ?_ hserved hcalls
    rw [List.any_cons, hs, h.kept]
    rfl

/-- **The answer to an event** leads to the next wait or to an end that is told if no line was
lost. -/
theorem Watches.answered {answer : Except SessionFault SessionEvent}
    (ht : a.store.tracking = some t) (h : Watches c past)
    (hanswered : Answered a c (c.eventOf answer) x new) :
    Directs Watches Freed Over x (new ++ .received answer :: past) := by
  match answer, hanswered with
  | .error f, hanswered => exact h.ended ht hanswered rfl
  | .ok (.ended reason position), hanswered => exact h.ended ht hanswered rfl
  | .ok (.record r), hanswered => exact h.record ht hanswered
  | .ok .established, .established =>
    obtain ⟨hendable, hactive, hkept, hconnected, hstreaming⟩ : Watches c
        (.measured (.connection true) :: .received (.ok .established) :: past) :=
      h.after (by simp [Step.call?]) (by simp [Step.losesLine])
    exact ⟨hendable, hactive, hkept, hconnected, hstreaming⟩
  | .ok .filterAck, .acknowledged hstate =>
    have hunreported : reportsOf (serviceCalls past) = [] := by
      apply h.unreported
      rw [hstate]
      exact SessionState.noConfusion
    have hreceived : reportsOf (serviceCalls (.received (.ok .filterAck) :: past)) = [] := by
      simpa [Step.call?] using hunreported
    refine ⟨⟨rfl, h.active, ?_, ?_, .inl rfl⟩, hreceived⟩
    · simpa [Step.losesLine] using h.kept
    · rw [List.nil_append, hreceived]
      exact List.forall_mem_nil _
  | .ok .filterAck, .ignored _ => exact h.after (by simp [Step.call?]) (by simp [Step.losesLine])
  | .ok (.logSwitch file), .switched _ =>
    obtain ⟨hendable, hactive, hkept, hconnected, hstreaming⟩ : Watches c
        (.received (.ok (.logSwitch file)) :: past) :=
      h.after (by simp [Step.call?]) (by simp [Step.losesLine])
    exact ⟨hendable, by simpa using hactive, hkept, hconnected, hstreaming⟩

/-! ### Whole sessions -/

variable {σ : Type} (w : World σ)

/-- Through all events to the end. -/
theorem pump_told_triple (ht : a.store.tracking = some t) (fuel : Nat) (c : Controller) :
    Triple (.owing fun _ => True) (Watches c) (pump w a fuel c) Over := by
  have hanswered : ∀ c answer past x new, Watches c past → Answered a c (c.eventOf answer) x new →
      Directs Watches Freed Over x (new ++ .received answer :: past) :=
    fun _ _ _ _ _ h => h.answered ht
  refine pump_answered_triple w hanswered ?_ ?_ fuel c
  · rintro c answer past ⟨h, hunreported⟩
    cases answer with
    | error f =>
      intro _
      apply told_of_unreported
      simpa [Step.call?] using hunreported
    | ok _ => exact h.after (by simp [Step.call?]) (by simp [Step.losesLine])
  · intro c j _ hnone
    cases hnone

/-- Look-ups report nothing. -/
theorem reportsOf_lookUps (h : ∀ s ∈ new, s.LooksUp) :
    reportsOf (serviceCalls new) = [] := by
  refine reportsOf_eq_nil fun call hcall => ?_
  obtain ⟨s, hs, hcall⟩ := List.mem_filterMap.1 hcall
  have hserves := h s (List.mem_reverse.1 hs)
  cases s with
  | called role endpoint params answer =>
    obtain rfl := Option.some.inj hcall
    obtain rfl : params = [] := hserves
    rfl
  | _ => cases hcall

/-- From the request on. -/
theorem conduct_told_triple (ht : a.store.tracking = some t) {c : Controller}
    (hstate : c.state = .filterRegistered) (hactive : c.active.isSome) (request : SessionRequest)
    (fuel : Nat) :
    Triple (.owing fun _ => True)
      (fun j => reportsOf (serviceCalls j) = [] ∧ j.any Step.losesLine = false)
      (conduct w a fuel request c) Over := by
  refine conduct_answered_triple w hstate ?_ ?_ fun c' => pump_told_triple w ht fuel c'
  · rintro f past new ⟨-, hkept⟩ hserved hcalls _
    exact told_of_left ht hkept hserved hcalls
  · rintro answer c' past new ⟨hunreported, hkept⟩ hnew
    have hopened : reportsOf (serviceCalls (.opened request (.ok ()) :: past)) = [] := by
      simpa [Step.call?] using hunreported
    have hconnected : ∀ {j}, reportsOf (serviceCalls j) = [] →
        ∀ b ∈ reportsOf (serviceCalls j), b = true := by
      intro j hj
      rw [hj]
      exact List.forall_mem_nil _
    cases hnew with
    | unfiltered _ => exact ⟨rfl, hactive, hkept, hconnected hopened, .inl rfl⟩
    | filtered rulebase _ _ =>
      have hregistered : reportsOf (serviceCalls
          (.registered rulebase answer :: .opened request (.ok ()) :: past)) = [] := by
        simpa [Step.call?] using hunreported
      cases answer with
      | error f => exact fun _ => told_of_unreported hregistered
      | ok _ =>
        refine ⟨?_, hactive, hkept, hconnected hregistered, .inr hregistered⟩
        rw [hstate]
        rfl

/-- Whatever has happened, a session that is over has been told. -/
theorem over_runSession (ht : a.store.tracking = some t) (c : Controller) (fuel : Nat) (s : σ) :
    Over (runSession w a fuel c ⟨s, []⟩).1 (runSession w a fuel c ⟨s, []⟩).2.journal := by
  have hready := start_ready w (a := a) c ⟨s, []⟩
  obtain ⟨new, hnew, hlookUps⟩ := adds_start w (a := a) c ⟨s, []⟩
  have hunreported : reportsOf (serviceCalls new) = [] := reportsOf_lookUps hlookUps
  have hkept : new.any Step.losesLine = false :=
    any_losesLine_of_served fun s hs => (hlookUps s hs).mono fun _ _ _ _ => trivial
  rw [List.append_nil] at hnew
  rw [runSession_eq, Run.bind_apply]
  generalize start w a c ⟨s, []⟩ = prepared at hready hnew ⊢
  obtain ⟨⟨result, c₁⟩, tape⟩ := prepared
  obtain rfl : tape.journal = new := hnew
  cases result with
  | error f => exact fun _ => told_of_unreported hunreported
  | ok request =>
    obtain ⟨terms, stored, c₀, -, -, rfl⟩ := hready request rfl
    have hconduct := (conduct_told_triple w ht (c := c₀.ready a terms) rfl rfl request fuel).sound
      tape (fun _ _ _ => trivial) (Contract.kept_owing _ _) ⟨hunreported, hkept⟩
    exact hconduct.2 (Contract.kept_owing _ _)

/-- **When the end of a connection is reported.** A session has come to an end, with an outcome or
with a fault; its calls of the status service did not fail, and it has reported that the entity is
connected. The last report tells that the entity is no longer connected exactly if no line was
lost. -/
theorem disconnection_reported_iff (ht : a.store.tracking = some t) (c : Controller) (fuel : Nat)
    (s : σ) {result : Except RunFault SessionOutcome}
    (hfinished : (runSession w a fuel c ⟨s, []⟩).1.1 = some result)
    (hreliable : Reliable (runSession w a fuel c ⟨s, []⟩).2.journal)
    (hconnected : true ∈ reportsOf (serviceCalls (runSession w a fuel c ⟨s, []⟩).2.journal)) :
    (reportsOf (serviceCalls (runSession w a fuel c ⟨s, []⟩).2.journal)).getLast? = some false ↔
      (runSession w a fuel c ⟨s, []⟩).2.journal.any Step.losesLine = false := by
  have hover := over_runSession w ht c fuel s
  rw [Over, hfinished] at hover
  exact hover rfl hreliable hconnected

/-! ### Sessions on a stage -/

/-- An assignment under which every position is stored. -/
def everyPosition : Assignment :=
  { tracked with plan := { tracked.plan with commitInterval := 1 } }

/-- A stage with a service that remembers posts, a sink that takes so many lines, and one session
of some events. -/
def limited (lines : Option Nat) (events : List SessionEvent) : Stage :=
  { failing events with sink := .memory ⟨[], lines⟩ }

/-- What becomes of a session of some events, every position of which is stored. -/
@[irreducible]
def storing (lines : Option Nat) (events : List SessionEvent) :
    (Option (Except RunFault SessionOutcome) × Controller) × Tape Stage :=
  runSession Stage.world everyPosition (events.length + 1) initial ⟨limited lines events, []⟩

/-- A session of two records that is ended by its collaborator. -/
def endedRun : (Option (Except RunFault SessionOutcome) × Controller) × Tape Stage :=
  storing none [.established, .record ⟨1, []⟩, .record ⟨2, []⟩, .ended .endByApplication 2]

/-- A session of two records, the second of which cannot be written. -/
def brokenRun : (Option (Except RunFault SessionOutcome) × Controller) × Tape Stage :=
  storing (some 1) [.established, .record ⟨1, []⟩, .record ⟨2, []⟩]

/-- A session that is ended leaves the entity reported as disconnected. -/
theorem disconnection_reported_iff_ended :
    everyPosition.store.tracking = some ⟨"fw1", "app"⟩ ∧
      endedRun.1.1 = some (.ok (.terminated .endByApplication)) ∧
      Reliable endedRun.2.journal ∧ true ∈ reportsOf (serviceCalls endedRun.2.journal) ∧
      (reportsOf (serviceCalls endedRun.2.journal)).getLast? = some false := by
  have hfinished : endedRun.1.1 = some (.ok (.terminated .endByApplication)) := by decide +kernel
  have hreliable : Reliable endedRun.2.journal := by decide +kernel
  have hconnected : true ∈ reportsOf (serviceCalls endedRun.2.journal) := by decide +kernel
  have hkept : endedRun.2.journal.any Step.losesLine = false := by decide +kernel
  refine ⟨rfl, hfinished, hreliable, hconnected, ?_⟩
  rw [endedRun, storing] at *
  exact (disconnection_reported_iff Stage.world rfl initial _ _ hfinished hreliable hconnected).2
    hkept

/-- **The end that is not reported.** The sink takes no second line; the session is over, and the
only report is that the entity is connected. -/
theorem disconnection_unreported_broken :
    everyPosition.store.tracking = some ⟨"fw1", "app"⟩ ∧
      (∃ f, brokenRun.1.1 = some (.error f)) ∧ brokenRun.1.2.state = .terminated ∧
      Reliable brokenRun.2.journal ∧ reportsOf (serviceCalls brokenRun.2.journal) = [true] := by
  have hfault : (brokenRun.1.1.bind faultOf?).isSome = true := by decide +kernel
  refine ⟨rfl, ?_, by decide +kernel, by decide +kernel, by decide +kernel⟩
  obtain ⟨f, hf⟩ := Option.isSome_iff_exists.1 hfault
  obtain ⟨result, hresult, hfault⟩ := Option.bind_eq_some_iff.1 hf
  exact ⟨f, hresult.trans (congrArg some (faultOf?_eq_some_iff.1 hfault))⟩

end Controller

end LogCollector
