import LogCollector.Proofs.Collector.Startup
import LogCollector.Proofs.Session.StartingPoint

/-!
# Sessions that do not come to their end

A session of a log file may come to nothing in three ways. It is not even requested if there are no
terms for it or if the position to begin at cannot be found out (`Unstarted`). It breaks off if its
rulebase is not registered, if it is not resumed, if a line is not written, or if a record comes
while the filter is waited for; the fault is that of the step at which it breaks off (`Breaks`). Or
it goes on, and has had all the events that were allowed for.

`Ongoing` is what holds while an event is waited for, and every answer to an event leads from there
to the next wait or to an end (`Ongoing.answered`).
-/

namespace LogCollector

/-! ### Before the request -/

/-- Looking the settings up: what is found, and the steps, the latest one first. -/
inductive ParamsSource.Acquired :
    ParamsSource → Except RunFault ConnectionParams → List Step → Prop where
  /-- Nothing is asked. -/
  | unspecified : Acquired .unspecified (.ok .unspecified) []
  /-- The service is asked once. -/
  | document (role : ServiceRole) (tr : Tracking) (answer : Except StatusFault Status.Response) :
      Acquired (.document role tr) (paramsIn tr.settingsEndpoint answer)
        [.measured .called, .called role tr.settingsEndpoint [] answer]

/-- Looking up how far a log file has been read: what is found, and the steps, the latest one
first. -/
inductive Tracking.LookedUp (t : Tracking) (file : LogFile) :
    Except StatusFault (Option Int) → List Step → Prop where
  /-- The service is asked once. -/
  | asked (answer : Except StatusFault Status.Response) :
      LookedUp t file (answer.bind (Status.storedPosition (t.entry file)))
        [.measured .called, .called .status (t.entry file) [] answer]

/-- The faults for which no session is requested, with all that has been done before, the latest
step first. -/
inductive Unstarted (a : Assignment) : RunFault → List Step → Prop where
  /-- What is found in the settings makes no terms. -/
  | noTerms {found : Except RunFault ConnectionParams} {steps : List Step} {f : RunFault} :
      a.source.Acquired found steps → found.bind (SessionTerms.derive a.plan) = .error f →
      Unstarted a f steps
  /-- There are terms, but it cannot be found out how far the log file has been read. -/
  | noPosition {found : Except RunFault ConnectionParams} {steps newer : List Step}
      {terms : SessionTerms} {t : Tracking} {f : StatusFault} :
      a.source.Acquired found steps → found.bind (SessionTerms.derive a.plan) = .ok terms →
      a.store.tracking = some t → t.LookedUp a.target (.error f) newer →
      Unstarted a (.session (.resumeFailed a.target.name f.message)) (newer ++ steps)

section

variable {σ : Type} (w : World σ)

theorem ParamsSource.tells_acquire (source : ParamsSource) :
    Tells source.Acquired (source.acquire w) := by
  cases source with
  | unspecified => exact .pure .unspecified
  | document role tr =>
    rw [acquire, fetch_eq]
    refine (Tells.serve w role tr.settingsEndpoint []).map ?_
    rintro answer _ rfl
    exact .document role tr answer

theorem CheckpointStore.tells_lastPosition {s : CheckpointStore} {t : Tracking}
    (ht : s.tracking = some t) (file : LogFile) :
    Tells (t.LookedUp file) (s.lastPosition w file.fileId) := by
  rw [lastPosition_eq w ht]
  refine (Tells.serve w .status (t.entry file) []).map ?_
  rintro answer _ rfl
  exact .asked answer

/-- Where no session is requested there is a reason for it. -/
theorem Controller.tells_start_error (a : Assignment) {c : Controller}
    (hstate : c.state = .init ∨ c.state = .reconnect) :
    Tells (fun x new => ∀ f, x.1 = .error f → Unstarted a f new) (start w a c) := by
  unfold start
  rw [enter_of_state hstate]
  have hterms : Tells (fun terms new => ∃ found, a.source.Acquired found new ∧
      found.bind (SessionTerms.derive a.plan) = terms) (a.source.terms w a.plan) :=
    (a.source.tells_acquire w).map fun found new h => ⟨found, h, rfl⟩
  refine hterms.bind fun terms new hnew => ?_
  obtain ⟨found, hacquired, hfound⟩ := hnew
  cases terms with
  | error f =>
    refine .pure fun g hg => ?_
    rw [← Except.error.inj hg]
    exact .noTerms hacquired hfound
  | ok terms =>
    dsimp only
    split
    · rename_i henabled
      obtain ⟨t, ht⟩ := Option.isSome_iff_exists.1 henabled
      rw [resumePosition, bind_assoc]
      refine (a.store.tells_lastPosition w ht a.target).bind fun stored newer hnewer => ?_
      cases stored with
      | error f =>
        refine .pure fun g hg => ?_
        rw [← Except.error.inj hg]
        exact .noPosition hacquired hfound ht hnewer
      | ok stored =>
        refine .pure fun f hf => ?_
        cases hf
    · refine .pure fun f hf => ?_
      cases hf

end

/-! ### After the request -/

/-- An event was waited for. -/
def Step.isEvent : Step → Bool
  | .received _ => true
  | _ => false

/-- The filter of a session has been registered and has not been acknowledged. -/
def Unacknowledged (steps : List Step) : Prop :=
  (∃ rulebase, .registered rulebase (.ok ()) ∈ steps) ∧ .received (.ok .filterAck) ∉ steps

/-- The faults with which a session breaks off, with its steps, the latest one first. -/
inductive Breaks : RunFault → List Step → Prop where
  /-- The rulebase is not registered. -/
  | unregistered (rulebase : Filter.Rulebase) (f : SessionFault) (past : List Step) :
      Breaks (.session f) (.registered rulebase (.error f) :: past)
  /-- A record comes while the filter is waited for. -/
  | untimely (r : Record) {past : List Step} : Unacknowledged past →
      Breaks (.session (.invalidTransition SessionState.filterRegistered.name "record"))
        (.received (.ok (.record r)) :: past)
  /-- The session is not resumed. -/
  | unresumed (f : SessionFault) (past : List Step) :
      Breaks (.session f) (.resumed (.error f) :: past)
  /-- A line is not written. -/
  | unwritten (line : String) (f : SinkFault) (past : List Step) :
      Breaks (.sink f) (.measured .writeFailed :: .wrote line (.error f) :: past)

/-- A session of a log file has been opened, is the only one that the steps tell of, and has not
ended. -/
def IsOpened (target : LogFile) (steps : List Step) : Prop :=
  ∃ established, sessionRecords steps = [⟨target, established, none⟩]

variable {steps new past : List Step}

/-- Steps that tell nothing of sessions leave a session open. -/
theorem IsOpened.append {target : LogFile} (h : IsOpened target past)
    (hnew : ∀ s ∈ new, s.OffRecord) : IsOpened target (new ++ past) := by
  obtain ⟨established, hrecords⟩ := h
  exact ⟨established, (sessionRecords_append hnew past).trans hrecords⟩

theorem IsOpened.cons {target : LogFile} {s : Step} (h : IsOpened target past)
    (hs : s.OffRecord) : IsOpened target (s :: past) :=
  @append [s] past target h (List.forall_mem_singleton.2 hs)

theorem Unacknowledged.cons {s : Step} (h : Unacknowledged past)
    (hs : s ≠ .received (.ok .filterAck)) : Unacknowledged (s :: past) := by
  obtain ⟨⟨rulebase, hregistered⟩, hnone⟩ := h
  exact ⟨⟨rulebase, List.mem_cons_of_mem s hregistered⟩,
    List.not_mem_cons_of_ne_of_not_mem hs.symm hnone⟩

namespace Controller

variable {a : Assignment} {before : Bool} {c : Controller}
  {x : Except RunFault Directive × Controller} {events : Nat}

/-- What holds of a session while an event is waited for, given whether one has been established
before it. -/
structure Ongoing (a : Assignment) (before : Bool) (c : Controller) (steps : List Step) : Prop where
  /-- The session has been opened and has not ended. -/
  record : OnRecord a before [] c steps
  /-- The controller knows of it. -/
  active : c.active.isSome
  /-- Its filter is waited for, or its records are. -/
  phase : c.state = .filterRegistered ∧ Unacknowledged steps ∨ c.state = .streaming

/-- What a requested session comes to with its steps: it ends, and the controller may begin again if
another one is called for; or it breaks off; or it goes on and has had so many events. -/
def ComesTo (a : Assignment) (before : Bool) (events : Nat)
    (x : Option (Except RunFault SessionOutcome) × Controller) (steps : List Step) : Prop :=
  match x.1 with
  | some (.ok outcome) =>
    SessionEnded a.target before [] outcome x.2.established (sessionRecords steps) ∧
      ∀ reason, outcome = .reconnect reason → x.2.state = .reconnect
  | some (.error f) => IsOpened a.target steps ∧ Breaks f steps
  | none => IsOpened a.target steps ∧ events ≤ steps.countP Step.isEvent

theorem state_conclude {reason reason' : EndReason}
    (h : (c.conclude reason).1 = .reconnect reason') :
    (c.conclude reason).2.state = .reconnect := by
  unfold conclude at h ⊢
  split
  · rfl
  · rename_i hno
    rw [if_neg hno] at h
    cases h

theorem OnRecord.isOpened (h : OnRecord a before [] c past) : IsOpened a.target past := by
  obtain ⟨established, hrecords, -⟩ := h
  exact ⟨established, hrecords⟩

theorem Ongoing.allows_ending (h : Ongoing a before c past) : c.state.allows .ending = true := by
  obtain ⟨hstate, -⟩ | hstate := h.phase
  · rw [hstate]
    rfl
  · rw [hstate]
    rfl

/-- The end of a session, however it came about. -/
theorem Ongoing.ended {reason : EndReason} {position : Int} (h : Ongoing a before c past)
    (hanswered : Answered a c (.ended reason position) x new)
    (hrecord : Directs (OnRecord a before []) (OnRecord a before []) (PutOnRecord a before []) x
      steps) :
    Directs (Ongoing a before) (Ongoing a before) (ComesTo a before events) x steps := by
  cases hanswered with
  | unended _ _ hnot =>
    rw [h.allows_ending] at hnot
    cases hnot
  | ended => exact ⟨hrecord _ rfl, fun _ => state_conclude⟩

/-- **An event leads from one wait to the next**, or to what the session comes to. -/
theorem Ongoing.answered {answer : Except SessionFault SessionEvent} (h : Ongoing a before c past)
    (hanswered : Answered a c (c.eventOf answer) x new) :
    Directs (Ongoing a before) (Ongoing a before) (ComesTo a before events) x
      (new ++ .received answer :: past) := by
  have hrecord := h.record.answered hanswered
  match answer, hanswered with
  | .error f, hanswered => exact h.ended hanswered hrecord
  | .ok (.ended reason position), hanswered => exact h.ended hanswered hrecord
  | .ok .established, .established =>
    exact ⟨hrecord, h.active, h.phase.imp_left fun ⟨hstate, hnone⟩ =>
      ⟨hstate, (hnone.cons (s := .received (.ok .established)) nofun).cons
        (s := .measured (.connection true)) nofun⟩⟩
  | .ok .filterAck, .acknowledged _ => exact ⟨hrecord, h.active, .inr rfl⟩
  | .ok .filterAck, .ignored hnot =>
    exact ⟨hrecord, h.active, .inr (h.phase.resolve_left fun hheld => hnot hheld.1)⟩
  | .ok (.logSwitch file), .switched _ =>
    refine ⟨hrecord, ?_, h.phase.imp_left fun ⟨hstate, hnone⟩ => ⟨hstate, hnone.cons nofun⟩⟩
    rw [Option.isSome_map]
    exact h.active
  | .ok (.record r), .refused _ hrefused =>
    refine ⟨h.record.isOpened.cons fun _ => rfl, ?_⟩
    obtain ⟨hstate, hnone⟩ | hstate := h.phase
    · rw [hstate]
      exact .untimely r hnone
    · -- A session whose records are waited for refuses none.
      obtain hnot | hinactive := hrefused
      · exact absurd hstate hnot
      · have hactive := h.active
        rw [hinactive] at hactive
        cases hactive
  | .ok (.record r), .lost _ _ hnew =>
    have hreceived : IsOpened a.target (.received (.ok (.record r)) :: past) :=
      h.record.isOpened.cons fun _ => rfl
    refine ⟨hreceived.append hnew.offRecord, ?_⟩
    cases hnew with
    | lost _ hline => exact .unwritten _ _ _
  | .ok (.record r), .recorded hstate _ hnew hnewer => exact ⟨hrecord, rfl, .inr hstate⟩

variable {σ : Type} (w : World σ)

/-- **What a session comes to** from any wait for an event on. -/
theorem tells_pump {fuel : Nat} (h : Ongoing a before c past)
    (hevents : events ≤ fuel + past.countP Step.isEvent) :
    Tells (fun x newer => ComesTo a before events x (newer ++ past)) (pump w a fuel c) := by
  induction fuel generalizing c past with
  | zero =>
    rw [Nat.zero_add] at hevents
    exact .pure ⟨h.record.isOpened, hevents⟩
  | succ fuel ih =>
    refine .demand_bind fun answer => (tells_handle w c _).bind fun ⟨result, c'⟩ new hnew => ?_
    have hdirects : Directs (Ongoing a before) (Ongoing a before) (ComesTo a before events)
      (result, c') (new ++ .received answer :: past) := h.answered hnew
    have hmore : events ≤ fuel + (new ++ Step.received answer :: past).countP Step.isEvent := by
      rw [List.countP_append, List.countP_cons_of_pos rfl]
      omega
    simp only [List.append_assoc, List.singleton_append]
    cases result with
    | error f => exact .pure hdirects
    | ok directive =>
      cases directive with
      | proceed => exact ih hdirects hmore
      | resume =>
        refine .demand_bind fun answer' => ?_
        simp only [List.append_assoc, List.singleton_append]
        obtain ⟨hrecord, hactive, hphase⟩ := hdirects
        cases answer' with
        | error f => exact .pure ⟨hrecord.isOpened.cons fun _ => rfl, .unresumed f _⟩
        | ok _ =>
          refine ih ⟨hrecord, hactive, hphase.imp_left fun ⟨hstate, hnone⟩ => ?_⟩ hmore
          exact ⟨hstate, hnone.cons Step.noConfusion⟩
      | finish outcome => exact .pure hdirects

/-- What follows the request for a session. -/
theorem tells_conduct (terms : SessionTerms) (position : StartPosition) (c : Controller)
    (fuel : Nat) (h : ∀ s ∈ past, s.IsAside) :
    Tells (fun x newer => ComesTo a c.established fuel x (newer ++ past))
      (conduct w a fuel (requestFor a terms position) (c.ready a terms)) := by
  have haside : sessionRecords past = [] := sessionRecords_eq_nil fun s hs => (h s hs).offRecord
  refine .demand_bind fun answer => ?_
  cases answer with
  | error f =>
    refine (tells_finish w rfl .unableToAttachComm 0).bind fun x new hended => .pure ?_
    obtain ⟨hserved, rfl, -⟩ := hended
    rw [List.nil_append, List.append_assoc, List.singleton_append]
    exact ⟨sessionEnded_unopened terms position f haside hserved, fun _ => state_conclude⟩
  | ok _ =>
    have hopened : OnRecord a c.established [] (c.ready a terms)
        (.opened (requestFor a terms position) (.ok ()) :: past) :=
      onRecord_opened terms position haside
    refine (tells_attach w rfl).bind fun attached new hnew => ?_
    obtain ⟨result, c'⟩ := attached
    obtain ⟨answer, hanswer, hnew⟩ := hnew
    simp only [List.append_assoc, List.singleton_append]
    cases hnew with
    | unfiltered =>
      cases hanswer
      exact tells_pump w ⟨hopened, rfl, .inr rfl⟩ (Nat.le_add_right _ _)
    | filtered rulebase answer =>
      cases answer with
      | error f =>
        cases hanswer
        exact .pure ⟨hopened.isOpened.cons fun _ => rfl, .unregistered rulebase f _⟩
      | ok _ =>
        cases hanswer
        refine tells_pump w ⟨hopened, rfl, .inl ⟨rfl, ⟨rulebase, List.mem_cons_self⟩, ?_⟩⟩
          (Nat.le_add_right _ _)
        rintro (_ | ⟨_, _ | ⟨_, hmem⟩⟩)
        exact h _ hmem

/-- **What a session comes to**: it is not requested, or it does not come to its end, or it ends. -/
theorem tells_runSession (a : Assignment) (fuel : Nat)
    (hstate : c.state = .init ∨ c.state = .reconnect) :
    Tells (fun x steps => (∃ f, x.1 = some (.error f) ∧ Unstarted a f steps) ∨
      ComesTo a c.established fuel x steps) (runSession w a fuel c) := by
  rw [runSession_eq]
  have hstart := (((tells_start_error w a hstate).and_adds (adds_start_aside w c)).and_yields
    (start_established w a c)).and_yields (start_spec w a c)
  refine hstart.bind fun ⟨result, c₁⟩ new ⟨hspec, hestablished, haside, hunstarted⟩ => ?_
  cases result with
  | error f => exact .pure (.inl ⟨f, rfl, hunstarted f rfl⟩)
  | ok request =>
    obtain ⟨terms, stored, c', rfl, rfl⟩ := hspec request rfl
    rw [← hestablished]
    exact (tells_conduct w terms _ c' fuel haside).mono fun _ _ h => .inr h

end Controller

end LogCollector
