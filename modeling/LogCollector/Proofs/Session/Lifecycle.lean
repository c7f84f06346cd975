import LogCollector.Proofs.Run.Operations
import LogCollector.Stage.World
import Mathlib.Logic.Relation

/-!
# The life of a controller

Between two calls a controller rests (`Rests`): it neither looks up a position nor winds a
session up, and it has a session exactly while it waits for the acknowledgement of a filter or
reads records. Every call leads from rest to rest (`Leads`) along allowed changes of the state,
also when it fails in the middle, and a call that the state does not allow changes nothing.

Calls come one after another, each in a world of its own (`Reachable`).
-/

namespace LogCollector

/-- An allowed way from one state to another. -/
abbrev SessionState.Path : SessionState → SessionState → Prop :=
  Relation.ReflTransGen fun s s' => s.allows s' = true

/-- The end of a target is never left. -/
theorem SessionState.Path.eq_of_terminated {s : SessionState} (h : Path .terminated s) :
    s = .terminated := by
  induction h with
  | refl => rfl
  | tail _ hs ih =>
    subst ih
    cases hs

/-- The fault of a call that the state does not allow. -/
def RunFault.IsInvalid (f : RunFault) : Prop :=
  ∃ source event, f = .session (.invalidTransition source event)

/-- A step at the sink. -/
def Step.atSink : Step → Bool
  | .wrote _ _ | .flushed _ => true
  | _ => false

namespace Controller

open SessionState (Path)

/-! ### Rest -/

/-- A controller between two calls. -/
structure Rests (c : Controller) : Prop where
  /-- It is not in the middle of something. -/
  settled : c.state ≠ .resuming ∧ c.state ≠ .ending
  /-- It has a session in two states only. -/
  active_iff : c.active.isSome ↔ c.state = .filterRegistered ∨ c.state = .streaming

/-- From one controller to another that rests. -/
structure Leads (c c' : Controller) : Prop where
  /-- The other one rests. -/
  rests : c'.Rests
  /-- The states between the two. -/
  path : Path c.state c'.state

theorem rests_initial : Rests initial := ⟨by decide, by decide⟩

variable {c c' c'' : Controller}

theorem Rests.leads (h : c.Rests) : Leads c c := ⟨h, .refl⟩

theorem Leads.trans (h : Leads c c') (h' : Leads c' c'') : Leads c c'' :=
  ⟨h'.rests, h.path.trans h'.path⟩

/-- A controller that has changed its state before it leads on. -/
theorem Leads.after {s : SessionState} (hs : Path c.state s) (hs' : c'.state = s)
    (h : Leads c' c'') : Leads c c'' := by
  subst hs'
  exact ⟨h.rests, hs.trans h.path⟩

/-- A session can be wound up. -/
theorem Rests.allows_ending (h : c.Rests) (hactive : c.active.isSome) :
    c.state.allows .ending = true := by
  obtain hs | hs := h.active_iff.1 hactive
  · rw [hs]
    rfl
  · rw [hs]
    rfl

/-! ### Changes of the state -/

/-- A change of the state is either allowed or the fault of the call. -/
theorem moveTo_cases (c : Controller) (next : SessionState) :
    c.state.allows next = true ∧ c.moveTo next = .ok { c with state := next } ∨
      c.moveTo next = .error (.invalidTransition c.state.name next.name) := by
  unfold moveTo
  split
  · rename_i h
    exact .inl ⟨h, rfl⟩
  · exact .inr rfl

/-- Another session begins at rest or is refused. -/
theorem enter_cases (c : Controller) :
    Path c.state .init ∧ c.enter = .ok { c with state := .init, active := none } ∨
      ∃ source event, c.enter = .error (.invalidTransition source event) := by
  unfold enter
  split
  · rename_i h
    refine .inl ⟨?_, ?_⟩
    · rw [h]
    · rw [← h]
  · obtain ⟨hallows, hmove⟩ | hmove := moveTo_cases c .init
    · refine .inl ⟨.single hallows, ?_⟩
      rw [hmove]
      rfl
    · refine .inr ⟨c.state.name, SessionState.init.name, ?_⟩
      rw [hmove]
      rfl

/-- The state after a fault is the end, or the one between two sessions. -/
theorem state_abort (c : Controller) :
    c.abort.state = .terminated ∨ c.abort.state = .reconnect := by
  unfold abort
  cases c.state <;> simp [SessionState.allows]

/-- After a fault a controller rests. -/
theorem leads_abort (c : Controller) : Leads c c.abort := by
  have hactive : c.abort.active = none := rfl
  refine ⟨⟨?_, ?_⟩, ?_⟩
  · obtain h | h := state_abort c <;> rw [h] <;> decide
  · obtain h | h := state_abort c <;> rw [h, hactive] <;> decide
  · unfold abort
    dsimp only
    split
    · rename_i h
      exact .single h
    · exact .refl

/-! ### The parts of a session -/

variable {σ : Type} (w : World σ) (a : Assignment)

/-- A session about to be opened. -/
theorem rests_ready (c : Controller) (terms : SessionTerms) : (c.ready a terms).Rests :=
  ⟨⟨SessionState.noConfusion, SessionState.noConfusion⟩, iff_of_true rfl (.inl rfl)⟩

theorem leads_ready (terms : SessionTerms) (h : Path c.state .filterRegistered) :
    Leads c (c.ready a terms) := ⟨rests_ready a c terms, h⟩

/-- Before a session is opened. -/
theorem leads_start (h : c.Rests) : Yields (fun r => Leads c r.2) (start w a c) := by
  unfold start
  obtain ⟨hinit, henter⟩ | ⟨source, event, henter⟩ := enter_cases c
  · rw [henter]
    refine .next fun terms => ?_
    cases terms with
    | error f => exact .pure (.after hinit rfl (leads_abort _))
    | ok terms =>
      dsimp only
      split
      · have hresuming : Path c.state .resuming := hinit.tail rfl
        refine .next fun stored => ?_
        cases stored with
        | error f => exact .pure (.after hresuming rfl (leads_abort _))
        | ok stored => exact .pure (.after hresuming rfl (leads_ready a terms (.single rfl)))
      · exact .pure (.after hinit rfl (leads_ready a terms (.single rfl)))
  · rw [henter]
    exact .pure h.leads

/-- A prepared session has the request and the controller that its terms come to. -/
theorem start_spec (c : Controller) : Yields (fun r => ∀ request, r.1 = .ok request →
    ∃ terms stored c', request = requestFor a terms (startFor terms.online stored) ∧
      r.2 = ready c' a terms) (start w a c) := by
  have hnone : ∀ (f : RunFault) (request : SessionRequest), Except.error f = .ok request → False :=
    fun _ _ h => nomatch h
  unfold start
  obtain ⟨-, henter⟩ | ⟨source, event, henter⟩ := enter_cases c
  · rw [henter]
    refine .next fun terms => ?_
    cases terms with
    | error f => exact .pure fun _ h => (hnone _ _ h).elim
    | ok terms =>
      dsimp only
      split
      · refine .next fun stored => ?_
        cases stored with
        | error f => exact .pure fun _ h => (hnone _ _ h).elim
        | ok stored =>
          refine .pure fun request h =>
            ⟨terms, stored, { c with state := .resuming, active := none }, ?_, rfl⟩
          exact (Except.ok.inj h).symm
      · refine .pure fun request h =>
          ⟨terms, none, { c with state := .init, active := none }, ?_, rfl⟩
        exact (Except.ok.inj h).symm
  · rw [henter]
    exact .pure fun _ h => (hnone _ _ h).elim

/-- Registering the filter leaves the session as it is. -/
theorem attach_active (c : Controller) : Yields (fun r => r.2.active = c.active) (attach w c) := by
  unfold attach
  cases c.pending with
  | some rulebase => exact .next fun _ => .pure rfl
  | none =>
    obtain ⟨-, hmove⟩ | hmove := moveTo_cases c .streaming
    · rw [hmove]
      exact .pure rfl
    · rw [hmove]
      exact .pure rfl

theorem leads_attach (h : c.Rests) : Yields (fun r => Leads c r.2) (attach w c) := by
  unfold attach
  cases c.pending with
  | some rulebase => exact .next fun _ => .pure ⟨⟨h.settled, h.active_iff⟩, .refl⟩
  | none =>
    obtain ⟨hallows, hmove⟩ | hmove := moveTo_cases c .streaming
    · rw [hmove]
      -- Only a session that waits for its filter may begin to stream.
      have hstate : c.state = .filterRegistered := by
        cases hs : c.state <;> rw [hs] at hallows <;> first | rfl | cases hallows
      have hactive := h.active_iff.2 (.inl hstate)
      exact .pure ⟨⟨⟨SessionState.noConfusion, SessionState.noConfusion⟩,
        iff_of_true hactive (.inr rfl)⟩, .single hallows⟩
    · rw [hmove]
      exact .pure h.leads

theorem leads_onRecord (h : c.Rests) (r : Record) :
    Yields (fun r => Leads c r.2) (onRecord w a c r) := by
  unfold onRecord
  cases hactive : c.active with
  | none => exact .pure h.leads
  | some session =>
    have hsome : c.state = .filterRegistered ∨ c.state = .streaming :=
      h.active_iff.1 (by rw [hactive]; rfl)
    have hrests : Leads c { c with active := some { session with lastPosition := r.position } } :=
      ⟨⟨h.settled, iff_of_true rfl hsome⟩, .refl⟩
    refine .next fun result => ?_
    cases result with
    | error f => exact .pure h.leads
    | ok _ =>
      dsimp only
      split
      · exact .next fun _ => .next fun _ => .pure hrests
      · exact .pure hrests

/-- Winding a session up is either refused or ends the session, whatever comes of the calls. -/
theorem finish_spec (c : Controller) (reason : EndReason) (position : Int) :
    finish w a c reason position =
        pure (.error (.session (.invalidTransition c.state.name SessionState.ending.name)), c) ∨
      c.state.allows .ending = true ∧ Yields
        (fun r => r = (.ok (c.conclude reason).1, (c.conclude reason).2))
        (finish w a c reason position) := by
  rw [finish_eq]
  split
  · rename_i hallows
    refine .inr ⟨hallows, .next fun _ => ?_⟩
    split
    · split
      · exact .next fun _ => .next fun _ => .next fun _ => .pure rfl
      · exact .next fun _ => .next fun _ => .pure rfl
    · exact .next fun _ => .pure rfl
  · exact .inl rfl

theorem leads_conclude (reason : EndReason) (hallows : c.state.allows .ending = true) :
    Leads c (c.conclude reason).2 := by
  unfold conclude
  split
  · exact ⟨⟨⟨SessionState.noConfusion, SessionState.noConfusion⟩, by simp⟩,
      .tail (.single hallows) rfl⟩
  · exact ⟨⟨⟨SessionState.noConfusion, SessionState.noConfusion⟩, by simp⟩,
      .tail (.single hallows) rfl⟩

theorem leads_finish (h : c.Rests) (reason : EndReason) (position : Int) :
    Yields (fun r => Leads c r.2) (finish w a c reason position) := by
  obtain hrefused | ⟨hallows, hfinish⟩ := finish_spec w a c reason position
  · rw [hrefused]
    exact .pure h.leads
  · refine hfinish.mono fun r hr => ?_
    rw [hr]
    exact leads_conclude reason hallows

theorem leads_handle (h : c.Rests) (event : SessionEvent) :
    Yields (fun r => Leads c r.2) (handle w a c event) := by
  cases event with
  | established => exact .next fun _ => .pure ⟨⟨h.settled, h.active_iff⟩, .refl⟩
  | filterAck =>
    unfold handle
    dsimp only
    split
    · rename_i hstate
      have hactive := h.active_iff.2 (.inl hstate)
      refine .pure ⟨⟨⟨SessionState.noConfusion, SessionState.noConfusion⟩,
        iff_of_true hactive (.inr rfl)⟩, .single ?_⟩
      rw [hstate]
      rfl
    · exact .pure h.leads
  | record r =>
    unfold handle
    dsimp only
    split
    · exact (leads_onRecord w a h r).bind fun _ hr => .pure hr
    · exact .pure h.leads
  | logSwitch file =>
    refine .pure ⟨⟨h.settled, ?_⟩, .refl⟩
    rw [Option.isSome_map]
    exact h.active_iff
  | ended reason position => exact (leads_finish w a h reason position).bind fun _ hr => .pure hr

/-! ### Whole sessions and calls -/

theorem leads_pump (fuel : Nat) (h : c.Rests) :
    Yields (fun r => Leads c r.2) (pump w a fuel c) := by
  induction fuel generalizing c with
  | zero => exact .pure h.leads
  | succ fuel ih =>
    refine .next fun answer => (leads_handle w a h _).bind fun ⟨result, c'⟩ hlead => ?_
    have habort : Leads c c'.abort := hlead.trans (leads_abort c')
    have hrest : Yields (fun r => Leads c r.2) (pump w a fuel c') :=
      (ih hlead.rests).mono fun _ => hlead.trans
    cases result with
    | error f => exact .pure habort
    | ok directive =>
      cases directive with
      | proceed => exact hrest
      | resume =>
        refine .next fun answer => ?_
        cases answer with
        | error f => exact .pure habort
        | ok _ => exact hrest
      | finish outcome => exact .pure hlead

theorem leads_runSession (fuel : Nat) (h : c.Rests) :
    Yields (fun r => Leads c r.2) (runSession w a fuel c) := by
  refine (leads_start w a h).bind fun ⟨result, c₁⟩ h₁ => ?_
  cases result with
  | error f => exact .pure h₁
  | ok request =>
    refine .next fun answer => ?_
    cases answer with
    | error f => exact (leads_finish w a h₁.rests _ _).bind fun _ hr => .pure (h₁.trans hr)
    | ok _ =>
      refine (leads_attach w h₁.rests).bind fun ⟨result, c₂⟩ h₂ => ?_
      cases result with
      | error f => exact .pure (h₁.trans (h₂.trans (leads_abort c₂)))
      | ok _ => exact (leads_pump w a fuel h₂.rests).mono fun _ hr => h₁.trans (h₂.trans hr)

/-- A call of a controller. -/
inductive Call where
  /-- A session is prepared. -/
  | start
  /-- The filter is registered with the session. -/
  | attach
  /-- An event is answered. -/
  | handle (event : SessionEvent)
  /-- A whole session of at most so many events. -/
  | run (fuel : Nat)

/-- The fault of a result. -/
def faultOf? {α : Type} : Except RunFault α → Option RunFault
  | .error f => some f
  | .ok _ => none

theorem faultOf?_eq_some_iff {α : Type} {r : Except RunFault α} {f : RunFault} :
    faultOf? r = some f ↔ r = .error f := by
  cases r with
  | error g => simp [faultOf?]
  | ok x => simp [faultOf?]

/-- Makes a call; the result is its fault, if any, and the controller afterwards. -/
def perform (c : Controller) : Call → Run σ (Option RunFault × Controller)
  | .start => do
    let (result, c) ← start w a c
    return (faultOf? result, c)
  | .attach => do
    let (result, c) ← attach w c
    return (faultOf? result, c)
  | .handle event => do
    let (result, c) ← handle w a c event
    return (faultOf? result, c)
  | .run fuel => do
    let (result, c) ← runSession w a fuel c
    return (result.bind faultOf?, c)

theorem leads_perform (h : c.Rests) (call : Call) :
    Yields (fun r => Leads c r.2) (perform w a c call) := by
  cases call with
  | start => exact (leads_start w a h).bind fun _ hr => .pure hr
  | attach => exact (leads_attach w h).bind fun _ hr => .pure hr
  | handle event => exact (leads_handle w a h event).bind fun _ hr => .pure hr
  | run fuel => exact (leads_runSession w a fuel h).bind fun _ hr => .pure hr

/-- The controllers that some calls lead to, each call in a world of its own. -/
inductive Reachable (a : Assignment) : Controller → Prop where
  /-- No call has been made. -/
  | initial : Reachable a initial
  /-- One more call. -/
  | call {σ : Type} (w : World σ) (t : Tape σ) {c : Controller} (call : Call) :
    Reachable a c → Reachable a (perform w a c call t).1.2

theorem Reachable.rests {a : Assignment} (h : Reachable a c) : c.Rests := by
  induction h with
  | initial => exact rests_initial
  | call w t call _ ih => exact (leads_perform w a ih call t).rests

/-! ### Calls that the state does not allow -/

/-- The result does not tell of a call that the state does not allow. -/
def Valid {α : Type} (r : Except RunFault α) : Prop := ∀ f, r = .error f → ¬ f.IsInvalid

theorem Valid.ok {α : Type} {x : α} : Valid (.ok x) := fun _ h => nomatch h

theorem Valid.error {α : Type} {f : RunFault} (h : ∀ g, f ≠ .session g) :
    Valid (.error f : Except RunFault α) := by
  rintro f' hf ⟨source, event, hinvalid⟩
  rw [← Except.error.inj hf] at hinvalid
  exact h _ hinvalid

theorem Valid.bind {α β : Type} {r : Except RunFault α} {f : α → Except RunFault β} (h : Valid r)
    (hf : ∀ x, Valid (f x)) : Valid (r.bind f) := by
  cases r with
  | error f => exact fun f' hf' => h f' (congrArg Except.error (Except.error.inj hf'))
  | ok x => exact hf x

theorem Valid.mapError {ε α : Type} {r : Except ε α} {make : ε → RunFault}
    (h : ∀ e g, make e ≠ .session g) : Valid (r.mapError make) := by
  cases r with
  | error e => exact .error (h e)
  | ok x => exact .ok

/-- The terms of a session are not refused because of a state. -/
theorem valid_terms (s : ParamsSource) (plan : Plan) : Yields Valid (s.terms w plan) := by
  have hderive : ∀ params, Valid (SessionTerms.derive plan params) := by
    intro params
    refine Valid.bind (.mapError fun _ _ => RunFault.noConfusion) fun _ => ?_
    dsimp only
    split
    · exact .ok
    · exact Valid.bind (.mapError fun _ _ => RunFault.noConfusion) fun _ => .ok
  have hacquire : Yields Valid (s.acquire w) := by
    cases s with
    | unspecified => exact .pure .ok
    | document role t =>
      refine .next fun answer => ?_
      cases answer with
      | error f => exact .pure (.error fun _ => RunFault.noConfusion)
      | ok r =>
        dsimp only
        split
        · exact .pure (.mapError fun _ _ => RunFault.noConfusion)
        · exact .pure (.error fun _ => RunFault.noConfusion)
  exact hacquire.bind fun r hr => .pure (hr.bind hderive)

/-- A part of a run that the state does not allow: it fails at once and does nothing. -/
def Refuses {α : Type} (c : Controller) (m : Run σ (Except RunFault α × Controller)) : Prop :=
  ∃ f, m = pure (.error f, c)

/-- A part of a run either is refused or does not tell of a call the state does not allow. -/
def Decided {α : Type} (c : Controller) (m : Run σ (Except RunFault α × Controller)) : Prop :=
  Refuses c m ∨ Yields (fun r => Valid r.1) m

theorem decided_start (c : Controller) : Decided c (start w a c) := by
  unfold start
  obtain ⟨-, henter⟩ | ⟨source, event, henter⟩ := enter_cases c
  · right
    rw [henter]
    refine (valid_terms w a.source a.plan).bind fun terms hterms => ?_
    cases terms with
    | error f => exact .pure fun f' hf => hterms f' (congrArg Except.error (Except.error.inj hf))
    | ok terms =>
      dsimp only
      split
      · have hresume : Yields Valid (resumePosition w a) := by
          refine .next fun r => .pure ?_
          cases r with
          | error f =>
            rintro f' hf ⟨source, event, hinvalid⟩
            rw [← Except.error.inj hf] at hinvalid
            cases hinvalid
          | ok stored => exact .ok
        refine hresume.bind fun stored hstored => ?_
        cases stored with
        | error f =>
          exact .pure fun f' hf => hstored f' (congrArg Except.error (Except.error.inj hf))
        | ok stored => exact .pure .ok
      · exact .pure .ok
  · left
    rw [henter]
    exact ⟨_, rfl⟩

theorem valid_dispatch (format : LineFormat) (r : Record) : Yields Valid (dispatch w format r) := by
  refine .next fun _ => ?_
  dsimp only
  split
  · exact .next fun _ => .pure .ok
  · refine .next fun answer => ?_
    cases answer with
    | error f => exact .next fun _ => .pure (.error fun _ => RunFault.noConfusion)
    | ok _ => exact .next fun _ => .pure .ok

/-- A record of a session is written; the fault of a failing write is that of the sink. -/
theorem valid_onRecord {session : ActiveSession} (hactive : c.active = some session) (r : Record) :
    Yields (fun r => Valid r.1) (onRecord w a c r) := by
  unfold onRecord
  rw [hactive]
  refine (valid_dispatch w session.format r).bind fun result hresult => ?_
  cases result with
  | error f => exact .pure fun f' hf => hresult f' (congrArg Except.error (Except.error.inj hf))
  | ok _ =>
    dsimp only
    split
    · exact .next fun _ => .next fun _ => .pure .ok
    · exact .pure .ok

/-- An event is refused, or answered without telling of a call the state does not allow. -/
theorem decided_handle (c : Controller) (event : SessionEvent) :
    Decided c (handle w a c event) := by
  cases event with
  | established => exact .inr (.next fun _ => .pure .ok)
  | filterAck =>
    right
    unfold handle
    dsimp only
    split
    · exact .pure .ok
    · exact .pure .ok
  | record r =>
    unfold handle
    dsimp only
    split
    · cases hactive : c.active with
      | none =>
        refine .inl ⟨.session (.invalidTransition c.state.name "record"), ?_⟩
        unfold onRecord
        rw [hactive]
        rfl
      | some session =>
        exact .inr ((valid_onRecord w a hactive r).bind fun _ hr => .pure (hr.bind fun _ => .ok))
    · exact .inl ⟨_, rfl⟩
  | logSwitch file => exact .inr (.pure .ok)
  | ended reason position =>
    obtain hrefused | ⟨-, hfinish⟩ := finish_spec w a c reason position
    · left
      simp only [handle, hrefused]
      exact ⟨_, rfl⟩
    · refine .inr (hfinish.bind fun r hr => .pure ?_)
      rw [hr]
      exact .ok

/-- What a refused call leaves unchanged. -/
structure Unchanged (c c' : Controller) (t t' : Tape σ) : Prop where
  /-- The state. -/
  state : c'.state = c.state
  /-- Whether some session has been established. -/
  established : c'.established = c.established
  /-- The session with its log file and its last position. -/
  active : c'.active = c.active
  /-- What has been asked of the sink. -/
  sink : t'.journal.filter Step.atSink = t.journal.filter Step.atSink

theorem Decided.unchanged {α : Type} {m : Run σ (Except RunFault α × Controller)}
    (h : Decided c m) {t : Tape σ} {f : RunFault} (hf : faultOf? (m t).1.1 = some f)
    (hinvalid : f.IsInvalid) : Unchanged c (m t).1.2 t (m t).2 := by
  obtain ⟨g, hrefused⟩ | hvalid := h
  · rw [hrefused]
    exact ⟨rfl, rfl, rfl, rfl⟩
  · exact absurd hinvalid (hvalid t f (faultOf?_eq_some_iff.1 hf))

/-- **A single call that the state does not allow changes nothing.** -/
theorem unchanged_of_invalid {call : Call} (hcall : ∀ fuel, call ≠ .run fuel) {t : Tape σ}
    {f : RunFault} (hf : (perform w a c call t).1.1 = some f) (hinvalid : f.IsInvalid) :
    Unchanged c (perform w a c call t).1.2 t (perform w a c call t).2 := by
  cases call with
  | start => exact (decided_start w a c).unchanged hf hinvalid
  | attach =>
    cases hpending : c.pending with
    | some rulebase =>
      -- The collaborator may refuse the filter with any fault it likes.
      have hattach : attach w c = (do
          let answer ← w.registerFilter rulebase
          return (answer.mapError .session, { c with pending := none })) := by
        unfold attach
        rw [hpending]
      change Unchanged c (attach w c t).1.2 t (attach w c t).2
      rw [hattach]
      exact ⟨rfl, rfl, rfl, rfl⟩
    | none =>
      have hdecided : Decided c (attach w c) := by
        unfold attach
        rw [hpending]
        obtain ⟨-, hmove⟩ | hmove := moveTo_cases c .streaming
        · rw [hmove]
          exact .inr (.pure .ok)
        · rw [hmove]
          exact .inl ⟨_, rfl⟩
      exact hdecided.unchanged hf hinvalid
  | handle event => exact (decided_handle w a c event).unchanged hf hinvalid
  | run fuel => exact absurd rfl (hcall fuel)

/-- The fault of a record that comes without a session. -/
def sessionMissing : RunFault :=
  .session (.invalidTransition SessionState.streaming.name "record")

/-- A controller that rests has a session whenever it reads records, so no record comes without
a session. -/
theorem not_sessionMissing (h : c.Rests) (event : SessionEvent) :
    Yields (fun r => r.1 ≠ .error sessionMissing) (handle w a c event) := by
  cases event with
  | established => exact .next fun _ => .pure fun he => nomatch he
  | filterAck =>
    unfold handle
    dsimp only
    split
    · exact .pure fun he => nomatch he
    · exact .pure fun he => nomatch he
  | record r =>
    unfold handle
    dsimp only
    split
    · rename_i hstate
      obtain ⟨session, hactive⟩ := Option.isSome_iff_exists.1 (h.active_iff.2 (.inr hstate))
      refine (valid_onRecord w a hactive r).bind fun result hresult => .pure fun he => ?_
      exact (hresult.bind fun _ => .ok) _ he ⟨_, _, rfl⟩
    · rename_i hstate
      refine .pure fun he => hstate ?_
      -- Different states have different names.
      have hname : c.state.name = SessionState.streaming.name := by
        injection he with he
        injection he with he
        injection he
      cases hs : c.state <;> rw [hs] at hname <;> first | rfl | exact absurd hname (by decide)
  | logSwitch file => exact .pure fun he => nomatch he
  | ended reason position =>
    obtain hrefused | ⟨-, hfinish⟩ := finish_spec w a c reason position
    · simp only [handle, hrefused]
      refine .pure fun he => ?_
      injection he with he
      injection he with he
      injection he with _ he
      exact absurd he (by decide)
    · refine hfinish.bind fun r hr => .pure fun he => ?_
      rw [hr] at he
      cases he

/-- **The invariant of a controller.** Whatever calls were made, in whatever worlds: the
controller rests; the next call leads along allowed changes of the state and never away from
the end; and a single call that the state does not allow changes nothing. -/
theorem controller_invariant (a : Assignment) {c : Controller} (h : Reachable a c) :
    c.state ∈ [.init, .filterRegistered, .streaming, .reconnect, .terminated] ∧
    (c.active.isSome ↔ c.state = .filterRegistered ∨ c.state = .streaming) ∧
    ∀ {σ : Type} (w : World σ) (call : Call) (t : Tape σ),
      Path c.state (perform w a c call t).1.2.state ∧
      (c.state = .terminated → (perform w a c call t).1.2.state = .terminated) ∧
      ((∀ fuel, call ≠ .run fuel) → (∃ f, (perform w a c call t).1.1 = some f ∧ f.IsInvalid) →
        Unchanged c (perform w a c call t).1.2 t (perform w a c call t).2) ∧
      ∀ event, call = .handle event → (perform w a c call t).1.1 ≠ some sessionMissing := by
  have hrests := h.rests
  refine ⟨?_, hrests.active_iff, fun w call t => ?_⟩
  · obtain ⟨hresuming, hending⟩ := hrests.settled
    cases hs : c.state <;> simp_all
  · have hpath := (leads_perform w a hrests call t).path
    refine ⟨hpath, fun hterminated => ?_, ?_, ?_⟩
    · rw [hterminated] at hpath
      exact hpath.eq_of_terminated
    · rintro hcall ⟨f, hf, hinvalid⟩
      exact unchanged_of_invalid w a hcall hf hinvalid
    · rintro event rfl hfault
      refine not_sessionMissing w a hrests event t (faultOf?_eq_some_iff.1 hfault)

/-- A record that comes before the filter is acknowledged is refused. -/
theorem controller_invariant_early_record :
    let a : Assignment := ⟨{ Plan.standard .universal with legacy := true }, ⟨none⟩, .unspecified,
      ⟨"fw.log", 1⟩⟩
    let t : Tape Stage := ⟨.bare .universal 0, []⟩
    let c := (perform Stage.world a initial .start t).1.2
    let call : Call := .handle (.record ⟨0, []⟩)
    Reachable a c ∧ c.state = .filterRegistered ∧ c.active.isSome ∧
      (∃ f, (perform Stage.world a c call t).1.1 = some f ∧ f.IsInvalid) ∧
      Unchanged c (perform Stage.world a c call t).1.2 t (perform Stage.world a c call t).2 := by
  intro a t c call
  have hreach : Reachable a c := .call Stage.world t .start .initial
  have hstate : c.state = .filterRegistered := by rfl
  have hinvalid : ∃ f, (perform Stage.world a c call t).1.1 = some f ∧ f.IsInvalid :=
    ⟨_, rfl, _, _, rfl⟩
  obtain ⟨-, hactive, hcalls⟩ := controller_invariant a hreach
  obtain ⟨-, -, hunchanged, -⟩ := hcalls Stage.world call t
  exact ⟨hreach, hstate, hactive.2 (.inl hstate), hinvalid,
    hunchanged (fun _ => Call.noConfusion) hinvalid⟩

end Controller

end LogCollector
