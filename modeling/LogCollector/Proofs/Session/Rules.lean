import LogCollector.Proofs.Run.Progress
import LogCollector.Proofs.Session.Lifecycle

/-!
# Rules for sessions

What has to be shown of assertions about a session so that they hold throughout: that quiet
steps preserve them (`Stable`), that they pass from a delivered record to a dispatched one, whose
position may be stored (`onRecord_triple`), that a last position may be stored when the session is
wound up (`finish_triple`), and that answering an event leads from one wait for an event to the
next (`pump_rule`, `pump_triple`). From these parts a whole session is put together
(`runSession_triple`).
-/

namespace LogCollector

open CheckpointStore (PostsPosition)

namespace Controller

variable {σ : Type} {k : Contract} {t : Tracking} (w : World σ) (a : Assignment)

/-! ### Records -/

/-- All steps of dispatching a record but one are quiet. -/
theorem dispatch_triple {Fresh Done : List Step → Prop} (format : LineFormat) (r : Record)
    (hfresh : Stable k (Quiet t) Fresh) (hdone : Stable k (Quiet t) Done)
    (hdispatch : ∀ s j, Dispatches (format.line r) s → k.Kept j → Fresh j →
      k.guarantee (s :: j) ∧ Done (s :: j)) :
    Triple k Fresh (dispatch w format r) fun result j =>
      match result with
      | .ok () => Done j
      | .error _ => Fresh j := by
  refine (Triple.of_adds (Adds.measure nofun) hfresh).bind fun _ => ?_
  dsimp only
  split
  · have hmeasure : Triple k Fresh (Run.measure (σ := σ) .suppressed) fun _ => Done :=
      .measure fun j hk _ h => hdispatch _ j (.inr rfl) hk h
    exact hmeasure.bind fun _ => .pure fun j _ h => h
  · let R : Except SinkFault Unit → List Step → Prop := fun answer j =>
      match answer with
      | .ok () => Done j
      | .error _ => Fresh j
    have hwrite : Triple k Fresh (w.emit (format.line r)) R := by
      refine .demand fun answer j hk hr h => ?_
      cases answer with
      | error f => exact hfresh _ j hk hr nofun h
      | ok u => exact hdispatch _ j (.inl rfl) hk h
    refine hwrite.bind fun answer => ?_
    cases answer with
    | error f =>
      exact (Triple.of_adds (Adds.measure nofun) hfresh).bind fun _ => .pure fun j _ h => h
    | ok u =>
      exact (Triple.of_adds (Adds.measure nofun) hdone).bind fun _ => .pure fun j _ h => h

/-- The controller after a record of its session. -/
def recorded (c : Controller) (session : ActiveSession) (r : Record) : Controller :=
  { c with active := some { session with lastPosition := r.position } }

/-- A record is dispatched, and its position is stored if that is due. -/
theorem onRecord_triple {Fresh Done : List Step → Prop} (ht : a.store.tracking = some t)
    {c : Controller} {session : ActiveSession} (hactive : c.active = some session) (r : Record)
    (hfresh : Stable k (Quiet t) Fresh) (hdone : Stable k (Quiet t) Done)
    (hdispatch : ∀ s j, Dispatches (session.format.line r) s → k.Kept j → Fresh j →
      k.guarantee (s :: j) ∧ Done (s :: j))
    (hcommit : 0 < r.position →
      Stable k (Serves (PostsPosition t ((c.recorded session r).checkpoint a t r.position))) Done) :
    Triple k Fresh (onRecord w a c r) fun result j =>
      match result.1 with
      | .ok () => result.2 = c.recorded session r ∧ Done j
      | .error _ => Fresh j := by
  unfold onRecord
  rw [hactive]
  refine (dispatch_triple w session.format r hfresh hdone hdispatch).bind fun result => ?_
  cases result with
  | error f => exact .pure fun _ _ h => h
  | ok u =>
    have hend : Triple (σ := σ) k Done (pure (Except.ok (ε := RunFault) (), c.recorded session r))
        fun result j => match result.1 with
        | .ok () => result.2 = c.recorded session r ∧ Done j
        | .error _ => Fresh j :=
      .pure fun _ _ h => ⟨rfl, h⟩
    dsimp only
    split
    · rename_i hdue
      have hpos : 0 < r.position := by
        simp only [isDue, Bool.and_eq_true, decide_eq_true_eq] at hdue
        exact hdue.1.2
      exact (Triple.of_adds (adds_commit w ht (c.recorded session r) r.position)
        (hcommit hpos)).bind fun _ =>
        (Triple.of_adds (quiet_reportHealth w ht true) hdone).bind fun _ => hend
    · exact hend

/-! ### The end of a session -/

/-- A session is wound up: all steps are quiet but the ones that store the last position. -/
theorem finish_triple {P Q : List Step → Prop} (ht : a.store.tracking = some t) (c : Controller)
    (reason : EndReason) (position : Int) (hP : Stable k (Quiet t) P) (hQ : Stable k (Quiet t) Q)
    (hcommit : 0 < position →
      Triple k P (commit w a { c with state := .ending } position) fun _ => Q)
    (hskip : ¬ 0 < position → ∀ j, P j → Q j)
    (hrefused : ¬ c.state.allows .ending = true → ∀ j, P j → Q j) :
    Triple k P (finish w a c reason position) fun _ => Q := by
  rw [finish_eq]
  split
  · have hend : Triple k Q (do
        let _ ← a.store.reportHealth w false
        Run.measure (.ended reason.cls)
        return (Except.ok (ε := RunFault) (c.conclude reason).1, (c.conclude reason).2))
        fun _ => Q :=
      .of_adds ((quiet_reportHealth w ht false).bind fun _ =>
        (Adds.measure nofun).bind fun _ => .pure _) hQ
    refine (Triple.of_adds (Adds.measure nofun) hP).bind fun _ => ?_
    rw [if_pos (CheckpointStore.isEnabled_of_tracking ht)]
    split
    · rename_i hpos
      exact (hcommit hpos).bind fun _ => hend
    · rename_i hpos
      exact hend.mono (fun j _ h => hskip hpos j h) fun _ _ _ h => h
  · rename_i hnot
    exact .pure fun j _ h => hrefused hnot j h

/-! ### Events -/

/-- What holds after an event has been answered: `Wait` if another one is waited for, and `Q` if
the session is over. -/
def AfterEvent (Wait : Controller → List Step → Prop)
    (Q : Option (Except RunFault SessionOutcome) × Controller → List Step → Prop)
    (r : Except RunFault Directive × Controller) (j : List Step) : Prop :=
  match r.1 with
  | .error f => Q (some (.error f), r.2.abort) j
  | .ok .proceed | .ok .resume => Wait r.2 j
  | .ok (.finish outcome) => Q (some (.ok outcome), r.2) j

variable (k t) in
/-- What has to be shown so that the answer to an event leads from `P` to the next wait or to the
end of the session. -/
def Answers (Wait : Controller → List Step → Prop) (Q P : List Step → Prop) (c : Controller) :
    SessionEvent → Prop
  | .established => Stable k (Quiet t) P ∧ ∀ j, P j → Wait { c with established := true } j
  | .filterAck => ∀ j, P j → Wait c j ∧
    (c.state = .filterRegistered → Wait { c with state := .streaming } j)
  | .record r => (∀ j, P j → Q j) ∧ Triple k P (onRecord w a c r) fun result j =>
    match result.1 with
    | .ok () => Wait result.2 j
    | .error _ => Q j
  | .logSwitch file => ∀ j, P j → Wait { c with active := c.active.map fun s => { s with file } } j
  | .ended reason position => Triple k P (finish w a c reason position) fun _ => Q

/-- Answering an event leads to the next wait or to the end of the session. -/
theorem handle_triple {Wait : Controller → List Step → Prop} {Q P : List Step → Prop}
    {c : Controller} {event : SessionEvent} (h : Answers k t w a Wait Q P c event) :
    Triple k P (handle w a c event) (AfterEvent Wait fun _ => Q) := by
  cases event with
  | established =>
    exact (Triple.of_adds (Adds.measure nofun) h.1).bind fun _ => .pure fun j _ hP => h.2 j hP
  | filterAck =>
    unfold handle
    dsimp only
    split
    · rename_i hstate
      exact .pure fun j _ hP => (h j hP).2 hstate
    · exact .pure fun j _ hP => (h j hP).1
  | record r =>
    unfold handle
    dsimp only
    split
    · refine h.2.bind fun ⟨result, c'⟩ => ?_
      cases result with
      | error f => exact .pure fun _ _ hQ => hQ
      | ok u => exact .pure fun _ _ hWait => hWait
    · exact .pure fun j _ hP => h.1 j hP
  | logSwitch file => exact .pure fun j _ hP => h j hP
  | ended reason position =>
    refine h.bind fun ⟨result, c'⟩ => ?_
    cases result with
    | error f => exact .pure fun _ _ hQ => hQ
    | ok outcome => exact .pure fun _ _ hQ => hQ

/-- What holds after an event has been answered: `Wait` if another one is waited for, `Freed` if the
session is to be resumed before, and `Q` if it is over. -/
def Directs (Wait Freed : Controller → List Step → Prop)
    (Q : Option (Except RunFault SessionOutcome) × Controller → List Step → Prop)
    (r : Except RunFault Directive × Controller) (j : List Step) : Prop :=
  match r.1 with
  | .error f => Q (some (.error f), r.2.abort) j
  | .ok .proceed => Wait r.2 j
  | .ok .resume => Freed r.2 j
  | .ok (.finish outcome) => Q (some (.ok outcome), r.2) j

/-- What holds after a session has been resumed. -/
def Resumes (Wait : Controller → List Step → Prop)
    (Q : Option (Except RunFault SessionOutcome) × Controller → List Step → Prop) (c : Controller)
    (answer : Except SessionFault Unit) : List Step → Prop :=
  match answer with
  | .error f => Q (some (.error (.session f)), c.abort)
  | .ok () => Wait c

/-- **From one wait for an event to the next, through the whole session.** -/
theorem pump_rule {Wait Freed : Controller → List Step → Prop}
    {Received : Controller → Except SessionFault SessionEvent → List Step → Prop}
    {Q : Option (Except RunFault SessionOutcome) × Controller → List Step → Prop}
    (hreceive : ∀ c answer j, k.Kept j → k.rely j (.received answer) → Wait c j →
      k.guarantee (.received answer :: j) ∧ Received c answer (.received answer :: j))
    (hhandle : ∀ c answer, Triple k (Received c answer) (handle w a c (c.eventOf answer))
      (Directs Wait Freed Q))
    (hrelease : ∀ c answer j, k.Kept j → k.rely j (.resumed answer) → Freed c j →
      k.guarantee (.resumed answer :: j) ∧ Resumes Wait Q c answer (.resumed answer :: j))
    (hfuel : ∀ c j, Wait c j → Q (none, c) j) (fuel : Nat) (c : Controller) :
    Triple k (Wait c) (pump w a fuel c) Q := by
  induction fuel generalizing c with
  | zero => exact .pure fun j _ h => hfuel c j h
  | succ fuel ih =>
    refine (Triple.demand fun answer j hk hr h => hreceive c answer j hk hr h).bind
      fun answer => (hhandle c answer).bind fun ⟨result, c'⟩ => ?_
    cases result with
    | error f => exact .pure fun j _ h => h
    | ok directive =>
      cases directive with
      | proceed => exact ih c'
      | resume =>
        have hresume : Triple k (Freed c') w.release (Resumes Wait Q c') :=
          .demand fun answer j hk hr h => hrelease c' answer j hk hr h
        refine hresume.bind fun answer => ?_
        cases answer with
        | error f => exact .pure fun j _ h => h
        | ok _ => exact ih c'
      | finish outcome => exact .pure fun j _ h => h

/-- The rule for assertions to which it does not matter whether the session is resumed. -/
theorem pump_triple {Wait : Controller → List Step → Prop}
    {Received : Controller → Except SessionFault SessionEvent → List Step → Prop}
    {Q : Option (Except RunFault SessionOutcome) × Controller → List Step → Prop}
    (hreceive : ∀ c answer j, k.Kept j → k.rely j (.received answer) → Wait c j →
      k.guarantee (.received answer :: j) ∧ Received c answer (.received answer :: j))
    (hhandle : ∀ c answer, Triple k (Received c answer) (handle w a c (c.eventOf answer))
      (AfterEvent Wait Q))
    (hrelease : ∀ c, Stable k (Quiet t) (Wait c))
    (habort : ∀ c f j, Wait c j → Q (some (.error f), c.abort) j)
    (hfuel : ∀ c j, Wait c j → Q (none, c) j) (fuel : Nat) (c : Controller) :
    Triple k (Wait c) (pump w a fuel c) Q := by
  have hdirects : ∀ c answer, Triple k (Received c answer) (handle w a c (c.eventOf answer))
      (Directs Wait Wait Q) := by
    refine fun c answer => (hhandle c answer).mono (fun _ _ h => h) fun ⟨result, c'⟩ j _ h => ?_
    cases result with
    | error f => exact h
    | ok directive => cases directive <;> exact h
  refine pump_rule w a hreceive hdirects (fun c answer j hk hr h => ?_) hfuel fuel c
  obtain ⟨hguarantee, hwait⟩ := hrelease c _ j hk hr trivial h
  refine ⟨hguarantee, ?_⟩
  cases answer with
  | error f => exact habort c _ _ hwait
  | ok _ => exact hwait

/-! ### A whole session -/

/-- **A whole session**, from its preparation to its end. -/
theorem runSession_triple {P Q : List Step → Prop} {Wait : Controller → List Step → Prop}
    {Prepared : Except RunFault SessionRequest → List Step → Prop} (ht : a.store.tracking = some t)
    (c : Controller) (fuel : Nat)
    (hstart : Triple k P (start w a c) fun result => Prepared result.1)
    (hunprepared : ∀ f j, Prepared (.error f) j → Q j)
    (hopen : ∀ request answer c' terms j, k.Kept j → Prepared (.ok request) j →
      k.guarantee (.opened request answer :: j) ∧
        Wait (ready c' a terms) (.opened request answer :: j))
    (hquiet : ∀ c, Stable k (Quiet t) (Wait c)) (hend : ∀ c j, Wait c j → Q j)
    (hattach : ∀ c c' j, c'.active = c.active → (c.Rests → Leads c c') → Wait c j → Wait c' j)
    (hpump : ∀ c, Triple k (Wait c) (pump w a fuel c) fun _ => Q) :
    Triple k P (runSession w a fuel c) fun _ => Q := by
  refine Triple.bind (hstart.and_yields (start_spec w a c)) fun ⟨result, c₁⟩ => ?_
  cases result with
  | error f => exact .pure fun j _ h => hunprepared f j h.2
  | ok request =>
    -- With the request comes a controller whose session begins at the target.
    let Opened : Except SessionFault Unit → List Step → Prop := fun _ => Wait c₁
    have hconnect : Triple k (fun j => (∀ r, Except.ok request = .ok (ε := RunFault) r →
        ∃ terms stored c', r = requestFor a terms (startFor terms.online stored) ∧
          c₁ = ready c' a terms) ∧ Prepared (.ok request) j) (w.connect request) Opened := by
      refine .demand fun answer j hk _ ⟨hspec, h⟩ => ?_
      obtain ⟨terms, stored, c', -, rfl⟩ := hspec request rfl
      exact hopen request answer c' terms j hk h
    refine hconnect.bind fun answer => ?_
    cases answer with
    | error f =>
      exact (Triple.of_adds (quiet_finish w ht c₁ .unableToAttachComm (by decide)) (hquiet c₁)).bind
        fun _ => .pure fun j _ h => hend c₁ j h
    | ok _ =>
      refine Triple.bind (((Triple.of_adds (quiet_attach w c₁) (hquiet c₁)).and_yields
        (attach_active w c₁)).and_yields (.of_imp (leads_attach w (c := c₁))))
        fun ⟨result, c₂⟩ => ?_
      cases result with
      | error f => exact .pure fun j _ h => hend c₁ j h.2.2
      | ok _ =>
        exact (hpump c₂).mono (fun j _ h => hattach c₁ c₂ j h.2.1 h.1 h.2.2) fun _ _ _ h => h

end Controller

end LogCollector
