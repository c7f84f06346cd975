import LogCollector.Proofs.Fallible
import LogCollector.Proofs.Session.Books
import LogCollector.Proofs.Session.Rules
import LogCollector.Stage.World

/-!
# No record is skipped across reconnects

A log file is read through any number of sessions, each cut off at any moment; posts of positions
succeed or fail as they like. As long as the service and the collaborator are faithful the records
dispatched are the first ones of the log file without a gap, the stored position is that of one of
them, and it never decreases (`no_record_is_skipped`).

A session begins at the stored position, if there is one, and only stores the position of the record
it has dispatched last; so between two sessions the books are in order again.
-/

namespace LogCollector

open CheckpointStore (PostsPosition)

variable {t : Tracking} {file : LogFile} {j : List Step} {n : Nat} {b position : Int} {p : Progress}

/-! ### Before a session -/

/-- What an accepted settings document says on the kind of a session. -/
theorem ConnectionParams.mode_online_of_ofDocument {d : Status.Document}
    {params : ConnectionParams} (h : ofDocument d = .ok params) :
    params.mode = some (.ofDocument ((d.get? "mode").getD "")) ∧
      params.online = flag d "online_mode" := by
  obtain ⟨size, -, h⟩ := bind_eq_ok_iff.1 h
  obtain ⟨port, -, h⟩ := bind_eq_ok_iff.1 h
  obtain ⟨authPort, -, h⟩ := bind_eq_ok_iff.1 h
  rw [← Except.ok.inj h]
  exact ⟨rfl, rfl⟩

/-- Parameters that do not ask for records as they are written, if there are any. -/
def Offline (result : Except RunFault ConnectionParams) : Prop :=
  ∀ params, result = .ok params → params.online = false

theorem offline_error (f : RunFault) : Offline (.error f) := by
  intro params h
  cases h

/-- A fetched settings document does not ask for records as they are written. -/
theorem ParamsSource.fetch_triple {σ : Type} (w : World σ) (role : ServiceRole) (t' : Tracking)
    {R : Nat → Int → Progress → Prop} :
    Triple (faithful t (.document role t') file) (Books t file R) (fetch w role t')
      fun result j => Offline result ∧ Books t file R j := by
  let Answered (answer : Except StatusFault Status.Response) (j : List Step) : Prop :=
    (∀ r, answer = .ok r → r.isSuccess = true →
      ConnectionParams.flag (.parse r.body) "online_mode" = false) ∧ Books t file R j
  have hserve : Triple (faithful t (.document role t') file) (Books t file R)
      (w.serve role ((Status.Endpoints.ofApp t'.app).settings ++ t'.entity) []) Answered := by
    refine .serve (fun answer j hk hr h => ?_) fun answer j hk hr h => ?_
    · obtain ⟨hguarantee, hbooks⟩ := stable_books _ j hk hr (.inl rfl) h
      refine ⟨hguarantee, fun r hanswer => ?_, hbooks⟩
      rw [hanswer] at hr
      exact hr.2.1 ⟨t', rfl, rfl, rfl⟩
    · obtain ⟨hguarantee, hbooks⟩ := stable_books (.measured .called) j hk hr nofun h.2
      exact ⟨hguarantee, h.1, hbooks⟩
  refine hserve.bind fun answer => ?_
  cases answer with
  | error f => exact .pure fun j _ h => ⟨offline_error _, h.2⟩
  | ok r =>
    dsimp only
    split
    · rename_i hsuccess
      refine .pure fun j _ h => ⟨fun params hparams => ?_, h.2⟩
      cases hread : ConnectionParams.ofDocument (.parse r.body) with
      | error f => rw [hread] at hparams; cases hparams
      | ok params' =>
        rw [hread] at hparams
        rw [← Except.ok.inj hparams, (ConnectionParams.mode_online_of_ofDocument hread).2]
        exact h.1 r rfl hsuccess
    · exact .pure fun j _ h => ⟨offline_error _, h.2⟩

/-- The terms of a session do not ask for records as they are written. -/
theorem ParamsSource.terms_triple {σ : Type} (w : World σ) (source : ParamsSource) {plan : Plan}
    (hplan : plan.online = false) {R : Nat → Int → Progress → Prop} :
    Triple (faithful t source file) (Books t file R) (source.terms w plan) fun result j =>
      (∀ terms, result = .ok terms → terms.online = false) ∧ Books t file R j := by
  have hacquire : Triple (faithful t source file) (Books t file R) (source.acquire w)
      fun result j => Offline result ∧ Books t file R j := by
    cases source with
    | unspecified => exact .pure fun j _ h => ⟨fun params hp => by rw [← Except.ok.inj hp]; rfl, h⟩
    | document role t' => exact fetch_triple w role t'
  refine hacquire.map fun result j _ ⟨hresult, h⟩ => ⟨fun terms hterms => ?_, h⟩
  cases result with
  | error f => cases hterms
  | ok params => rw [SessionTerms.online_of_derive hterms, hplan, hresult params rfl, Bool.or_false]

/-- The next session does not begin before the stored position, nor behind the first record still
to be dispatched. -/
def Begins (position : StartPosition) (n : Nat) (b : Int) (_ : Progress) : Prop :=
  ∃ u, position.position? = some u ∧ 0 ≤ u ∧ u ≤ n ∧ b ≤ u

/-- A faithful answer lets the next session begin at the stored position, or at the first record if
nothing is stored. -/
theorem Books.begins (h : Books t file Between j) (he : '<' ∉ t.entity.toList)
    (hf : '<' ∉ file.name.toList) {r : Status.Response}
    (htells : TellsStored t file j (.called .status (t.entry file) [] (.ok r))) :
    Books t file (fun n b p => ∀ found, Status.storedPosition (t.entry file) r = .ok found →
      Begins (Controller.startFor false found) n b p) j := by
  obtain ⟨⟨n, b, hn, hb, hbound, -⟩, hmonotone⟩ := h
  have htells := htells rfl
  cases hstored : stored (t.entry file) j with
  | none =>
    simp only [hstored] at htells
    refine ⟨⟨n, -1, hn, by omega, fun params hparams => ?_, fun found hfound => ?_⟩, hmonotone⟩
    · rw [hstored] at hparams
      cases hparams
    · cases found with
      | none => exact ⟨0, rfl, by omega, by omega, by omega⟩
      | some p =>
        rw [Status.isSuccess_of_storedPosition hfound] at htells
        cases htells
  | some params =>
    simp only [hstored] at htells
    obtain ⟨q, rfl, hq, hqb⟩ := hbound params hstored
    refine ⟨⟨n, q, hn, by omega, fun params hparams => ?_, fun found hfound => ?_⟩, hmonotone⟩
    · exact ⟨q, Option.some.inj (hparams.symm.trans hstored), hq, Int.le_refl q⟩
    · cases found with
      | none =>
        rw [Status.isNotFound_of_storedPosition hfound] at htells
        cases htells.1
      | some p =>
        obtain rfl : p = q := Status.storedPosition_of_conveys he hf
          (htells.2 (Status.isSuccess_of_storedPosition hfound)) hfound
        refine ⟨p, ?_, by omega, by omega, Int.le_refl p⟩
        simp only [Controller.startFor, Bool.false_eq_true, if_false, if_pos hq]
        rfl

namespace Controller

variable {σ : Type} (w : World σ) {a : Assignment}

/-- The stored position is looked up. -/
theorem resumePosition_triple (ht : a.store.tracking = some t) (he : '<' ∉ t.entity.toList)
    (hf : '<' ∉ a.target.name.toList) :
    Triple (faithful t a.source a.target) (Books t a.target Between) (resumePosition w a)
      fun result => Books t a.target fun n b p =>
        ∀ found, result = .ok found → Begins (startFor false found) n b p := by
  let Answered (answer : Except StatusFault Status.Response) : List Step → Prop :=
    Books t a.target fun n b p => ∀ found,
      answer.bind (Status.storedPosition (t.entry a.target)) = .ok found →
        Begins (startFor false found) n b p
  have hserve : Triple (faithful t a.source a.target) (Books t a.target Between)
      (w.serve .status (t.entry a.target) []) Answered := by
    refine .serve (fun answer j hk hr h => ?_) fun answer j hk hr h => ?_
    · refine stable_books _ j hk hr (.inl rfl) ?_
      cases answer with
      | error f => exact h.imp fun _ _ _ _ found hfound => nomatch hfound
      | ok r => exact h.begins he hf hr.1
    · exact stable_books (.measured .called) j hk hr nofun h
  have hlook : Triple (faithful t a.source a.target) (Books t a.target Between)
      (a.store.lastPosition w a.target.fileId) fun result => Books t a.target fun n b p =>
        ∀ found, result = .ok found → Begins (startFor false found) n b p := by
    rw [CheckpointStore.lastPosition_eq w ht]
    exact hserve.map fun _ _ _ h => h
  refine hlook.map fun result j _ h => h.imp fun n b p hbegins found hfound => ?_
  cases result with
  | error f => cases hfound
  | ok found' =>
    obtain rfl := Except.ok.inj hfound
    exact hbegins found' rfl

/-- What is known when a session has been prepared. -/
def Prepared (t : Tracking) (a : Assignment) (result : Except RunFault SessionRequest)
    (j : List Step) : Prop :=
  Books t a.target (fun n b p => ∀ request, result = .ok request → Begins request.start n b p) j

/-- A session is requested from the stored position. -/
theorem start_triple (ht : a.store.tracking = some t) (he : '<' ∉ t.entity.toList)
    (hf : '<' ∉ a.target.name.toList) (hplan : a.plan.online = false) (c : Controller) :
    Triple (faithful t a.source a.target) (Books t a.target Between) (start w a c)
      fun result => Prepared t a result.1 := by
  unfold start
  split
  · exact .pure fun j _ h => h.imp fun _ _ _ _ _ hrequest => absurd hrequest (by simp)
  · refine (ParamsSource.terms_triple w a.source hplan).bind fun terms => ?_
    cases terms with
    | error f =>
      exact .pure fun j _ h => h.2.imp fun _ _ _ _ _ hrequest => absurd hrequest (by simp)
    | ok terms =>
      dsimp only
      rw [if_pos (CheckpointStore.isEnabled_of_tracking ht)]
      refine (resumePosition_triple w ht he hf).frame.bind fun found => ?_
      cases found with
      | error f =>
        exact .pure fun j _ h => h.2.imp fun _ _ _ _ _ hrequest => absurd hrequest (by simp)
      | ok found =>
        refine .pure fun j _ h => h.2.imp fun n b p hbegins request hrequest => ?_
        obtain rfl := Except.ok.inj hrequest
        rw [requestFor, h.1 terms rfl]
        exact hbegins found rfl

/-! ### During a session -/

/-- The session of a controller reads the log file, and its last position is that of the record
delivered last. -/
def Agrees (c : Controller) (a : Assignment) (p : Progress) : Prop :=
  c.currentFile a = a.target ∧ c.lastPosition = p.last?.getD 0

/-- What holds while an event is waited for. -/
def Waiting (t : Tracking) (a : Assignment) (c : Controller) : List Step → Prop :=
  Books t a.target fun n b p => c.Agrees a p ∧ Awaiting n b p

/-- What holds when the session ends with a position. -/
def Closing (t : Tracking) (a : Assignment) (c : Controller) (position : Int) : List Step → Prop :=
  Books t a.target fun n b p => c.currentFile a = a.target ∧ Storable position n b p

/-- What holds after an event has come, or a fault in its place. -/
def Arrived (t : Tracking) (a : Assignment) (c : Controller) :
    Except SessionFault SessionEvent → List Step → Prop
  | .ok .established | .ok .filterAck => Waiting t a c
  | .ok (.record r) => Books t a.target fun n b p =>
    c.currentFile a = a.target ∧ Fresh r.position n b p
  | .ok (.logSwitch _) => fun _ => False
  | .ok (.ended _ position) => Closing t a c position
  | .error _ => Closing t a c c.lastPosition

theorem arrived_of_waiting {c : Controller} {answer : Except SessionFault SessionEvent}
    (hr : DeliversInOrder a.target j (.received answer)) (h : Waiting t a c j) :
    NoneSkipped t a.target (.received answer :: j) ∧
      Arrived t a c answer (.received answer :: j) := by
  have hstep : ∀ {R' : Nat → Int → Progress → Prop},
      ((progress a.target j).after a.target (.received answer)).dispatched =
        (progress a.target j).dispatched →
      (∀ n b, c.Agrees a (progress a.target j) ∧ Awaiting n b (progress a.target j) →
        R' n b ((progress a.target j).after a.target (.received answer))) →
      NoneSkipped t a.target (.received answer :: j) ∧
        Books t a.target R' (.received answer :: j) := by
    intro R' hdispatched hR
    have hbooks := h.step (stored_cons_of_none rfl) hdispatched hR
    exact ⟨hbooks.noneSkipped, hbooks⟩
  match answer with
  | .error f =>
    refine hstep rfl fun n b ⟨hagrees, hawaiting⟩ => ⟨hagrees.1, ?_⟩
    rw [hagrees.2]
    exact hawaiting.storable
  | .ok .established => exact hstep rfl fun n b hp => hp
  | .ok .filterAck => exact hstep rfl fun n b hp => hp
  | .ok (.record r) =>
    exact hstep rfl fun n b ⟨hagrees, hawaiting⟩ => ⟨hagrees.1, hawaiting.fresh hr⟩
  | .ok (.logSwitch file) => exact hr.elim
  | .ok (.ended reason position) =>
    refine hstep rfl fun n b ⟨hagrees, hawaiting⟩ => ⟨hagrees.1, ?_⟩
    obtain rfl := hr
    exact hawaiting.storable

/-- Storing a position keeps the books if it is that of a dispatched record and not smaller than
the stored one. -/
theorem stable_books_of_posts {c : Controller} (hpos : 0 < position)
    {R : Nat → Int → Progress → Prop}
    (hR : ∀ n b p, R n b p →
      c.currentFile a = a.target ∧ b ≤ position ∧ position < n ∧ R n position p) :
    Stable (faithful t a.source a.target) (Serves (PostsPosition t (c.checkpoint a t position)))
      (Books t a.target R) := by
  intro s j _ _ hs h
  obtain ⟨n, b, -, -, -, hp⟩ := h.shows
  have hcheckpoint : c.checkpoint a t position = t.checkpoint a.target position := by
    rw [checkpoint, (hR n b _ hp).1]
    rfl
  rw [hcheckpoint] at hs
  have hbooks := h.post hpos hs fun n b p hp => (hR n b p hp).2
  exact ⟨hbooks.noneSkipped, hbooks⟩

/-- A session is wound up. -/
theorem finish_books_triple (ht : a.store.tracking = some t) (c : Controller) (reason : EndReason)
    (position : Int) :
    Triple (faithful t a.source a.target) (Closing t a c position) (finish w a c reason position)
      fun _ => Books t a.target Between := by
  refine finish_triple w a ht c reason position stable_books stable_books (fun hpos => ?_)
    (fun _ _ h => h.between) fun _ _ h => h.between
  refine (Triple.of_adds (adds_commit w ht _ position) (stable_books_of_posts hpos ?_)).mono
    (fun _ _ h => h) fun _ _ _ h => h.between
  rintro n b p ⟨hfile, hstorable⟩
  obtain ⟨hle, hlt⟩ := hstorable hpos
  exact ⟨hfile, hle, hlt, hfile, fun _ => ⟨Int.le_refl position, hlt⟩⟩

/-- A record is dispatched, and its position is stored if that is due. -/
theorem onRecord_books_triple (ht : a.store.tracking = some t) (c : Controller) (r : Record) :
    Triple (faithful t a.source a.target) (Arrived t a c (.ok (.record r))) (onRecord w a c r)
      fun result j => match result.1 with
        | .ok () => Waiting t a result.2 j
        | .error _ => Books t a.target Between j := by
  cases hactive : c.active with
  | none =>
    unfold onRecord
    rw [hactive]
    exact .pure fun _ _ h => h.between
  | some session =>
    -- The session stays with its log file, whose record has now been dispatched.
    let Dispatched : List Step → Prop := Books t a.target fun n b p =>
      (c.recorded session r).currentFile a = a.target ∧ Done r.position n b p
    have hfile : c.currentFile a = a.target → (c.recorded session r).currentFile a = a.target := by
      intro hfile
      rw [currentFile, hactive] at hfile
      exact hfile
    have hdispatch : ∀ s j, Dispatches (session.format.line r) s →
        (faithful t a.source a.target).Kept j → Arrived t a c (.ok (.record r)) j →
        NoneSkipped t a.target (s :: j) ∧ Dispatched (s :: j) := by
      intro s j hs _ h
      obtain ⟨n, b, -, -, -, hcurrent, -⟩ := h.shows
      have hbooks := (h.imp fun _ _ _ hp => hp.2).dispatch hs
      exact ⟨hbooks.noneSkipped, hbooks.imp fun _ _ _ hp => ⟨hfile hcurrent, hp⟩⟩
    refine (onRecord_triple w a ht hactive r stable_books stable_books hdispatch
      fun hpos => stable_books_of_posts hpos fun n b p => ?_).mono (fun _ _ h => h)
      fun result j _ h => ?_
    · rintro ⟨hfile, ⟨hlast, hupcoming, hnonneg, hle, hb⟩, hlt⟩
      exact ⟨hfile, hb, hlt, hfile, ⟨hlast, hupcoming, hnonneg, hle, Int.le_refl _⟩, hlt⟩
    · match result, h with
      | (.error f, _), h => exact Books.between h
      | (.ok (), _), ⟨rfl, h⟩ =>
        refine h.imp fun n b p ⟨hfile, hdone⟩ => ⟨⟨hfile, ?_⟩, hdone.awaiting⟩
        rw [hdone.1.1]
        rfl

/-- Answering an event leads to the next wait or to the end of the session. -/
theorem handle_books_triple (ht : a.store.tracking = some t) (c : Controller)
    (answer : Except SessionFault SessionEvent) :
    Triple (faithful t a.source a.target) (Arrived t a c answer) (handle w a c (c.eventOf answer))
      (AfterEvent (Waiting t a) fun _ => Books t a.target Between) := by
  refine handle_triple (t := t) w a ?_
  match answer with
  | .error f => exact finish_books_triple w ht c .commFailure c.lastPosition
  | .ok .established => exact ⟨stable_books, fun _ h => h⟩
  | .ok .filterAck => exact fun _ h => ⟨h, fun _ => h⟩
  | .ok (.record r) => exact ⟨fun _ h => h.between, onRecord_books_triple w ht c r⟩
  | .ok (.logSwitch file) => exact fun _ h => h.elim
  | .ok (.ended reason position) => exact finish_books_triple w ht c reason position

/-! ### All sessions -/

/-- A whole session, from its preparation to its end. -/
theorem runSession_books_triple (ht : a.store.tracking = some t) (he : '<' ∉ t.entity.toList)
    (hf : '<' ∉ a.target.name.toList) (hplan : a.plan.online = false) (c : Controller)
    (fuel : Nat) :
    Triple (faithful t a.source a.target) (Books t a.target Between) (runSession w a fuel c)
      fun _ => Books t a.target Between := by
  have hpump : ∀ c₂, Triple (faithful t a.source a.target) (Waiting t a c₂) (pump w a fuel c₂)
      fun _ => Books t a.target Between := by
    intro c₂
    refine pump_triple w a ?_ (handle_books_triple w ht) (fun _ => stable_books)
      (fun _ _ _ h => h.between) (fun _ _ h => h.between) fuel c₂
    exact fun c answer j _ hr h => arrived_of_waiting hr.2.2 h
  refine runSession_triple w a ht c fuel (start_triple w ht he hf hplan c)
    (fun _ _ h => Books.between h) ?_ ?_ ?_ ?_ hpump
  · intro request answer c' terms j _ h
    have hwaiting : Waiting t a (ready c' a terms) (.opened request answer :: j) := by
      refine Books.step h (stored_cons_of_none rfl) rfl fun n b hbegins => ?_
      obtain ⟨u, hu, hnonneg, hle, hb⟩ := hbegins request rfl
      exact ⟨⟨rfl, rfl⟩, u, hu, hnonneg, hle, hb, nofun⟩
    exact ⟨hwaiting.noneSkipped, hwaiting⟩
  · exact fun _ => stable_books
  · exact fun _ _ h => Books.between h
  · intro c₁ c₂ j hactive _ h
    refine Books.imp h fun n b p ⟨⟨hfile, hlast⟩, hawaiting⟩ => ⟨⟨?_, ?_⟩, hawaiting⟩
    · rw [currentFile, hactive]
      exact hfile
    · rw [lastPosition, hactive]
      exact hlast

end Controller

namespace Collector

variable {σ : Type} (w : World σ) {c : Collector}

/-- A log file is read through all its sessions. -/
theorem readTarget_triple (ht : c.store.tracking = some t) (he : '<' ∉ t.entity.toList)
    (hf : '<' ∉ file.name.toList) (hplan : c.plan.online = false) (fuel rounds sessions : Nat)
    (controller : Controller) :
    Triple (faithful t c.source file) (Books t file Between)
      (readTarget w c fuel file sessions controller rounds) fun _ => Books t file Between := by
  induction rounds generalizing sessions controller with
  | zero => exact .pure fun _ _ h => h
  | succ rounds ih =>
    have hsession : Triple (faithful t c.source file) (Books t file Between)
        (controller.runSession w (c.assignment file) fuel) fun _ => Books t file Between :=
      Controller.runSession_books_triple w (a := c.assignment file) ht he hf hplan controller fuel
    have hdrain : Triple (faithful t c.source file) (Books t file Between) w.drain
        fun _ => Books t file Between := .of_adds (Adds.demand fun _ => trivial) stable_books
    refine hsession.bind fun ⟨result, controller'⟩ => ?_
    match result with
    | none => exact .pure fun _ _ h => h
    | some (.error f) => exact .pure fun _ _ h => h
    | some (.ok outcome) =>
      refine hdrain.bind fun flushed => ?_
      cases flushed with
      | error f => exact .pure fun _ _ h => h
      | ok _ =>
        cases outcome with
        | terminated reason => exact .pure fun _ _ h => h
        | reconnect reason =>
          refine (Triple.of_adds (Adds.measure nofun) stable_books).bind fun _ => ?_
          refine (Triple.of_adds ((adds_waitOut w _).mono fun _ => quiet_of_waits)
            stable_books).bind fun again => ?_
          cases again with
          | false => exact .pure fun _ _ h => h
          | true => exact ih (sessions + 1) controller'

/-- **No record is skipped across reconnects.** At every point of every run in which the service and
the collaborator have been faithful so far, the records dispatched are the first ones of the log
file, the stored position is that of one of them, and it has never decreased. -/
theorem no_record_is_skipped (ht : c.store.tracking = some t) (he : '<' ∉ t.entity.toList)
    (hf : '<' ∉ file.name.toList) (hplan : c.plan.online = false) (fuel rounds : Nat) (s : σ)
    (j : List Step) (hj : j <:+ (readTarget w c fuel file 0 .initial rounds ⟨s, []⟩).2.journal)
    (hkept : (faithful t c.source file).Kept j) : NoneSkipped t file j :=
  (readTarget_triple w ht he hf hplan fuel rounds 0 .initial).safe_of_nil
    (Books.noneSkipped .nil) .nil s j hj hkept

/-! ### A run on a stage -/

/-- Whether a step of a run without settings documents keeps the contract, the service answering
with the document of what is stored. -/
def plays (t : Tracking) (file : LogFile) (past : List Step) : Step → Bool
  | .called .status endpoint [] (.ok r) => endpoint ≠ t.entry file ||
    match stored (t.entry file) past with
    | none => !r.isSuccess
    | some params => !r.isNotFound && (r.body == Stage.PlayedService.document params &&
      params.all fun p => !p.1.toList.contains '"')
  | .received (.ok (.record r)) => (progress file past).upcoming == some r.position
  | .received (.ok (.logSwitch _)) => false
  | .received (.ok (.ended _ position)) => position == (progress file past).last?.getD 0
  | _ => true

theorem rely_of_plays {past : List Step} {s : Step} (h : plays t file past s = true) :
    (faithful t .unspecified file).rely past s := by
  refine ⟨?_, ?_, ?_⟩
  · unfold TellsStored
    split
    · rintro rfl
      simp only [plays, ne_eq, not_true_eq_false, decide_false, Bool.false_or] at h
      split
      · rename_i hstored
        simpa only [hstored, Bool.not_eq_true'] using h
      · rename_i params hstored
        simp only [hstored, Bool.and_eq_true, Bool.not_eq_true', beq_iff_eq] at h
        obtain ⟨hfound, hbody, hkeys⟩ := h
        refine ⟨hfound, fun _ => ?_⟩
        rw [hbody]
        refine Status.conveys_document fun p hp => ?_
        simpa using List.all_eq_true.1 hkeys p hp
    · trivial
  · unfold KeepsOffline
    split
    · rintro ⟨_, hsource, -⟩
      cases hsource
    · trivial
  · unfold DeliversInOrder
    split
    · intro p hp
      simp only [plays, hp, beq_iff_eq] at h
      exact (Option.some.inj h).symm
    · exact Bool.noConfusion h
    · exact beq_iff_eq.1 h
    · trivial

/-- A collector that stores every other position. -/
def keeping : Collector where
  plan := { Plan.standard .universal with
    legacy := true, commitInterval := 2, recovery := .ofMilliseconds 1 }
  store := ⟨some ⟨"fw1", "app"⟩⟩
  source := .unspecified

/-- A stage on which a session of four records is cut off and another one reads on. -/
def interrupted : Stage :=
  { Stage.bare .universal 0 with
    status := .played { Stage.PlayedService.empty with remembers := true }
    collaborator := .scenes { Stage.Troupe.empty with scenes := [
      { Stage.Scene.empty with events := [some .established, some (.record ⟨0, []⟩),
        some (.record ⟨1, []⟩), some (.record ⟨2, []⟩), some (.record ⟨3, []⟩)] },
      { Stage.Scene.empty with events := [some .established, some (.record ⟨3, []⟩),
        some (.record ⟨4, []⟩), some (.ended .endByApplication 4)] }] } }

/-- The journal of reading the log file there. -/
@[irreducible]
def interruptedJournal : List Step :=
  (readTarget Stage.world keeping 6 ⟨"fw.log", 1⟩ 0 .initial 2 ⟨interrupted, []⟩).2.journal

/-- After a session was cut off, the next one begins with the record stored last. -/
theorem no_record_is_skipped_interrupted :
    (progress ⟨"fw.log", 1⟩ interruptedJournal).dispatched = [4, 3, 3, 2, 1, 0] ∧
      NoneSkipped ⟨"fw1", "app"⟩ ⟨"fw.log", 1⟩ interruptedJournal := by
  have hplays : Contract.passes (plays ⟨"fw1", "app"⟩ ⟨"fw.log", 1⟩) interruptedJournal = true := by
    decide +kernel
  have hkept : (faithful ⟨"fw1", "app"⟩ keeping.source ⟨"fw.log", 1⟩).Kept interruptedJournal :=
    Contract.kept_of_passes (fun _ _ => rely_of_plays) hplays
  have hjournal : interruptedJournal = (readTarget Stage.world keeping 6 ⟨"fw.log", 1⟩ 0 .initial 2
      ⟨interrupted, []⟩).2.journal := by
    rw [interruptedJournal]
  refine ⟨by decide +kernel, ?_⟩
  exact no_record_is_skipped Stage.world (c := keeping) rfl (by decide) (by decide) rfl 6 2
    interrupted interruptedJournal ⟨[], hjournal⟩ hkept

end Collector

end LogCollector
