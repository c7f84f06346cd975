import LogCollector.Proofs.Run.Operations

/-!
# The calls of the status service

`Tells Q m` relates the result of a part of a run to the list of all the steps that it adds. It is
the sharpest thing to be said of a part that does not look at what came before, and parts that are
put together tell the one list behind the other.

What is said of the calls of the status service alone is said with `MakesCalls`. A position is
posted until an attempt is accepted or no attempt is left (`Attempts`); a connection is reported
with one post; the end of a connection is reported with a look-up, and with a post if the look-up
tells when the entity was connected last.
-/

namespace LogCollector

/-! ### All steps of a part of a run -/

/-- Whatever the world does, the result of a part of a run is related to the steps that it adds,
the latest one first. -/
def Tells {σ α : Type} (Q : α → List Step → Prop) (m : Run σ α) : Prop :=
  ∀ t : Tape σ, ∃ new, (m t).2.journal = new ++ t.journal ∧ Q (m t).1 new

namespace Tells

variable {σ α β : Type} {Q Q' : α → List Step → Prop} {R : β → List Step → Prop}

theorem pure {x : α} (h : Q x []) : Tells Q (Pure.pure x : Run σ α) := fun _ => ⟨[], rfl, h⟩

/-- The steps of the second part come behind those of the first one. -/
theorem bind {m : Run σ β} {f : β → Run σ α} (hm : Tells R m)
    (hf : ∀ x new, R x new → Tells (fun y newer => Q y (newer ++ new)) (f x)) :
    Tells Q (m >>= f) := by
  intro t
  obtain ⟨new, hnew, hR⟩ := hm t
  obtain ⟨newer, hnewer, hQ⟩ := hf _ new hR (m t).2
  refine ⟨newer ++ new, ?_, hQ⟩
  rw [List.append_assoc, ← hnew]
  exact hnewer

theorem mono {m : Run σ α} (hm : Tells Q m) (h : ∀ x new, Q x new → Q' x new) : Tells Q' m := by
  intro t
  obtain ⟨new, hnew, hQ⟩ := hm t
  exact ⟨new, hnew, h _ _ hQ⟩

/-- A part that is followed by a function of its result. -/
theorem map {m : Run σ β} {f : β → α} (hm : Tells R m) (h : ∀ x new, R x new → Q (f x) new) :
    Tells Q (do return f (← m)) :=
  hm.bind fun x new hR => pure (h x new hR)

theorem demand {ask : σ → α × σ} {step : α → Step} (h : ∀ x, Q x [step x]) :
    Tells Q (Run.demand ask step) := fun _ => ⟨_, rfl, h _⟩

theorem measure {m : Measurement} {Q : Unit → List Step → Prop} (h : Q () [.measured m]) :
    Tells Q (Run.measure m : Run σ Unit) := fun _ => ⟨_, rfl, h⟩

/-- A part that begins with a demand. -/
theorem demand_bind {ask : σ → β × σ} {step : β → Step} {f : β → Run σ α}
    (hf : ∀ x, Tells (fun y newer => Q y (newer ++ [step x])) (f x)) :
    Tells Q (Run.demand ask step >>= f) := by
  refine Tells.bind (R := fun x new => new = [step x]) (.demand fun _ => rfl) ?_
  rintro x new rfl
  exact hf x

/-- A part that begins with a measurement. -/
theorem measure_bind {m : Measurement} {f : Unit → Run σ α}
    (hf : Tells (fun y newer => Q y (newer ++ [.measured m])) (f ())) :
    Tells Q (Run.measure m >>= f) := by
  refine Tells.bind (R := fun _ new => new = [.measured m]) (.measure rfl) ?_
  rintro _ new rfl
  exact hf

/-- What the list of the steps tells of each of them. -/
theorem adds {S : Step → Prop} {m : Run σ α} (hm : Tells Q m)
    (h : ∀ x new, Q x new → ∀ s ∈ new, S s) : Adds S m := by
  intro t
  obtain ⟨new, hnew, hQ⟩ := hm t
  exact ⟨new, hnew, h _ _ hQ⟩

theorem of_adds {S : Step → Prop} {m : Run σ α} (hm : Adds S m) :
    Tells (fun _ new => ∀ s ∈ new, S s) m := hm

/-- What is known of each step is known of their list. -/
theorem and_adds {S : Step → Prop} {m : Run σ α} (hm : Tells Q m) (hS : Adds S m) :
    Tells (fun x new => (∀ s ∈ new, S s) ∧ Q x new) m := by
  intro t
  obtain ⟨new, hnew, hQ⟩ := hm t
  obtain ⟨new', hnew', hS'⟩ := hS t
  obtain rfl : new' = new := List.append_cancel_right (hnew'.symm.trans hnew)
  exact ⟨new', hnew, hS', hQ⟩

/-- What the result is in any world is known beside the steps. -/
theorem and_yields {m : Run σ α} {P : α → Prop} (hm : Tells Q m) (hP : Yields P m) :
    Tells (fun x new => P x ∧ Q x new) m := by
  intro t
  obtain ⟨new, hnew, hQ⟩ := hm t
  exact ⟨new, hnew, hP t, hQ⟩

/-- A call of the status service and its measurement. -/
theorem serve (w : World σ) (role : ServiceRole) (endpoint : String) (params : Status.Parameters) :
    Tells (fun answer new => new = [.measured .called, .called role endpoint params answer])
      (w.serve role endpoint params) :=
  demand_bind fun _ => measure_bind (.pure rfl)

end Tells

/-- What a part of a run tells of its steps decides where it leads from a journal, however the
world behaves. -/
theorem Triple.of_tells {σ α : Type} {P : List Step → Prop} {m : Run σ α}
    {Q R : α → List Step → Prop} (hm : Tells Q m)
    (h : ∀ x new j, P j → Q x new → R x (new ++ j)) :
    Triple (.owing fun _ => True) P m R where
  grows t := by
    obtain ⟨new, hnew, -⟩ := hm t
    exact ⟨new, hnew.symm⟩
  sound t _ _ hP := by
    obtain ⟨new, hnew, hQ⟩ := hm t
    rw [hnew]
    exact ⟨fun _ _ _ => trivial, fun _ => h _ new _ hP hQ⟩

/-! ### Calls -/

/-- A call of the status service and its answer. -/
structure ServiceCall where
  /-- The role in which the service is called. -/
  role : ServiceRole
  /-- The endpoint. -/
  endpoint : String
  /-- The parameters; a look-up has none. -/
  params : Status.Parameters
  /-- The answer. -/
  answer : Except StatusFault Status.Response

/-- The call that a step makes. -/
def Step.call? : Step → Option ServiceCall
  | .called role endpoint params answer => some ⟨role, endpoint, params, answer⟩
  | _ => none

/-- The calls in a journal, the first one first. -/
def serviceCalls (j : List Step) : List ServiceCall := j.reverse.filterMap Step.call?

@[simp] theorem serviceCalls_nil : serviceCalls [] = [] := rfl

@[simp] theorem serviceCalls_append (new j : List Step) :
    serviceCalls (new ++ j) = serviceCalls j ++ serviceCalls new := by
  simp [serviceCalls]

@[simp] theorem serviceCalls_cons (s : Step) (j : List Step) :
    serviceCalls (s :: j) = serviceCalls j ++ s.call?.toList := by
  rw [← List.singleton_append, serviceCalls_append]
  cases hs : s.call? <;> simp [serviceCalls, hs]

/-- The answer to a post says that it was taken. -/
def Accepts (answer : Except StatusFault Status.Response) : Prop :=
  ∃ r, answer = .ok r ∧ r.isSuccess = true

/-- The answer to a look-up tells what is stored, or that nothing is. -/
def Known (answer : Except StatusFault Status.Response) : Prop :=
  ∃ r, answer = .ok r ∧ (r.isNotFound = true ∨ r.isSuccess = true)

theorem storedConnection_eq_ok_iff {endpoint : String}
    {answer : Except StatusFault Status.Response} :
    (∃ time, answer.bind (Status.storedConnection endpoint) = .ok time) ↔ Known answer := by
  cases answer with
  | error f => simp [Except.bind, Known]
  | ok r =>
    cases hfound : r.isNotFound <;> cases hsuccess : r.isSuccess <;>
      simp [Except.bind, Status.storedConnection, Known, hfound, hsuccess]

/-! ### The calls of a part of a run -/

/-- Whatever the world does, the result of a part of a run is related to the calls that it makes,
the first one first. -/
def MakesCalls {σ α : Type} (Q : α → List ServiceCall → Prop) (m : Run σ α) : Prop :=
  Tells (fun x new => Q x (serviceCalls new)) m

namespace MakesCalls

variable {σ α β : Type} {Q Q' : α → List ServiceCall → Prop} {R : β → List ServiceCall → Prop}

theorem pure {x : α} (h : Q x []) : MakesCalls Q (Pure.pure x : Run σ α) := Tells.pure h

/-- The calls of the second part come behind those of the first one. -/
theorem bind {m : Run σ β} {f : β → Run σ α} (hm : MakesCalls R m)
    (hf : ∀ x calls, R x calls → MakesCalls (fun y more => Q y (calls ++ more)) (f x)) :
    MakesCalls Q (m >>= f) := by
  refine Tells.bind hm fun x new hR => (hf x _ hR).mono fun y newer hQ => ?_
  rwa [serviceCalls_append]

theorem mono {m : Run σ α} (hm : MakesCalls Q m) (h : ∀ x calls, Q x calls → Q' x calls) :
    MakesCalls Q' m := Tells.mono hm fun x _ => h x _

/-- A part that is followed by a function of its result. -/
theorem map {m : Run σ β} {f : β → α} (hm : MakesCalls R m)
    (h : ∀ x calls, R x calls → Q (f x) calls) : MakesCalls Q (do return f (← m)) :=
  Tells.map hm fun x _ => h x _

/-- A part that begins without a call. -/
theorem uncalled_bind {m : Run σ β} {f : β → Run σ α} (hm : Adds (fun s => s.call? = none) m)
    (hf : ∀ x, MakesCalls Q (f x)) : MakesCalls Q (m >>= f) := by
  have hnone : MakesCalls (fun _ calls => calls = []) m := by
    intro t
    obtain ⟨new, hnew, hcall⟩ := hm t
    refine ⟨new, hnew, List.filterMap_eq_nil_iff.2 fun s hs => hcall s ?_⟩
    exact List.mem_reverse.1 hs
  refine hnone.bind ?_
  rintro x _ rfl
  exact hf x

/-- One call is made, and its answer is the result. -/
theorem serve (w : World σ) (role : ServiceRole) (endpoint : String) (params : Status.Parameters) :
    MakesCalls (fun answer calls => calls = [⟨role, endpoint, params, answer⟩])
      (w.serve role endpoint params) := by
  refine (Tells.serve w role endpoint params).mono ?_
  rintro answer _ rfl
  rfl

end MakesCalls

/-! ### Posting until accepted -/

/-- The answers to at most so many attempts to post something: an attempt follows another one
exactly if that has failed and attempts are left. -/
structure Attempts (most : Nat) (answers : List (Except StatusFault Status.Response)) : Prop where
  /-- There are not too many attempts. -/
  length_le : answers.length ≤ most
  /-- There is one, unless none is allowed. -/
  length_pos : 0 < most → 0 < answers.length
  /-- Before the last one all have failed. -/
  failed : ∀ answer ∈ answers.dropLast, ¬ Accepts answer
  /-- Attempts are left only behind an accepted one. -/
  accepted : answers.length < most → ∃ answer ∈ answers.getLast?, Accepts answer

variable {most : Nat} {answer : Except StatusFault Status.Response}
  {answers : List (Except StatusFault Status.Response)}

theorem attempts_zero : Attempts 0 [] :=
  ⟨Nat.le_refl 0, id, nofun, fun h => absurd h (Nat.lt_irrefl 0)⟩

theorem attempts_accepted (h : Accepts answer) : Attempts (most + 1) [answer] :=
  ⟨by simp, fun _ => Nat.one_pos, nofun, fun _ => ⟨answer, rfl, h⟩⟩

/-- A failed attempt is followed by those that are left. -/
theorem Attempts.after_failed (h : Attempts most answers) (hanswer : ¬ Accepts answer) :
    Attempts (most + 1) (answer :: answers) where
  length_le := Nat.succ_le_succ h.length_le
  length_pos _ := Nat.succ_pos _
  failed := by
    cases answers with
    | nil => nofun
    | cons next rest =>
      rw [List.dropLast_cons_of_ne_nil (List.cons_ne_nil next rest)]
      exact List.forall_mem_cons.2 ⟨hanswer, h.failed⟩
  accepted hleft := by
    obtain ⟨last, hlast, haccepts⟩ := h.accepted (Nat.lt_of_succ_lt_succ hleft)
    refine ⟨last, ?_, haccepts⟩
    rw [List.getLast?_cons, Option.mem_def.1 hlast]
    rfl

/-! ### The calls of the store -/

/-- The calls that store a position. -/
def StoresPosition (t : Tracking) (most : Nat) (c : Checkpoint) (calls : List ServiceCall) : Prop :=
  ∃ answers, Attempts most answers ∧ calls = answers.map fun answer =>
    ⟨.status, (Status.Endpoints.ofApp t.app).positions, Status.positionParameters c, answer⟩

/-- The call that reports that an entity is connected. -/
def ReportsConnected (t : Tracking) (calls : List ServiceCall) : Prop :=
  ∃ time answer, calls = [⟨.status, (Status.Endpoints.ofApp t.app).health,
    Status.healthParameters ⟨t.entity, true, time⟩, answer⟩]

/-- The calls that report that an entity is no longer connected: it is looked up when it was
connected last, and this is posted unless it cannot be told. -/
def ReportsDisconnected (t : Tracking) (calls : List ServiceCall) : Prop :=
  let endpoint := (Status.Endpoints.ofApp t.app).health
  ∃ found posts, calls = ⟨.status, endpoint ++ t.entity, [], found⟩ :: posts ∧
    (Known found → ∃ time answer,
      found.bind (Status.storedConnection (endpoint ++ t.entity)) = .ok time ∧
      posts = [⟨.status, endpoint, Status.healthParameters ⟨t.entity, false, time⟩, answer⟩]) ∧
    (¬ Known found → posts = [])

variable {σ : Type} (w : World σ)

namespace CheckpointStore

/-- A post has been made, and the result tells whether it was accepted. -/
def Posted {ε : Type} (endpoint : String) (params : Status.Parameters) (result : Except ε Unit)
    (calls : List ServiceCall) : Prop :=
  ∃ answer, calls = [⟨.status, endpoint, params, answer⟩] ∧ (Accepts answer ↔ result = .ok ())

theorem makesCalls_post (endpoint : String) (params : Status.Parameters) :
    MakesCalls (Posted endpoint params) (post w endpoint params) := by
  refine (MakesCalls.serve w .status endpoint params).bind ?_
  rintro answer _ rfl
  cases answer with
  | error f => exact .pure ⟨_, rfl, by simp [Accepts]⟩
  | ok r =>
    refine .pure ⟨_, rfl, ?_⟩
    cases hr : r.isSuccess <;> simp [Accepts, hr]

variable {s : CheckpointStore} {t : Tracking}

/-- An attempt to store a position posts it once. -/
theorem makesCalls_attempt (ht : s.tracking = some t) (c : Checkpoint) (number : Nat) :
    MakesCalls (Posted (Status.Endpoints.ofApp t.app).positions (Status.positionParameters c))
      (attempt w s c number) := by
  have hcommit : MakesCalls (Posted (Status.Endpoints.ofApp t.app).positions
      (Status.positionParameters c)) (s.commit w c) := by
    simp only [commit, ht]
    refine (makesCalls_post w _ _).bind ?_
    rintro result _ ⟨answer, rfl, hresult⟩
    split
    · exact .uncalled_bind (.measure rfl) fun _ => .pure ⟨answer, rfl, hresult⟩
    · exact .pure ⟨answer, rfl, hresult⟩
  have hresult : MakesCalls (Posted (Status.Endpoints.ofApp t.app).positions
      (Status.positionParameters c)) (do return (← s.commit w c).mapError StatusFault.message) := by
    refine hcommit.map ?_
    rintro result _ ⟨answer, rfl, hiff⟩
    refine ⟨answer, rfl, hiff.trans ?_⟩
    cases result with
    | ok _ => exact ⟨fun _ => rfl, fun _ => rfl⟩
    | error f =>
      constructor
      · intro h
        cases h
      · intro h
        cases h
  unfold attempt
  split
  · exact .uncalled_bind (.measure rfl) fun _ => hresult
  · exact hresult

/-- **Attempts are made until one is accepted** or none is left. -/
theorem makesCalls_attemptsFrom (ht : s.tracking = some t) (c : Checkpoint) (p : RetryPolicy)
    (left made : Nat) (lastError : String) (delay : Duration) :
    MakesCalls (fun _ => StoresPosition t left c)
      (p.attemptsFrom w (attempt w s c) made lastError delay left) := by
  induction left generalizing made lastError delay with
  | zero => exact .pure ⟨[], attempts_zero, rfl⟩
  | succ left ih =>
    refine (makesCalls_attempt w ht c _).bind ?_
    rintro result _ ⟨answer, rfl, hiff⟩
    cases result with
    | ok _ => exact .pure ⟨[answer], attempts_accepted (hiff.2 rfl), rfl⟩
    | error e =>
      have hfailed : ¬ Accepts answer := fun haccepts => by cases hiff.1 haccepts
      refine .uncalled_bind (.demand fun _ => rfl) fun _ => (ih _ _ _).mono ?_
      rintro _ _ ⟨answers, hanswers, rfl⟩
      exact ⟨answer :: answers, hanswers.after_failed hfailed, rfl⟩

theorem makesCalls_commitWithRetry (ht : s.tracking = some t) (p : RetryPolicy) (c : Checkpoint) :
    MakesCalls (fun _ => StoresPosition t p.maxAttempts c) (s.commitWithRetry w p c) := by
  rw [commitWithRetry_eq w ht]
  refine (makesCalls_attemptsFrom w ht c p _ _ _ _).bind fun outcome calls hcalls => ?_
  refine .uncalled_bind (.measure rfl) fun _ => .pure ?_
  rwa [List.append_nil]

/-- A connection is reported with one post. -/
theorem makesCalls_reportConnected (ht : s.tracking = some t) :
    MakesCalls (fun _ => ReportsConnected t) (s.reportHealth w true) := by
  simp only [reportHealth, ht, connectionTime, if_true]
  refine MakesCalls.bind (R := fun time calls => calls = [] ∧ ∃ text, time = .ok text)
    (.uncalled_bind (.clock w) fun _ => .pure ⟨rfl, _, rfl⟩) ?_
  rintro _ _ ⟨rfl, text, rfl⟩
  refine (makesCalls_post w _ _).map ?_
  rintro _ _ ⟨answer, rfl, -⟩
  exact ⟨text, answer, rfl⟩

/-- The end of a connection is reported with a look-up and, if this tells enough, a post. -/
theorem makesCalls_reportDisconnected (ht : s.tracking = some t) :
    MakesCalls (fun _ => ReportsDisconnected t) (s.reportHealth w false) := by
  simp only [reportHealth, ht, connectionTime]
  let endpoint := (Status.Endpoints.ofApp t.app).health
  let Found (time : Except StatusFault String) (calls : List ServiceCall) : Prop := ∃ found,
    calls = [⟨.status, endpoint ++ t.entity, [], found⟩] ∧
      time = found.bind (Status.storedConnection (endpoint ++ t.entity))
  refine MakesCalls.bind (R := Found)
    ((MakesCalls.serve w _ _ _).map fun found calls hcall => ⟨found, hcall, rfl⟩) ?_
  rintro time _ ⟨found, rfl, htime⟩
  cases time with
  | error f =>
    have hunknown : ¬ Known found := fun hknown => by
      obtain ⟨text, htext⟩ : ∃ text, found.bind (Status.storedConnection (endpoint ++ t.entity)) =
          .ok text := storedConnection_eq_ok_iff.2 hknown
      rw [← htime] at htext
      cases htext
    exact .pure ⟨found, [], rfl, fun hknown => absurd hknown hunknown, fun _ => rfl⟩
  | ok text =>
    have hknown : Known found := storedConnection_eq_ok_iff.1 ⟨text, htime.symm⟩
    refine (makesCalls_post w _ _).map ?_
    rintro _ _ ⟨answer, rfl, -⟩
    exact ⟨found, _, rfl, fun _ => ⟨text, answer, htime.symm, rfl⟩, fun h => absurd hknown h⟩

end CheckpointStore

end LogCollector
