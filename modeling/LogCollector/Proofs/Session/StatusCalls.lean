import LogCollector.Proofs.Session.Answering
import LogCollector.Proofs.Session.Attribution
import Mathlib.Data.List.Forall2

/-!
# When the status service is called

The journal of a session tells on which occasions the status service has to be called
(`occasions`): a record has been dispatched at a position that the commit interval divides, or the
session has been left. `status_calls_exact` says that the calls made are those of the occasions,
one occasion after the other, and no others.

The invariant of the loop is that every occasion has got its calls (`Reported`); an event brings at
most one more, with its calls behind it.
-/

namespace LogCollector

/-! ### Reading the occasions off a journal -/

/-- A position that is to be stored as soon as it is reached. -/
def Plan.Marks (p : Plan) (position : Int) : Prop :=
  0 < position ∧ 0 < p.commitInterval ∧ (p.commitInterval : Int) ∣ position

instance (p : Plan) (position : Int) : Decidable (p.Marks position) :=
  inferInstanceAs (Decidable (_ ∧ _ ∧ _))

/-- The occasion that comes with a step, given how far the reading had come before. -/
def Occasion.of? (a : Assignment) (p : Progress) : Step → Option Occasion
  | .wrote _ (.ok ()) | .measured .suppressed =>
    (p.last?.filter fun position => a.plan.Marks position).map (.reached p.file)
  | .received (.ok (.ended _ position)) => some (.left p.file position)
  | .received (.error _) => some (.left p.file (p.last?.getD 0))
  | .opened request (.error _) => some (.left request.target 0)
  | _ => none

/-- The occasions in the journal of a session, the first one first. -/
def occasions (a : Assignment) : List Step → List Occasion
  | [] => []
  | s :: past => occasions a past ++ (Occasion.of? a (progress a.target past) s).toList

/-- Every occasion has got its calls, in order, and no other calls were made. -/
def Reported (a : Assignment) (j : List Step) : Prop :=
  ∃ blocks, List.Forall₂ (Occasion.Calls a) (occasions a j) blocks ∧ serviceCalls j = blocks.flatten

variable {a : Assignment} {j past new : List Step}

theorem isDue_eq_true_iff {position : Int} : Controller.isDue a position = true ↔
    a.store.isEnabled = true ∧ a.plan.Marks position := by
  simp only [Controller.isDue, Plan.Marks, Bool.and_eq_true, decide_eq_true_eq, beq_iff_eq,
    Int.dvd_iff_emod_eq_zero, and_assoc]
  exact and_congr_right fun _ => and_left_comm

theorem Occasion.of?_of_serves {P : ServiceRole → String → Status.Parameters → Prop} {s : Step}
    (h : Serves P s) (p : Progress) : Occasion.of? a p s = none := by
  cases s with
  | called role endpoint params answer => rfl
  | slept d => rfl
  | measured m =>
    cases m with
    | suppressed => exact absurd rfl h
    | _ => rfl
  | _ => exact h.elim

/-- Steps that go with calls are no occasions, and the reading comes no further. -/
theorem occasions_append_of_served (h : ∀ s ∈ new, s.IsServed) (j : List Step) :
    occasions a (new ++ j) = occasions a j ∧
      progress a.target (new ++ j) = progress a.target j := by
  induction new with
  | nil => exact ⟨rfl, rfl⟩
  | cons s new ih =>
    rw [List.forall_mem_cons] at h
    obtain ⟨hoccasions, hprogress⟩ := ih h.2
    refine ⟨?_, (progress_of_serves h.1 _ _).trans hprogress⟩
    rw [List.cons_append, occasions, Occasion.of?_of_serves h.1, hoccasions, Option.toList_none,
      List.append_nil]

theorem reported_nil : Reported a [] := ⟨[], .nil, rfl⟩

/-- Without a new occasion there are no new calls. -/
theorem Reported.same (h : Reported a past) (hoccasions : occasions a j = occasions a past)
    (hcalls : serviceCalls j = serviceCalls past) : Reported a j := by
  obtain ⟨blocks, hblocks, hall⟩ := h
  rw [Reported, hoccasions, hcalls]
  exact ⟨blocks, hblocks, hall⟩

/-- A step that is neither an occasion nor a call. -/
theorem Reported.step (h : Reported a past) {s : Step} (hcall : s.call? = none)
    (hs : ∀ p, Occasion.of? a p s = none) : Reported a (s :: past) :=
  h.same (by rw [occasions, hs, Option.toList_none, List.append_nil]) (by simp [hcall])

/-- A new occasion comes with its calls. -/
theorem Reported.next (h : Reported a past) {o : Occasion} {calls : List ServiceCall}
    (hoccasions : occasions a j = occasions a past ++ [o])
    (hcalls : serviceCalls j = serviceCalls past ++ calls) (ho : o.Calls a calls) :
    Reported a j := by
  obtain ⟨blocks, hblocks, hall⟩ := h
  refine ⟨blocks ++ [calls], ?_, ?_⟩
  · rw [hoccasions]
    exact List.rel_append hblocks (.cons ho .nil)
  · rw [hcalls, hall, List.flatten_append, List.flatten_singleton]

theorem Occasion.calls_of_untracked (ht : a.store.tracking = none) {o : Occasion}
    {calls : List ServiceCall} : o.Calls a calls ↔ calls = [] := by
  simp only [Occasion.Calls, ht]

/-- Without tracking no calls are made. -/
theorem Reported.none_of_untracked (h : Reported a j) (ht : a.store.tracking = none) :
    serviceCalls j = [] := by
  obtain ⟨blocks, hblocks, hall⟩ := h
  rw [hall]
  clear hall
  generalize occasions a j = os at hblocks
  induction hblocks with
  | nil => rfl
  | cons ho _ ih =>
    rw [List.flatten_cons, (Occasion.calls_of_untracked ht).1 ho, ih, List.append_nil]

namespace Controller

variable {c : Controller} {r : Record} {x : Except RunFault Directive × Controller}

/-! ### From one event to the next -/

/-- What holds while an event is waited for. -/
structure Reports (a : Assignment) (c : Controller) (j : List Step) : Prop where
  /-- The session may end. -/
  endable : c.state.allows .ending = true
  /-- The controller knows how far the reading has come. -/
  follows : c.Follows (progress a.target j)
  /-- Every occasion has got its calls. -/
  reported : Reported a j

/-- The calls behind a dispatched record are those of the occasion, if it is one. -/
theorem Recorded.calls {file : LogFile} {position : Int} (h : Recorded a file position new) :
    (∀ s ∈ new, s.IsServed) ∧ if a.plan.Marks position then
      (Occasion.reached file position).Calls a (serviceCalls new) else serviceCalls new = [] := by
  unfold Recorded at h
  by_cases hmarks : a.plan.Marks position
  · rw [if_pos hmarks]
    by_cases hdue : isDue a position = true
    · rwa [if_pos hdue] at h
    · -- What is marked is due unless nothing is tracked.
      have hnone : a.store.tracking = none := by
        simpa [isDue_eq_true_iff, hmarks, CheckpointStore.isEnabled] using hdue
      rw [if_neg hdue] at h
      subst h
      exact ⟨List.forall_mem_nil _, (Occasion.calls_of_untracked hnone).2 rfl⟩
  · have hdue : ¬ isDue a position = true := fun h => hmarks (isDue_eq_true_iff.1 h).2
    rw [if_neg hdue] at h
    subst h
    rw [if_neg hmarks]
    exact ⟨List.forall_mem_nil _, rfl⟩

/-- A dispatched record is an occasion if its position is marked. -/
theorem occasions_of_dispatched {format : LineFormat} (hnew : Dispatched format r (.ok ()) new) :
    let j := new ++ .received (.ok (.record r)) :: past
    let p := progress a.target past
    occasions a j = occasions a past ++
        (if a.plan.Marks r.position then [.reached p.file r.position] else []) ∧
      serviceCalls j = serviceCalls past ∧ (progress a.target j).file = p.file ∧
      (progress a.target j).last? = some r.position := by
  let p := progress a.target past
  -- The last record is this one, whatever has been measured since.
  have hoccasion : ∀ s, s = .measured .suppressed ∨ s = .wrote (format.line r) (.ok ()) →
      Occasion.of? a { p with
        delivered := (p.file.fileId, r.position) :: p.delivered
        upcoming := some (r.position + 1) } s =
      if a.plan.Marks r.position then some (.reached p.file r.position) else none := by
    rintro s (rfl | rfl) <;> by_cases h : a.plan.Marks r.position <;>
      simp [Occasion.of?, Progress.last?, h]
  have hlist : ∀ o : Occasion, (if a.plan.Marks r.position then some o else none).toList =
      if a.plan.Marks r.position then [o] else [] := by
    intro o
    split <;> rfl
  cases hnew with
  | suppressed =>
    refine ⟨?_, by simp [Step.call?], rfl, rfl⟩
    rw [← hlist, ← hoccasion _ (.inl rfl)]
    simp [occasions, Occasion.of?, progress, Progress.after, p]
  | written =>
    refine ⟨?_, by simp [Step.call?], rfl, rfl⟩
    rw [← hlist, ← hoccasion _ (.inr rfl)]
    simp [occasions, Occasion.of?, progress, Progress.after, p]

/-- A record is dispatched with the calls of its occasion, or the run is over. -/
theorem Reports.record (h : Reports a c past) (hanswered : Answered a c (.record r) x new) :
    Directs (Reports a) (Reports a) (fun _ => Reported a) x
      (new ++ .received (.ok (.record r)) :: past) := by
  obtain ⟨session, hactive, hfile⟩ := h.follows.1
  cases hanswered with
  | refused => exact h.reported.same (by simp [occasions, Occasion.of?]) (by simp [Step.call?])
  | lost hstate hsession hnew =>
    cases hnew with
    | lost f hline =>
      exact h.reported.same (by simp [occasions, Occasion.of?]) (by simp [Step.call?])
  | @recorded _ _ new newer hstate hsession hnew hnewer =>
    obtain rfl : session = _ := Option.some.inj (hactive.symm.trans hsession)
    let j := new ++ .received (.ok (.record r)) :: past
    obtain ⟨hoccasions, hcalls, hfile', hlast⟩ : _ ∧ serviceCalls j = serviceCalls past ∧ _ :=
      occasions_of_dispatched hnew
    obtain ⟨hserved, hnewcalls⟩ := hnewer.calls
    obtain ⟨hsame, hprogress⟩ : occasions a (newer ++ j) = occasions a j ∧ _ :=
      occasions_append_of_served hserved j
    have hallcalls : serviceCalls (newer ++ j) = serviceCalls past ++ serviceCalls newer := by
      rw [serviceCalls_append, hcalls]
    rw [List.append_assoc]
    refine ⟨by rw [recorded, hstate]; rfl, ⟨⟨_, rfl, ?_⟩, ?_⟩, ?_⟩
    · rw [hprogress, hfile']
      exact hfile
    · rw [hprogress, hlast]
      rfl
    · by_cases hmarks : a.plan.Marks r.position
      · rw [if_pos hmarks] at hoccasions hnewcalls
        rw [hfile] at hnewcalls
        exact h.reported.next (hsame.trans hoccasions) hallcalls hnewcalls
      · rw [if_neg hmarks, List.append_nil] at hoccasions
        rw [if_neg hmarks] at hnewcalls
        rw [hnewcalls, List.append_nil] at hallcalls
        exact h.reported.same (hsame.trans hoccasions) hallcalls

/-- The end of a session comes with its calls. -/
theorem Reports.ended {reason : EndReason} {position : Int} (h : Reports a c past)
    (hanswered : Answered a c (.ended reason position) x new) {s : Step} (hcall : s.call? = none)
    (hs : Occasion.of? a (progress a.target past) s =
      some (.left (progress a.target past).file position)) :
    Directs (Reports a) (Reports a) (fun _ => Reported a) x (new ++ s :: past) := by
  cases hanswered with
  | unended _ _ hrefused =>
    rw [h.endable] at hrefused
    cases hrefused
  | ended hserved hcalls =>
    rw [h.follows.1.currentFile] at hcalls
    refine h.reported.next ?_ ?_ hcalls
    · rw [(occasions_append_of_served hserved _).1, occasions, hs, Option.toList_some]
    · simp [hcall]

/-- **The answer to an event** leads to the next wait or to the end, with all calls made. -/
theorem Reports.answered {answer : Except SessionFault SessionEvent} (h : Reports a c past)
    (hanswered : Answered a c (c.eventOf answer) x new) :
    Directs (Reports a) (Reports a) (fun _ => Reported a) x (new ++ .received answer :: past) := by
  match answer, hanswered with
  | .error f, hanswered =>
    refine h.ended hanswered rfl ?_
    rw [Occasion.of?, h.follows.2]
  | .ok (.ended reason position), hanswered => exact h.ended hanswered rfl rfl
  | .ok (.record r), hanswered => exact h.record hanswered
  | .ok .established, .established =>
    have hreceived : Reported a (.received (.ok .established) :: past) :=
      h.reported.step rfl fun _ => rfl
    exact ⟨h.endable, h.follows, hreceived.step rfl fun _ => rfl⟩
  | .ok .filterAck, .acknowledged _ => exact ⟨rfl, h.follows, h.reported.step rfl fun _ => rfl⟩
  | .ok .filterAck, .ignored _ => exact ⟨h.endable, h.follows, h.reported.step rfl fun _ => rfl⟩
  | .ok (.logSwitch file), .switched _ =>
    obtain ⟨⟨session, hactive, -⟩, hlast⟩ := h.follows
    refine ⟨h.endable, ⟨⟨{ session with file }, by rw [hactive]; rfl, rfl⟩, ?_⟩,
      h.reported.step rfl fun _ => rfl⟩
    rw [Controller.lastPosition, hactive] at hlast
    rw [Controller.lastPosition, hactive]
    exact hlast

/-! ### Whole sessions -/

/-- Something holds of what has been done since the session was requested. -/
def Since (base : List Step) (I : List Step → Prop) (j : List Step) : Prop :=
  ∃ later, j = later ++ base ∧ I later

variable {base : List Step} {σ : Type} (w : World σ)

/-- Through all events every occasion gets its calls. -/
theorem pump_reported_triple (fuel : Nat) (c : Controller) :
    Triple (.owing fun _ => True) (Since base (Reports a c)) (pump w a fuel c)
      fun _ => Since base (Reported a) := by
  let Wait (c : Controller) : List Step → Prop := Since base (Reports a c)
  let Q (_ : Option (Except RunFault SessionOutcome) × Controller) : List Step → Prop :=
    Since base (Reported a)
  have hanswered : ∀ c answer past x new, Wait c past → Answered a c (c.eventOf answer) x new →
      Directs Wait Wait Q x (new ++ .received answer :: past) := by
    rintro c answer past ⟨result, c'⟩ new ⟨later, rfl, h⟩ hx
    have hdirects := h.answered hx
    have hsince : ∀ {I : List Step → Prop}, I (new ++ .received answer :: later) →
        Since base I (new ++ .received answer :: (later ++ base)) :=
      fun hI => ⟨_, by simp, hI⟩
    cases result with
    | error f => exact hsince hdirects
    | ok directive => cases directive <;> exact hsince hdirects
  refine pump_answered_triple w hanswered ?_ ?_ fuel c
  · rintro c answer past ⟨later, rfl, h⟩
    have hreported : Reported a (.resumed answer :: later) := h.reported.step rfl fun _ => rfl
    cases answer with
    | error f => exact ⟨_, rfl, hreported⟩
    | ok _ => exact ⟨.resumed (.ok ()) :: later, rfl, h.endable, h.follows, hreported⟩
  · rintro c j ⟨later, rfl, h⟩
    exact ⟨later, rfl, h.reported⟩

/-- What follows the request for a session gives every occasion its calls. -/
theorem conduct_reported_triple (c : Controller) (terms : SessionTerms) (position : StartPosition)
    (fuel : Nat) :
    Triple (.owing fun _ => True) (fun j => j = base)
      (conduct w a fuel (requestFor a terms position) (c.ready a terms))
      fun _ => Since base (Reported a) := by
  let request := requestFor a terms position
  have hopened : Reported a [.opened request (.ok ())] := reported_nil.step rfl fun _ => rfl
  have hfollows : (c.ready a terms).Follows (progress a.target [.opened request (.ok ())]) :=
    ⟨⟨_, rfl, rfl⟩, rfl⟩
  refine conduct_answered_triple w rfl ?_ ?_ fun c' => pump_reported_triple w fuel c'
  · rintro f past new rfl hserved hcalls
    refine ⟨new ++ [.opened request (.error f)], by simp [request], reported_nil.next ?_ ?_ hcalls⟩
    · rw [(occasions_append_of_served hserved _).1]
      rfl
    · simp [Step.call?]
  · rintro answer c' past new rfl hnew
    cases hnew with
    | unfiltered _ => exact ⟨[.opened request (.ok ())], rfl, rfl, hfollows, hopened⟩
    | filtered rulebase _ _ =>
      have hregistered : Reported a [.registered rulebase answer, .opened request (.ok ())] :=
        hopened.step rfl fun _ => rfl
      cases answer with
      | error f => exact ⟨_, rfl, hregistered⟩
      | ok _ =>
        exact ⟨[.registered rulebase (.ok ()), .opened request (.ok ())], rfl, rfl, hfollows,
          hregistered⟩

/-- **The status service is called on the occasions of a session, and never else.** After a
successful start the calls are those of the occasions that the journal tells, in order; without
tracking there are none. -/
theorem status_calls_exact {σ : Type} (w : World σ) (a : Assignment) (c : Controller) (fuel : Nat)
    (s : σ) {request : SessionRequest} (hstart : (start w a c ⟨s, []⟩).1.1 = .ok request) :
    ∃ later, (runSession w a fuel c ⟨s, []⟩).2.journal =
        later ++ (start w a c ⟨s, []⟩).2.journal ∧
      (∃ blocks, List.Forall₂ (Occasion.Calls a) (occasions a later) blocks ∧
        serviceCalls later = blocks.flatten) ∧
      (a.store.tracking = none → serviceCalls later = []) := by
  have hready := start_ready w (a := a) c ⟨s, []⟩
  rw [runSession_eq, Run.bind_apply]
  generalize start w a c ⟨s, []⟩ = prepared at hready hstart ⊢
  obtain ⟨⟨result, c₁⟩, t⟩ := prepared
  obtain rfl : result = .ok request := hstart
  obtain ⟨terms, stored, c₀, -, rfl, rfl⟩ := hready request rfl
  have hconduct := (conduct_reported_triple w (a := a) c₀ terms (startFor terms.online stored)
    fuel).sound t (fun _ _ _ => trivial) (Contract.kept_owing _ _) rfl
  obtain ⟨later, hlater, hreported⟩ := hconduct.2 (Contract.kept_owing _ _)
  exact ⟨later, hlater, hreported, hreported.none_of_untracked⟩

/-- An assignment under which every second position is stored. -/
def everySecond : Assignment :=
  { tracked with plan := { tracked.plan with commitInterval := 2 } }

/-- A stage on which a record comes before the switch of the log file and two behind it, after
which the connection fails. -/
def switching : Stage :=
  failing [.established, .record ⟨2, []⟩, .logSwitch ⟨"b.log", 9⟩, .record ⟨3, []⟩, .record ⟨4, []⟩]

/-- The occasions of this session are two records, and the end behind the second one. -/
theorem status_calls_exact_every_second :
    let prepared := start Stage.world everySecond initial ⟨switching, []⟩
    let run := runSession Stage.world everySecond 6 initial ⟨switching, []⟩
    ∃ request, prepared.1.1 = .ok request ∧ ∃ later,
      run.2.journal = later ++ prepared.2.journal ∧ Reported everySecond later ∧
      occasions everySecond later =
        [.reached ⟨"fw.log", 1⟩ 2, .reached ⟨"b.log", 9⟩ 4, .left ⟨"b.log", 9⟩ 4] := by
  have htake : ∀ {j later base : List Step}, j = later ++ base →
      later = j.take (j.length - base.length) := by
    rintro _ later base rfl
    simp
  obtain ⟨request, hstart⟩ : ∃ request,
      (start Stage.world everySecond initial ⟨switching, []⟩).1.1 = .ok request := ⟨_, rfl⟩
  obtain ⟨later, hlater, hreported, -⟩ :=
    status_calls_exact Stage.world everySecond initial 6 switching hstart
  refine ⟨request, hstart, later, hlater, hreported, ?_⟩
  rw [htake hlater]
  decide +kernel

end Controller

end LogCollector
