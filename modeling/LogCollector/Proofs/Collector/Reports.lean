import LogCollector.Collector
import LogCollector.Proofs.Run.SideBySide
import LogCollector.Proofs.Run.Waits
import LogCollector.Proofs.Session.Answering
import Mathlib.Data.List.Forall2

/-!
# What a report tells

A run reports the log files that it has read, each with the number of its sessions and the reason
for which the last one ended, and whether it was asked to stop before its end. The journal of the
run tells of the sessions as well (`sessionRecords`): the log file that a session was opened for,
whether it was established, and the reason that the collaborator gave for its end. The two agree
(`report_is_faithful`), given that a request to stop is not taken back.

The sessions of a log file follow one another as their ends call for it (`Visits`), so that the
journal alone decides which sessions belong to which entry of the report.
-/

namespace LogCollector

/-! ### Reading sessions off a journal -/

/-- What a journal tells of a session. -/
structure SessionRecord where
  /-- The log file that it was opened for. -/
  target : LogFile
  /-- Whether it was established. -/
  established : Bool
  /-- Why it ended, if it has. -/
  reason : Option EndReason
  deriving DecidableEq

/-- The sessions after one more step, the latest one first. A session that cannot be opened, and one
whose events cannot be received, end for reasons of their own. -/
def SessionRecord.after (records : List SessionRecord) : Step → List SessionRecord
  | .opened request (.ok _) => ⟨request.target, false, none⟩ :: records
  | .opened request (.error _) => ⟨request.target, false, some .unableToAttachComm⟩ :: records
  | .received (.ok .established) => records.modifyHead fun r => { r with established := true }
  | .received (.ok (.ended reason _)) =>
    records.modifyHead fun r => { r with reason := some reason }
  | .received (.error _) => records.modifyHead fun r => { r with reason := some .commFailure }
  | _ => records

/-- The sessions that a journal tells of, the latest one first. -/
def sessionRecords : List Step → List SessionRecord
  | [] => []
  | s :: past => SessionRecord.after (sessionRecords past) s

/-- The sessions of a log file, the first one first, given whether one before them was established:
behind each but the last another one was called for, and behind the last one only if no reason is
reported, since the run was asked to stop. -/
inductive Visits (target : LogFile) (reported : Option EndReason) :
    Bool → List SessionRecord → Prop where
  /-- The last session ended, and no further one was called for. -/
  | ended {before established : Bool} {reason : EndReason} :
      reason.callsForReconnect (before || established) = false → reported = some reason →
      Visits target reported before [⟨target, established, some reason⟩]
  /-- Another session was called for, but the run was asked to stop. -/
  | stopped {before established : Bool} {reason : EndReason} :
      reason.callsForReconnect (before || established) = true → reported = none →
      Visits target reported before [⟨target, established, some reason⟩]
  /-- Another session was called for and followed. -/
  | again {before established : Bool} {reason : EndReason} {later : List SessionRecord} :
      reason.callsForReconnect (before || established) = true →
      Visits target reported (before || established) later →
      Visits target reported before (⟨target, established, some reason⟩ :: later)

theorem Visits.ne_nil {target : LogFile} {reported : Option EndReason} {before : Bool}
    {records : List SessionRecord} (h : Visits target reported before records) : records ≠ [] := by
  cases h <;> exact List.cons_ne_nil _ _

/-- An entry of a report covers the sessions of its log file. -/
structure TargetReport.Covers (entry : TargetReport) (records : List SessionRecord) : Prop where
  /-- They are counted. -/
  count : entry.sessions = records.length
  /-- There is one at least. -/
  positive : 0 < entry.sessions
  /-- Each follows from the one before, and what is reported is the end of the last one. -/
  visits : Visits entry.target entry.reason false records

/-- A report that agrees with the log files of the run and with the sessions, the first one
first. -/
structure RunReport.Faithful (r : RunReport) (targets : List LogFile)
    (records : List SessionRecord) : Prop where
  /-- The log files are read in order. -/
  order : r.targets.map (·.target) <+: targets
  /-- Every session belongs to an entry. -/
  sessions : ∃ blocks, List.Forall₂ TargetReport.Covers r.targets blocks ∧
    records = blocks.flatten
  /-- Only the last entry may lack a reason. -/
  reasons : ∀ entry ∈ r.targets.dropLast, entry.reason ≠ none
  /-- The run was interrupted if log files are missing or the last one lacks a reason. -/
  interrupted : r.interrupted = true ↔ r.targets.map (·.target) ≠ targets ∨
    ∃ entry ∈ r.targets.getLast?, entry.reason = none

/-- The world does not take back a request to stop. -/
def lastingStop : Contract where
  rely past s := s = .polled false → .polled true ∉ past
  guarantee _ := True

/-- Whether a step takes back no request to stop. -/
def Step.isLasting (past : List Step) : Step → Bool
  | .polled false => !past.any Step.isStop
  | _ => true

theorem kept_of_isLasting {j : List Step} (h : Contract.passes Step.isLasting j = true) :
    lastingStop.Kept j := by
  refine Contract.kept_of_passes (fun past s hs hpolled hstop => ?_) h
  rw [hpolled, Step.isLasting, Bool.not_eq_true'] at hs
  exact List.any_eq_false.1 hs _ hstop rfl

/-! ### Steps that tell nothing of sessions -/

/-- A step that tells nothing of sessions. -/
def Step.OffRecord (s : Step) : Prop := ∀ records, SessionRecord.after records s = records

theorem Step.IsAside.offRecord {s : Step} (h : s.IsAside) : s.OffRecord := by
  cases s <;> first | exact fun _ => rfl | exact h.elim

theorem offRecord_of_serves {P : ServiceRole → String → Status.Parameters → Prop} {s : Step}
    (h : Serves P s) : s.OffRecord := (isAside_of_serves h).offRecord

theorem offRecord_of_waits {s : Step} (h : Waits s) : s.OffRecord := by
  cases s <;> first | exact fun _ => rfl | exact h.elim

theorem sessionRecords_append {new : List Step} (h : ∀ s ∈ new, s.OffRecord) (j : List Step) :
    sessionRecords (new ++ j) = sessionRecords j := by
  induction new with
  | nil => rfl
  | cons s new ih =>
    rw [List.forall_mem_cons] at h
    exact (h.1 _).trans (ih h.2)

theorem sessionRecords_eq_nil {j : List Step} (h : ∀ s ∈ j, s.OffRecord) :
    sessionRecords j = [] := by
  rw [← List.append_nil j]
  exact sessionRecords_append h []

/-- Parts of a run that tell nothing of sessions leave what is known of them. -/
theorem Triple.of_offRecord {σ α : Type} {m : Run σ α} (h : Adds Step.OffRecord m)
    (P : List SessionRecord → Prop) :
    Triple (.owing fun _ => True) (fun j => P (sessionRecords j)) m
      fun _ j => P (sessionRecords j) :=
  .of_adds h fun _ j _ _ hs hj => ⟨trivial, (congrArg P (hs (sessionRecords j))).mpr hj⟩

namespace Controller

variable {a : Assignment} {c : Controller} {records : List SessionRecord} {before : Bool}
  {past new : List Step} {x : Except RunFault Directive × Controller}

/-! ### A session -/

theorem Dispatched.offRecord {format : LineFormat} {r : Record} {result : Except RunFault Unit}
    (h : Dispatched format r result new) : ∀ s ∈ new, s.OffRecord := by
  cases h <;> simp only [List.forall_mem_cons, List.not_mem_nil, false_imp_iff, implies_true,
    and_true]
  · exact ⟨fun _ => rfl, fun _ => rfl⟩
  · exact ⟨fun _ => rfl, fun _ => rfl, fun _ => rfl⟩
  · exact ⟨fun _ => rfl, fun _ => rfl, fun _ => rfl⟩

theorem Recorded.offRecord {file : LogFile} {position : Int} (h : Recorded a file position new) :
    ∀ s ∈ new, s.OffRecord := by
  unfold Recorded at h
  split at h
  · exact fun s hs => offRecord_of_serves (h.1 s hs)
  · rw [h]
    exact fun s hs => absurd hs List.not_mem_nil

/-- While a session lasts it is the latest one, and the controller knows whether one has been
established. -/
def OnRecord (a : Assignment) (before : Bool) (records : List SessionRecord) (c : Controller)
    (j : List Step) : Prop :=
  ∃ established, sessionRecords j = ⟨a.target, established, none⟩ :: records ∧
    c.established = (before || established)

/-- A session of a log file has ended with an outcome, behind other sessions and given whether one
of these was established: what is known of established sessions afterwards, and all sessions. -/
inductive SessionEnded (target : LogFile) (before : Bool) (records : List SessionRecord) :
    SessionOutcome → Bool → List SessionRecord → Prop where
  /-- The reason calls for no other session. -/
  | terminated {established : Bool} {reason : EndReason} :
      reason.callsForReconnect (before || established) = false →
      SessionEnded target before records (.terminated reason) (before || established)
        (⟨target, established, some reason⟩ :: records)
  /-- The reason calls for another session. -/
  | reconnect {established : Bool} {reason : EndReason} :
      reason.callsForReconnect (before || established) = true →
      SessionEnded target before records (.reconnect reason) (before || established)
        (⟨target, established, some reason⟩ :: records)

variable {target : LogFile} {reason : EndReason} {after : Bool} {latest : List SessionRecord}

theorem SessionEnded.of_terminated
    (h : SessionEnded target before records (.terminated reason) after latest) :
    ∃ established, latest = ⟨target, established, some reason⟩ :: records ∧
      reason.callsForReconnect (before || established) = false := by
  cases h with
  | terminated hno => exact ⟨_, rfl, hno⟩

theorem SessionEnded.of_reconnect
    (h : SessionEnded target before records (.reconnect reason) after latest) :
    ∃ established, latest = ⟨target, established, some reason⟩ :: records ∧
      after = (before || established) ∧
      reason.callsForReconnect (before || established) = true := by
  cases h with
  | reconnect hagain => exact ⟨_, rfl, rfl, hagain⟩

/-- Whatever the outcome is, the session has ended with its reason. -/
theorem SessionEnded.latest_eq {outcome : SessionOutcome}
    (h : SessionEnded target before records outcome after latest) :
    ∃ established, latest = ⟨target, established, some outcome.reason⟩ :: records := by
  cases h with
  | terminated _ => exact ⟨_, rfl⟩
  | reconnect _ => exact ⟨_, rfl⟩

theorem sessionEnded_conclude {established : Bool} (reason : EndReason)
    (h : c.established = (before || established)) :
    SessionEnded target before records (c.conclude reason).1 (c.conclude reason).2.established
      (⟨target, established, some reason⟩ :: records) := by
  unfold conclude
  by_cases hagain : reason.callsForReconnect c.established = true
  · rw [if_pos hagain, h]
    rw [h] at hagain
    exact .reconnect hagain
  · rw [if_neg hagain, h]
    rw [h, Bool.not_eq_true] at hagain
    exact .terminated hagain

/-- A session that is not opened ends at once. -/
theorem sessionEnded_unopened (terms : SessionTerms) (position : StartPosition)
    (f : SessionFault) (hrecords : sessionRecords past = records)
    (hserved : ∀ s ∈ new, s.IsServed) :
    SessionEnded a.target c.established records
      ((c.ready a terms).conclude .unableToAttachComm).1
      ((c.ready a terms).conclude .unableToAttachComm).2.established
      (sessionRecords (new ++ .opened (requestFor a terms position) (.error f) :: past)) := by
  rw [sessionRecords_append fun s hs => offRecord_of_serves (hserved s hs),
    sessionRecords, hrecords]
  exact sessionEnded_conclude .unableToAttachComm (Bool.or_false _).symm

/-- A session that has been opened is not established yet. -/
theorem onRecord_opened (terms : SessionTerms) (position : StartPosition)
    (hrecords : sessionRecords past = records) :
    OnRecord a c.established records (c.ready a terms)
      (.opened (requestFor a terms position) (.ok ()) :: past) := by
  refine ⟨false, ?_, (Bool.or_false _).symm⟩
  rw [sessionRecords, hrecords]
  rfl

/-- A session with an outcome has been put on record, with the reason that the outcome goes with. -/
def PutOnRecord (a : Assignment) (before : Bool) (records : List SessionRecord)
    (x : Option (Except RunFault SessionOutcome) × Controller) (j : List Step) : Prop :=
  ∀ outcome, x.1 = some (.ok outcome) →
    SessionEnded a.target before records outcome x.2.established (sessionRecords j)

/-- The end of a session is put on record with its reason. -/
theorem OnRecord.ended (h : OnRecord a before records c past) {reason : EndReason} {position : Int}
    (hanswered : Answered a c (.ended reason position) x new) {s : Step}
    (hs : ∀ records, SessionRecord.after records s =
      records.modifyHead fun r => { r with reason := some reason }) :
    Directs (OnRecord a before records) (OnRecord a before records)
      (PutOnRecord a before records) x (new ++ s :: past) := by
  obtain ⟨established, hrecords, hestablished⟩ := h
  cases hanswered with
  | unended => exact fun outcome h => nomatch h
  | ended hserved =>
    intro outcome houtcome
    obtain rfl := Except.ok.inj (Option.some.inj houtcome)
    rw [sessionRecords_append fun s hs => offRecord_of_serves (hserved s hs),
      sessionRecords, hs, hrecords]
    exact sessionEnded_conclude reason hestablished

/-- Every other event leaves the session the latest one. -/
theorem OnRecord.answered {answer : Except SessionFault SessionEvent}
    (h : OnRecord a before records c past) (hanswered : Answered a c (c.eventOf answer) x new) :
    Directs (OnRecord a before records) (OnRecord a before records)
      (PutOnRecord a before records) x (new ++ .received answer :: past) := by
  match answer, hanswered with
  | .error f, hanswered => exact h.ended hanswered fun _ => rfl
  | .ok (.ended reason position), hanswered => exact h.ended hanswered fun _ => rfl
  | .ok .established, .established =>
    obtain ⟨established, hrecords, hestablished⟩ := h
    refine ⟨true, ?_, by simp⟩
    change SessionRecord.after (sessionRecords past) (.received (.ok .established)) = _
    rw [hrecords]
    rfl
  | .ok .filterAck, .acknowledged _ => exact h
  | .ok .filterAck, .ignored _ => exact h
  | .ok (.logSwitch file), .switched _ => exact h
  | .ok (.record r), .refused _ _ => exact fun outcome h => nomatch h
  | .ok (.record r), .lost _ _ _ => exact fun outcome h => nomatch h
  | .ok (.record r), .recorded _ _ hnew hnewer =>
    obtain ⟨established, hrecords, hestablished⟩ := h
    refine ⟨established, ?_, hestablished⟩
    rw [List.append_assoc, sessionRecords_append hnewer.offRecord,
      sessionRecords_append hnew.offRecord]
    exact hrecords

variable {σ : Type} (w : World σ)

/-- Before a session it is remembered whether one has been established. -/
theorem start_established (a : Assignment) (c : Controller) :
    Yields (fun x => x.2.established = c.established) (start w a c) := by
  have henter : ∀ c', c.enter = .ok c' → c'.established = c.established := by
    intro c' h
    obtain ⟨-, hok⟩ | ⟨source, event, herror⟩ := enter_cases c
    · rw [← Except.ok.inj (hok.symm.trans h)]
    · rw [herror] at h
      cases h
  unfold start
  split
  · exact .pure rfl
  · rename_i c' hc'
    refine .next fun terms => ?_
    cases terms with
    | error f => exact .pure (henter c' hc')
    | ok terms =>
      dsimp only
      split
      · refine .next fun stored => ?_
        cases stored with
        | error f => exact .pure (henter c' hc')
        | ok stored => exact .pure (henter c' hc')
      · exact .pure (henter c' hc')

/-! ### The request to stop -/

theorem adds_start_unpolled {a : Assignment} (c : Controller) :
    Adds Step.Unpolled (start w a c) :=
  (adds_start w c).mono fun _ => unpolled_of_serves

theorem adds_finish_unpolled {a : Assignment} (c : Controller) (reason : EndReason)
    (position : Int) : Adds Step.Unpolled (finish w a c reason position) :=
  (adds_finish_served w c reason position).mono fun _ => unpolled_of_serves

theorem adds_attach (c : Controller) : Adds Step.Unpolled (attach w c) := by
  unfold attach
  split
  · exact (Adds.demand fun _ => nofun).bind fun _ => .pure _
  · split <;> exact .pure _

theorem Dispatched.unpolled {format : LineFormat} {r : Record} {result : Except RunFault Unit}
    (h : Dispatched format r result new) : ∀ s ∈ new, s.Unpolled := by
  cases h <;> simp [Step.Unpolled]

theorem Recorded.unpolled {file : LogFile} {position : Int} (h : Recorded a file position new) :
    ∀ s ∈ new, s.Unpolled := by
  unfold Recorded at h
  split at h
  · exact fun s hs => unpolled_of_serves (h.1 s hs)
  · rw [h]
    exact fun s hs => absurd hs List.not_mem_nil

/-- Events are answered whether or not the run is asked to stop. -/
theorem adds_handle_unpolled (a : Assignment) (c : Controller) (event : SessionEvent) :
    Adds Step.Unpolled (handle w a c event) := by
  refine (tells_handle w c event).adds fun x new h => ?_
  cases h with
  | established => exact List.forall_mem_singleton.2 nofun
  | lost _ _ hnew => exact hnew.unpolled
  | recorded _ _ hnew hnewer => exact List.forall_mem_append.2 ⟨hnewer.unpolled, hnew.unpolled⟩
  | ended hserved => exact fun s hs => unpolled_of_serves (hserved s hs)
  | _ => exact fun s hs => absurd hs List.not_mem_nil

/-- What follows the request for a session does not look at the request to stop. -/
theorem adds_conduct (a : Assignment) (fuel : Nat) (request : SessionRequest) (c : Controller) :
    Adds Step.Unpolled (conduct w a fuel request c) := by
  have hpump : ∀ c, Adds Step.Unpolled (pump w a fuel c) := by
    induction fuel with
    | zero => exact fun c => .pure _
    | succ fuel ih =>
      refine fun c => (Adds.demand fun _ => nofun).bind fun answer =>
        (adds_handle_unpolled w a c _).bind fun ⟨result, c'⟩ => ?_
      cases result with
      | error f => exact .pure _
      | ok directive =>
        cases directive with
        | proceed => exact ih c'
        | resume =>
          refine (Adds.demand fun _ => nofun).bind fun answer => ?_
          cases answer with
          | error f => exact .pure _
          | ok _ => exact ih c'
        | finish outcome => exact .pure _
  refine (Adds.demand fun _ => nofun).bind fun answer => ?_
  cases answer with
  | error f => exact (adds_finish_unpolled w c _ _).bind fun _ => .pure _
  | ok _ =>
    refine (adds_attach w c).bind fun ⟨result, c'⟩ => ?_
    cases result with
    | error f => exact .pure _
    | ok _ => exact hpump c'

/-- **During a session** the request to stop is not looked at. -/
theorem adds_runSession_unpolled (a : Assignment) (c : Controller) (fuel : Nat) :
    Adds Step.Unpolled (runSession w a fuel c) := by
  rw [runSession_eq]
  refine (adds_start_unpolled w c).bind fun ⟨result, c'⟩ => ?_
  cases result with
  | error f => exact .pure _
  | ok request => exact adds_conduct w a fuel request c'

/-! ### A session on record -/

/-- A session from its request on is put on record. -/
theorem conduct_record_triple (terms : SessionTerms) (position : StartPosition) (c : Controller)
    (fuel : Nat) (records : List SessionRecord) :
    Triple (.owing fun _ => True) (fun j => sessionRecords j = records)
      (conduct w a fuel (requestFor a terms position) (c.ready a terms))
      (PutOnRecord a c.established records) := by
  have hpump : ∀ c', Triple (.owing fun _ => True) (OnRecord a c.established records c')
      (pump w a fuel c') (PutOnRecord a c.established records) := by
    refine fun c' => pump_answered_triple w (fun c answer past x new h hx => OnRecord.answered h hx)
      (fun c answer past h => ?_) (fun c j h outcome hnone => nomatch hnone) fuel c'
    cases answer with
    | error f => exact fun outcome h => nomatch h
    | ok _ => exact h
  refine conduct_answered_triple w rfl ?_ ?_ hpump
  · intro f past new h hserved _ outcome houtcome
    obtain rfl := Except.ok.inj (Option.some.inj houtcome)
    exact sessionEnded_unopened terms position f h hserved
  · intro answer c' past new h hnew
    cases hnew with
    | unfiltered => exact onRecord_opened terms position h
    | filtered rulebase answer =>
      cases answer with
      | error f => exact fun outcome h => nomatch h
      | ok _ => exact onRecord_opened terms position h

/-- **A session is put on record**, with the reason for its end and what follows from it. -/
theorem runSession_record_triple (a : Assignment) (c : Controller) (fuel : Nat)
    (records : List SessionRecord) :
    Triple (.owing fun _ => True) (fun j => sessionRecords j = records) (runSession w a fuel c)
      (PutOnRecord a c.established records) := by
  rw [runSession_eq]
  have hspec : Yields (fun x => x.2.established = c.established ∧ ∀ request, x.1 = .ok request →
      ∃ terms stored c', request = requestFor a terms (startFor terms.online stored) ∧
        x.2 = ready c' a terms) (start w a c) :=
    fun t => ⟨start_established w a c t, start_spec w a c t⟩
  have hstart := (Triple.of_offRecord ((adds_start_aside w c).mono
    fun _ h => h.offRecord) (· = records)).and_yields hspec
  refine hstart.bind fun ⟨result, c₁⟩ => ?_
  cases result with
  | error f => exact .pure fun _ _ _ outcome h => nomatch h
  | ok request =>
    refine Triple.given (adds_conduct w a fuel request c₁) fun ⟨hestablished, hspec⟩ => ?_
    obtain ⟨terms, stored, c', rfl, rfl⟩ := hspec request rfl
    rw [← hestablished]
    exact conduct_record_triple w terms _ c' fuel records

end Controller

/-! ### A log file -/

namespace Collector

variable {σ : Type} (w : World σ) (c : Collector)

/-- Waiting opens no session, and only a request to stop cuts it short. -/
theorem waitOut_record_triple (remaining : Nat) (P : List SessionRecord → Prop) :
    Triple (.owing fun _ => True) (fun j => P (sessionRecords j)) (waitOut w remaining)
      fun waited j => P (sessionRecords j) ∧ (waited = false → .polled true ∈ j) := by
  refine .of_tells ((tells_waitOut w remaining).and_adds (adds_waitOut w remaining)) ?_
  rintro waited new j h ⟨hwaits, sleeps, hwaited⟩
  rw [sessionRecords_append fun s hs => offRecord_of_waits (hwaits s hs)]
  refine ⟨h, fun hfalse => List.mem_append_left _ (List.mem_reverse.1 ?_)⟩
  rw [hwaited.polls, hfalse]
  exact List.mem_append_right _ (List.mem_singleton_self _)

/-- A report is about the log file that was read. -/
theorem readTarget_target (fuel : Nat) (target : LogFile) (sessions : Nat) (controller : Controller)
    (rounds : Nat) : Yields (fun result => ∀ report, result = some (.ok report) →
      report.target = target) (readTarget w c fuel target sessions controller rounds) := by
  induction rounds generalizing sessions controller with
  | zero => exact .pure fun _ h => nomatch h
  | succ rounds ih =>
    refine .next fun ⟨result, controller'⟩ => ?_
    match result with
    | none => exact .pure fun _ h => nomatch h
    | some (.error f) => exact .pure fun _ h => nomatch h
    | some (.ok outcome) =>
      refine .next fun flushed => ?_
      cases flushed with
      | error f => exact .pure fun _ h => nomatch h
      | ok _ =>
        cases outcome with
        | terminated reason =>
          refine .pure fun report h => ?_
          rw [← Except.ok.inj (Option.some.inj h)]
        | reconnect reason =>
          refine .next fun _ => .next fun waited => ?_
          cases waited with
          | true => exact ih _ _
          | false =>
            refine .pure fun report h => ?_
            rw [← Except.ok.inj (Option.some.inj h)]

/-- A report tells of the sessions behind those that were on record before: how many they are, and
what became of them. -/
def Recounts (target : LogFile) (sessions : Nat) (established : Bool) (records : List SessionRecord)
    (report : TargetReport) (j : List Step) : Prop :=
  ∃ block, sessionRecords j = block.reverse ++ records ∧
    report.sessions = sessions + block.length ∧ Visits target report.reason established block ∧
    (report.reason = none → .polled true ∈ j)

/-- A session that called for another one stands in front of those that the report tells of. -/
theorem Recounts.again {target : LogFile} {sessions : Nat} {before established : Bool}
    {records : List SessionRecord} {report : TargetReport} {j : List Step} {reason : EndReason}
    (hagain : reason.callsForReconnect (before || established) = true)
    (h : Recounts target (sessions + 1) (before || established)
      (⟨target, established, some reason⟩ :: records) report j) :
    Recounts target sessions before records report j := by
  obtain ⟨block, hrecords, hsessions, hvisits, hstopped⟩ := h
  refine ⟨⟨target, established, some reason⟩ :: block, ?_, ?_, .again hagain hvisits, hstopped⟩
  · rw [hrecords, List.reverse_cons, List.append_assoc]
    rfl
  · rw [hsessions, List.length_cons]
    omega

/-- **The sessions of a log file** follow one another as their ends call for it, and they are
counted. -/
theorem readTarget_record_triple (fuel : Nat) (target : LogFile) (sessions : Nat)
    (controller : Controller) (rounds : Nat) (records : List SessionRecord) :
    Triple (.owing fun _ => True) (fun j => sessionRecords j = records)
      (readTarget w c fuel target sessions controller rounds) fun result j =>
        ∀ report, result = some (.ok report) →
          Recounts target sessions controller.established records report j := by
  induction rounds generalizing sessions controller records with
  | zero => exact .pure fun _ _ _ _ h => nomatch h
  | succ rounds ih =>
    refine (Controller.runSession_record_triple w (c.assignment target) controller fuel
      records).bind fun ⟨result, controller'⟩ => ?_
    match result with
    | none => exact .pure fun _ _ _ _ h => nomatch h
    | some (.error f) => exact .pure fun _ _ _ _ h => nomatch h
    | some (.ok outcome) =>
      have hdrain := Triple.of_offRecord (m := w.drain) (.demand fun _ _ => rfl)
        (Controller.SessionEnded target controller.established records outcome
          controller'.established)
      refine (hdrain.mono (fun j _ h => h outcome rfl) fun _ _ _ h => h).bind fun flushed => ?_
      cases flushed with
      | error f => exact .pure fun _ _ _ _ h => nomatch h
      | ok _ =>
        cases outcome with
        | terminated reason =>
          refine .pure fun j _ h report hreport => ?_
          rw [← Except.ok.inj (Option.some.inj hreport)]
          obtain ⟨established, hrecords, hno⟩ := h.of_terminated
          exact ⟨[⟨target, established, some reason⟩], hrecords, rfl, .ended hno rfl, nofun⟩
        | reconnect reason =>
          refine (Triple.of_offRecord (Adds.measure fun _ => rfl) _).bind fun _ =>
            (waitOut_record_triple w _ _).bind fun waited => ?_
          cases waited with
          | false =>
            refine .pure fun j _ ⟨h, hstopped⟩ report hreport => ?_
            rw [← Except.ok.inj (Option.some.inj hreport)]
            obtain ⟨established, hrecords, _, hagain⟩ := h.of_reconnect
            exact ⟨[⟨target, established, some reason⟩], hrecords, rfl, .stopped hagain rfl,
              fun _ => hstopped rfl⟩
          | true =>
            -- The session that has ended is the first one that the report tells of.
            refine Triple.mono (P := fun j => ∃ established : Bool,
              (controller'.established = (controller.established || established) ∧
                reason.callsForReconnect (controller.established || established) = true) ∧
              sessionRecords j = ⟨target, established, some reason⟩ :: records)
              (.exists fun established =>
                (ih (sessions + 1) controller' _).frame.mono (fun _ _ h => h) ?_)
              (fun j _ h => ?_) fun _ _ _ h => h
            · rintro result j - ⟨⟨hestablished, hagain⟩, h⟩ report hreport
              rw [hestablished] at h
              exact (h report hreport).again hagain
            · obtain ⟨established, hrecords, hestablished, hagain⟩ := h.1.of_reconnect
              exact ⟨established, ⟨hestablished, hagain⟩, hrecords⟩

/-! ### All log files -/

/-- The entries of the log files read so far, the latest one first, agree with the journal. -/
structure OnReport (done : List TargetReport) (interrupted : Bool) (j : List Step) : Prop where
  /-- Every session belongs to an entry. -/
  sessions : ∃ blocks, List.Forall₂ TargetReport.Covers done blocks ∧
    sessionRecords j = (blocks.map List.reverse).flatten
  /-- Only the latest entry may lack a reason. -/
  reasons : ∀ entry ∈ done.tail, entry.reason ≠ none
  /-- That it does lack one is remembered. -/
  latest : interrupted = true ↔ ∃ entry ∈ done.head?, entry.reason = none
  /-- The reason is lacking since the run was asked to stop. -/
  stopped : interrupted = true → .polled true ∈ j

variable {done : List TargetReport} {interrupted stop : Bool} {j : List Step}

/-- Looking at the request to stop tells nothing of sessions. -/
theorem OnReport.polled (h : OnReport done interrupted j) :
    OnReport done interrupted (.polled stop :: j) :=
  ⟨h.sessions, h.reasons, h.latest, fun hi => List.mem_cons_of_mem _ (h.stopped hi)⟩

theorem OnReport.reason_ne_none (h : OnReport done false j) :
    ∀ entry ∈ done, entry.reason ≠ none := by
  intro entry hentry hnone
  cases done with
  | nil => cases hentry
  | cons latest earlier =>
    obtain rfl | hentry := List.mem_cons.1 hentry
    · exact nomatch h.latest.2 ⟨entry, rfl, hnone⟩
    · exact h.reasons entry hentry hnone

/-- One more log file is read. -/
theorem readTarget_reported_triple (fuel : Nat) (target : LogFile) (done : List TargetReport) :
    Triple lastingStop (OnReport done false) (readTarget w c fuel target 0 .initial fuel)
      fun result j => ∀ report, result = some (.ok report) →
        OnReport (report :: done) report.reason.isNone j := by
  have hread : ∀ records, Triple lastingStop
      (fun j => ((∀ entry ∈ done, entry.reason ≠ none) ∧
        ∃ blocks, List.Forall₂ TargetReport.Covers done blocks ∧
          records = (blocks.map List.reverse).flatten) ∧ sessionRecords j = records)
      (readTarget w c fuel target 0 .initial fuel) fun result j =>
        ∀ report, result = some (.ok report) →
          OnReport (report :: done) report.reason.isNone j := by
    intro records
    refine (Triple.frame ((Triple.of_owing (readTarget_record_triple w c fuel target 0 .initial fuel
      records)).and_yields (readTarget_target w c fuel target 0 .initial fuel))).mono
      (fun _ _ h => h) ?_
    rintro result j - ⟨⟨hreasons, blocks, hcovers, rfl⟩, htarget, h⟩ report hreport
    obtain ⟨block, hrecords, hsessions, hvisits, hstopped⟩ := h report hreport
    rw [Nat.zero_add] at hsessions
    refine ⟨⟨block :: blocks, .cons ⟨hsessions, ?_, ?_⟩ hcovers, hrecords⟩, hreasons, ?_, ?_⟩
    · rw [hsessions]
      exact List.length_pos_iff.2 hvisits.ne_nil
    · rw [htarget report hreport]
      exact hvisits
    · simp
    · exact fun h => hstopped (Option.isNone_iff_eq_none.1 h)
  refine (Triple.exists hread).mono (fun j _ h => ?_) fun _ _ _ h => h
  obtain ⟨blocks, hcovers, hrecords⟩ := h.sessions
  exact ⟨_, ⟨h.reason_ne_none, blocks, hcovers, hrecords⟩, rfl⟩

/-- **All log files that are read** are reported with their sessions, and the others are known to be
missing. -/
theorem readTargets_record_triple (fuel : Nat) (interrupted : Bool) (done : List TargetReport)
    (targets : List LogFile) :
    Triple lastingStop (OnReport done interrupted) (readTargets w c fuel interrupted done targets)
      fun result j => ∀ report, result = some (.ok report) →
        ∃ unreasoned, OnReport report.targets.reverse unreasoned j ∧
          (report.interrupted = true ↔
            report.targets.length < done.length + targets.length ∨ unreasoned = true) := by
  induction targets generalizing interrupted done with
  | nil =>
    refine .pure fun j _ h report hreport => ?_
    rw [← Except.ok.inj (Option.some.inj hreport)]
    exact ⟨interrupted, by rwa [List.reverse_reverse], by simp⟩
  | cons target rest ih =>
    -- A request to stop that has been seen lasts, so that no log file follows an interruption.
    have hpoll : Triple lastingStop (OnReport done interrupted) w.poll fun stop j =>
        OnReport done interrupted j ∧ (stop = false → interrupted = false) :=
      .demand fun stop j _ hr h => ⟨trivial, h.polled, fun hstop => Bool.eq_false_iff.2 fun hi =>
        hr (congrArg Step.polled hstop) (h.stopped hi)⟩
    refine hpoll.bind fun stop => ?_
    cases stop with
    | true =>
      refine .pure fun j _ h report hreport => ?_
      rw [← Except.ok.inj (Option.some.inj hreport)]
      exact ⟨interrupted, by rw [List.reverse_reverse]; exact h.1, by simp⟩
    | false =>
      have htarget : Triple lastingStop
          (fun j => OnReport done interrupted j ∧ (false = false → interrupted = false))
          (readTarget w c fuel target 0 .initial fuel) fun result j => interrupted = false ∧
            ∀ report, result = some (.ok report) →
              OnReport (report :: done) report.reason.isNone j := by
        refine (readTarget_reported_triple w c fuel target done).frame.mono ?_ fun _ _ _ h => h
        rintro j - ⟨h, hinterrupted⟩
        obtain rfl := hinterrupted rfl
        exact ⟨rfl, h⟩
      refine htarget.bind fun result => ?_
      match result with
      | none => exact .pure fun _ _ _ _ h => nomatch h
      | some (.error f) => exact .pure fun _ _ _ _ h => nomatch h
      | some (.ok report) =>
        refine (ih (interrupted || report.reason.isNone) (report :: done)).mono ?_ ?_
        · rintro j - ⟨rfl, h⟩
          exact h report rfl
        · intro result j _ h report' hreport'
          obtain ⟨unreasoned, hreported, hinterrupted⟩ := h report' hreport'
          refine ⟨unreasoned, hreported, hinterrupted.trans ?_⟩
          rw [List.length_cons, List.length_cons, Nat.add_right_comm, Nat.add_assoc]

/-- The log files are read in order. -/
theorem readTargets_order (fuel : Nat) (interrupted : Bool) (done : List TargetReport)
    (targets : List LogFile) : Yields (fun result => ∀ report, result = some (.ok report) →
      report.targets.map (·.target) <+: done.reverse.map (·.target) ++ targets)
      (readTargets w c fuel interrupted done targets) := by
  induction targets generalizing interrupted done with
  | nil =>
    refine .pure fun report h => ?_
    rw [← Except.ok.inj (Option.some.inj h)]
    exact List.prefix_append _ _
  | cons target rest ih =>
    refine .next fun stop => ?_
    cases stop with
    | true =>
      refine .pure fun report h => ?_
      rw [← Except.ok.inj (Option.some.inj h)]
      exact List.prefix_append _ _
    | false =>
      refine (readTarget_target w c fuel target 0 .initial fuel).bind fun result htarget => ?_
      match result with
      | none => exact .pure fun _ h => nomatch h
      | some (.error f) => exact .pure fun _ h => nomatch h
      | some (.ok report) =>
        refine (ih _ (report :: done)).mono fun result h report' hreport' => ?_
        have horder := h report' hreport'
        rwa [List.reverse_cons, List.map_append, List.append_assoc, List.map_singleton,
          htarget report rfl, List.singleton_append] at horder

/-! ### Whole runs -/

/-- The part of a run that finds out its log files. -/
def logFiles : Run σ (Except RunFault (List LogFile)) := do
  match ← c.source.terms w c.plan with
  | .error f => return .error f
  | .ok terms => Targets.resolve w c.plan terms.kind terms.online terms.params

/-- First the log files are found out, then they are read. -/
theorem collect_eq (fuel : Nat) : collect w c fuel = (do
    match ← logFiles w c with
    | .error f => return some (.error f)
    | .ok targets => readTargets w c fuel false [] targets) := by
  funext t
  simp only [collect, logFiles, Run.bind_apply]
  generalize c.source.terms w c.plan t = found
  obtain ⟨terms, t'⟩ := found
  cases terms with
  | error f => rfl
  | ok terms => rfl

/-- Log files are found out without a session. -/
theorem adds_logFiles : Adds Step.OffRecord (logFiles w c) := by
  refine ((c.source.adds_terms w c.plan).mono fun _ => offRecord_of_serves).bind fun terms => ?_
  cases terms with
  | error f => exact .pure _
  | ok terms =>
    unfold Targets.resolve
    dsimp only
    split
    · exact .pure _
    · exact .pure _
    · exact (Adds.demand fun _ _ => rfl).bind fun _ => .pure _

/-- A verdict that is no fault is the report. -/
theorem eq_of_verdict {r report : RunReport} (h : verdict r = .ok report) : report = r := by
  unfold verdict at h
  split at h
  · split at h
    · cases h
    · exact (Except.ok.inj h).symm
  · exact (Except.ok.inj h).symm

/-- The end of a run: the sink is flushed and the verdict is given. -/
def windUp : Option (Except RunFault RunReport) → Run σ (Option (Except RunFault RunReport))
  | none => return none
  | some result => do
    let flushed ← w.drain
    return some (match result, flushed with
      | .error f, _ => .error f
      | .ok _, .error f => .error (.sink f)
      | .ok report, .ok () => verdict report)

theorem run_eq (fuel : Nat) : run w c fuel = collect w c fuel >>= windUp w := rfl

/-- What a report has to do with the sessions does not change at the end of a run. -/
theorem windUp_record_triple (P : RunReport → List SessionRecord → Prop)
    (result : Option (Except RunFault RunReport)) : Triple (.owing fun _ => True)
      (fun j => ∀ report, result = some (.ok report) → P report (sessionRecords j))
      (windUp w result)
      fun result' j => ∀ report, result' = some (.ok report) → P report (sessionRecords j) := by
  match result with
  | none => exact .pure fun _ _ h => h
  | some result =>
    refine (Triple.of_offRecord (Adds.demand fun _ _ => rfl) fun records =>
      ∀ report, some result = some (.ok report) → P report records).bind fun flushed => ?_
    refine .pure fun j _ h report hreport => ?_
    match result, flushed with
    | .error f, _ => cases hreport
    | .ok r, .error f => cases hreport
    | .ok r, .ok () => exact eq_of_verdict (Option.some.inj hreport) ▸ h r rfl

/-- Entries that agree with the journal make a faithful report. -/
theorem OnReport.faithful {r : RunReport} {targets : List LogFile} {unreasoned : Bool}
    (h : OnReport r.targets.reverse unreasoned j)
    (horder : r.targets.map (·.target) <+: targets)
    (hinterrupted : r.interrupted = true ↔
      r.targets.length < targets.length ∨ unreasoned = true) :
    r.Faithful targets (sessionRecords j).reverse where
  order := horder
  sessions := by
    obtain ⟨blocks, hcovers, hrecords⟩ := h.sessions
    refine ⟨blocks.reverse, ?_, ?_⟩
    · rw [← List.forall₂_reverse_iff, List.reverse_reverse]
      exact hcovers
    · rw [hrecords, List.reverse_flatten, List.map_map]
      simp
  reasons entry hentry := by
    refine h.reasons entry ?_
    rwa [List.tail_reverse, List.mem_reverse]
  interrupted := by
    rw [hinterrupted, h.latest, List.head?_reverse, ← List.length_map (·.target)]
    refine or_congr_left ⟨fun hlt heq => ?_, fun hne => ?_⟩
    · exact absurd (congrArg List.length heq) (Nat.ne_of_lt hlt)
    · exact Nat.lt_of_le_of_ne horder.length_le fun hlength => hne (horder.eq_of_length hlength)

theorem readTargets_faithful_triple (fuel : Nat) (targets : List LogFile) :
    Triple lastingStop (fun j => sessionRecords j = []) (readTargets w c fuel false [] targets)
      fun result j => ∀ report, result = some (.ok report) →
        report.Faithful targets (sessionRecords j).reverse := by
  refine ((readTargets_record_triple w c fuel false [] targets).and_yields
    (readTargets_order w c fuel false [] targets)).mono (fun j _ hj => ?_) ?_
  · exact ⟨⟨[], .nil, hj⟩, nofun, by simp, nofun⟩
  · rintro result j - ⟨horder, hreported⟩ report hreport
    obtain ⟨unreasoned, hreported, hinterrupted⟩ := hreported report hreport
    rw [List.length_nil, Nat.zero_add] at hinterrupted
    exact hreported.faithful (horder report hreport) hinterrupted

/-- **The report of a run is faithful**, if a request to stop is not taken back. -/
theorem report_is_faithful (fuel : Nat) (s : σ) {report : RunReport}
    (hstop : lastingStop.Kept (c.run w fuel ⟨s, []⟩).2.journal)
    (h : (c.run w fuel ⟨s, []⟩).1 = some (.ok report)) :
    ∃ targets, (c.logFiles w ⟨s, []⟩).1 = .ok targets ∧
      report.Faithful targets (sessionRecords (c.run w fuel ⟨s, []⟩).2.journal).reverse := by
  obtain ⟨new, hnew, hoff⟩ := adds_logFiles w c ⟨s, []⟩
  rw [run_eq, collect_eq, Run.bind_apply, Run.bind_apply] at hstop h ⊢
  generalize logFiles w c ⟨s, []⟩ = found at hnew hstop h ⊢
  obtain ⟨result, t⟩ := found
  have hrecords : sessionRecords t.journal = [] := by
    rw [show t.journal = new ++ [] from hnew, List.append_nil]
    exact sessionRecords_eq_nil hoff
  cases result with
  | error f => exact absurd (Option.some.inj h) nofun
  | ok targets =>
    have htriple := (readTargets_faithful_triple w c fuel targets).bind fun result =>
      (windUp_record_triple w (fun report records => report.Faithful targets records.reverse)
        result).of_owing
    have hgrows : t.journal <:+ _ := htriple.grows t
    exact ⟨targets, rfl, (htriple.sound t (fun _ _ _ => trivial) (hstop.of_suffix hgrows)
      hrecords).2 hstop report h⟩

/-! ### A run on a stage -/

/-- A collector for all log files of a server. -/
def touring : Collector where
  plan := { Plan.standard .universal with
    legacy := true, logfile := Plan.allFiles, recovery := .ofMilliseconds 500 }
  store := ⟨none⟩
  source := .unspecified

/-- A session that is established and ends. -/
def sceneEnding (reason : EndReason) : Stage.Scene :=
  { Stage.Scene.empty with events := [some .established, some (.ended reason 0)] }

/-- A stage with three log files. The connection fails while the first one is read, and again while
the second one is read; the run is asked to stop in the wait that follows. -/
def unsteady : Stage :=
  { Stage.bare .universal 0 with
    collaborator := .scenes { Stage.Troupe.empty with
      files := [⟨"a.log", 1⟩, ⟨"b.log", 2⟩, ⟨"c.log", 3⟩]
      scenes := [sceneEnding .commFailure, sceneEnding .endByApplication,
        sceneEnding .commFailure] }
    stopAfterSleeps := some 3 }

/-- The run of the collector there. -/
@[irreducible]
def unsteadyRun : Option (Except RunFault RunReport) × Tape Stage :=
  run Stage.world touring 4 ⟨unsteady, []⟩

/-- Its report. -/
def unsteadyReport : RunReport :=
  ⟨[⟨⟨"a.log", 1⟩, 2, some .endByApplication⟩, ⟨⟨"b.log", 2⟩, 1, none⟩], true⟩

/-- The report of a run that was asked to stop in a wait. -/
theorem report_is_faithful_unsteady :
    lastingStop.Kept unsteadyRun.2.journal ∧ unsteadyRun.1 = some (.ok unsteadyReport) ∧
      ∃ targets, (touring.logFiles Stage.world ⟨unsteady, []⟩).1 = .ok targets ∧
        unsteadyReport.Faithful targets (sessionRecords unsteadyRun.2.journal).reverse := by
  have hkept : lastingStop.Kept unsteadyRun.2.journal := kept_of_isLasting (by decide +kernel)
  have hreport : unsteadyRun.1 = some (.ok unsteadyReport) := by decide +kernel
  refine ⟨hkept, hreport, ?_⟩
  rw [unsteadyRun] at hkept hreport ⊢
  exact report_is_faithful Stage.world touring 4 unsteady hkept hreport

end Collector

end LogCollector
