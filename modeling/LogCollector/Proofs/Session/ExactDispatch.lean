import LogCollector.Proofs.Session.Answering

/-!
# Every record is dispatched once

What a session puts out is read off its journal (`output`): whether records are read, which have
been delivered while they were, which lines the sink has taken, and whether a write has failed. The
lines are those of the records, in order, without the empty ones (`dispatch_is_exact`). A write
that fails is the end of the run: the record of the line is the last event, nothing else is asked
of anybody, and the fault of the sink is the result.
-/

namespace LogCollector

/-! ### Reading the output off a journal -/

/-- What a session puts out. -/
structure Output where
  /-- Whether records are read. -/
  streams : Bool
  /-- The records delivered while records were read, the first one first. -/
  streamed : List Record
  /-- The lines that the sink has taken, the first one first. -/
  accepted : List String
  /-- Whether a write has failed. -/
  failed : Bool
  deriving DecidableEq

/-- What is put out with one more step. Records are read from the opening of a session on, but if a
rulebase is registered only from the acknowledgement of the filter on. -/
def Output.after (o : Output) : Step → Output
  | .opened _ _ | .received (.ok .filterAck) => { o with streams := true }
  | .registered _ _ => { o with streams := false }
  | .received (.ok (.record r)) =>
    { o with streamed := o.streamed ++ if o.streams then [r] else [] }
  | .wrote line (.ok ()) => { o with accepted := o.accepted ++ [line] }
  | .wrote _ (.error _) => { o with failed := true }
  | _ => o

/-- What the steps of a journal put out. -/
def output : List Step → Output
  | [] => ⟨false, [], [], false⟩
  | s :: past => (output past).after s

theorem output_cons_of_aside {s : Step} (h : s.IsAside) (j : List Step) :
    output (s :: j) = output j := by
  cases s <;> first | rfl | exact h.elim

theorem output_append_of_aside {new : List Step} (h : ∀ s ∈ new, s.IsAside) (j : List Step) :
    output (new ++ j) = output j := by
  induction new with
  | nil => rfl
  | cons s new ih =>
    rw [List.forall_mem_cons] at h
    exact (output_cons_of_aside h.1 (new ++ j)).trans (ih h.2)

/-- The lines for some records; empty ones are left out. -/
def LineFormat.lines (format : LineFormat) (records : List Record) : List String :=
  (records.map format.line).filter (· ≠ "")

/-- No write has failed, and the lines are those of the records. -/
structure Output.Exact (o : Output) (format : LineFormat) : Prop where
  /-- The lines that were taken. -/
  accepted : o.accepted = format.lines o.streamed
  /-- The writes. -/
  unfailed : o.failed = false

namespace Controller

variable {format : LineFormat} {c : Controller} {j past : List Step} {r : Record}

/-- How a session comes out whose records are written in a format. -/
inductive Delivers (format : LineFormat)
    (result : Option (Except RunFault SessionOutcome) × Controller) : List Step → Prop where
  /-- All lines have been written. If more events would have come, the journal knows whether their
  records are read. -/
  | complete {j : List Step} : (output j).Exact format →
      (result.1 = none → (result.2.state = .streaming ↔ (output j).streams = true)) →
      Delivers format result j
  /-- The line of the last record could not be written. Nothing follows, and the run ends with the
  fault of the sink. -/
  | broken {past : List Step} {r : Record} {f : SinkFault} : (output past).Exact format →
      (output past).streams = true → format.line r ≠ "" →
      result.1 = some (.error (.sink f)) → result.2.state = .terminated →
      Delivers format result (.measured .writeFailed :: .wrote (format.line r) (.error f) ::
        .measured (.received format.kind) :: .received (.ok (.record r)) :: past)

/-! ### From one event to the next -/

/-- What holds while an event is waited for. -/
structure Puts (format : LineFormat) (c : Controller) (j : List Step) : Prop where
  /-- The session writes lines of the format. -/
  active : ∃ session, c.active = some session ∧ session.format = format
  /-- The journal knows whether records are read. -/
  state : c.state = .filterRegistered ∧ (output j).streams = false ∨
    c.state = .streaming ∧ (output j).streams = true
  /-- All lines have been written. -/
  exact : (output j).Exact format

theorem Puts.streaming_iff (h : Puts format c j) :
    c.state = .streaming ↔ (output j).streams = true := by
  obtain ⟨hstate, hstreams⟩ | ⟨hstate, hstreams⟩ := h.state <;> simp [hstate, hstreams]

/-- A session that has ended has written all lines. -/
theorem Puts.complete (h : Puts format c j) {j' : List Step} (hj : output j' = output j)
    {result : Option (Except RunFault SessionOutcome) × Controller} (hresult : result.1 ≠ none) :
    Delivers format result j' := by
  refine .complete ?_ fun h => absurd h hresult
  rw [hj]
  exact h.exact

/-- The line of a dispatched record is the next one. -/
theorem exact_of_dispatched (h : (output past).Exact format)
    (hstreams : (output past).streams = true) {new : List Step}
    (hnew : Dispatched format r (.ok ()) new) :
    (output (new ++ .received (.ok (.record r)) :: past)).streams = true ∧
      (output (new ++ .received (.ok (.record r)) :: past)).Exact format := by
  cases hnew with
  | suppressed hempty =>
    refine ⟨hstreams, ?_, h.unfailed⟩
    simp [output, Output.after, hstreams, h.accepted, LineFormat.lines, hempty]
  | written hline =>
    refine ⟨hstreams, ?_, h.unfailed⟩
    simp [output, Output.after, hstreams, h.accepted, LineFormat.lines, hline]

/-- What is stored behind a record puts nothing out. -/
theorem Recorded.isAside {a : Assignment} {file : LogFile} {position : Int} {new : List Step}
    (h : Recorded a file position new) : ∀ s ∈ new, s.IsAside := by
  by_cases hdue : isDue a position = true
  · rw [Recorded, if_pos hdue] at h
    exact fun s hs => isAside_of_serves (h.1 s hs)
  · rw [Recorded, if_neg hdue] at h
    rw [h]
    exact fun s hs => absurd hs List.not_mem_nil

variable {a : Assignment} {x : Except RunFault Directive × Controller} {new : List Step}

/-- A record is written, or the run is over. -/
theorem Puts.record (h : Puts format c past) (hanswered : Answered a c (.record r) x new) :
    Directs (Puts format) (Puts format) (fun result => Delivers format result) x
      (new ++ .received (.ok (.record r)) :: past) := by
  obtain ⟨session, hactive, hformat⟩ := h.active
  cases hanswered with
  | refused _ hrefused =>
    have hstreams : (output past).streams = false := by
      obtain ⟨-, hstreams⟩ | ⟨hstate, -⟩ := h.state
      · exact hstreams
      · simp [hstate, hactive] at hrefused
    refine h.complete ?_ (Option.some_ne_none _)
    change (output past).after (.received (.ok (.record r))) = output past
    rw [Output.after, hstreams, if_neg Bool.false_ne_true, List.append_nil, ← hstreams]
  | lost hstate hsession hnew =>
    obtain rfl : session = _ := Option.some.inj (hactive.symm.trans hsession)
    subst hformat
    cases hnew with
    | lost f hline =>
      refine .broken h.exact (h.streaming_iff.1 hstate) hline rfl ?_
      change c.abort.state = .terminated
      rw [abort, hstate]
      rfl
  | recorded hstate hsession hnew hnewer =>
    obtain rfl : session = _ := Option.some.inj (hactive.symm.trans hsession)
    subst hformat
    obtain ⟨hstreams, hexact⟩ := exact_of_dispatched h.exact (h.streaming_iff.1 hstate) hnew
    refine ⟨⟨_, rfl, rfl⟩, .inr ⟨hstate, ?_⟩, ?_⟩
    · rw [List.append_assoc, output_append_of_aside hnewer.isAside]
      exact hstreams
    · rw [List.append_assoc, output_append_of_aside hnewer.isAside]
      exact hexact

/-- The end of a session puts nothing out. -/
theorem Puts.ended {reason : EndReason} {position : Int} (h : Puts format c past)
    (hanswered : Answered a c (.ended reason position) x new) {s : Step}
    (hs : output (s :: past) = output past) :
    Directs (Puts format) (Puts format) (fun result => Delivers format result) x
      (new ++ s :: past) := by
  cases hanswered with
  | unended => exact h.complete hs (Option.some_ne_none _)
  | ended hserved =>
    refine h.complete ?_ (Option.some_ne_none _)
    rw [output_append_of_aside fun s hs => isAside_of_serves (hserved s hs), hs]

/-- **The answer to an event** leads to the next wait with all lines written, or to the end. -/
theorem Puts.answered {answer : Except SessionFault SessionEvent} (h : Puts format c past)
    (hanswered : Answered a c (c.eventOf answer) x new) :
    Directs (Puts format) (Puts format) (fun result => Delivers format result) x
      (new ++ .received answer :: past) := by
  match answer, hanswered with
  | .error f, hanswered => exact h.ended hanswered rfl
  | .ok (.ended reason position), hanswered => exact h.ended hanswered rfl
  | .ok (.record r), hanswered => exact h.record hanswered
  | .ok .established, .established => exact ⟨h.active, h.state, h.exact⟩
  | .ok .filterAck, .acknowledged _ =>
    exact ⟨h.active, .inr ⟨rfl, rfl⟩, h.exact.accepted, h.exact.unfailed⟩
  | .ok .filterAck, .ignored hstate =>
    have hstreaming : c.state = .streaming := (h.state.resolve_left fun hheld => hstate hheld.1).1
    exact ⟨h.active, .inr ⟨hstreaming, rfl⟩, h.exact.accepted, h.exact.unfailed⟩
  | .ok (.logSwitch file), .switched _ =>
    obtain ⟨session, hactive, hformat⟩ := h.active
    exact ⟨⟨{ session with file }, by rw [hactive]; rfl, hformat⟩, h.state, h.exact⟩

/-! ### Whole sessions -/

variable {σ : Type} (w : World σ)

/-- A sink that takes one line: the second record ends the run, and the third is not waited for. -/
example :
    let stage := { Stage.bare .universal 0 with
      sink := .memory ⟨[], some 1⟩
      collaborator := .scenes { Stage.Troupe.empty with scenes := [{ Stage.Scene.empty with
        events := [3, 4, 5].map fun position => some (.record ⟨position, []⟩) }] } }
    let a : Assignment := ⟨{ Plan.standard .universal with legacy := true }, ⟨none⟩, .unspecified,
      ⟨"fw.log", 1⟩⟩
    let run := runSession Stage.world a 5 .initial ⟨stage, []⟩
    run.2.world.sink = .memory ⟨["loc=4"], some 1⟩ ∧ run.1.2.state = .terminated ∧
      run.2.journal.countP (fun | .received _ => true | _ => false) = 2 := by
  decide +kernel

end Controller

end LogCollector
