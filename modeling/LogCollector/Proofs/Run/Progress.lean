import LogCollector.Proofs.Run.Operations

/-!
# What a journal tells about records

How far the reading of a log file has come is read off the journal (`progress`): the log file
that records come from, the records delivered in the session, the one that the collaborator
delivers next, and the records dispatched so far. Most steps tell nothing about records
(`Quiet`).
-/

namespace LogCollector

open CheckpointStore (CallsHealth)

/-- The position at which a collaborator begins to deliver, if the request tells it. -/
def StartPosition.position? : StartPosition → Option Int
  | .start => some 0
  | .tail => none
  | .at position => some position

/-- How far the reading of a log file has come. -/
structure Progress where
  /-- The log file that records come from. -/
  file : LogFile
  /-- The records delivered in the session, the latest one first: the numbers of their log files
  and their positions. -/
  delivered : List (Int × Int)
  /-- The position of the record that is delivered next, if it is known. -/
  upcoming : Option Int
  /-- The positions of the records written or left out, in all sessions. -/
  dispatched : List Int

namespace Progress

/-- The position of the record delivered last in the session. -/
def last? (p : Progress) : Option Int := p.delivered.head?.map (·.2)

/-- The progress after one more step. -/
def after (target : LogFile) (p : Progress) : Step → Progress
  | .opened request _ =>
    { p with file := target, delivered := [], upcoming := request.start.position? }
  | .received (.ok (.record r)) =>
    { p with
      delivered := (p.file.fileId, r.position) :: p.delivered
      upcoming := some (r.position + 1) }
  | .received (.ok (.logSwitch file)) => { p with file }
  | .wrote _ (.ok ()) | .measured .suppressed =>
    { p with dispatched := p.last?.toList ++ p.dispatched }
  | _ => p

end Progress

/-- The progress that a journal tells of. -/
def progress (target : LogFile) : List Step → Progress
  | [] => ⟨target, [], none, []⟩
  | s :: past => (progress target past).after target s

/-- A step that comes neither from the collaborator's events nor from a record, nor posts the
position of one. -/
def Quiet (t : Tracking) : Step → Prop
  | .called role endpoint params _ => params = [] ∨ CallsHealth t role endpoint params
  | .measured m => m ≠ .suppressed
  | .wrote _ answer => answer ≠ .ok ()
  | .opened _ _ | .received _ => False
  | _ => True

variable {t : Tracking} {s : Step}

theorem progress_of_quiet (h : Quiet t s) (target : LogFile) (j : List Step) :
    progress target (s :: j) = progress target j := by
  cases s with
  | opened request answer => exact h.elim
  | received answer => exact h.elim
  | wrote line answer =>
    match answer, h with
    | .error _, _ => rfl
    | .ok (), h => exact absurd rfl h
  | measured m =>
    cases m with
    | suppressed => exact absurd rfl h
    | _ => rfl
  | _ => rfl

/-- Calls of the status service tell nothing about records. -/
theorem progress_of_serves {P : ServiceRole → String → Status.Parameters → Prop} (h : Serves P s)
    (target : LogFile) (j : List Step) : progress target (s :: j) = progress target j := by
  cases s with
  | called role endpoint params answer => rfl
  | slept d => rfl
  | measured m =>
    cases m with
    | suppressed => exact absurd rfl h
    | _ => rfl
  | _ => exact h.elim

/-- The step with which a record is dispatched: its line has been written, or it is empty. -/
def Dispatches (line : String) (s : Step) : Prop :=
  s = .wrote line (.ok ()) ∨ s = .measured .suppressed

theorem progress_of_dispatches {line : String} (h : Dispatches line s) (target : LogFile)
    (j : List Step) : progress target (s :: j) = { progress target j with
      dispatched := (progress target j).last?.toList ++ (progress target j).dispatched } := by
  obtain rfl | rfl := h <;> rfl

theorem quiet_of_looksUp (h : s.LooksUp) : Quiet t s := by
  cases s with
  | called role endpoint params answer => exact .inl h
  | slept d => trivial
  | measured m => exact h
  | _ => exact h.elim

theorem quiet_of_callsHealth (h : Serves (CallsHealth t) s) : Quiet t s := by
  cases s with
  | called role endpoint params answer => exact .inr h
  | slept d => trivial
  | measured m => exact h
  | _ => exact h.elim

theorem quiet_of_waits (h : Waits s) : Quiet t s := by
  cases s with
  | slept d => trivial
  | polled stop => trivial
  | _ => exact h.elim

/-! ### Quiet parts of a session -/

namespace Controller

variable {σ : Type} (w : World σ) {a : Assignment}

theorem quiet_reportHealth (ht : a.store.tracking = some t) (connected : Bool) :
    Adds (Quiet t) (a.store.reportHealth w connected) :=
  (CheckpointStore.adds_reportHealth w ht connected).mono fun _ => quiet_of_callsHealth

/-- Preparing a session is quiet. -/
theorem quiet_start (c : Controller) : Adds (Quiet t) (start w a c) :=
  (adds_start w c).mono fun _ => quiet_of_looksUp

/-- Registering the filter is quiet. -/
theorem quiet_attach (c : Controller) : Adds (Quiet t) (attach w c) := by
  unfold attach
  cases c.pending with
  | some rulebase => exact (Adds.demand fun _ => trivial).bind fun _ => .pure _
  | none => cases c.moveTo .streaming <;> exact .pure _

/-- Winding a session up without a position to store is quiet. -/
theorem quiet_finish (ht : a.store.tracking = some t) (c : Controller) (reason : EndReason)
    {position : Int} (hpos : ¬ 0 < position) : Adds (Quiet t) (finish w a c reason position) := by
  rw [finish_eq]
  split
  · have hend : Adds (σ := σ) (Quiet t) (do
        Run.measure (.ended reason.cls)
        return (Except.ok (ε := RunFault) (c.conclude reason).1, (c.conclude reason).2)) :=
      (Adds.measure nofun).bind fun _ => .pure _
    refine (Adds.measure nofun).bind fun _ => ?_
    split
    · exact (quiet_reportHealth w ht false).bind fun _ => hend
    · exact hend
  · exact .pure _

end Controller

end LogCollector
