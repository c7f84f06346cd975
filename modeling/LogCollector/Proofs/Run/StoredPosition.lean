import LogCollector.Proofs.Run.Progress
import LogCollector.Proofs.Status.StoredDocument

/-!
# What a journal tells about the stored position

A status service that stores a post exactly when it answers with success holds, at the entry of a
log file, the parameters that were accepted last (`stored`). Quiet steps store nothing there, and
a post of a position stores it or leaves the entry as it is.
-/

namespace LogCollector

open CheckpointStore (CallsHealth PostsPosition)

/-- The entry for the position reached in a log file. -/
def Tracking.entry (t : Tracking) (file : LogFile) : String :=
  (Status.Endpoints.ofApp t.app).positions ++ Status.entryName file.fileId t.entity

/-- The checkpoint of a position in a log file. -/
def Tracking.checkpoint (t : Tracking) (file : LogFile) (position : Int) : Checkpoint :=
  ⟨t.entity, file.fileId, position, file.name⟩

/-- The parameters that a step stores at an entry: those of a post that succeeds. -/
def Step.stores? (entry : String) : Step → Option Status.Parameters
  | .called .status endpoint params (.ok r) =>
    if params ≠ [] ∧ r.isSuccess ∧ endpoint ++ (params.lookup "name").getD "" = entry then
      some params
    else none
  | _ => none

/-- The parameters at an entry after the steps of a journal, the latest one first. -/
def stored (entry : String) (j : List Step) : Option Status.Parameters :=
  j.findSome? (·.stores? entry)

/-- The position stored for a log file after the steps of a journal. -/
def Stores (t : Tracking) (file : LogFile) (j : List Step) (position : Int) : Prop :=
  stored (t.entry file) j = some (Status.positionParameters (t.checkpoint file position))

variable {t : Tracking} {file : LogFile} {s : Step} {j : List Step}

/-- The position of a log file is looked up at its entry. -/
theorem CheckpointStore.lastPosition_eq {σ : Type} (w : World σ) {s : CheckpointStore}
    (ht : s.tracking = some t) : s.lastPosition w file.fileId = (do
      let answer ← w.serve .status (t.entry file) []
      return answer.bind (Status.storedPosition (t.entry file))) := by
  simp only [lastPosition, ht]
  rfl

theorem stored_cons_of_none {entry : String} (h : s.stores? entry = none) :
    stored entry (s :: j) = stored entry j := by
  rw [stored, List.findSome?_cons, h, stored]

theorem stored_cons_of_some {entry : String} {params : Status.Parameters}
    (h : s.stores? entry = some params) : stored entry (s :: j) = some params := by
  rw [stored, List.findSome?_cons, h]

/-- Quiet steps leave the entry of a log file as it is. -/
theorem stored_of_quiet (h : Quiet t s) :
    stored (t.entry file) (s :: j) = stored (t.entry file) j := by
  refine stored_cons_of_none ?_
  cases s with
  | called role endpoint params answer =>
    match role, answer with
    | .settings, _ | .status, .error _ => rfl
    | .status, .ok r =>
      refine if_neg ?_
      rintro ⟨hparams, -, hentry⟩
      obtain rfl | ⟨-, ⟨-, rfl⟩ | ⟨rfl, report, -, rfl⟩⟩ := h
      · exact hparams rfl
      · exact hparams rfl
      · exact Status.positions_ne_health t.app _ _ hentry.symm
  | _ => rfl

/-- A post of a position stores this position or nothing. -/
theorem stored_of_posts {position : Int}
    (h : Serves (PostsPosition t (t.checkpoint file position)) s) :
    stored (t.entry file) (s :: j) = stored (t.entry file) j ∨ Stores t file (s :: j) position := by
  cases s with
  | called role endpoint params answer =>
    obtain ⟨rfl, rfl, rfl⟩ := h
    match answer with
    | .error f => exact .inl (stored_cons_of_none rfl)
    | .ok r =>
      by_cases hr : r.isSuccess = true
      · exact .inr (stored_cons_of_some (if_pos ⟨nofun, hr, rfl⟩))
      · exact .inl (stored_cons_of_none (if_neg fun hentry => hr hentry.2.1))
  | slept d => exact .inl (stored_cons_of_none rfl)
  | measured m => exact .inl (stored_cons_of_none rfl)
  | _ => exact h.elim

end LogCollector
