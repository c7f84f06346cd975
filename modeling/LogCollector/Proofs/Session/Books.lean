import LogCollector.Proofs.Run.StoredPosition

/-!
# The books of a run

What a service that tells what was stored and a collaborator that delivers from the requested
position on owe to a run (`faithful`), what the run owes in return (`NoneSkipped`), and the
invariant behind it.

The invariant (`Books`) carries the number of dispatched records and a bound for the stored
position. During a session the bound lies at or below the record that is delivered next, which in
turn is at most the first one not yet dispatched; each step of a session is shown to keep the books.
-/

namespace LogCollector

open CheckpointStore (PostsPosition)
open Status (positionParameters)

/-! ### The contract -/

/-- A look-up of the position of a log file is answered faithfully: an answer that succeeds tells
what was stored last, and nothing is found only if nothing was stored. -/
def TellsStored (t : Tracking) (file : LogFile) (past : List Step) : Step → Prop
  | .called .status endpoint [] (.ok r) => endpoint = t.entry file →
    match stored (t.entry file) past with
    | none => r.isSuccess = false
    | some params => r.isNotFound = false ∧ (r.isSuccess = true → Status.Conveys r.body params)
  | _ => True

/-- A settings document does not ask for records as they are written. -/
def KeepsOffline (source : ParamsSource) : Step → Prop
  | .called role endpoint params (.ok r) => FetchesSettings role endpoint params source →
    r.isSuccess = true → ConnectionParams.flag (.parse r.body) "online_mode" = false
  | _ => True

/-- The collaborator delivers one record after another from the requested position on, stays
with the log file, and reports the position of the last record when it ends a session. -/
def DeliversInOrder (file : LogFile) (past : List Step) : Step → Prop
  | .received (.ok (.record r)) => ∀ p, (progress file past).upcoming = some p → r.position = p
  | .received (.ok (.logSwitch _)) => False
  | .received (.ok (.ended _ position)) => position = (progress file past).last?.getD 0
  | _ => True

/-- What was stored at some point before is not greater than what is stored now. -/
def NeverDecreased (t : Tracking) (file : LogFile) (j : List Step) : Prop :=
  ∀ past, past <:+ j → ∀ q, Stores t file past q → ∃ q', q ≤ q' ∧ Stores t file j q'

/-- No record has been skipped: the records dispatched so far are the first ones, the stored
position is that of one of them, and it has never been greater. -/
structure NoneSkipped (t : Tracking) (file : LogFile) (j : List Step) : Prop where
  /-- Dispatched are the records from 0 on, without a gap, and stored is the position of one. -/
  initial : ∃ n : Nat, (∀ p, p ∈ (progress file j).dispatched ↔ 0 ≤ p ∧ p < n) ∧
    ∀ params, stored (t.entry file) j = some params →
      ∃ q, params = positionParameters (t.checkpoint file q) ∧ q < n
  /-- The stored position has never been greater. -/
  monotone : NeverDecreased t file j

/-- The contract with a faithful service and collaborator. -/
def faithful (t : Tracking) (source : ParamsSource) (file : LogFile) : Contract where
  rely past s := TellsStored t file past s ∧ KeepsOffline source s ∧ DeliversInOrder file past s
  guarantee := NoneSkipped t file

/-! ### The books of a run -/

/-- The books of a run: `n` records are dispatched and the stored position is at most `b`, for
numbers that agree with the progress in some way. -/
structure Books (t : Tracking) (file : LogFile) (R : Nat → Int → Progress → Prop)
    (j : List Step) : Prop where
  /-- What has been dispatched and stored. -/
  shows : ∃ (n : Nat) (b : Int), (∀ p, p ∈ (progress file j).dispatched ↔ 0 ≤ p ∧ p < n) ∧ b < n ∧
    (∀ params, stored (t.entry file) j = some params →
      ∃ q, params = positionParameters (t.checkpoint file q) ∧ 0 < q ∧ q ≤ b) ∧
    R n b (progress file j)
  /-- The stored position has never been greater. -/
  monotone : NeverDecreased t file j

theorem NeverDecreased.cons {t : Tracking} {file : LogFile} {s : Step} {j : List Step}
    (h : NeverDecreased t file j)
    (hs : ∀ q, Stores t file j q → ∃ q', q ≤ q' ∧ Stores t file (s :: j) q') :
    NeverDecreased t file (s :: j) := by
  intro past hpast q hq
  obtain rfl | hpast := List.suffix_cons_iff.1 hpast
  · exact ⟨q, Int.le_refl q, hq⟩
  · obtain ⟨q', hle, hq'⟩ := h past hpast q hq
    obtain ⟨q'', hle', hq''⟩ := hs q' hq'
    exact ⟨q'', Int.le_trans hle hle', hq''⟩

/-- Between two sessions the progress does not matter. -/
def Between : Nat → Int → Progress → Prop := fun _ _ _ => True

namespace Books

variable {t : Tracking} {file : LogFile} {s : Step} {j : List Step}
  {R R' : Nat → Int → Progress → Prop}

theorem noneSkipped (h : Books t file R j) : NoneSkipped t file j := by
  obtain ⟨⟨n, b, hdispatched, hb, hstored, -⟩, hmonotone⟩ := h
  refine ⟨⟨n, hdispatched, fun params hparams => ?_⟩, hmonotone⟩
  obtain ⟨q, hq, -, hqb⟩ := hstored params hparams
  exact ⟨q, hq, by omega⟩

theorem imp (h : Books t file R j) (hR : ∀ n b p, R n b p → R' n b p) : Books t file R' j := by
  obtain ⟨⟨n, b, hdispatched, hb, hstored, hp⟩, hmonotone⟩ := h
  exact ⟨⟨n, b, hdispatched, hb, hstored, hR n b _ hp⟩, hmonotone⟩

theorem between (h : Books t file R j) : Books t file Between j := h.imp fun _ _ _ _ => trivial

theorem nil : Books t file Between [] := by
  refine ⟨⟨0, -1, fun p => ?_, by omega, nofun, trivial⟩, fun past hpast q hq => ?_⟩
  · exact iff_of_false List.not_mem_nil (by omega)
  · rw [List.suffix_nil.1 hpast] at hq
    cases hq

/-- A step that dispatches and stores nothing. -/
theorem step (h : Books t file R j)
    (hstored : stored (t.entry file) (s :: j) = stored (t.entry file) j)
    (hdispatched : ((progress file j).after file s).dispatched = (progress file j).dispatched)
    (hR : ∀ n b, R n b (progress file j) → R' n b ((progress file j).after file s)) :
    Books t file R' (s :: j) := by
  obtain ⟨⟨n, b, hn, hb, hbound, hp⟩, hmonotone⟩ := h
  refine ⟨⟨n, b, fun p => ?_, hb, fun params hparams => ?_, hR n b hp⟩,
    hmonotone.cons fun q hq => ⟨q, Int.le_refl q, hstored.trans hq⟩⟩
  · rw [← hn p, ← hdispatched]
    rfl
  · exact hbound params (hstored.symm.trans hparams)

/-- A quiet step changes nothing. -/
theorem quiet (h : Books t file R j) (hs : Quiet t s) : Books t file R (s :: j) := by
  have hprogress : (progress file j).after file s = progress file j := progress_of_quiet hs file j
  refine h.step (stored_of_quiet hs) (congrArg Progress.dispatched hprogress) fun n b hp => ?_
  rw [hprogress]
  exact hp

/-- A post of a dispatched position that is not smaller than the stored one. -/
theorem post {position : Int} (h : Books t file R j) (hpos : 0 < position)
    (hs : Serves (PostsPosition t (t.checkpoint file position)) s)
    (hR : ∀ n b p, R n b p → b ≤ position ∧ position < n ∧ R n position p) :
    Books t file R (s :: j) := by
  have hprogress : (progress file j).after file s = progress file j := progress_of_serves hs file j
  obtain hstored | hstored := stored_of_posts (j := j) hs
  · refine h.step hstored (congrArg Progress.dispatched hprogress) fun n b hp => ?_
    rw [hprogress]
    exact hp
  · obtain ⟨⟨n, b, hn, hb, hbound, hp⟩, hmonotone⟩ := h
    obtain ⟨hle, hlt, hp⟩ := hR n b _ hp
    refine ⟨⟨n, position, fun p => ?_, hlt, fun params hparams => ?_, ?_⟩,
      hmonotone.cons fun q hq => ⟨position, ?_, hstored⟩⟩
    · rw [← hn p, ← congrArg Progress.dispatched hprogress]
      rfl
    · exact ⟨position, Option.some.inj (hparams.symm.trans hstored), hpos, Int.le_refl position⟩
    · rw [← hprogress] at hp
      exact hp
    · obtain ⟨q', hq', -, hqb⟩ := hbound _ hq
      have heq : q = q' := (Status.positionParameters_inj hq').2
      omega

end Books

/-! ### The progress of a session -/

/-- The next record is at most the first one not yet dispatched, and not behind the stored
position; it follows the one delivered last. -/
def Awaiting (n : Nat) (b : Int) (p : Progress) : Prop :=
  ∃ u, p.upcoming = some u ∧ 0 ≤ u ∧ u ≤ n ∧ b ≤ p.last?.getD u ∧ ∀ d, p.last? = some d → d + 1 = u

/-- The record at a position has been delivered last; before it the records up to there have been
dispatched. -/
def Fresh (position : Int) (n : Nat) (b : Int) (p : Progress) : Prop :=
  p.last? = some position ∧ p.upcoming = some (position + 1) ∧ 0 ≤ position ∧ position ≤ n ∧
    b ≤ position

/-- The record at a position has been delivered last and has been dispatched. -/
def Done (position : Int) (n : Nat) (b : Int) (p : Progress) : Prop :=
  Fresh position n b p ∧ position < n

/-- A position can be stored at the end of a session. -/
def Storable (position : Int) (n : Nat) (b : Int) (_ : Progress) : Prop :=
  0 < position → b ≤ position ∧ position < n

variable {t : Tracking} {file : LogFile} {j : List Step} {n : Nat} {b position : Int} {p : Progress}

theorem Done.awaiting (h : Done position n b p) : Awaiting n b p := by
  obtain ⟨⟨hlast, hupcoming, hnonneg, -, hb⟩, hlt⟩ := h
  refine ⟨position + 1, hupcoming, by omega, by omega, ?_, fun d hd => ?_⟩
  · rw [hlast]
    exact hb
  · rw [Option.some.inj (hd.symm.trans hlast)]

/-- The next record becomes the one delivered last. -/
theorem Awaiting.fresh {p : Progress} {r : Record} (h : Awaiting n b p)
    (hr : ∀ u, p.upcoming = some u → r.position = u) :
    Fresh r.position n b (p.after file (.received (.ok (.record r)))) := by
  obtain ⟨u, hupcoming, hnonneg, hle, hb, hlast⟩ := h
  rw [hr u hupcoming]
  refine ⟨congrArg some (hr u hupcoming), congrArg (fun q => some (q + 1)) (hr u hupcoming),
    hnonneg, hle, ?_⟩
  cases hl : p.last? with
  | none =>
    rw [hl] at hb
    exact hb
  | some d =>
    rw [hl] at hb
    have hd := hlast d hl
    change b ≤ d at hb
    omega

/-- The position of the record delivered last can be stored. -/
theorem Awaiting.storable (h : Awaiting n b p) : Storable (p.last?.getD 0) n b p := by
  obtain ⟨u, -, -, hle, hb, hlast⟩ := h
  intro hpos
  cases hl : p.last? with
  | none =>
    rw [hl] at hpos
    exact absurd hpos (by decide)
  | some d =>
    rw [hl] at hb
    have hd := hlast d hl
    change b ≤ d at hb
    change b ≤ d ∧ d < n
    exact ⟨hb, by omega⟩

/-- A record that has been delivered is dispatched. -/
theorem Books.dispatch {s : Step} {line : String}
    (hs : Dispatches line s)
    (h : Books t file (Fresh position) j) : Books t file (Done position) (s :: j) := by
  have hprogress := progress_of_dispatches hs file j
  have hstored : stored (t.entry file) (s :: j) = stored (t.entry file) j := by
    obtain rfl | rfl := hs <;> exact stored_cons_of_none rfl
  obtain ⟨⟨n, b, hn, hb, hbound, hlast, hupcoming, hnonneg, hle, hbp⟩, hmonotone⟩ := h
  -- The record is the first one not dispatched before, or one dispatched in an earlier session.
  obtain ⟨n', hn', hlt, hor⟩ : ∃ n' : Nat, n ≤ n' ∧ position < n' ∧
      ∀ q, 0 ≤ q ∧ q < (n' : Int) ↔ q = position ∨ 0 ≤ q ∧ q < n := by
    obtain hlt | rfl := Int.lt_or_eq_of_le hle
    · exact ⟨n, Nat.le_refl n, hlt, fun q => by omega⟩
    · exact ⟨n + 1, by omega, by omega, fun q => by omega⟩
  refine ⟨⟨n', b, fun q => ?_, by omega, fun params hparams => ?_, ?_⟩,
    hmonotone.cons fun q hq => ⟨q, Int.le_refl q, hstored.trans hq⟩⟩
  · rw [hprogress, hlast, hor q, ← hn q]
    exact List.mem_cons
  · exact hbound params (hstored.symm.trans hparams)
  · rw [hprogress]
    exact ⟨⟨hlast, hupcoming, hnonneg, by omega, hbp⟩, hlt⟩

theorem stable_books {source : ParamsSource} {R : Nat → Int → Progress → Prop} :
    Stable (faithful t source file) (Quiet t) (Books t file R) :=
  fun _ _ _ _ hs h => ⟨(h.quiet hs).noneSkipped, h.quiet hs⟩

end LogCollector
