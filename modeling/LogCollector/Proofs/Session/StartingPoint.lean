import LogCollector.Proofs.Fallible
import LogCollector.Proofs.Session.FilterFirst
import LogCollector.Proofs.Session.Resumption

/-!
# Where a session starts

Before a session is requested the position of its log file is looked up. `TellsPosition` says which
answers tell something: that nothing is stored, or a position, which is an integer of 32 bits in the
first declaration of its key. After such an answer the session starts at the position that follows
from it (`StartPosition.Follows`); after any other one it does not start at all
(`bad_answer_never_restarts`), so that no answer is taken for the start of the log file but those
that say so.
-/

namespace LogCollector

namespace Status

open Numeral (SpellsInt)

/-! ### What an answer tells -/

/-- What the answer to the look-up of a position tells: the position, or that none is stored. -/
inductive TellsPosition : Except StatusFault Response → Option Int → Prop where
  /-- There is nothing at the entry. -/
  | nothing {r : Response} : r.status = 404 → TellsPosition (.ok r) none
  /-- The first declaration of the key holds an integer of 32 bits, blanks around it apart. -/
  | position {r : Response} {raw : String} {p : Int} {earlier later : List (String × String)} :
      r.status < 300 →
      (Document.parse r.body).declarations = earlier ++ (positionKey, raw) :: later →
      (∀ d ∈ earlier, d.1 ≠ positionKey) →
      SpellsInt p (Text.trim raw.toList) → -2147483648 ≤ p → p ≤ 2147483647 →
      TellsPosition (.ok r) (some p)

/-- The value of a key is that of its first declaration. -/
theorem Document.get?_eq_some_iff {d : Document} {key value : String} : d.get? key = some value ↔
    ∃ earlier later, d.declarations = earlier ++ (key, value) :: later ∧
      ∀ e ∈ earlier, e.1 ≠ key := by
  rw [get?, List.lookup_eq_some_iff]
  refine exists_congr fun earlier => exists_congr fun later => and_congr_right fun _ => ?_
  refine forall₂_congr fun e _ => ?_
  rw [bne_iff_ne, ne_comm]

theorem readPosition_eq_ok_iff {raw : String} {p : Int} : readPosition raw = .ok p ↔
    SpellsInt p (Text.trim raw.toList) ∧ -2147483648 ≤ p ∧ p ≤ 2147483647 := by
  rw [← Numeral.integer?_eq_some_iff, readPosition]
  cases Numeral.integer? (-2147483648) 2147483647 (Text.trim raw.toList) with
  | none => simp
  | some n => simp

/-- **The answers that tell something** are those from which a position, or that there is none, is
made out. -/
theorem tellsPosition_iff {endpoint : String} {answer : Except StatusFault Response}
    {found : Option Int} :
    answer.bind (storedPosition endpoint) = .ok found ↔ TellsPosition answer found := by
  constructor
  · intro h
    cases answer with
    | error f => cases h
    | ok r =>
      obtain ⟨hmissing, rfl⟩ | ⟨-, hsuccess, raw, p, hget, -, hread, rfl⟩ :=
        storedPosition_eq_ok_iff.1 h
      · exact .nothing (of_decide_eq_true hmissing)
      · obtain ⟨earlier, later, hdeclared, hfirst⟩ := Document.get?_eq_some_iff.1 hget
        obtain ⟨hspells, hlow, hhigh⟩ := readPosition_eq_ok_iff.1 hread
        exact .position (of_decide_eq_true hsuccess) hdeclared hfirst hspells hlow hhigh
  · intro h
    cases h with
    | nothing hmissing => exact storedPosition_eq_ok_iff.2 (.inl ⟨decide_eq_true hmissing, rfl⟩)
    | @position r raw p earlier later hsuccess hdeclared hfirst hspells hlow hhigh =>
      have hget : (Document.parse r.body).get? positionKey = some raw :=
        Document.get?_eq_some_iff.2 ⟨earlier, later, hdeclared, hfirst⟩
      have hne : raw ≠ "" := by
        rintro rfl
        exact hspells.ne_nil rfl
      have hmissing : r.isNotFound = false := by
        rw [Response.isNotFound, decide_eq_false_iff_not]
        omega
      exact storedPosition_eq_ok_iff.2 (.inr ⟨hmissing, decide_eq_true hsuccess, raw, p, hget, hne,
        readPosition_eq_ok_iff.2 ⟨hspells, hlow, hhigh⟩, rfl⟩)

end Status

open Status (TellsPosition)

/-! ### What a session makes of it -/

/-- Where a session starts, given whether records are read as they are written and what is known to
be stored. -/
structure StartPosition.Follows (position : StartPosition) (online : Bool) (stored : Option Int) :
    Prop where
  /-- What is written from now on is read from the end of the log file. -/
  tail : online = true → position = .tail
  /-- Otherwise a positive position is gone on from. -/
  resumed : online = false → ∀ p, stored = some p → 0 < p → position = .at p
  /-- The log file is read from its start when there is no such position. -/
  fresh : online = false → (∀ p, stored = some p → p ≤ 0) → position = .start

namespace Controller

variable {σ : Type} (w : World σ) {a : Assignment} {c : Controller} {t : Tracking}
  {terms : SessionTerms} {tape : Tape σ}

theorem startFor_follows (online : Bool) (stored : Option Int) :
    (startFor online stored).Follows online stored where
  tail honline := by simp [startFor, honline]
  resumed hoffline p hp hpos := by simp [startFor, hoffline, hp, hpos]
  fresh hoffline hnone := by
    cases stored with
    | none => simp [startFor, hoffline]
    | some p => simp [startFor, hoffline, hnone p rfl]

/-- A controller that has not begun or is to begin again can begin. -/
theorem enter_of_state (h : c.state = .init ∨ c.state = .reconnect) :
    c.enter = .ok { c with state := .init, active := none } := by
  obtain h | h := h
  · rw [enter, if_pos h, ← h]
  · rw [enter, if_neg (by rw [h]; decide), moveTo, if_pos (by rw [h]; decide)]
    rfl

/-- The answer to the look-up of a stored position, which is made once the terms are known. -/
def lookUpAnswer (a : Assignment) (t : Tracking) (tape : Tape σ) :
    Except StatusFault Status.Response :=
  (w.call .status (t.entry a.target) [] (a.source.terms w a.plan tape).2.world).1

/-- A start makes one look-up and goes by its answer. -/
theorem start_of_answer (ht : a.store.tracking = some t)
    (hstate : c.state = .init ∨ c.state = .reconnect)
    (hterms : (a.source.terms w a.plan tape).1 = .ok terms) :
    let look := (lookUpAnswer w a t tape).bind (Status.storedPosition (t.entry a.target))
    let resuming : Controller := { c with state := .resuming, active := none }
    (start w a c tape).1 = (match look with
      | .error f => (.error (.session (.resumeFailed a.target.name f.message)), resuming.abort)
      | .ok found =>
        (.ok (requestFor a terms (startFor terms.online found)), resuming.ready a terms)) ∧
      (start w a c tape).2.journal = .measured .called ::
        .called .status (t.entry a.target) [] (lookUpAnswer w a t tape) ::
          (a.source.terms w a.plan tape).2.journal := by
  intro look resuming
  have hlook : resumePosition w a (a.source.terms w a.plan tape).2 =
      (look.mapError fun f => .session (.resumeFailed a.target.name f.message),
        (w.serve .status (t.entry a.target) [] (a.source.terms w a.plan tape).2).2) := by
    rw [resumePosition, CheckpointStore.lastPosition_eq w ht]
    rfl
  rw [start_of_terms w ht (enter_of_state hstate) hterms, hlook]
  refine ⟨?_, rfl⟩
  cases look with
  | error f => rfl
  | ok found => rfl

/-- **A bad answer never restarts a log file.** When the terms of a session are known, the position
of its log file is looked up. If the answer tells a position, or that none is stored, the session
starts where this says. Any other answer is a fault: no session is opened, nothing is posted, and
the controller is at its end. -/
theorem bad_answer_never_restarts (ht : a.store.tracking = some t)
    (hstate : c.state = .init ∨ c.state = .reconnect)
    (hterms : (a.source.terms w a.plan tape).1 = .ok terms) :
    let answer := lookUpAnswer w a t tape
    let r := start w a c tape
    r.2.journal = .measured .called :: .called .status (t.entry a.target) [] answer ::
        (a.source.terms w a.plan tape).2.journal ∧
      (∀ stored, TellsPosition answer stored → ∃ position,
        r.1.1 = .ok (requestFor a terms position) ∧ r.1.2.state = .filterRegistered ∧
          position.Follows terms.online stored) ∧
      ((∀ stored, ¬ TellsPosition answer stored) → ∃ reason,
        let fault := RunFault.session (.resumeFailed a.target.name reason)
        r.1.1 = .error fault ∧ r.1.2.state = .terminated ∧
          ∀ fuel, ∃ new, (runSession w a fuel c tape).1 = (some (.error fault), r.1.2) ∧
            (runSession w a fuel c tape).2.journal = new ++ tape.journal ∧
            ∀ s ∈ new, s.LooksUp) := by
  intro answer r
  obtain ⟨hresult, hjournal⟩ := start_of_answer w ht hstate hterms
  refine ⟨hjournal, fun stored htells => ?_, fun hnone => ?_⟩
  · rw [Status.tellsPosition_iff.2 htells] at hresult
    rw [hresult]
    exact ⟨_, rfl, rfl, startFor_follows terms.online stored⟩
  · cases hlook : answer.bind (Status.storedPosition (t.entry a.target)) with
    | ok found => exact absurd (Status.tellsPosition_iff.1 hlook) (hnone found)
    | error f =>
      rw [hlook] at hresult
      refine ⟨f.message, by rw [hresult], by rw [hresult]; rfl, fun fuel => ?_⟩
      obtain ⟨new, hnew, hlooks⟩ := adds_start w (a := a) c tape
      refine ⟨new, ?_, ?_, hlooks⟩
      · rw [runSession_eq, Run.bind_apply, hresult]
        rfl
      · rw [runSession_eq, Run.bind_apply, hresult]
        exact hnew

/-- A stage whose service answers the first look-up in this way. -/
def answered (answer : Status.Response) : Tape Stage :=
  ⟨{ Stage.bare .universal 0 with
    status := .played { Stage.PlayedService.empty with script := [.ok answer] } }, []⟩

/-- The first declaration counts, and its number has more than 32 bits: the controller does not go
on to another session. -/
theorem bad_answer_never_restarts_wide :
    let tape := answered ⟨200, "<s:key name=\"last_rec_pos\">2147483648</s:key>" ++
      "<s:key name=\"last_rec_pos\">5</s:key>"⟩
    let c : Controller := { initial with state := .reconnect }
    ∃ reason, (start Stage.world followed c tape).1.1 =
        .error (.session (.resumeFailed "fw.log" reason)) ∧
      (start Stage.world followed c tape).1.2.state = .terminated ∧
      ∀ fuel, ∀ s ∈ (runSession Stage.world followed fuel c tape).2.journal, s.LooksUp := by
  intro tape c
  let answer := lookUpAnswer Stage.world followed ⟨"fw1", "app"⟩ tape
  have hfault : answer.bind (Status.storedPosition "") =
      .error (.invalidValue "last_rec_pos" "2147483648") := by decide +kernel
  have hnone : ∀ stored, ¬ TellsPosition answer stored := by
    intro stored htells
    rw [Status.tellsPosition_iff.2 htells] at hfault
    cases hfault
  obtain ⟨-, -, hbad⟩ := @bad_answer_never_restarts Stage Stage.world followed c ⟨"fw1", "app"⟩ _
    tape rfl (.inr rfl) rfl
  obtain ⟨reason, hfault, hstate, hrun⟩ := hbad hnone
  refine ⟨reason, hfault, hstate, fun fuel s hs => ?_⟩
  obtain ⟨new, -, hnew, hlooks⟩ := hrun fuel
  rw [hnew] at hs
  exact hlooks s ((List.mem_append.1 hs).resolve_right List.not_mem_nil)

end Controller

end LogCollector
