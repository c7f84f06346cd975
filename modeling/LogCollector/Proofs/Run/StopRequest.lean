import LogCollector.Proofs.Run.Triple
import Mathlib.Data.ENat.Basic

/-!
# Requests to stop

A world may be given another request to stop (`World.asked`), and in particular one that comes when
a number of demands have been made and is not taken back (`World.stoppedAt`). Of two runs that are
alike but for that, the one that is asked to stop earlier either does the same or stops short
(`StopsShort`): it only comes to its end, without a deed, and what it has done before is what the
other run had done at the end of some session, or before its first one (`LeavesOff`).

The rules for `StopsShort` put runs together as those for triples do. Behind a part in which the
first run may be asked to stop, what follows has to halt without deeds (`Halts`).
-/

namespace LogCollector

/-! ### Worlds in which a run is asked to stop -/

/-- The world with another request to stop. -/
def World.asked {σ : Type} (w : World σ) (stop : σ → Bool × σ) : World σ :=
  { w with stopRequested := stop }

theorem World.poll_asked {σ : Type} (w : World σ) (stop : σ → Bool × σ) (t : Tape σ) :
    (w.asked stop).poll t =
      ((stop t.world).1, ⟨(stop t.world).2, .polled (stop t.world).1 :: t.journal⟩) := rfl

/-- A demand that is counted. -/
def World.count {σ α : Type} (ask : σ → α × σ) (s : σ × ℕ) : α × (σ × ℕ) :=
  ((ask s.1).1, (ask s.1).2, s.2 + 1)

/-- The world with a count of the demands that have been made. -/
def World.counted {σ : Type} (w : World σ) : World (σ × ℕ) where
  call role endpoint params := count (w.call role endpoint params)
  now := count w.now
  sleep d s := (w.sleep d s.1, s.2 + 1)
  listFiles params := count (w.listFiles params)
  openSession request := count (w.openSession request)
  register rulebase := count (w.register rulebase)
  resume := count w.resume
  nextEvent := count w.nextEvent
  write line := count (w.write line)
  flush := count w.flush
  stopRequested := count w.stopRequested

/-- Whether so many demands have been made; to look at the request to stop is one as well. -/
def World.reached {σ : Type} (moment : ℕ∞) (s : σ × ℕ) : Bool × (σ × ℕ) :=
  (decide (moment ≤ s.2), s.1, s.2 + 1)

/-- The world in which the run is asked to stop when so many demands have been made, or never, and
the request is not taken back. -/
def World.stoppedAt {σ : Type} (w : World σ) (moment : ℕ∞) : World (σ × ℕ) :=
  w.counted.asked (reached moment)

/-- Two requests to stop that change nothing else in the world. The first one comes no later than
the second one, and it is not taken back. -/
structure World.StopsEarlier {σ : Type} (early late : σ → Bool × σ) : Prop where
  /-- The world does not notice. -/
  same : ∀ s, (early s).2 = (late s).2
  /-- What stops the one run stops the other. -/
  earlier : ∀ s, (late s).1 = true → (early s).1 = true
  /-- The request lasts. -/
  lasts : ∀ s, (early s).1 = true → (early (early s).2).1 = true

/-- A request that comes at an earlier moment stops a run earlier. -/
theorem World.stopsEarlier_reached {σ : Type} {early late : ℕ∞} (h : early ≤ late) :
    StopsEarlier (reached (σ := σ) early) (reached late) where
  same _ := rfl
  earlier _ hs := decide_eq_true (h.trans (of_decide_eq_true hs))
  lasts s hs := decide_eq_true ((of_decide_eq_true hs).trans (Nat.cast_le.2 (Nat.le_succ s.2)))

/-! ### Idle steps -/

/-- A step of the time between sessions: the sink is flushed, the reconnect is counted, and the wait
goes by. -/
def Step.isIdle : Step → Bool
  | .polled _ | .slept _ | .flushed _ | .measured .reconnected => true
  | _ => false

/-- Everything that a run has done but wait and flush the sink: its calls of the status service, the
sessions that it has opened, their events, the lines that it has written, and its measurements; the
latest one first. -/
def deeds (j : List Step) : List Step := j.filter fun s => !s.isIdle

theorem deeds_append_of_idle {new : List Step} (h : ∀ s ∈ new, s.isIdle = true) (j : List Step) :
    deeds (new ++ j) = deeds j := by
  rw [deeds, List.filter_append, List.filter_eq_nil_iff.2, List.nil_append, deeds]
  intro s hs
  rw [h s hs]
  exact Bool.false_ne_true

/-- A journal that ends with the end of a session. It is measured at last, behind the last commit
and the report on the connection. -/
def EndsSession (j : List Step) : Prop := ∃ cls past, j = .measured (.ended cls) :: past

/-- With its deeds a run leaves off where another one has been: at the end of a session, or at the
start, before the first one. -/
def LeavesOff (start short long : List Step) : Prop :=
  ∃ past, past <:+ long ∧ deeds short = deeds past ∧ (past = start ∨ EndsSession past)

variable {start short long long' new j : List Step}

theorem EndsSession.leavesOff (h : EndsSession j) : LeavesOff start j j :=
  ⟨j, List.suffix_refl _, rfl, .inr h⟩

/-- The other run may go on. -/
theorem LeavesOff.grow (h : LeavesOff start short long) (hlong : long <:+ long') :
    LeavesOff start short long' := by
  obtain ⟨past, hpast, hdeeds, hends⟩ := h
  exact ⟨past, hpast.trans hlong, hdeeds, hends⟩

/-- The run may do what are no deeds. -/
theorem LeavesOff.idle (h : LeavesOff start short long) (hnew : ∀ s ∈ new, s.isIdle = true) :
    LeavesOff start (new ++ short) long := by
  obtain ⟨past, hpast, hdeeds, hends⟩ := h
  exact ⟨past, hpast, (deeds_append_of_idle hnew short).trans hdeeds, hends⟩

/-- Both runs may do the same, if there are no deeds in it. -/
theorem LeavesOff.idle_both (h : LeavesOff start j j) (hnew : ∀ s ∈ new, s.isIdle = true) :
    LeavesOff start (new ++ j) (new ++ j) :=
  (h.idle hnew).grow (List.suffix_append _ _)

/-- While nothing but idle steps are added, nothing has been done since the end of a session. -/
theorem Triple.of_idle {σ α : Type} {m : Run σ α} (h : Adds (fun s => s.isIdle = true) m) :
    Triple (.owing fun _ => True) (fun j => LeavesOff start j j) m fun _ j => LeavesOff start j j :=
  .of_adds h fun s _ _ _ hs hj =>
    ⟨trivial, hj.idle_both (List.forall_mem_singleton.2 hs : ∀ s' ∈ [s], s'.isIdle = true)⟩

/-! ### Stopping short -/

/-- A part of a run that only comes to its end when the run has been asked to stop: it does no deed,
and the result is of a kind. -/
def Halts {σ α : Type} (stop : σ → Bool × σ) (H : α → Prop) (m : Run σ α) : Prop :=
  ∀ t : Tape σ, (stop t.world).1 = true → H (m t).1 ∧ (stop (m t).2.world).1 = true ∧
    ∃ new, (m t).2.journal = new ++ t.journal ∧ ∀ s ∈ new, s.isIdle = true

theorem Halts.pure {σ α : Type} {stop : σ → Bool × σ} {H : α → Prop} {x : α} (h : H x) :
    Halts stop H (Pure.pure x : Run σ α) :=
  fun _ hstop => ⟨h, hstop, [], rfl, fun _ hs => absurd hs List.not_mem_nil⟩

/-- Two parts of runs, begun alike with a journal that satisfies `P`: they do the same and end with
a result and a journal that satisfy `Q`, or the first one stops short of the second one. Then its
result satisfies `H`, and it is to stop when it looks again. -/
structure StopsShort {σ α : Type} (stop : σ → Bool × σ) (start : List Step) (P : List Step → Prop)
    (m₁ m₂ : Run σ α) (H : α → Prop) (Q : α → List Step → Prop) : Prop where
  /-- Nothing is removed from the journal of the second run. -/
  grows : ∀ t : Tape σ, t.journal <:+ (m₂ t).2.journal
  /-- The runs do the same, or the first one stops. -/
  splits : ∀ t : Tape σ, P t.journal →
    (m₁ t = m₂ t ∧ Q (m₂ t).1 (m₂ t).2.journal) ∨
    (H (m₁ t).1 ∧ (stop (m₁ t).2.world).1 = true ∧
      LeavesOff start (m₁ t).2.journal (m₂ t).2.journal)

namespace StopsShort

variable {σ α β : Type} {stop late : σ → Bool × σ} {P P' : List Step → Prop} {H : α → Prop}
  {H' : β → Prop} {Q : α → List Step → Prop} {R : β → List Step → Prop}

/-- A part that does not look at the request to stop. -/
theorem of_triple {m : Run σ α} (h : Triple (.owing fun _ => True) P m Q) :
    StopsShort stop start P m m H Q where
  grows := h.grows
  splits t hP := .inl ⟨rfl, h.result t hP⟩

theorem pure {x : α} (h : ∀ j, P j → Q x j) :
    StopsShort stop start P (Pure.pure x : Run σ α) (Pure.pure x) H Q :=
  of_triple (.pure fun j _ hj => h j hj)

theorem weaken {m₁ m₂ : Run σ α} (hm : StopsShort stop start P m₁ m₂ H Q)
    (hP : ∀ j, P' j → P j) : StopsShort stop start P' m₁ m₂ H Q :=
  ⟨hm.grows, fun t hj => hm.splits t (hP _ hj)⟩

/-- What follows goes on alike, or it halts in the first run. -/
theorem bind {m₁ m₂ : Run σ β} {f₁ f₂ : β → Run σ α} (hm : StopsShort stop start P m₁ m₂ H' R)
    (hf : ∀ x, StopsShort stop start (R x) (f₁ x) (f₂ x) H Q)
    (hhalts : ∀ x, H' x → Halts stop H (f₁ x)) :
    StopsShort stop start P (m₁ >>= f₁) (m₂ >>= f₂) H Q where
  grows t := (hm.grows t).trans ((hf _).grows _)
  splits t hP := by
    rw [Run.bind_apply, Run.bind_apply]
    obtain ⟨heq, hR⟩ | ⟨hH', hstop, hleaves⟩ := hm.splits t hP
    · rw [heq]
      exact (hf _).splits _ hR
    · obtain ⟨hH, hstop', new, hnew, hidle⟩ := hhalts _ hH' _ hstop
      refine .inr ⟨hH, hstop', ?_⟩
      rw [hnew]
      exact (hleaves.idle hidle).grow ((hf _).grows _)

/-- The first part does not look at the request to stop. -/
theorem next {m : Run σ β} {f₁ f₂ : β → Run σ α} (hm : Triple (.owing fun _ => True) P m R)
    (hf : ∀ x, StopsShort stop start (R x) (f₁ x) (f₂ x) H Q) :
    StopsShort stop start P (m >>= f₁) (m >>= f₂) H Q :=
  (of_triple (H := fun _ => False) hm).bind hf fun _ h => h.elim

/-- Both runs see the same when they look at the request to stop, or only the first one is to
stop. -/
theorem poll (w : World σ) (h : World.StopsEarlier stop late) :
    StopsShort stop start (fun j => LeavesOff start j j) (w.asked stop).poll (w.asked late).poll
      (· = true) fun _ j => LeavesOff start j j where
  grows _ := List.suffix_cons _ _
  splits t hj := by
    have hidle : ∀ stop, ∀ s ∈ [Step.polled stop], s.isIdle = true :=
      fun _ => List.forall_mem_singleton.2 rfl
    rw [World.poll_asked, World.poll_asked]
    cases hlate : (late t.world).1 with
    | true =>
      rw [h.earlier _ hlate, h.same]
      exact .inl ⟨rfl, hj.idle_both (hidle true)⟩
    | false =>
      cases hstop : (stop t.world).1 with
      | true =>
        exact .inr ⟨rfl, h.lasts _ hstop, (hj.idle (hidle true)).grow (List.suffix_cons _ _)⟩
      | false =>
        rw [h.same]
        exact .inl ⟨rfl, hj.idle_both (hidle false)⟩

end StopsShort

end LogCollector
