import LogCollector.Proofs.Run.Triple

/-!
# Two runs side by side

Two runs in two worlds do the same as long as the worlds answer alike. `SideBySide R Q m₁ m₂` says
so of two parts of runs: `R` is kept between the states of the two worlds, the results are related
by `Q`, and what is seen of the two runs stays the same. Posts, sleeps and measurements are not
seen; a part that does nothing else (`Silent`) may stand on either side alone.

The worlds need not answer alike on every occasion. Their collaborators and sinks do (`SameParts`);
of the look-ups of the status service this is known from the journals of the whole runs only
(`Comparable`), and nothing is known of posts, of the clock and of sleeps.
-/

namespace LogCollector

/-! ### What is seen of a run -/

/-- Whether a step is seen: it asks something of the collaborator or the sink, looks something up,
or looks at the request to stop. -/
def Step.isSeen : Step → Bool
  | .called _ _ params _ => params.isEmpty
  | .slept _ | .measured _ => false
  | _ => true

/-- The steps that are seen. -/
def seen (j : List Step) : List Step := j.filter Step.isSeen

theorem seen_cons (s : Step) (j : List Step) :
    seen (s :: j) = if s.isSeen then s :: seen j else seen j := List.filter_cons

/-- The answer to a look-up of the status service. -/
def Step.lookUp? : Step → Option (Except StatusFault Status.Response)
  | .called _ _ params answer => if params.isEmpty then some answer else none
  | _ => none

/-- The answers to the look-ups in a journal, the first one first. -/
def lookUps (j : List Step) : List (Except StatusFault Status.Response) :=
  j.reverse.filterMap Step.lookUp?

theorem lookUps_cons (s : Step) (j : List Step) :
    lookUps (s :: j) = lookUps j ++ s.lookUp?.toList := by
  rw [lookUps, List.reverse_cons, List.filterMap_append, ← lookUps]
  cases hs : s.lookUp? <;> simp [hs]

variable {j₁ j₂ j₁' j₂' : List Step}

/-- What steps tell that are seen is told by those alone. -/
theorem filterMap_seen {α : Type} {f : Step → Option α} (hf : ∀ s, s.isSeen = false → f s = none)
    (j : List Step) : (seen j).filterMap f = j.filterMap f := by
  induction j with
  | nil => rfl
  | cons s j ih =>
    rw [seen_cons]
    split
    · rw [List.filterMap_cons, List.filterMap_cons, ih]
    · rename_i hs
      rw [List.filterMap_cons, hf s (Bool.eq_false_iff.2 hs), ih]

theorem seen_append_of_unseen {new : List Step} (h : ∀ s ∈ new, s.isSeen = false) (j : List Step) :
    seen (new ++ j) = seen j := by
  rw [seen, List.filter_append, List.filter_eq_nil_iff.2 fun s hs => Bool.eq_false_iff.1 (h s hs),
    List.nil_append, seen]

theorem lookUp?_of_not_seen {s : Step} (h : s.isSeen = false) : s.lookUp? = none := by
  cases s with
  | called role endpoint params answer => exact if_neg (Bool.eq_false_iff.1 h)
  | _ => rfl

theorem lookUps_eq_of_seen_eq (h : seen j₁ = seen j₂) : lookUps j₁ = lookUps j₂ := by
  rw [lookUps, lookUps, List.filterMap_reverse, List.filterMap_reverse,
    ← filterMap_seen (fun _ => lookUp?_of_not_seen) j₁, h,
    filterMap_seen fun _ => lookUp?_of_not_seen]

/-- Two journals of runs that were not asked to stop, in which the look-ups got the same answers. -/
structure Comparable (j₁ j₂ : List Step) : Prop where
  /-- The look-ups with one number have the same answer. -/
  answers : ∀ (i : Nat) x y, (lookUps j₁)[i]? = some x → (lookUps j₂)[i]? = some y → x = y
  /-- The first run was not asked to stop. -/
  unstopped₁ : .polled true ∉ j₁
  /-- The second run was not asked to stop. -/
  unstopped₂ : .polled true ∉ j₂

/-- Whether a step tells that the run was asked to stop. -/
def Step.isStop : Step → Bool
  | .polled stop => stop
  | _ => false

/-- Journals can be compared that tell the same look-ups. -/
theorem comparable_of_lookUps_eq (h : lookUps j₁ = lookUps j₂) (h₁ : j₁.any Step.isStop = false)
    (h₂ : j₂.any Step.isStop = false) : Comparable j₁ j₂ where
  answers _ _ _ hx hy := Option.some.inj (hx.symm.trans (h ▸ hy))
  unstopped₁ hmem := List.any_eq_false.1 h₁ _ hmem rfl
  unstopped₂ hmem := List.any_eq_false.1 h₂ _ hmem rfl

/-- The look-ups of the past come first. -/
theorem lookUps_getElem?_of_suffix {j j' : List Step} (h : j' <:+ j) {i : Nat}
    {x : Except StatusFault Status.Response} (hx : (lookUps j')[i]? = some x) :
    (lookUps j)[i]? = some x := by
  obtain ⟨new, rfl⟩ := h
  obtain ⟨hi, rfl⟩ := List.getElem?_eq_some_iff.1 hx
  rw [lookUps, List.reverse_append, List.filterMap_append]
  exact (List.getElem?_append_left hi).trans hx

/-- The past of two runs can be compared as well. -/
theorem Comparable.of_suffix (h : Comparable j₁ j₂) (h₁ : j₁' <:+ j₁) (h₂ : j₂' <:+ j₂) :
    Comparable j₁' j₂' where
  answers i x y hx hy :=
    h.answers i x y (lookUps_getElem?_of_suffix h₁ hx) (lookUps_getElem?_of_suffix h₂ hy)
  unstopped₁ hmem := h.unstopped₁ (h₁.subset hmem)
  unstopped₂ hmem := h.unstopped₂ (h₂.subset hmem)

/-! ### Worlds that share their collaborator and sink -/

/-- Neither the status service nor the clock, sleeping or the request to stop has an influence on
a property of the world. -/
structure World.Leaves {σ : Type} (w : World σ) (P : σ → Prop) : Prop where
  /-- The status service is called. -/
  call : ∀ role endpoint params s, P s → P (w.call role endpoint params s).2
  /-- The clock is read. -/
  now : ∀ s, P s → P (w.now s).2
  /-- The run sleeps. -/
  sleep : ∀ d s, P s → P (w.sleep d s)
  /-- The request to stop is looked at. -/
  stopRequested : ∀ s, P s → P (w.stopRequested s).2

variable {σ₁ σ₂ : Type}

/-- Two worlds with the same collaborator and the same sink: in states that are related these
give the same answers, and the rest of the world has no influence on them. -/
structure SameParts (w₁ : World σ₁) (w₂ : World σ₂) (R : σ₁ → σ₂ → Prop) : Prop where
  /-- Log files are listed. -/
  listFiles : ∀ params s₁ s₂, R s₁ s₂ → (w₁.listFiles params s₁).1 = (w₂.listFiles params s₂).1 ∧
    R (w₁.listFiles params s₁).2 (w₂.listFiles params s₂).2
  /-- A session is opened. -/
  openSession : ∀ request s₁ s₂, R s₁ s₂ →
    (w₁.openSession request s₁).1 = (w₂.openSession request s₂).1 ∧
    R (w₁.openSession request s₁).2 (w₂.openSession request s₂).2
  /-- A filter is registered. -/
  register : ∀ rulebase s₁ s₂, R s₁ s₂ →
    (w₁.register rulebase s₁).1 = (w₂.register rulebase s₂).1 ∧
    R (w₁.register rulebase s₁).2 (w₂.register rulebase s₂).2
  /-- A session is resumed. -/
  resume : ∀ s₁ s₂, R s₁ s₂ → (w₁.resume s₁).1 = (w₂.resume s₂).1 ∧
    R (w₁.resume s₁).2 (w₂.resume s₂).2
  /-- An event is waited for. -/
  nextEvent : ∀ s₁ s₂, R s₁ s₂ → (w₁.nextEvent s₁).1 = (w₂.nextEvent s₂).1 ∧
    R (w₁.nextEvent s₁).2 (w₂.nextEvent s₂).2
  /-- A line is written. -/
  write : ∀ line s₁ s₂, R s₁ s₂ → (w₁.write line s₁).1 = (w₂.write line s₂).1 ∧
    R (w₁.write line s₁).2 (w₂.write line s₂).2
  /-- The sink is flushed. -/
  flush : ∀ s₁ s₂, R s₁ s₂ → (w₁.flush s₁).1 = (w₂.flush s₂).1 ∧
    R (w₁.flush s₁).2 (w₂.flush s₂).2
  /-- The rest of the first world has no influence. -/
  leaves₁ : ∀ s₂, w₁.Leaves fun s₁ => R s₁ s₂
  /-- The rest of the second world has no influence. -/
  leaves₂ : ∀ s₁, w₂.Leaves (R s₁)

/-! ### Parts that are not seen -/

/-- A part of a run that is not seen: it only posts, sleeps, measures and reads the clock. -/
structure Silent {σ α : Type} (w : World σ) (m : Run σ α) : Prop where
  /-- No step is seen. -/
  unseen : Adds (fun s => s.isSeen = false) m
  /-- The collaborator and the sink are left alone. -/
  leaves : ∀ P, w.Leaves P → ∀ t : Tape σ, P t.world → P (m t).2.world

namespace Silent

variable {σ α β : Type} {w : World σ}

theorem pure (x : α) : Silent w (Pure.pure x) := ⟨.pure x, fun _ _ _ h => h⟩

theorem bind {m : Run σ β} {f : β → Run σ α} (hm : Silent w m) (hf : ∀ x, Silent w (f x)) :
    Silent w (m >>= f) where
  unseen := hm.unseen.bind fun x => (hf x).unseen
  leaves P hP t h := (hf _).leaves P hP _ (hm.leaves P hP t h)

theorem measure (m : Measurement) : Silent w (Run.measure m) := ⟨.measure rfl, fun _ _ _ h => h⟩

theorem clock : Silent w w.clock := ⟨.clock w, fun _ hP t h => hP.now t.world h⟩

theorem pause (d : Duration) : Silent w (w.pause d) :=
  ⟨.demand fun _ => rfl, fun _ hP t h => hP.sleep d t.world h⟩

/-- A post is not seen. -/
theorem serve {role : ServiceRole} {endpoint : String} {params : Status.Parameters}
    (h : params ≠ []) : Silent w (w.serve role endpoint params) where
  unseen := .serve w (fun _ => List.isEmpty_eq_false_iff.2 h) rfl
  leaves _ hP t h := hP.call role endpoint params t.world h

end Silent

/-! ### The rules -/

/-- Two parts of runs do the same, as far as it is seen, and their results are related. -/
structure SideBySide {α β : Type} (R : σ₁ → σ₂ → Prop) (Q : α → β → Prop) (m₁ : Run σ₁ α)
    (m₂ : Run σ₂ β) : Prop where
  /-- Nothing is removed from the first journal. -/
  grows₁ : ∀ t : Tape σ₁, t.journal <:+ (m₁ t).2.journal
  /-- Nothing is removed from the second journal. -/
  grows₂ : ∀ t : Tape σ₂, t.journal <:+ (m₂ t).2.journal
  /-- Journals that can be compared in the end show the same. -/
  agree : ∀ (t₁ : Tape σ₁) (t₂ : Tape σ₂), R t₁.world t₂.world →
    seen t₁.journal = seen t₂.journal → Comparable (m₁ t₁).2.journal (m₂ t₂).2.journal →
    Q (m₁ t₁).1 (m₂ t₂).1 ∧ R (m₁ t₁).2.world (m₂ t₂).2.world ∧
      seen (m₁ t₁).2.journal = seen (m₂ t₂).2.journal

namespace SideBySide

variable {α β γ δ : Type} {R : σ₁ → σ₂ → Prop} {Q : α → β → Prop} {S : γ → δ → Prop}
  {w₁ : World σ₁} {w₂ : World σ₂}

theorem pure {x : α} {y : β} (h : Q x y) :
    SideBySide R Q (Pure.pure x : Run σ₁ α) (Pure.pure y : Run σ₂ β) :=
  ⟨fun _ => List.suffix_refl _, fun _ => List.suffix_refl _, fun _ _ hR hseen _ => ⟨h, hR, hseen⟩⟩

/-- What follows two parts goes on with results that are related. -/
theorem bind_of_grows {m₁ : Run σ₁ γ} {m₂ : Run σ₂ δ} {f₁ : γ → Run σ₁ α} {f₂ : δ → Run σ₂ β}
    (hm : SideBySide R S m₁ m₂) (hf : ∀ x y, S x y → SideBySide R Q (f₁ x) (f₂ y))
    (hgrows₁ : ∀ x (t : Tape σ₁), t.journal <:+ (f₁ x t).2.journal)
    (hgrows₂ : ∀ y (t : Tape σ₂), t.journal <:+ (f₂ y t).2.journal) :
    SideBySide R Q (m₁ >>= f₁) (m₂ >>= f₂) where
  grows₁ t := (hm.grows₁ t).trans (hgrows₁ _ _)
  grows₂ t := (hm.grows₂ t).trans (hgrows₂ _ _)
  agree t₁ t₂ hR hseen hend := by
    obtain ⟨hS, hR', hseen'⟩ := hm.agree t₁ t₂ hR hseen
      (hend.of_suffix (hgrows₁ _ _) (hgrows₂ _ _))
    exact (hf _ _ hS).agree _ _ hR' hseen' hend

/-- Two parts with the same result go on in the same way. -/
theorem bind {m₁ : Run σ₁ γ} {m₂ : Run σ₂ γ} {f₁ : γ → Run σ₁ α} {f₂ : γ → Run σ₂ β}
    (hm : SideBySide R Eq m₁ m₂) (hf : ∀ x, SideBySide R Q (f₁ x) (f₂ x)) :
    SideBySide R Q (m₁ >>= f₁) (m₂ >>= f₂) := by
  refine bind_of_grows hm ?_ (fun x => (hf x).grows₁) fun x => (hf x).grows₂
  rintro x _ rfl
  exact hf x

/-- The results of two parts do not matter. -/
theorem next {m₁ : Run σ₁ γ} {m₂ : Run σ₂ δ} {n₁ : Run σ₁ α} {n₂ : Run σ₂ β}
    (hm : SideBySide R (fun _ _ => True) m₁ m₂) (hn : SideBySide R Q n₁ n₂) :
    SideBySide R Q (m₁ >>= fun _ => n₁) (m₂ >>= fun _ => n₂) :=
  bind_of_grows hm (fun _ _ _ => hn) (fun _ => hn.grows₁) fun _ => hn.grows₂

/-- A demand on the collaborator or the sink. -/
theorem demand {ask₁ : σ₁ → α × σ₁} {ask₂ : σ₂ → α × σ₂} {step : α → Step}
    (hask : ∀ s₁ s₂, R s₁ s₂ → (ask₁ s₁).1 = (ask₂ s₂).1 ∧ R (ask₁ s₁).2 (ask₂ s₂).2) :
    SideBySide R Eq (Run.demand ask₁ step) (Run.demand ask₂ step) where
  grows₁ _ := List.suffix_cons _ _
  grows₂ _ := List.suffix_cons _ _
  agree t₁ t₂ hR hseen _ := by
    obtain ⟨hanswer, hR'⟩ := hask t₁.world t₂.world hR
    refine ⟨hanswer, hR', ?_⟩
    change seen (step (ask₁ t₁.world).1 :: t₁.journal) = seen (step (ask₂ t₂.world).1 :: t₂.journal)
    rw [hanswer, seen_cons, seen_cons, hseen]

/-- The request to stop has not come in either run. -/
theorem poll (h : SameParts w₁ w₂ R) : SideBySide R Eq w₁.poll w₂.poll where
  grows₁ _ := List.suffix_cons _ _
  grows₂ _ := List.suffix_cons _ _
  agree t₁ t₂ hR hseen hend := by
    have hstop₁ : (w₁.stopRequested t₁.world).1 = false :=
      Bool.eq_false_iff.2 fun hstop => hend.unstopped₁ (List.mem_cons.2 (.inl (by rw [hstop])))
    have hstop₂ : (w₂.stopRequested t₂.world).1 = false :=
      Bool.eq_false_iff.2 fun hstop => hend.unstopped₂ (List.mem_cons.2 (.inl (by rw [hstop])))
    refine ⟨hstop₁.trans hstop₂.symm, ?_, ?_⟩
    · exact (h.leaves₂ _).stopRequested _ ((h.leaves₁ _).stopRequested _ hR)
    · change seen (.polled (w₁.stopRequested t₁.world).1 :: t₁.journal) =
        seen (.polled (w₂.stopRequested t₂.world).1 :: t₂.journal)
      rw [hstop₁, hstop₂, seen_cons, seen_cons, hseen]

/-- A look-up gets the same answer in both runs: it has the same number in both. -/
theorem lookUp (h : SameParts w₁ w₂ R) (role : ServiceRole) (endpoint : String) :
    SideBySide R Eq (w₁.serve role endpoint []) (w₂.serve role endpoint []) where
  grows₁ t := ⟨[_, _], rfl⟩
  grows₂ t := ⟨[_, _], rfl⟩
  agree t₁ t₂ hR hseen hend := by
    let x₁ := (w₁.call role endpoint [] t₁.world).1
    let x₂ := (w₂.call role endpoint [] t₂.world).1
    have hlast : ∀ x (j : List Step),
        lookUps (.measured .called :: .called role endpoint [] x :: j) = lookUps j ++ [x] := by
      intro x j
      rw [lookUps_cons, lookUps_cons, List.append_assoc]
      rfl
    have hsame : x₁ = x₂ := by
      refine hend.answers (lookUps t₁.journal).length x₁ x₂ ?_ ?_
      · change (lookUps (.measured .called :: .called role endpoint [] x₁ :: t₁.journal))[_]? = _
        rw [hlast, List.getElem?_concat_length]
      · change (lookUps (.measured .called :: .called role endpoint [] x₂ :: t₂.journal))[_]? = _
        rw [hlast, lookUps_eq_of_seen_eq hseen, List.getElem?_concat_length]
    refine ⟨hsame, ?_, ?_⟩
    · exact (h.leaves₂ _).call _ _ _ _ ((h.leaves₁ _).call _ _ _ _ hR)
    · change seen (.measured .called :: .called role endpoint [] x₁ :: t₁.journal) =
        seen (.measured .called :: .called role endpoint [] x₂ :: t₂.journal)
      simp only [seen_cons, hsame, hseen]

/-- Parts that are not seen change nothing, whatever they do. -/
theorem of_silent {m₁ : Run σ₁ α} {m₂ : Run σ₂ β} (h : SameParts w₁ w₂ R) (hm₁ : Silent w₁ m₁)
    (hm₂ : Silent w₂ m₂) : SideBySide R (fun _ _ => True) m₁ m₂ where
  grows₁ t := by
    obtain ⟨new, hnew, -⟩ := hm₁.unseen t
    exact ⟨new, hnew.symm⟩
  grows₂ t := by
    obtain ⟨new, hnew, -⟩ := hm₂.unseen t
    exact ⟨new, hnew.symm⟩
  agree t₁ t₂ hR hseen _ := by
    obtain ⟨new₁, hnew₁, hunseen₁⟩ := hm₁.unseen t₁
    obtain ⟨new₂, hnew₂, hunseen₂⟩ := hm₂.unseen t₂
    refine ⟨trivial, ?_, ?_⟩
    · exact hm₂.leaves _ (h.leaves₂ _) t₂ (hm₁.leaves _ (h.leaves₁ t₂.world) t₁ hR)
    · rw [hnew₁, hnew₂, seen_append_of_unseen hunseen₁, seen_append_of_unseen hunseen₂, hseen]

/-- Something is measured in both runs. -/
theorem measure (h : SameParts w₁ w₂ R) (m : Measurement) :
    SideBySide R (fun _ _ => True) (Run.measure m : Run σ₁ Unit) (Run.measure m : Run σ₂ Unit) :=
  of_silent h (.measure m) (.measure m)

end SideBySide

end LogCollector
