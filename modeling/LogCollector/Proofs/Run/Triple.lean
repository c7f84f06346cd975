import LogCollector.World

/-!
# Reasoning about runs

Of the world of a run nothing is known but what its journal tells. A `Contract` says what the
world may do after a journal and what the run owes in return, and a triple `Triple k P m Q`
says that a part `m` of a run, begun with a journal that satisfies `P`, keeps the contract `k`
and ends with a result and a journal that satisfy `Q`. There is one rule for each way to put a
run together.

What is owed is owed at every point of the run and as long as the world has kept its side: a
world that breaks the contract later cannot take back what was guaranteed before.

`Adds S m` is the simpler statement that all steps of `m` are of a kind; assertions that such
steps preserve are carried through `m` by `Triple.of_adds`.
-/

namespace LogCollector

/-! ### Contracts -/

/-- What a world and a run owe each other. -/
structure Contract where
  /-- Whether the world may take a step after a journal. -/
  rely : List Step → Step → Prop
  /-- What the run owes at every point of its journal. -/
  guarantee : List Step → Prop

namespace Contract

variable (k : Contract)

/-- The world has kept its side in the whole journal. -/
def Kept : List Step → Prop
  | [] => True
  | s :: past => k.rely past s ∧ Kept past

/-- The run has kept its side wherever the world had kept its own. -/
def Safe (j : List Step) : Prop := ∀ j', j' <:+ j → k.Kept j' → k.guarantee j'

variable {k} {j j' : List Step}

theorem Kept.of_suffix (h : k.Kept j) (hs : j' <:+ j) : k.Kept j' := by
  induction j with
  | nil =>
    rw [List.suffix_nil.1 hs]
    trivial
  | cons s j ih =>
    obtain rfl | hs := List.suffix_cons_iff.1 hs
    · exact h
    · exact ih h.2 hs

theorem Safe.cons {s : Step} (h : k.Safe j) (hs : k.Kept (s :: j) → k.guarantee (s :: j)) :
    k.Safe (s :: j) := by
  intro j' hj' hkept
  obtain rfl | hj' := List.suffix_cons_iff.1 hj'
  · exact hs hkept
  · exact h j' hj' hkept

/-- After the world has broken the contract the run owes nothing more. -/
theorem Safe.of_broken (h : k.Safe j) (hb : ¬ k.Kept j) (hs : j <:+ j') : k.Safe j' := by
  intro j'' hj'' hkept
  obtain hcmp | hcmp := List.suffix_or_suffix_of_suffix hs hj''
  · exact absurd (hkept.of_suffix hcmp) hb
  · exact h j'' hcmp hkept

theorem safe_nil (h : k.guarantee []) : k.Safe [] := by
  intro j hj _
  rwa [List.suffix_nil.1 hj]

/-- When it does not matter what came before, the steps tell whether the world kept its side. -/
theorem kept_of_forall (h : ∀ s ∈ j, ∀ past, k.rely past s) : k.Kept j := by
  induction j with
  | nil => trivial
  | cons s j ih => exact ⟨h s (by simp) j, ih fun s' hs' => h s' (List.mem_cons_of_mem s hs')⟩

/-- A contract under which the world may do as it likes. -/
def owing (guarantee : List Step → Prop) : Contract := ⟨fun _ _ => True, guarantee⟩

theorem kept_owing (guarantee : List Step → Prop) (j : List Step) : (owing guarantee).Kept j :=
  kept_of_forall fun _ _ _ => trivial

/-- Whether all steps of a journal pass a test, each with what came before. -/
def passes (test : List Step → Step → Bool) : List Step → Bool
  | [] => true
  | s :: past => test past s && passes test past

theorem kept_of_passes {test : List Step → Step → Bool}
    (htest : ∀ past s, test past s = true → k.rely past s) (h : passes test j = true) :
    k.Kept j := by
  induction j with
  | nil => trivial
  | cons s past ih =>
    rw [passes, Bool.and_eq_true] at h
    exact ⟨htest past s h.1, ih h.2⟩

end Contract

/-! ### Triples -/

/-- A part of a run is followed by another one. -/
theorem Run.bind_apply {σ α β : Type} (m : Run σ β) (f : β → Run σ α) (t : Tape σ) :
    (m >>= f) t = f (m t).1 (m t).2 := rfl

/-- A part of a run that keeps a contract, from journals with `P` to results and journals
with `Q`. -/
structure Triple {σ α : Type} (k : Contract) (P : List Step → Prop) (m : Run σ α)
    (Q : α → List Step → Prop) : Prop where
  /-- Nothing is removed from the journal. -/
  grows : ∀ t : Tape σ, t.journal <:+ (m t).2.journal
  /-- The contract is kept, and the result is as promised. -/
  sound : ∀ t : Tape σ, k.Safe t.journal → k.Kept t.journal → P t.journal →
    k.Safe (m t).2.journal ∧ (k.Kept (m t).2.journal → Q (m t).1 (m t).2.journal)

namespace Triple

variable {σ α β : Type} {k : Contract} {P P' : List Step → Prop} {Q Q' : α → List Step → Prop}
  {R : β → List Step → Prop}

/-! ### The rules -/

theorem pure {x : α} (h : ∀ j, k.Kept j → P j → Q x j) :
    Triple k P (Pure.pure x : Run σ α) Q where
  grows _ := List.suffix_refl _
  sound t hsafe hkept hP := ⟨hsafe, fun _ => h t.journal hkept hP⟩

theorem bind {m : Run σ β} {f : β → Run σ α} (hm : Triple k P m R)
    (hf : ∀ x, Triple k (R x) (f x) Q) : Triple k P (m >>= f) Q where
  grows t := (hm.grows t).trans ((hf (m t).1).grows (m t).2)
  sound t hsafe hkept hP := by
    obtain ⟨hsafe', hR⟩ := hm.sound t hsafe hkept hP
    have hgrows := (hf (m t).1).grows (m t).2
    by_cases hkept' : k.Kept (m t).2.journal
    · exact (hf (m t).1).sound (m t).2 hsafe' hkept' (hR hkept')
    · exact ⟨hsafe'.of_broken hkept' hgrows, fun h => absurd (h.of_suffix hgrows) hkept'⟩

/-- A stronger beginning and a weaker end. -/
theorem mono {m : Run σ α} (hm : Triple k P m Q) (hP : ∀ j, k.Kept j → P' j → P j)
    (hQ : ∀ x j, k.Kept j → Q x j → Q' x j) : Triple k P' m Q' where
  grows := hm.grows
  sound t hsafe hkept hP' := by
    obtain ⟨hsafe', h⟩ := hm.sound t hsafe hkept (hP _ hkept hP')
    exact ⟨hsafe', fun hkept' => hQ _ _ hkept' (h hkept')⟩

/-- A fact about other things than the journal stays with the run. -/
theorem frame {φ : Prop} {m : Run σ α} (hm : Triple k P m Q) :
    Triple k (fun j => φ ∧ P j) m fun x j => φ ∧ Q x j where
  grows := hm.grows
  sound t hsafe hkept hP := by
    obtain ⟨hsafe', hQ⟩ := hm.sound t hsafe hkept hP.2
    exact ⟨hsafe', fun hkept' => ⟨hP.1, hQ hkept'⟩⟩

/-- Two beginnings with the same end. -/
theorem or {m : Run σ α} (hm : Triple k P m Q) (hm' : Triple k P' m Q) :
    Triple k (fun j => P j ∨ P' j) m Q where
  grows := hm.grows
  sound t hsafe hkept hP := by
    obtain hP | hP := hP
    · exact hm.sound t hsafe hkept hP
    · exact hm'.sound t hsafe hkept hP

theorem demand {ask : σ → α × σ} {step : α → Step}
    (h : ∀ x j, k.Kept j → k.rely j (step x) → P j →
      k.guarantee (step x :: j) ∧ Q x (step x :: j)) : Triple k P (Run.demand ask step) Q where
  grows _ := List.suffix_cons _ _
  sound _ hsafe hkept hP :=
    ⟨hsafe.cons fun hk => (h _ _ hkept hk.1 hP).1, fun hk => (h _ _ hkept hk.1 hP).2⟩

theorem measure {m : Measurement} {Q : Unit → List Step → Prop}
    (h : ∀ j, k.Kept j → k.rely j (.measured m) → P j →
      k.guarantee (.measured m :: j) ∧ Q () (.measured m :: j)) :
    Triple k P (Run.measure m : Run σ Unit) Q where
  grows _ := List.suffix_cons _ _
  sound _ hsafe hkept hP :=
    ⟨hsafe.cons fun hk => (h _ hkept hk.1 hP).1, fun hk => (h _ hkept hk.1 hP).2⟩

/-- Reading the clock leaves no trace. -/
theorem clock {w : World σ} {Q : Int → List Step → Prop} (h : ∀ x j, k.Kept j → P j → Q x j) :
    Triple k P w.clock Q where
  grows _ := List.suffix_refl _
  sound t hsafe hkept hP := ⟨hsafe, fun _ => h _ t.journal hkept hP⟩

/-- A call of the status service is measured. -/
theorem serve {w : World σ} {role : ServiceRole} {endpoint : String} {params : Status.Parameters}
    {Q : Except StatusFault Status.Response → List Step → Prop}
    (hcall : ∀ answer j, k.Kept j → k.rely j (.called role endpoint params answer) → P j →
      k.guarantee (.called role endpoint params answer :: j) ∧
        Q answer (.called role endpoint params answer :: j))
    (hm : ∀ answer j, k.Kept j → k.rely j (.measured .called) → Q answer j →
      k.guarantee (.measured .called :: j) ∧ Q answer (.measured .called :: j)) :
    Triple k P (w.serve role endpoint params) Q :=
  (demand hcall).bind fun answer => (measure (hm answer)).bind fun _ => pure fun _ _ h => h

/-- A part that is followed by a function of its result. -/
theorem map {m : Run σ β} {f : β → α} (hm : Triple k P m R)
    (h : ∀ x j, k.Kept j → R x j → Q (f x) j) :
    Triple k P (do return f (← m)) Q :=
  hm.bind fun x => pure (h x)

/-! ### Results -/

/-- What a run guarantees whose journal was empty. -/
theorem safe_of_nil {m : Run σ α} (h : Triple k P m Q) (hk : k.guarantee []) (hP : P []) (s : σ) :
    k.Safe (m ⟨s, []⟩).2.journal :=
  (h.sound ⟨s, []⟩ (Contract.safe_nil hk) trivial hP).1

/-- What holds after a run whose world kept its side. -/
theorem result_of_nil {m : Run σ α} (h : Triple k P m Q) (hk : k.guarantee []) (hP : P []) (s : σ)
    (hkept : k.Kept (m ⟨s, []⟩).2.journal) : Q (m ⟨s, []⟩).1 (m ⟨s, []⟩).2.journal :=
  (h.sound ⟨s, []⟩ (Contract.safe_nil hk) trivial hP).2 hkept

end Triple

/-! ### Results in any world -/

/-- Whatever the world does, a part of a run ends with such a result. -/
def Yields {σ α : Type} (Q : α → Prop) (m : Run σ α) : Prop := ∀ t : Tape σ, Q (m t).1

namespace Yields

variable {σ α β : Type} {Q : α → Prop} {R : β → Prop}

theorem pure {x : α} (h : Q x) : Yields Q (Pure.pure x : Run σ α) := fun _ => h

theorem bind {m : Run σ β} {f : β → Run σ α} (hm : Yields R m)
    (hf : ∀ x, R x → Yields Q (f x)) : Yields Q (m >>= f) := fun t => hf _ (hm t) (m t).2

/-- The result of the first part does not matter. -/
theorem next {m : Run σ β} {f : β → Run σ α} (hf : ∀ x, Yields Q (f x)) : Yields Q (m >>= f) :=
  fun t => hf (m t).1 (m t).2

theorem mono {m : Run σ α} {Q' : α → Prop} (hm : Yields Q m) (h : ∀ x, Q x → Q' x) :
    Yields Q' m := fun t => h _ (hm t)

/-- A condition on the beginning, kept with the result. -/
theorem of_imp {m : Run σ α} {c : Prop} (h : c → Yields Q m) : Yields (fun x => c → Q x) m :=
  fun t hc => h hc t

end Yields

/-! ### Kinds of steps -/

/-- All steps of a part of a run are of a kind. -/
def Adds {σ α : Type} (S : Step → Prop) (m : Run σ α) : Prop :=
  ∀ t : Tape σ, ∃ new, (m t).2.journal = new ++ t.journal ∧ ∀ s ∈ new, S s

namespace Adds

variable {σ α β : Type} {S S' : Step → Prop}

theorem pure (x : α) : Adds S (Pure.pure x : Run σ α) :=
  fun _ => ⟨[], rfl, fun _ h => nomatch h⟩

theorem bind {m : Run σ β} {f : β → Run σ α} (hm : Adds S m) (hf : ∀ x, Adds S (f x)) :
    Adds S (m >>= f) := by
  intro t
  obtain ⟨new, hnew, hS⟩ := hm t
  obtain ⟨newer, hnewer, hS'⟩ := hf (m t).1 (m t).2
  refine ⟨newer ++ new, ?_, fun s hs => ?_⟩
  · rw [List.append_assoc, ← hnew]
    exact hnewer
  · obtain hs | hs := List.mem_append.1 hs
    · exact hS' s hs
    · exact hS s hs

theorem demand {ask : σ → α × σ} {step : α → Step} (h : ∀ x, S (step x)) :
    Adds S (Run.demand ask step) := by
  intro t
  refine ⟨[step (ask t.world).1], rfl, fun s hs => ?_⟩
  rw [List.mem_singleton.1 hs]
  exact h _

theorem measure {m : Measurement} (h : S (.measured m)) : Adds S (Run.measure m : Run σ Unit) := by
  intro t
  refine ⟨[.measured m], rfl, fun s hs => ?_⟩
  rw [List.mem_singleton.1 hs]
  exact h

theorem clock (w : World σ) : Adds S w.clock := fun _ => ⟨[], rfl, fun _ h => nomatch h⟩

theorem mono {m : Run σ α} (hm : Adds S m) (h : ∀ s, S s → S' s) : Adds S' m := by
  intro t
  obtain ⟨new, hnew, hS⟩ := hm t
  exact ⟨new, hnew, fun s hs => h s (hS s hs)⟩

/-- Calling the status service adds the call and its measurement. -/
theorem serve (w : World σ) {role : ServiceRole} {endpoint : String} {params : Status.Parameters}
    (hcall : ∀ answer, S (.called role endpoint params answer)) (hm : S (.measured .called)) :
    Adds S (w.serve role endpoint params) :=
  (demand hcall).bind fun _ => (measure hm).bind fun _ => pure _

end Adds

/-- An assertion that steps of a kind preserve, in which the run keeps its side. -/
def Stable (k : Contract) (S : Step → Prop) (I : List Step → Prop) : Prop :=
  ∀ s j, k.Kept j → k.rely j s → S s → I j → k.guarantee (s :: j) ∧ I (s :: j)

/-- An assertion that every step of a kind preserves holds through all steps of that kind. -/
theorem Triple.of_adds {σ α : Type} {k : Contract} {S : Step → Prop} {I : List Step → Prop}
    {m : Run σ α} (hm : Adds S m) (h : Stable k S I) : Triple k I m fun _ => I where
  grows t := by
    obtain ⟨new, hnew, -⟩ := hm t
    exact ⟨new, hnew.symm⟩
  sound t hsafe hkept hI := by
    obtain ⟨new, hnew, hS⟩ := hm t
    rw [hnew]
    clear hnew
    induction new with
    | nil => exact ⟨hsafe, fun _ => hI⟩
    | cons s new ih =>
      obtain ⟨hsafe', hI'⟩ := ih fun s hs => hS s (List.mem_cons_of_mem _ hs)
      have hs : k.Kept (s :: (new ++ t.journal)) → _ ∧ _ := fun hk =>
        h s _ hk.2 hk.1 (hS s (by simp)) (hI' hk.2)
      exact ⟨hsafe'.cons fun hk => (hs hk).1, fun hk => (hs hk).2⟩

/-- Parts of a run of which nothing is to be shown. -/
theorem Triple.of_adds_true {σ α : Type} {S : Step → Prop} {m : Run σ α} (h : Adds S m) :
    Triple (.owing fun _ => True) (fun _ => True) m fun _ _ => True :=
  .of_adds h fun _ _ _ _ _ _ => ⟨trivial, trivial⟩

/-- A triple may be shown given a fact about other things than the journal. -/
theorem Triple.given {σ α : Type} {k : Contract} {S : Step → Prop} {φ : Prop} {P : List Step → Prop}
    {m : Run σ α} {Q : α → List Step → Prop} (hm : Adds S m) (h : φ → Triple k P m Q) :
    Triple k (fun j => φ ∧ P j) m Q := by
  by_cases hφ : φ
  · exact (h hφ).mono (fun _ _ hP => hP.2) fun _ _ _ hQ => hQ
  · have hnever : Triple k (fun _ => False) m fun _ _ => False :=
      .of_adds hm fun _ _ _ _ _ hfalse => hfalse.elim
    exact hnever.mono (fun _ _ hP => hφ hP.1) fun _ _ _ hfalse => hfalse.elim

/-- What the result is in any world holds beside what a triple tells. -/
theorem Triple.and_yields {σ α : Type} {k : Contract} {P : List Step → Prop} {m : Run σ α}
    {Q : α → List Step → Prop} {R : α → Prop} (hm : Triple k P m Q) (hR : Yields R m) :
    Triple k P m fun x j => R x ∧ Q x j where
  grows := hm.grows
  sound t hsafe hkept hP := by
    obtain ⟨hsafe', hQ⟩ := hm.sound t hsafe hkept hP
    exact ⟨hsafe', fun hkept' => ⟨hR t, hQ hkept'⟩⟩

/-- A triple may be shown for each of the values of which a beginning tells that there is one. -/
theorem Triple.exists {σ α ι : Type} [Nonempty ι] {k : Contract} {P : ι → List Step → Prop}
    {m : Run σ α} {Q : α → List Step → Prop} (h : ∀ i, Triple k (P i) m Q) :
    Triple k (fun j => ∃ i, P i j) m Q where
  grows := (h (Classical.choice inferInstance)).grows
  sound t hsafe hkept := fun ⟨i, hP⟩ => (h i).sound t hsafe hkept hP

/-- What a part of a run leads to in any world. -/
theorem Triple.result {σ α : Type} {P : List Step → Prop} {m : Run σ α}
    {Q : α → List Step → Prop} (h : Triple (.owing fun _ => True) P m Q) (t : Tape σ)
    (hP : P t.journal) : Q (m t).1 (m t).2.journal :=
  (h.sound t (fun _ _ _ => trivial) (Contract.kept_owing _ _) hP).2 (Contract.kept_owing _ _)

/-- What a part of a run leads to in any world it leads to in one that keeps a contract. -/
theorem Triple.of_owing {σ α : Type} {rely : List Step → Step → Prop} {P : List Step → Prop}
    {m : Run σ α} {Q : α → List Step → Prop} (h : Triple (.owing fun _ => True) P m Q) :
    Triple ⟨rely, fun _ => True⟩ P m Q where
  grows := h.grows
  sound t _ _ hP := ⟨fun _ _ _ => trivial, fun _ => h.result t hP⟩

end LogCollector
