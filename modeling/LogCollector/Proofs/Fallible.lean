import Mathlib.Data.List.Forall2

/-!
# Computations that may fail

When a computation that may fail succeeds: a refusal under a condition, one step after another,
and the same step for each item of a list. Lists are compared item by item by `List.Forall₂`.
Where only the success itself matters and not the result (`Succeeds`), the laws say when there is
one, and at which item of a list the first failure is. Two computations `Agree` when they have the
same result or both fail, each in its own way.
-/

namespace LogCollector

open List

/-! ### Items of lists -/

section

variable {α β : Type} {R S : α → β → Prop}

/-- When each item is related to something, the list is related to some list. -/
theorem exists_forall₂ {as : List α} (h : ∀ a ∈ as, ∃ b, R a b) : ∃ bs, Forall₂ R as bs := by
  induction as with
  | nil => exact ⟨[], .nil⟩
  | cons a as ih =>
    obtain ⟨b, hb⟩ := h a (by simp)
    obtain ⟨bs, hbs⟩ := ih fun c hc => h c (List.mem_cons_of_mem a hc)
    exact ⟨b :: bs, .cons hb hbs⟩

/-- Each item on the right is related to an item on the left. -/
theorem exists_left_of_forall₂ {as : List α} {bs : List β} (h : Forall₂ R as bs) {b : β}
    (hb : b ∈ bs) : ∃ a ∈ as, R a b := by
  induction h with
  | nil => simp at hb
  | cons hab _ ih =>
    cases hb with
    | head => exact ⟨_, by simp, hab⟩
    | tail _ hb =>
      obtain ⟨a, ha, hr⟩ := ih hb
      exact ⟨a, List.mem_cons_of_mem _ ha, hr⟩

end

/-! ### Success -/

section

variable {ε α β : Type}

/-- What is refused under a condition succeeds only without it. -/
theorem ite_error_eq_ok_iff {c : Prop} [Decidable c] {e : ε} {x : Except ε α} {y : α} :
    (if c then .error e else x) = .ok y ↔ ¬ c ∧ x = .ok y := by
  split
  · rename_i hc
    simp [hc]
  · rename_i hc
    simp [hc]

/-- Two steps succeed when both do. -/
theorem bind_eq_ok_iff {x : Except ε α} {f : α → Except ε β} {b : β} :
    x >>= f = .ok b ↔ ∃ a, x = .ok a ∧ f a = .ok b := by
  cases x with
  | error e => simp [bind, Except.bind]
  | ok a => simp [bind, Except.bind]

/-- A step for each item succeeds when it does so for every item. -/
theorem mapM_eq_ok_iff {f : α → Except ε β} {as : List α} {bs : List β} :
    as.mapM f = .ok bs ↔ Forall₂ (fun a b => f a = .ok b) as bs := by
  induction as generalizing bs with
  | nil =>
    rw [List.mapM_nil, forall₂_nil_left_iff]
    constructor
    · intro h
      exact (Except.ok.inj h).symm
    · rintro rfl
      rfl
  | cons a as ih =>
    rw [List.mapM_cons, forall₂_cons_left_iff]
    constructor
    · intro h
      obtain ⟨b, hb, h⟩ := bind_eq_ok_iff.1 h
      obtain ⟨rest, hrest, h⟩ := bind_eq_ok_iff.1 h
      exact ⟨b, rest, hb, ih.1 hrest, (Except.ok.inj h).symm⟩
    · rintro ⟨b, rest, hb, hrest, rfl⟩
      exact bind_eq_ok_iff.2 ⟨b, hb, bind_eq_ok_iff.2 ⟨rest, ih.2 hrest, rfl⟩⟩

/-- Whether a computation gives a result. -/
def Succeeds (x : Except ε α) : Prop := ∃ a, x = .ok a

/-- There is a result or a fault. -/
theorem not_succeeds_iff {x : Except ε α} : ¬ Succeeds x ↔ ∃ e, x = .error e := by
  cases x with
  | error e => simp [Succeeds]
  | ok a => simp [Succeeds]

theorem succeeds_ok (a : α) : Succeeds (.ok a : Except ε α) := ⟨a, rfl⟩

theorem not_succeeds_error (e : ε) : ¬ Succeeds (.error e : Except ε α) :=
  not_succeeds_iff.2 ⟨e, rfl⟩

/-- Two steps give a result when the second one does so for the result of the first. -/
theorem succeeds_bind_iff {x : Except ε α} {f : α → Except ε β} :
    Succeeds (x >>= f) ↔ ∃ a, x = .ok a ∧ Succeeds (f a) := by
  simp only [Succeeds, bind_eq_ok_iff]
  constructor
  · rintro ⟨b, a, ha, hb⟩
    exact ⟨a, ha, b, hb⟩
  · rintro ⟨a, ha, b, hb⟩
    exact ⟨b, a, ha, hb⟩

/-- A second step that cannot fail does not matter. -/
theorem succeeds_bind_of_forall {x : Except ε α} {f : α → Except ε β} (h : ∀ a, Succeeds (f a)) :
    Succeeds (x >>= f) ↔ Succeeds x := by
  rw [succeeds_bind_iff]
  exact exists_congr fun a => and_iff_left (h a)

/-- Whether there is a result does not depend on how faults are told. -/
theorem succeeds_mapError_iff {ε' : Type} {f : ε → ε'} {x : Except ε α} :
    Succeeds (x.mapError f) ↔ Succeeds x := by
  cases x with
  | error e => exact iff_of_false (not_succeeds_error _) (not_succeeds_error _)
  | ok a => exact iff_of_true (succeeds_ok a) (succeeds_ok a)

/-- There is a result for a list when there is one for each item. -/
theorem succeeds_mapM_iff {f : α → Except ε β} {as : List α} :
    Succeeds (as.mapM f) ↔ ∀ a ∈ as, Succeeds (f a) := by
  constructor
  · rintro ⟨bs, hbs⟩ a ha
    obtain ⟨b, -, hb⟩ := exists_left_of_forall₂ (mapM_eq_ok_iff.1 hbs).flip ha
    exact ⟨b, hb⟩
  · intro h
    obtain ⟨bs, hbs⟩ := exists_forall₂ (R := fun a b => f a = .ok b) h
    exact ⟨bs, mapM_eq_ok_iff.2 hbs⟩

/-- The fault of a list is that of the first item at which there is one. -/
theorem exists_of_mapM_eq_error {f : α → Except ε β} {as : List α} {e : ε}
    (h : as.mapM f = .error e) : ∃ earlier a later, as = earlier ++ a :: later ∧
      (∀ b ∈ earlier, Succeeds (f b)) ∧ f a = .error e := by
  induction as with
  | nil => cases h
  | cons a as ih =>
    cases ha : f a with
    | error e' =>
      rw [List.mapM_cons, ha] at h
      obtain rfl := Except.error.inj h
      exact ⟨[], a, as, rfl, by simp, ha⟩
    | ok b =>
      have hrest : as.mapM f = .error e := by
        rw [List.mapM_cons, ha] at h
        cases hbs : as.mapM f with
        | error e' =>
          rw [hbs] at h
          exact congrArg Except.error (Except.error.inj h)
        | ok bs =>
          rw [hbs] at h
          cases h
      obtain ⟨earlier, c, later, rfl, hearlier, hc⟩ := ih hrest
      refine ⟨a :: earlier, c, later, rfl, fun d hd => ?_, hc⟩
      obtain rfl | hd := List.mem_cons.1 hd
      · exact ⟨b, ha⟩
      · exact hearlier d hd

/-- **The fault of a list** is that of the first item at which there is one. -/
theorem mapM_eq_error_iff {f : α → Except ε β} {as : List α} {e : ε} : as.mapM f = .error e ↔
    ∃ earlier a later, as = earlier ++ a :: later ∧ (∀ b ∈ earlier, Succeeds (f b)) ∧
      f a = .error e := by
  refine ⟨exists_of_mapM_eq_error, ?_⟩
  rintro ⟨earlier, a, later, rfl, hearlier, ha⟩
  obtain ⟨bs, hbs⟩ := succeeds_mapM_iff.2 hearlier
  rw [List.mapM_append, hbs, List.mapM_cons, ha]
  rfl

/-- A look-up for each item finds something when it does so for every item. -/
theorem mapM_eq_some {f : α → Option β} {as : List α} {bs : List β}
    (h : Forall₂ (fun a b => f a = some b) as bs) : as.mapM f = some bs := by
  induction h with
  | nil => rfl
  | cons hb _ ih =>
    rw [List.mapM_cons, hb, ih]
    rfl

/-- No item is lost when something is found for every item. -/
theorem filterMap_eq_of_forall₂ {f : α → Option β} {as : List α} {bs : List β}
    (h : Forall₂ (fun a b => f a = some b) as bs) : as.filterMap f = bs := by
  induction h with
  | nil => rfl
  | cons hb _ ih => rw [List.filterMap_cons_some hb, ih]

end

/-! ### Results that agree -/

section

variable {ε α β : Type}

/-- Two computations have the same result, if they have one. -/
def Agree (x y : Except ε α) : Prop := ∀ a, x = .ok a ↔ y = .ok a

theorem Agree.refl (x : Except ε α) : Agree x x := fun _ => Iff.rfl

theorem Agree.symm {x y : Except ε α} (h : Agree x y) : Agree y x := fun a => (h a).symm

theorem Agree.trans {x y z : Except ε α} (h : Agree x y) (h' : Agree y z) : Agree x z :=
  fun a => (h a).trans (h' a)

theorem Agree.of_eq {x y : Except ε α} (h : x = y) : Agree x y := h ▸ .refl x

theorem Agree.of_not_succeeds {x y : Except ε α} (hx : ¬ Succeeds x) (hy : ¬ Succeeds y) :
    Agree x y := fun a => iff_of_false (fun h => hx ⟨a, h⟩) fun h => hy ⟨a, h⟩

/-- Two steps agree when each of them does. -/
theorem Agree.bind {x y : Except ε α} {f g : α → Except ε β} (h : Agree x y)
    (hfg : ∀ a, Agree (f a) (g a)) : Agree (x >>= f) (y >>= g) := fun b => by
  rw [bind_eq_ok_iff, bind_eq_ok_iff]
  exact exists_congr fun a => and_congr (h a) (hfg a b)

/-- A step for each item of two lists agrees when it does so item by item. -/
theorem agree_mapM {f : α → Except ε β} {as as' : List α}
    (h : Forall₂ (fun a a' => Agree (f a) (f a')) as as') :
    Agree (as.mapM f) (as'.mapM f) := by
  intro bs
  rw [mapM_eq_ok_iff, mapM_eq_ok_iff]
  induction h generalizing bs with
  | nil => exact Iff.rfl
  | cons ha _ ih =>
    rw [List.forall₂_cons_left_iff, List.forall₂_cons_left_iff]
    exact exists_congr fun b => exists_congr fun rest =>
      and_congr (ha b) (and_congr_left' (ih rest))

end

end LogCollector
