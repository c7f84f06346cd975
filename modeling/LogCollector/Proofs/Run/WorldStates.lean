import LogCollector.World

/-!
# What a run does to its world

`Brings P m Q` follows the states of one world through a part of a run, where a triple only looks at
the journal. It is used for worlds of which it is known how they answer, such as one with a service
that remembers what is posted. There is one rule for each way to put a run together.
-/

namespace LogCollector

/-- Begun in a state of the world with `P`, a part of a run brings about a result and a state with
`Q`. -/
def Brings {σ α : Type} (P : σ → Prop) (m : Run σ α) (Q : α → σ → Prop) : Prop :=
  ∀ t : Tape σ, P t.world → Q (m t).1 (m t).2.world

namespace Brings

variable {σ α β : Type} {P : σ → Prop} {Q : α → σ → Prop} {R : β → σ → Prop}

theorem pure {x : α} (h : ∀ s, P s → Q x s) : Brings P (Pure.pure x : Run σ α) Q :=
  fun t ht => h t.world ht

theorem bind {m : Run σ β} {f : β → Run σ α} (hm : Brings P m R)
    (hf : ∀ x, Brings (R x) (f x) Q) : Brings P (m >>= f) Q := by
  intro t ht
  exact hf (m t).1 (m t).2 (hm t ht)

theorem measure {m : Measurement} {Q : Unit → σ → Prop} (h : ∀ s, P s → Q () s) :
    Brings P (Run.measure m : Run σ Unit) Q := fun t ht => h t.world ht

theorem clock {w : World σ} {Q : Int → σ → Prop} (h : ∀ s, P s → Q (w.now s).1 (w.now s).2) :
    Brings P w.clock Q := fun t ht => h t.world ht

theorem serve {w : World σ} {role : ServiceRole} {endpoint : String} {params : Status.Parameters}
    {Q : Except StatusFault Status.Response → σ → Prop}
    (h : ∀ s, P s → Q (w.call role endpoint params s).1 (w.call role endpoint params s).2) :
    Brings P (w.serve role endpoint params) Q := fun t ht => h t.world ht

/-- A fact about other things than the world. -/
theorem given {m : Run σ α} {φ : Prop} (h : φ → Brings P m Q) : Brings (fun s => φ ∧ P s) m Q :=
  fun t ht => h ht.1 t ht.2

end Brings

/-- A state of which it is known that it is of one of several kinds. -/
theorem Brings.exists {σ α ι : Type} {P : ι → σ → Prop} {m : Run σ α} {Q : α → σ → Prop}
    (h : ∀ i, Brings (P i) m Q) : Brings (fun s => ∃ i, P i s) m Q :=
  fun t ⟨i, ht⟩ => h i t ht

end LogCollector
