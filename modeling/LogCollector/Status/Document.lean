import LogCollector.Text.Blank
import LogCollector.Text.Split

/-!
# Documents of the status service

A document declares the values of keys: `<s:key name="KEY">VALUE</s:key>` anywhere in a text,
the value plain or wrapped in `<![CDATA[...]]>`. A declaration without its closing tag
declares nothing, and the search goes on behind the opening tag, so that declarations may be
nested. The first declaration of a key counts.
-/

namespace LogCollector.Status

/-- A document: the declared keys with their values, in order. -/
structure Document where
  /-- The declarations. -/
  declarations : List (String × String)
  deriving DecidableEq

namespace Document

/-- The start of a declaration. -/
def opening : List Char := "<s:key name=\"".toList

/-- The end of a declaration. -/
def closing : List Char := "</s:key>".toList

/-- The start of a wrapped value. -/
def wrapOpening : List Char := "<![CDATA[".toList

/-- The end of a wrapped value. -/
def wrapClosing : List Char := "]]>".toList

/-- A value without its wrapping. -/
def unwrap (value : List Char) : List Char :=
  match Text.strip? wrapOpening value with
  | none => value
  | some inner =>
    match Text.strip? wrapClosing.reverse inner.reverse with
    | none => value
    | some rest => rest.reverse

/-- The name in the first opening tag of a text and what follows the tag. -/
def firstTag? (cs : List Char) : Option (List Char × List Char) := do
  let (_, tag) ← Text.cutAt? opening cs
  let (name, tag) ← Text.cut? '"' tag
  let (_, content) ← Text.cut? '>' tag
  return (name, content)

/-- What follows a tag is shorter than the text. -/
theorem length_of_firstTag? {cs name content : List Char}
    (h : firstTag? cs = some (name, content)) : content.length < cs.length := by
  simp only [firstTag?, bind, Option.bind_eq_some_iff, pure, Option.some.injEq,
    Prod.mk.injEq] at h
  obtain ⟨⟨a, b⟩, h₁, ⟨c, d⟩, h₂, ⟨e, f⟩, h₃, -, rfl⟩ := h
  have e₁ := congrArg List.length (Text.eq_of_cutAt? h₁)
  have e₂ := congrArg List.length (Text.eq_of_cut? h₂)
  have e₃ := congrArg List.length (Text.eq_of_cut? h₃)
  simp only [List.length_append, List.length_cons] at e₁ e₂ e₃ ⊢
  omega

/-- The declarations in a text. -/
def scan (cs : List Char) : List (String × String) :=
  match h : firstTag? cs with
  | none => []
  | some (name, content) =>
    let own := (Text.cutAt? closing content).toList.map fun (value, _) =>
      (String.ofList name, String.ofList (unwrap value))
    own ++ scan content
termination_by cs.length
decreasing_by exact length_of_firstTag? h

/-- The document in the text of an answer. -/
def parse (body : String) : Document := ⟨scan body.toList⟩

/-- The value of a key. -/
def get? (d : Document) (key : String) : Option String := d.declarations.lookup key

/-- The value of a key, unless it is empty. -/
def nonEmpty? (d : Document) (key : String) : Option String := (d.get? key).filter (· ≠ "")

/-- The number of different keys. -/
def size (d : Document) : Nat := (d.declarations.map (·.1)).eraseDups.length

end Document

end LogCollector.Status
