import LogCollector.Proofs.Status.StoredDocument
import Mathlib.Data.Finset.Card
import Mathlib.Data.List.Infix

/-!
# What a document declares

A document is a text with declarations in it, written as `<s:key name="KEY">VALUE</s:key>` with the
value plain or wrapped in `<![CDATA[...]]>`; any other text may stand around them. Reading the text
gives what was declared (`parse_written`): the value of a key is that of its first declaration, and
a key that was not declared has none.

The search for the next opening tag goes on inside of the value before, so a value may hold neither
an opening nor a closing tag. Parts of tags do no harm: both tags begin with a character that does
not come again in them, so that no tag can begin in one piece of the text and end in the next
(`cutAt?_append_of_not_infix`).
-/

namespace LogCollector

/-! ### The first occurrence of a word -/

namespace Text

/-- A word occurs in a text. -/
def Occurs (word text : String) : Prop := word.toList <:+: text.toList

instance (word text : String) : Decidable (Occurs word text) :=
  inferInstanceAs (Decidable (_ <:+: _))

variable {w : Char} {ws before cs : List Char}

/-- A text without the word is passed over, if what comes behind it cannot be the rest of a word
that begins in the text. -/
theorem cutAt?_append_of_not_infix (h : ¬ (w :: ws) <:+: before)
    (hcs : ∀ c, cs.head? = some c → c ∉ ws) : cutAt? (w :: ws) (before ++ cs) =
      (cutAt? (w :: ws) cs).map fun (b, after) => (before ++ b, after) := by
  induction before with
  | nil => simp
  | cons c before ih =>
    have hstrip : strip? (w :: ws) (c :: (before ++ cs)) = none := by
      rw [Option.eq_none_iff_forall_ne_some]
      intro after hafter
      -- The word ends in the text, or it goes on with what comes behind.
      obtain ⟨rest, htext, -⟩ | ⟨rest, hword, hrest⟩ :=
        List.append_eq_append_iff.1 ((eq_of_strip? hafter).symm.trans (List.cons_append ..).symm)
      · exact h ⟨[], rest, htext.symm⟩
      · obtain ⟨rfl, hws⟩ := List.cons.inj hword
        cases rest with
        | nil => exact h ⟨[], [], by rw [hws]; simp⟩
        | cons d rest =>
          refine hcs d (by rw [hrest]; rfl) ?_
          rw [hws]
          simp
    rw [List.cons_append, cutAt?, hstrip,
      ih fun hinfix => h (List.infix_cons hinfix), Option.map_map]
    rfl

/-- A word does not occur across a character that is not in it. -/
theorem not_infix_append_cons {word : List Char} {c : Char} (hc : c ∉ word) {p q : List Char}
    (hp : ¬ word <:+: p) (hq : ¬ word <:+: q) : ¬ word <:+: p ++ c :: q := by
  rw [List.infix_append_iff]
  rintro (h | h | ⟨u, v, rfl, hu, hv⟩)
  · exact hp h
  · obtain h | h := List.infix_cons_iff.1 h
    · cases word with
      | nil => exact hp (List.nil_infix)
      | cons d word => exact hc (by rw [(List.cons_prefix_cons.1 h).1]; simp)
    · exact hq h
  · cases v with
    | nil =>
      rw [List.append_nil] at hp
      exact hp hu.isInfix
    | cons d v => exact hc (by rw [(List.cons_prefix_cons.1 hv).1]; simp)

end Text

theorem nodup_eraseDups {α : Type} [DecidableEq α] (l : List α) : l.eraseDups.Nodup := by
  induction h : l.length using Nat.strongRecOn generalizing l with
  | ind n ih =>
    cases l with
    | nil => simp
    | cons a l =>
      rw [List.eraseDups_cons, List.nodup_cons, List.mem_eraseDups]
      refine ⟨by simp, ih _ ?_ _ rfl⟩
      rw [← h, List.length_cons]
      exact Nat.lt_succ_of_le (List.length_filter_le ..)

namespace Status

open Text

/-! ### Writing declarations -/

/-- A declaration. -/
structure Declaration where
  /-- The key. -/
  key : String
  /-- The value. -/
  value : String
  /-- Whether the value is wrapped. -/
  wrapped : Bool
  deriving DecidableEq

namespace Declaration

variable (d : Declaration)

/-- What stands between the tags. -/
def content : String := if d.wrapped then "<![CDATA[" ++ d.value ++ "]]>" else d.value

/-- A declaration as it is written. -/
def text : String := "<s:key name=\"" ++ d.key ++ "\">" ++ d.content ++ "</s:key>"

/-- A declaration that can be told from the text around it: the key does not end early, the value
holds no tag, and a plain value does not look like a wrapped one. -/
structure Legible : Prop where
  /-- The key. -/
  key : '"' ∉ d.key.toList
  /-- No closing tag. -/
  unclosed : ¬ Occurs "</s:key>" d.value
  /-- No opening tag. -/
  unopened : ¬ Occurs "<s:key name=\"" d.value
  /-- No wrapping of its own. -/
  plain : d.wrapped = false → ∀ inner, d.value ≠ "<![CDATA[" ++ inner ++ "]]>"

end Declaration

/-- Declarations as they are written, each with the text behind it. -/
def written (ds : List (Declaration × String)) : String :=
  String.join (ds.map fun (d, after) => d.text ++ after)

/-! ### Reading declarations -/

namespace Document

/-- A word that begins like a tag, with a character that does not come again in it. -/
def IsTag (word : List Char) : Prop := ∃ rest, word = '<' :: rest ∧ '<' ∉ rest

theorem isTag_opening : IsTag opening := ⟨"s:key name=\"".toList, rfl, by decide⟩

theorem isTag_closing : IsTag closing := ⟨"/s:key>".toList, rfl, by decide⟩

/-- A text without a tag is passed over at the end and in front of another tag. -/
theorem IsTag.cutAt?_append {word text cs : List Char} (hword : IsTag word)
    (h : ¬ word <:+: text) (hcs : ∀ c, cs.head? = some c → c = '<') :
    cutAt? word (text ++ cs) = (cutAt? word cs).map fun (b, after) => (text ++ b, after) := by
  obtain ⟨rest, rfl, hrest⟩ := hword
  refine cutAt?_append_of_not_infix h fun c hc => ?_
  rw [hcs c hc]
  exact hrest

theorem head_closing (cs : List Char) : ∀ c, (closing ++ cs).head? = some c → c = '<' := by
  obtain ⟨rest, hrest, -⟩ := isTag_closing
  intro c hc
  rw [hrest] at hc
  exact (Option.some.inj hc).symm

variable {d : Declaration}

theorem toList_text (d : Declaration) : d.text.toList =
    opening ++ (d.key.toList ++ '"' :: '>' :: (d.content.toList ++ closing)) :=
  toList_between "<s:key name=\"" "</s:key>" d.key d.content

/-- A tag that does not occur in the value does not occur between the tags. -/
theorem not_infix_content {word : List Char} (hl : '[' ∉ word) (hr : ']' ∉ word)
    (hopening : ¬ word <:+: "<![CDATA".toList) (hclosing : ¬ word <:+: "]>".toList)
    (h : ¬ word <:+: d.value.toList) : ¬ word <:+: d.content.toList := by
  unfold Declaration.content
  split
  · have hwrapped : ("<![CDATA[" ++ d.value ++ "]]>").toList =
        "<![CDATA".toList ++ '[' :: (d.value.toList ++ ']' :: "]>".toList) := by
      rw [String.toList_append, String.toList_append, List.append_assoc]
      rfl
    rw [hwrapped]
    exact not_infix_append_cons hl hopening (not_infix_append_cons hr h hclosing)
  · exact h

/-- Between the tags stands the value. -/
theorem unwrap_content (h : d.Legible) : unwrap d.content.toList = d.value.toList := by
  unfold Declaration.content
  split
  · rw [String.toList_append, String.toList_append, List.append_assoc, unwrap]
    have hopening : strip? wrapOpening ("<![CDATA[".toList ++ (d.value.toList ++ "]]>".toList)) =
        some (d.value.toList ++ "]]>".toList) := strip?_append _ _
    have hclosing : strip? wrapClosing.reverse (d.value.toList ++ "]]>".toList).reverse =
        some d.value.toList.reverse := by
      rw [List.reverse_append]
      exact strip?_append _ _
    simp only [hopening, hclosing, List.reverse_reverse]
  · rename_i hplain
    unfold unwrap
    split
    · rfl
    · rename_i inner hinner
      split
      · rfl
      · rename_i rest hrest
        have hinner' : inner = rest.reverse ++ wrapClosing := by
          rw [← List.reverse_reverse inner, eq_of_strip? hrest, List.reverse_append,
            List.reverse_reverse]
        have hvalue : d.value = "<![CDATA[" ++ String.ofList rest.reverse ++ "]]>" := by
          rw [← String.toList_inj, String.toList_append, String.toList_append,
            @String.toList_ofList rest.reverse, List.append_assoc, eq_of_strip? hinner, hinner']
          rfl
        exact absurd hvalue (h.plain (Bool.eq_false_iff.2 hplain) _)

/-- A legible declaration is found with its value, and the rest of the text comes behind it. -/
theorem scan_text (h : d.Legible) (rest : List Char) :
    scan (d.text.toList ++ rest) = (d.key, d.value) :: scan rest := by
  have happend : d.text.toList ++ rest =
      opening ++ (d.key.toList ++ '"' :: '>' :: (d.content.toList ++ (closing ++ rest))) := by
    rw [toList_text, List.append_assoc, List.append_assoc, List.cons_append, List.cons_append,
      List.append_assoc]
  have htag : firstTag? (d.text.toList ++ rest) =
      some (d.key.toList, d.content.toList ++ (closing ++ rest)) := by
    rw [happend, firstTag?, cutAt?_append]
    change (cut? '"' (d.key.toList ++ '"' :: '>' :: _) >>= _) = _
    rw [cut?_append h.key]
    rfl
  have hclosing : cutAt? closing (d.content.toList ++ (closing ++ rest)) =
      some (d.content.toList, rest) := by
    have hcontent : ¬ closing <:+: d.content.toList :=
      not_infix_content (by decide) (by decide) (by decide) (by decide) h.unclosed
    rw [isTag_closing.cutAt?_append hcontent (head_closing rest), cutAt?_append]
    simp only [Option.map_some, List.append_nil]
  have hpassed : firstTag? (d.content.toList ++ (closing ++ rest)) = firstTag? rest := by
    have hcontent : ¬ opening <:+: d.content.toList :=
      not_infix_content (by decide) (by decide) (by decide) (by decide) h.unopened
    rw [firstTag?_append (isTag_opening.cutAt?_append hcontent (head_closing rest))]
    exact @firstTag?_closing [] List.not_mem_nil rest
  rw [scan_of_some htag, hclosing, scan_congr hpassed]
  simp only [Option.toList_some, List.map_cons, List.map_nil, unwrap_content h,
    String.ofList_toList, List.singleton_append]

/-- Text without an opening tag declares nothing, in front of a tag and at the end. -/
theorem scan_append_of_not_occurs {text : String} (h : ¬ Occurs "<s:key name=\"" text)
    {cs : List Char} (hcs : ∀ c, cs.head? = some c → c = '<') :
    scan (text.toList ++ cs) = scan cs :=
  scan_congr (firstTag?_append (isTag_opening.cutAt?_append h hcs))

variable {ds : List (Declaration × String)}

theorem toList_written_cons (p : Declaration × String) :
    (written (p :: ds)).toList = p.1.text.toList ++ (p.2.toList ++ (written ds).toList) := by
  rw [written, written, String.toList_join, String.toList_join, List.map_cons, List.flatMap_cons,
    String.toList_append, List.append_assoc]

theorem head_written (c : Char) (hc : (written ds).toList.head? = some c) : c = '<' := by
  cases ds with
  | nil => cases hc
  | cons p ds =>
    obtain ⟨rest, hrest, -⟩ := isTag_opening
    rw [toList_written_cons, toList_text, hrest] at hc
    exact (Option.some.inj hc).symm

/-- What is read is what was declared. -/
theorem scan_written (h : ∀ p ∈ ds, p.1.Legible ∧ ¬ Occurs "<s:key name=\"" p.2) :
    scan (written ds).toList = ds.map fun p => (p.1.key, p.1.value) := by
  induction ds with
  | nil => exact scan_of_none rfl
  | cons p ds ih =>
    rw [List.forall_mem_cons] at h
    obtain ⟨⟨hlegible, hafter⟩, hds⟩ := h
    rw [toList_written_cons, scan_text hlegible, scan_append_of_not_occurs hafter head_written,
      ih hds, List.map_cons]

/-! ### Looking keys up -/

/-- The first declaration of a key. -/
def firstValue (ds : List (Declaration × String)) (key : String) : Option String :=
  (ds.find? fun p => p.1.key = key).map fun p => p.1.value

theorem lookup_declared (ds : List (Declaration × String)) (key : String) :
    (ds.map fun p => (p.1.key, p.1.value)).lookup key = firstValue ds key := by
  induction ds with
  | nil => rfl
  | cons p ds ih =>
    rw [List.map_cons, List.lookup_cons, firstValue, List.find?_cons]
    by_cases hkey : p.1.key = key
    · simp [hkey]
    · simp only [beq_eq_false_iff_ne.2 (Ne.symm hkey), hkey, decide_false]
      exact ih

/-- **A document declares what was written.** Declarations are read back from any text that has
them in it: a key has the value of its first declaration, and each key counts once. -/
theorem parse_written {before : String} (hbefore : ¬ Occurs "<s:key name=\"" before)
    (h : ∀ p ∈ ds, p.1.Legible ∧ ¬ Occurs "<s:key name=\"" p.2) :
    (∀ key, (parse (before ++ written ds)).get? key = firstValue ds key) ∧
      (∀ key, (parse (before ++ written ds)).nonEmpty? key =
        (firstValue ds key).filter (· ≠ "")) ∧
      (parse (before ++ written ds)).size = (ds.map fun p => p.1.key).toFinset.card := by
  have hparse : parse (before ++ written ds) = ⟨ds.map fun p => (p.1.key, p.1.value)⟩ := by
    rw [parse, mk.injEq, String.toList_append, scan_append_of_not_occurs hbefore head_written,
      scan_written h]
  have hget : ∀ key, get? ⟨ds.map fun p => (p.1.key, p.1.value)⟩ key = firstValue ds key :=
    lookup_declared ds
  rw [hparse]
  refine ⟨hget, fun key => ?_, ?_⟩
  · rw [nonEmpty?, hget]
  · rw [size, List.map_map, ← List.toFinset_card_of_nodup (nodup_eraseDups _)]
    congr 1
    ext key
    simp

/-! ### A document with parts of tags -/

/-- A declaration is legible if it is wrapped or its value does not begin like a wrapped one. -/
theorem legible_of_not_prefix (hkey : '"' ∉ d.key.toList) (hunclosed : ¬ Occurs "</s:key>" d.value)
    (hunopened : ¬ Occurs "<s:key name=\"" d.value)
    (hplain : d.wrapped = true ∨ ¬ "<![CDATA[".toList <+: d.value.toList) : d.Legible := by
  refine ⟨hkey, hunclosed, hunopened, fun hwrapped inner hvalue => ?_⟩
  obtain hwrapped' | hprefix := hplain
  · rw [hwrapped] at hwrapped'
    cases hwrapped'
  · refine hprefix ⟨inner.toList ++ "]]>".toList, ?_⟩
    rw [hvalue, String.toList_append, String.toList_append, List.append_assoc]

/-- Declarations with parts of tags in their keys, in their values and behind them. -/
def broken : List (Declaration × String) :=
  [(⟨"mode", "</s:key", false⟩, " <s:key name="), (⟨"a>b", "]]> <s:key name=", true⟩, "</s:key>"),
    (⟨"mode", "vpn", true⟩, "\n"), (⟨"", "", false⟩, "\"")]

/-- Parts of tags do no harm, the first declaration counts, and an empty value is none. -/
theorem parse_written_broken :
    ¬ Occurs "<s:key name=\"" "<s:key" ∧
      (∀ p ∈ broken, p.1.Legible ∧ ¬ Occurs "<s:key name=\"" p.2) ∧
      (parse ("<s:key" ++ written broken)).get? "mode" = some "</s:key" ∧
      (parse ("<s:key" ++ written broken)).get? "a>b" = some "]]> <s:key name=" ∧
      (parse ("<s:key" ++ written broken)).get? "b" = none ∧
      (parse ("<s:key" ++ written broken)).nonEmpty? "" = none ∧
      (parse ("<s:key" ++ written broken)).size = 3 := by
  have hbefore : ¬ Occurs "<s:key name=\"" "<s:key" := by decide
  have hlegible : ∀ p ∈ broken, p.1.Legible ∧ ¬ Occurs "<s:key name=\"" p.2 := by
    simp only [broken, List.forall_mem_cons]
    refine ⟨⟨?_, by decide⟩, ⟨?_, by decide⟩, ⟨?_, by decide⟩, ⟨?_, by decide⟩, by simp⟩
    all_goals exact legible_of_not_prefix (by decide) (by decide) (by decide) (by decide)
  obtain ⟨hget, hnonEmpty, hsize⟩ := parse_written hbefore hlegible
  refine ⟨hbefore, hlegible, ?_, ?_, ?_, ?_, ?_⟩
  · rw [hget]
    decide
  · rw [hget]
    decide
  · rw [hget]
    decide
  · rw [hnonEmpty]
    decide
  · rw [hsize]
    decide

end Document

end Status

end LogCollector
