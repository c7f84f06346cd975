import LogCollector.Checkpoint
import LogCollector.Proofs.Fallible
import LogCollector.Proofs.Text.Numerals
import LogCollector.Stage.Service

/-!
# Documents of stored parameters

A service that remembers posts declares each posted parameter in the document of the entry, as
it is. Parameters whose keys hold no quotation mark and whose values hold no `<` are read back
from this document (`parse_document`); so are the positions of checkpoints
(`storedPosition_document`).
-/

namespace LogCollector

open Text

/-! ### Cutting at a word -/

namespace Text

theorem strip?_append (word cs : List Char) : strip? word (word ++ cs) = some cs := by
  induction word with
  | nil => cases cs <;> rfl
  | cons w ws ih =>
    rw [List.cons_append, strip?, if_pos rfl, ih]

/-- A text that begins with a word is cut there. -/
theorem cutAt?_append (word cs : List Char) : cutAt? word (word ++ cs) = some ([], cs) := by
  have h := strip?_append word cs
  cases hw : word ++ cs with
  | nil =>
    rw [hw] at h
    rw [cutAt?, h]
    rfl
  | cons c rest =>
    rw [hw] at h
    rw [cutAt?, h]

/-- A text in which the first character of the word does not occur is passed over. -/
theorem cutAt?_append_of_not_mem {w : Char} {before : List Char} (h : w ∉ before)
    (ws cs : List Char) : cutAt? (w :: ws) (before ++ cs) =
      (cutAt? (w :: ws) cs).map fun (b, after) => (before ++ b, after) := by
  induction before with
  | nil =>
    simp
  | cons c before ih =>
    rw [List.mem_cons, not_or] at h
    rw [List.cons_append, cutAt?, strip?, if_neg h.1, ih h.2, Option.map_map]
    rfl

end Text

namespace Status

namespace Document

/-! ### Scanning -/

theorem scan_of_none {cs : List Char} (h : firstTag? cs = none) : scan cs = [] := by
  rw [scan]
  split
  · rfl
  · rename_i hsome
    rw [h] at hsome
    cases hsome

theorem scan_of_some {cs name content : List Char} (h : firstTag? cs = some (name, content)) :
    scan cs = ((cutAt? closing content).toList.map fun (value, _) =>
      (String.ofList name, String.ofList (unwrap value))) ++ scan content := by
  rw [scan]
  split
  · rename_i hnone
    rw [h] at hnone
    cases hnone
  · rename_i name' content' hsome
    rw [h] at hsome
    obtain ⟨rfl, rfl⟩ := Prod.mk.inj (Option.some.inj hsome)
    rfl

/-- The declarations in a text depend on its first opening tag only. -/
theorem scan_congr {cs cs' : List Char} (h : firstTag? cs = firstTag? cs') :
    scan cs = scan cs' := by
  cases h' : firstTag? cs' with
  | none => rw [scan_of_none h', scan_of_none (h.trans h')]
  | some tag => rw [scan_of_some h', scan_of_some (h.trans h')]

/-- What is passed over before an opening tag does not matter. -/
theorem firstTag?_append {before : List Char} {cs : List Char}
    (h : cutAt? opening (before ++ cs) =
      (cutAt? opening cs).map fun (b, after) => (before ++ b, after)) :
    firstTag? (before ++ cs) = firstTag? cs := by
  rw [firstTag?, firstTag?, h]
  cases cutAt? opening cs with
  | none => rfl
  | some parts => rfl

/-- A declaration of a plain value. -/
def declaration (key value : List Char) : List Char :=
  opening ++ (key ++ '"' :: '>' :: (value ++ closing))

/-- A plain value and the closing tag behind it are passed over. -/
theorem firstTag?_closing {value : List Char} (hv : '<' ∉ value) (rest : List Char) :
    firstTag? (value ++ (closing ++ rest)) = firstTag? rest := by
  have hslash : firstTag? (closing ++ rest) = firstTag? ("/s:key>".toList ++ rest) := by
    rw [firstTag?, firstTag?]
    change (cutAt? opening ('<' :: ("/s:key>".toList ++ rest)) >>= _) = _
    rw [cutAt?]
    change ((cutAt? opening ("/s:key>".toList ++ rest)).map _ >>= _) = _
    cases cutAt? opening ("/s:key>".toList ++ rest) with
    | none => rfl
    | some parts => rfl
  rw [firstTag?_append (cutAt?_append_of_not_mem hv _ _), hslash,
    firstTag?_append (cutAt?_append_of_not_mem (by decide) _ _)]

/-- A declared key is found with its value, and the rest of the text comes behind it. -/
theorem scan_declaration {key value : List Char} (hk : '"' ∉ key) (hv : '<' ∉ value)
    (rest : List Char) : scan (declaration key value ++ rest) =
      (String.ofList key, String.ofList value) :: scan rest := by
  have htag : firstTag? (declaration key value ++ rest) =
      some (key, value ++ (closing ++ rest)) := by
    have happend : declaration key value ++ rest =
        opening ++ (key ++ '"' :: '>' :: (value ++ (closing ++ rest))) := by
      simp [declaration]
    rw [happend, firstTag?, cutAt?_append]
    change (cut? '"' (key ++ '"' :: '>' :: (value ++ (closing ++ rest))) >>= _) = _
    rw [cut?_append hk]
    rfl
  have hclosing : cutAt? closing (value ++ (closing ++ rest)) = some (value, rest) := by
    have h := cutAt?_append_of_not_mem hv "/s:key>".toList (closing ++ rest)
    change cutAt? closing (value ++ (closing ++ rest)) =
      (cutAt? closing (closing ++ rest)).map _ at h
    rw [h, cutAt?_append]
    simp only [Option.map_some, List.append_nil]
  have hunwrap : unwrap value = value := by
    cases value with
    | nil => rfl
    | cons c value =>
      rw [List.mem_cons, not_or] at hv
      have hstrip : strip? wrapOpening (c :: value) = none := by
        change (if '<' = c then _ else none) = none
        rw [if_neg hv.1]
      rw [unwrap, hstrip]
  rw [scan_of_some htag, scan_congr (firstTag?_closing hv rest), hclosing]
  simp only [Option.toList_some, List.map_cons, List.map_nil, hunwrap, List.singleton_append]

theorem toList_between (o e key value : String) : (o ++ key ++ "\">" ++ value ++ e).toList =
    o.toList ++ (key.toList ++ '"' :: '>' :: (value.toList ++ e.toList)) := by
  have h : "\">".toList = ['"', '>'] := by decide
  simp only [String.toList_append, h, List.append_assoc, List.cons_append, List.nil_append]

/-- **Stored parameters are read back.** -/
theorem parse_document {params : Parameters}
    (h : ∀ p ∈ params, '"' ∉ p.1.toList ∧ '<' ∉ p.2.toList) :
    parse (Stage.PlayedService.document params) = ⟨params⟩ := by
  rw [parse, mk.injEq, Stage.PlayedService.document, String.toList_join, List.flatMap_map]
  induction params with
  | nil => exact scan_of_none rfl
  | cons p params ih =>
    obtain ⟨hk, hv⟩ := h p (by simp)
    rw [List.flatMap_cons]
    refine (congrArg (fun cs => scan (cs ++ _)) (toList_between _ _ p.1 p.2)).trans ?_
    refine (scan_declaration hk hv _).trans ?_
    rw [String.ofList_toList, String.ofList_toList,
      ih fun q hq => h q (List.mem_cons_of_mem p hq)]

end Document

/-! ### Stored positions -/

/-- The text of an answer tells some parameters: every key is declared with its value. Values that
hold `<`, with which a tag begins, make no promise. -/
def Conveys (body : String) (params : Parameters) : Prop :=
  (∀ p ∈ params, '<' ∉ p.2.toList) → ∀ key value, params.lookup key = some value →
    (Document.parse body).get? key = some value

/-- The document of stored parameters tells them. -/
theorem conveys_document {params : Parameters} (h : ∀ p ∈ params, '"' ∉ p.1.toList) :
    Conveys (Stage.PlayedService.document params) params := by
  intro hvalues key value hvalue
  rw [Document.parse_document fun p hp => ⟨h p hp, hvalues p hp⟩]
  exact hvalue

/-- A position that is read is the one that was written. -/
theorem eq_of_readPosition {n p : Int} (h : readPosition (Numeral.intText n) = .ok p) : p = n := by
  rw [readPosition, Numeral.intText, String.toList_ofList, (Numeral.trimmed_ofInt n).trim_eq] at h
  split at h
  · rename_i q hq
    rw [← Except.ok.inj h]
    exact Numeral.eq_of_integer?_ofInt hq
  · cases h

/-- The parameters of a post tell the log file and the position. -/
theorem positionParameters_inj {c c' : Checkpoint}
    (h : positionParameters c = positionParameters c') :
    c.fileId = c'.fileId ∧ c.position = c'.position := by
  simp only [positionParameters, List.cons.injEq, Prod.mk.injEq, true_and, and_true,
    Numeral.intText, String.ofList_inj] at h
  obtain ⟨-, hfile, -, hposition⟩ := h
  exact ⟨Numeral.ofInt_injective hfile, Numeral.ofInt_injective hposition⟩

/-- Texts that go on with different characters after the same beginning differ. -/
theorem append_ne_append (base : String) {p q : String} {c d : Char}
    (hp : p.toList.head? = some c) (hq : q.toList.head? = some d) (hne : c ≠ d) (x y : String) :
    base ++ p ++ x ≠ base ++ q ++ y := by
  intro h
  rw [String.append_assoc, String.append_assoc, String.append_right_inj] at h
  have hhead : (p ++ x).toList.head? = (q ++ y).toList.head? := by rw [h]
  rw [String.toList_append, String.toList_append, List.head?_append, List.head?_append, hp, hq]
    at hhead
  exact hne (Option.some.inj hhead)

/-- Positions and connections are kept at different entries. -/
theorem positions_ne_health (app entry entity : String) :
    (Endpoints.ofApp app).positions ++ entry ≠ (Endpoints.ofApp app).health ++ entity :=
  append_ne_append ("/servicesNS/nobody/" ++ app ++ "/opsec/") rfl rfl (by decide) entry entity

/-- The parameters of a checkpoint whose names hold no `<` hold none either. -/
theorem not_mem_positionParameters {c : Checkpoint} (he : '<' ∉ c.entity.toList)
    (hf : '<' ∉ c.fileName.toList) : ∀ p ∈ positionParameters c, '<' ∉ p.2.toList := by
  have hint : ∀ n, '<' ∉ (Numeral.intText n).toList := by
    intro n
    rw [Numeral.intText, String.toList_ofList]
    exact Numeral.not_mem_ofInt (by decide) (by decide) n
  have hkey : '<' ∉ c.key.toList := by
    rw [Checkpoint.key, entryName, String.toList_append, String.toList_append, List.mem_append,
      List.mem_append, not_or, not_or]
    exact ⟨⟨hint _, by decide⟩, he⟩
  intro p hp
  simp only [positionParameters, List.mem_cons, List.not_mem_nil, or_false] at hp
  obtain rfl | rfl | rfl | rfl := hp
  · exact hkey
  · exact hint _
  · exact hf
  · exact hint _

/-- **What an answer tells of a position**: that there is none when nothing is found, and otherwise,
if the call succeeds, the number that the value of the key spells. -/
theorem storedPosition_eq_ok_iff {endpoint : String} {r : Response} {found : Option Int} :
    storedPosition endpoint r = .ok found ↔
      r.isNotFound = true ∧ found = none ∨
        r.isNotFound = false ∧ r.isSuccess = true ∧ ∃ raw p,
          (Document.parse r.body).get? positionKey = some raw ∧ raw ≠ "" ∧
            readPosition raw = .ok p ∧ found = some p := by
  constructor
  · intro h
    rw [storedPosition] at h
    split at h
    · rename_i hmissing
      exact .inl ⟨hmissing, (Except.ok.inj h).symm⟩
    · rename_i hmissing
      rw [ite_error_eq_ok_iff] at h
      obtain ⟨hsuccess, h⟩ := h
      split at h
      · cases h
      · rename_i raw hraw
        obtain ⟨hget, hne⟩ := Option.filter_eq_some_iff.1 hraw
        cases hread : readPosition raw with
        | error f =>
          rw [hread] at h
          cases h
        | ok p =>
          rw [hread] at h
          exact .inr ⟨by simpa using hmissing, by simpa using hsuccess, raw, p, hget,
            of_decide_eq_true hne, hread, (Except.ok.inj h).symm⟩
  · rintro (⟨hmissing, rfl⟩ | ⟨hmissing, hsuccess, raw, p, hget, hne, hread, rfl⟩)
    · rw [storedPosition, if_pos hmissing]
    · have hvalue : (Document.parse r.body).nonEmpty? positionKey = some raw :=
        Option.filter_eq_some_iff.2 ⟨hget, decide_eq_true hne⟩
      simp [storedPosition, hmissing, hsuccess, hvalue, hread, Except.map]

/-- **A stored position is found again**: what an answer tells of a checkpoint is its position. -/
theorem storedPosition_of_conveys {c : Checkpoint} (he : '<' ∉ c.entity.toList)
    (hf : '<' ∉ c.fileName.toList) {r : Response} (hconveys : Conveys r.body (positionParameters c))
    {endpoint : String} {p : Int} (h : storedPosition endpoint r = .ok (some p)) :
    p = c.position := by
  have hget := hconveys (not_mem_positionParameters he hf) positionKey
    (Numeral.intText c.position) rfl
  obtain ⟨-, hnone⟩ | ⟨-, -, raw, q, hraw, -, hread, hfound⟩ := storedPosition_eq_ok_iff.1 h
  · cases hnone
  · obtain rfl := Option.some.inj hfound
    obtain rfl := Option.some.inj (hget.symm.trans hraw)
    exact eq_of_readPosition hread

/-- No position is told only when nothing is found. -/
theorem isNotFound_of_storedPosition {endpoint : String} {r : Response}
    (h : storedPosition endpoint r = .ok none) : r.isNotFound = true := by
  obtain ⟨hmissing, -⟩ | ⟨-, -, raw, p, -, -, -, hfound⟩ := storedPosition_eq_ok_iff.1 h
  · exact hmissing
  · cases hfound

/-- A position is only told by an answer that succeeds. -/
theorem isSuccess_of_storedPosition {endpoint : String} {r : Response} {p : Int}
    (h : storedPosition endpoint r = .ok (some p)) : r.isSuccess = true := by
  obtain ⟨-, hnone⟩ | ⟨-, hsuccess, -⟩ := storedPosition_eq_ok_iff.1 h
  · cases hnone
  · exact hsuccess

/-! ### Positions of 32 bits -/

/-- A written position is read back if it has 32 bits, and refused otherwise. -/
theorem readPosition_intText (n : Int) : readPosition (Numeral.intText n) =
    if -2147483648 ≤ n ∧ n ≤ 2147483647 then .ok n
    else .error (.invalidValue positionKey (Numeral.intText n)) := by
  rw [readPosition, Numeral.intText, String.toList_ofList, (Numeral.trimmed_ofInt n).trim_eq]
  by_cases h : -2147483648 ≤ n ∧ n ≤ 2147483647
  · rw [Numeral.integer?_ofInt h.1 h.2, if_pos h]
  · have hnone : Numeral.integer? (-2147483648) 2147483647 (Numeral.ofInt n) = none := by
      rw [Option.eq_none_iff_forall_ne_some]
      intro m hm
      obtain rfl := Numeral.eq_of_integer?_ofInt hm
      exact h (Numeral.bounds_of_integer? hm)
    rw [hnone, if_neg h]

/-- **What an answer tells of a checkpoint**: its position, unless that has more than 32 bits. -/
theorem storedPosition_eq_of_conveys {c : Checkpoint} (he : '<' ∉ c.entity.toList)
    (hf : '<' ∉ c.fileName.toList) {r : Response} (hsuccess : r.isSuccess = true)
    (hconveys : Conveys r.body (positionParameters c)) (endpoint : String) :
    storedPosition endpoint r = (readPosition (Numeral.intText c.position)).map some := by
  have hget := hconveys (not_mem_positionParameters he hf) positionKey
    (Numeral.intText c.position) rfl
  have hfound : r.isNotFound = false := by
    simp only [Response.isSuccess, Response.isNotFound, decide_eq_true_eq, decide_eq_false_iff_not]
      at hsuccess ⊢
    omega
  have hne : Numeral.intText c.position ≠ "" := by
    intro h
    have hchars := congrArg String.toList h
    rw [Numeral.intText, String.toList_ofList] at hchars
    exact Numeral.ofInt_ne_nil c.position hchars
  have hread : (Document.parse r.body).nonEmpty? positionKey =
      some (Numeral.intText c.position) := by
    rw [Document.nonEmpty?, hget, Option.filter_some, if_pos (decide_eq_true hne)]
  simp only [storedPosition, hfound, hsuccess, hread, Bool.not_true, Bool.false_eq_true, if_false]

end Status

end LogCollector
