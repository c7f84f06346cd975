import LogCollector.Proofs.Filter.CanonicalForm
import LogCollector.Proofs.Filter.Grammar

/-!
# The language of filter rules

A rule text is a list of pieces between semicolons. A piece that is not blank has to be a
condition: the name of an argument that records of this kind have, an `=`, and a value that fits
the argument (`IsCondition`). The texts that compile are exactly those whose pieces are blank or
conditions, and the fault of any other text is about the first of its pieces that is neither
(`language_is_exact`). What the fault says depends on how far the piece can be read (`Blames`).
-/

namespace LogCollector.Filter

open Text

variable {zone : Calendar.Zone} {kind : RecordKind} {piece before after : List Char}

/-! ### Names -/

/-- The name in front of an `=` as it is written: without the blanks around it, and without the
`!`s behind it and the blanks before those. -/
def writtenName (before : List Char) : List Char := Argument.dropBangs (trim before)

/-- The name in front of an `=`, in lower case. -/
def nameOf (before : List Char) : String := .ofList (lower (writtenName before))

/-- Without a `!` behind a name only the blanks there are taken from it. -/
theorem dropBangs_of_getLast? {name : List Char} (h : name.getLast? ≠ some '!') :
    Argument.dropBangs name = trimEnd name := by
  have hbangs : name.reverse.dropWhile (· == '!') = name.reverse := by
    cases hr : name.reverse with
    | nil => rfl
    | cons c cs =>
      have hc : c ≠ '!' := by
        rintro rfl
        rw [← List.head?_reverse, hr] at h
        exact h rfl
      rw [List.dropWhile_cons_of_neg (by simpa using hc)]
  rw [Argument.dropBangs, hbangs, List.reverse_reverse]

/-- What is read around the first `=`. -/
theorem parse_append (h : '=' ∉ before) (after : List Char) :
    Argument.parse (before ++ '=' :: after) =
      if writtenName before = [] then .error .noName
      else .ok ⟨nameOf before, (trim before).getLast? == some '!', trim after⟩ := by
  have hname : (if (trim before).getLast? == some '!' then Argument.dropBangs (trim before)
      else trim before) = writtenName before := by
    by_cases hbang : (trim before).getLast? = some '!'
    · rw [if_pos (by simp [hbang]), writtenName]
    · rw [if_neg (by simpa using hbang), writtenName,
        dropBangs_of_getLast? hbang, (trimmed_trim before).trimEnd_eq]
  simp only [Argument.parse, cut?_append h, hname, List.isEmpty_iff, nameOf]

/-- The arguments have different words. -/
theorem word_injective {a b : ArgumentName} (h : a.word = b.word) : a = b := by
  cases a <;> cases b <;> first | rfl | exact absurd h (by decide)

/-- A word names the argument of the kind's vocabulary that it is the word of. -/
theorem parse?_eq_some_iff {word : String} {name : ArgumentName} :
    ArgumentName.parse? kind word = some name ↔
      name ∈ ArgumentName.vocabulary kind ∧ word = name.word := by
  constructor
  · intro h
    have hword := List.find?_some h
    exact ⟨List.mem_of_find?_eq_some h, (beq_iff_eq.1 hword).symm⟩
  · rintro ⟨hname, rfl⟩
    cases h : ArgumentName.parse? kind name.word with
    | none => simpa using List.find?_eq_none.1 h name hname
    | some other =>
      have hword := List.find?_some h
      rw [word_injective (beq_iff_eq.1 hword)]

/-! ### Conditions -/

/-- A condition: the name of an argument of the kind, the first `=`, and a value that fits the
argument. -/
def IsCondition (zone : Calendar.Zone) (kind : RecordKind) (piece : List Char) : Prop :=
  ∃ before after name, piece = before ++ '=' :: after ∧ '=' ∉ before ∧
    name ∈ ArgumentName.vocabulary kind ∧ nameOf before = name.word ∧
    Fits zone kind (trim after) name

/-- What a fault says about the piece at which it arose, which is no condition. -/
inductive Blames (zone : Calendar.Zone) (kind : RecordKind) (piece : List Char) :
    FilterFault → Prop where
  /-- The piece has no `=`. -/
  | noEquals : '=' ∉ piece → Blames zone kind piece (.syntaxError (.ofList piece) .noEquals)
  /-- There is no name in front of the first `=`. -/
  | noName {before after : List Char} : piece = before ++ '=' :: after → '=' ∉ before →
      writtenName before = [] → Blames zone kind piece (.syntaxError (.ofList piece) .noName)
  /-- Records of this kind have no argument with this name. -/
  | unknown {before after : List Char} : piece = before ++ '=' :: after → '=' ∉ before →
      writtenName before ≠ [] →
      (∀ name ∈ ArgumentName.vocabulary kind, nameOf before ≠ name.word) →
      Blames zone kind piece (.unknownArgument (nameOf before) kind.name)
  /-- The value does not fit the argument. -/
  | unfit {before after : List Char} {name : ArgumentName} {reason : SyntaxReason} :
      piece = before ++ '=' :: after → '=' ∉ before →
      name ∈ ArgumentName.vocabulary kind → nameOf before = name.word →
      ¬ Fits zone kind (trim after) name →
      Blames zone kind piece (.syntaxError (.ofList piece) reason)

/-- Every argument has a name that is not empty. -/
theorem writtenName_ne_nil {name : ArgumentName} (h : nameOf before = name.word) :
    writtenName before ≠ [] := by
  intro he
  rw [nameOf, he] at h
  cases name <;> exact absurd h (by decide)

/-- **A piece compiles exactly when it is a condition.** -/
theorem succeeds_compileCondition_iff :
    Succeeds (compileCondition zone kind piece) ↔ IsCondition zone kind piece := by
  constructor
  · rintro ⟨p, hp⟩
    obtain ⟨argument, name, op, values, hargument, hname, hvalues, -⟩ :=
      compileCondition_eq_ok_iff.1 hp
    cases hcut : cut? '=' piece with
    | none => simp [Argument.parse, hcut] at hargument
    | some parts =>
      obtain ⟨rfl, hb⟩ := cut?_eq_some_iff.1 hcut
      rw [parse_append hb, ite_error_eq_ok_iff] at hargument
      obtain rfl := Except.ok.inj hargument.2
      obtain ⟨hmem, hword⟩ := parse?_eq_some_iff.1 hname
      exact ⟨parts.1, parts.2, name, rfl, hb, hmem, hword,
        (succeeds_operands_iff name).1 ⟨_, hvalues⟩⟩
  · rintro ⟨before, after, name, rfl, hb, hmem, hword, hfits⟩
    obtain ⟨⟨op, values⟩, hvalues⟩ := (succeeds_operands_iff name).2 hfits
    have hparse := parse_append hb after
    rw [if_neg (writtenName_ne_nil hword)] at hparse
    exact ⟨_, compileCondition_eq_ok_iff.2
      ⟨_, name, op, values, hparse, parse?_eq_some_iff.2 ⟨hmem, hword⟩, hvalues, rfl⟩⟩

/-- **The fault of a piece blames it** for what it lacks. -/
theorem blames_of_compileCondition {fault : FilterFault}
    (h : compileCondition zone kind piece = .error fault) : Blames zone kind piece fault := by
  cases hcut : cut? '=' piece with
  | none =>
    have hparse : Argument.parse piece = .error .noEquals := by
      simp only [Argument.parse, hcut]
    rw [compileCondition, hparse] at h
    obtain rfl := Except.error.inj h
    exact .noEquals (cut?_eq_none_iff.1 hcut)
  | some parts =>
    obtain ⟨rfl, hb⟩ := cut?_eq_some_iff.1 hcut
    rw [compileCondition, parse_append hb] at h
    by_cases hempty : writtenName parts.1 = []
    · rw [if_pos hempty] at h
      obtain rfl := Except.error.inj h
      exact .noName rfl hb hempty
    · rw [if_neg hempty] at h
      simp only at h
      split at h
      · rename_i hname
        obtain rfl := Except.error.inj h
        refine .unknown rfl hb hempty fun name hmem hword => ?_
        rw [parse?_eq_some_iff.2 ⟨hmem, hword⟩] at hname
        cases hname
      · rename_i name hname
        obtain ⟨hmem, hword⟩ := parse?_eq_some_iff.1 hname
        split at h
        · rename_i reason hreason
          obtain rfl := Except.error.inj h
          refine .unfit rfl hb hmem hword fun hfits => ?_
          exact not_succeeds_iff.2 ⟨reason, hreason⟩ ((succeeds_operands_iff name).2 hfits)
        · cases h

/-! ### Rules -/

/-- A rule compiles when each of its conditions does. -/
theorem succeeds_compileRule_iff {rule : String} : Succeeds (compileRule zone kind rule) ↔
    ∀ piece ∈ splitOn ';' rule.toList, allBlank piece = false → IsCondition zone kind piece := by
  have hconditions : Succeeds (compileRule zone kind rule) ↔
      Succeeds ((conditions rule.toList).mapM (compileCondition zone kind)) :=
    succeeds_bind_of_forall fun ps => ⟨⟨.pass, ps⟩, rfl⟩
  rw [hconditions, succeeds_mapM_iff]
  simp only [conditions, List.mem_filter, Bool.not_eq_true', and_imp,
    succeeds_compileCondition_iff]

/-- The fault of a rule arises at one of its pieces, in front of which there are only blank ones
and conditions. -/
theorem exists_of_compileRule_eq_error {rule : String} {fault : FilterFault}
    (h : compileRule zone kind rule = .error fault) :
    ∃ earlier piece later, splitOn ';' rule.toList = earlier ++ piece :: later ∧
      (∀ p ∈ earlier, allBlank p = true ∨ IsCondition zone kind p) ∧ allBlank piece = false ∧
      compileCondition zone kind piece = .error fault := by
  have hpieces : (conditions rule.toList).mapM (compileCondition zone kind) = .error fault := by
    cases hp : (conditions rule.toList).mapM (compileCondition zone kind) with
    | error e =>
      rw [compileRule, hp] at h
      exact congrArg Except.error (Except.error.inj h)
    | ok ps =>
      rw [compileRule, hp] at h
      cases h
  obtain ⟨earlier, piece, later, hsplit, hearlier, hpiece⟩ := exists_of_mapM_eq_error hpieces
  obtain ⟨front, back, hall, hfront, hback⟩ := List.filter_eq_append_iff.1 hsplit
  obtain ⟨blanks, rest, rfl, hblanks, hvisible, -⟩ := List.filter_eq_cons_iff.1 hback
  refine ⟨front ++ blanks, piece, rest, by rw [hall, List.append_assoc], fun p hp => ?_,
    by simpa using hvisible, hpiece⟩
  rcases List.mem_append.1 hp with hp | hp
  · by_cases hblank : allBlank p = true
    · exact .inl hblank
    · have hmem : p ∈ earlier := by
        rw [← hfront, List.mem_filter]
        exact ⟨hp, by simpa using hblank⟩
      exact .inr (succeeds_compileCondition_iff.1 (hearlier p hmem))
  · exact .inl (by simpa using hblanks p hp)

/-- **Rules are accepted exactly when they are in the language**: when every piece that is not
blank is a condition. The fault of any other rule blames the first piece that is neither. -/
theorem language_is_exact (zone : Calendar.Zone) (kind : RecordKind) (rule : String) :
    ((∃ r, compileRule zone kind rule = .ok r) ↔ ∀ piece ∈ splitOn ';' rule.toList,
      allBlank piece = false → IsCondition zone kind piece) ∧
    ∀ fault, compileRule zone kind rule = .error fault →
      ∃ earlier piece later, splitOn ';' rule.toList = earlier ++ piece :: later ∧
        (∀ p ∈ earlier, allBlank p = true ∨ IsCondition zone kind p) ∧
        allBlank piece = false ∧ ¬ IsCondition zone kind piece ∧ Blames zone kind piece fault := by
  refine ⟨succeeds_compileRule_iff, fun fault h => ?_⟩
  obtain ⟨earlier, piece, later, hsplit, hearlier, hvisible, hpiece⟩ :=
    exists_of_compileRule_eq_error h
  refine ⟨earlier, piece, later, hsplit, hearlier, hvisible, fun hcondition => ?_,
    blames_of_compileCondition hpiece⟩
  exact not_succeeds_iff.2 ⟨fault, hpiece⟩ (succeeds_compileCondition_iff.2 hcondition)

/-- A rule with a condition, a blank piece and two pieces that are no conditions; the first of
these is blamed. -/
theorem language_is_exact_unknown_name :
    ∃ earlier piece later, splitOn ';' "src = 10.0.0.0/8; ;Foo != 1;action=no".toList =
        earlier ++ piece :: later ∧
      (∀ p ∈ earlier, allBlank p = true ∨ IsCondition .universal .traffic p) ∧
      allBlank piece = false ∧ ¬ IsCondition .universal .traffic piece ∧
      Blames .universal .traffic piece (.unknownArgument "foo" "traffic") :=
  (language_is_exact .universal .traffic "src = 10.0.0.0/8; ;Foo != 1;action=no").2 _ rfl

end LogCollector.Filter
