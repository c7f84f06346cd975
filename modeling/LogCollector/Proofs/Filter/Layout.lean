import LogCollector.Proofs.Filter.Language
import LogCollector.Proofs.Filter.Spacing
import LogCollector.Proofs.Text.LetterCase
import Mathlib.Logic.Relation

/-!
# The layout of a rule

Blanks may stand at many places of a rule, the `!` behind a name may be repeated, and the letter
case of a name does not matter. `RuleChange` lists the changes that can be made at one place: to a
rule, to a piece of it (`PieceChange`), and to the text in front of the `=` of a piece
(`HeadChange`). Whatever the kind of records, a change leaves the compiled rule as it is, and so do
any changes one after another, made or undone (`layout_does_not_matter`).

Faults quote the text of the rule and do change, so results are compared by `Agree`.
-/

namespace LogCollector.Filter

open Text

/-! ### Changes -/

/-- A change to the text in front of the first `=` of a condition. -/
inductive HeadChange : List Char → List Char → Prop where
  /-- Blanks are put around the name. -/
  | around {head a b : List Char} : allBlank a = true → allBlank b = true →
      HeadChange head (a ++ head ++ b)
  /-- Blanks are put between the name and the `!`s behind it. -/
  | gap {name a b : List Char} {k : Nat} : name.getLast? ≠ some '!' → allBlank a = true →
      allBlank b = true → HeadChange (name ++ .replicate (k + 1) '!' ++ b)
        (name ++ a ++ .replicate (k + 1) '!' ++ b)
  /-- The last `!` is repeated. -/
  | repeated {text b : List Char} : allBlank b = true →
      HeadChange (text ++ '!' :: b) (text ++ '!' :: '!' :: b)
  /-- Latin letters change their case. -/
  | letterCase {head head' : List Char} : head.map Char.toLower = head'.map Char.toLower →
      HeadChange head head'

/-- A change to a piece of a rule. -/
inductive PieceChange : List Char → List Char → Prop where
  /-- Blanks are put at either end. -/
  | ends {piece a b : List Char} : allBlank a = true → allBlank b = true →
      PieceChange piece (a ++ piece ++ b)
  /-- The name and the `!`s behind it change. -/
  | head {head head' value : List Char} : '=' ∉ head → HeadChange head head' →
      PieceChange (head ++ '=' :: value) (head' ++ '=' :: value)
  /-- Blanks are put around the first `=`. -/
  | equals {head value a b : List Char} : '=' ∉ head → allBlank a = true → allBlank b = true →
      PieceChange (head ++ '=' :: value) (head ++ a ++ '=' :: (b ++ value))
  /-- Blanks are put around an item between commas. -/
  | item {head item a b : List Char} {before after : List (List Char)} : '=' ∉ head →
      allBlank a = true → allBlank b = true →
      PieceChange (head ++ '=' :: join [','] (before ++ item :: after))
        (head ++ '=' :: join [','] (before ++ (a ++ item ++ b) :: after))
  /-- Blanks are put around the `/` of a network. -/
  | network {head x y a b : List Char} : '=' ∉ head →
      (nameOf head = ArgumentName.src.word ∨ nameOf head = ArgumentName.dst.word) →
      allBlank a = true → allBlank b = true →
      PieceChange (head ++ '=' :: (x ++ '/' :: y)) (head ++ '=' :: (x ++ a ++ '/' :: (b ++ y)))
  /-- Blanks are put around the `-` of a range. -/
  | range {head x y a b : List Char} : '=' ∉ head →
      (nameOf head = ArgumentName.rule.word ∨ nameOf head = ArgumentName.service.word) →
      allBlank a = true → allBlank b = true →
      PieceChange (head ++ '=' :: (x ++ '-' :: y)) (head ++ '=' :: (x ++ a ++ '-' :: (b ++ y)))

/-- A change to a rule. -/
inductive RuleChange : List Char → List Char → Prop where
  /-- A blank piece is put between two pieces. -/
  | blankPiece {before after : List (List Char)} {piece : List Char} : allBlank piece = true →
      RuleChange (join [';'] (before ++ after)) (join [';'] (before ++ piece :: after))
  /-- A piece changes. -/
  | piece {before after : List (List Char)} {piece piece' : List Char} : ';' ∉ piece →
      PieceChange piece piece' →
      RuleChange (join [';'] (before ++ piece :: after)) (join [';'] (before ++ piece' :: after))

/-! ### Names -/

section

variable {head head' name a b : List Char}

/-- Two texts in front of an `=` stand for the same name, letter case apart, and both negate or
neither does. -/
structure SameHead (head head' : List Char) : Prop where
  /-- The names have the same letters. -/
  name : (writtenName head).map Char.toLower = (writtenName head').map Char.toLower
  /-- Both end with a `!`, or neither does. -/
  negated : ((trim head).getLast? == some '!') = ((trim head').getLast? == some '!')

theorem SameHead.of_trim_eq (h : trim head = trim head') : SameHead head head' :=
  ⟨by rw [writtenName, writtenName, h], by rw [h]⟩

theorem dropBangs_concat (name : List Char) :
    Argument.dropBangs (name ++ ['!']) = Argument.dropBangs name := by
  simp [Argument.dropBangs]

/-- What is in front of `!`s, and of blanks behind these, is left of them when it does not end with
a `!` itself. -/
theorem sameHead_bangs (h : name.getLast? ≠ some '!') (hb : allBlank b = true) (k : Nat) :
    writtenName (name ++ .replicate (k + 1) '!' ++ b) = trim name ∧
      (trim (name ++ .replicate (k + 1) '!' ++ b)).getLast? = some '!' := by
  have hbangs : ∀ cs k, Argument.dropBangs (cs ++ .replicate k '!') = Argument.dropBangs cs := by
    intro cs k
    induction k with
    | zero => rw [List.replicate_zero, List.append_nil]
    | succ k ih => rw [List.replicate_succ', ← List.append_assoc, dropBangs_concat, ih]
  have hlast : (trimStart name).getLast? ≠ some '!' := by
    intro hlast
    have hname : name.takeWhile isBlank ++ trimStart name = name := List.takeWhile_append_dropWhile
    rw [← hname, List.getLast?_append, hlast] at h
    exact h rfl
  have htrim : trim (name ++ .replicate (k + 1) '!' ++ b) =
      trimStart name ++ .replicate (k + 1) '!' := by
    have hend : Trimmed (List.replicate k '!') :=
      .of_forall fun c hc => List.eq_of_mem_replicate hc ▸ rfl
    rw [trim_append_right hb, List.replicate_succ, trim_append_cons rfl, hend.trimEnd_eq]
  refine ⟨?_, ?_⟩
  · rw [writtenName, htrim, hbangs, dropBangs_of_getLast? hlast, trim]
  · rw [htrim]
    simp [List.getLast?_replicate]

theorem trim_map_toLower (cs : List Char) :
    trim (cs.map Char.toLower) = (trim cs).map Char.toLower := by
  have hblank : isBlank ∘ Char.toLower = isBlank := funext Lowercase.isBlank_toLower
  simp [trim, trimEnd, trimStart, ← List.map_reverse, List.dropWhile_map, hblank]

theorem toLower_eq_bang_iff {c : Char} : c.toLower = '!' ↔ c = '!' :=
  Lowercase.toLower_eq_iff (by decide)

theorem dropBangs_map_toLower (cs : List Char) :
    Argument.dropBangs (cs.map Char.toLower) = (Argument.dropBangs cs).map Char.toLower := by
  have hblank : isBlank ∘ Char.toLower = isBlank := funext Lowercase.isBlank_toLower
  have hbang : (· == '!') ∘ Char.toLower = (· == '!') := by
    funext c
    rw [Function.comp_apply, Bool.eq_iff_iff, beq_iff_eq, beq_iff_eq, toLower_eq_bang_iff]
  simp [Argument.dropBangs, trimEnd, ← List.map_reverse, List.dropWhile_map, hblank, hbang]

/-- **A change in front of the `=`** changes neither the name nor whether it is negated. -/
theorem sameHead_of_change (h : HeadChange head head') : SameHead head head' := by
  cases h with
  | around ha hb => exact .of_trim_eq (trim_padded ha hb head).symm
  | @gap name a b k hname ha hb =>
    have hname' : (name ++ a).getLast? ≠ some '!' := by
      rw [List.getLast?_append]
      cases hlast : a.getLast? with
      | none => exact hname
      | some c =>
        rintro ⟨⟩
        exact absurd (List.all_eq_true.1 ha _ (List.mem_of_getLast? hlast)) (by decide)
    obtain ⟨hwritten, hlast⟩ := sameHead_bangs hname hb k
    obtain ⟨hwritten', hlast'⟩ := sameHead_bangs hname' hb k
    exact ⟨by rw [hwritten, hwritten', trim_append_right ha], by rw [hlast, hlast']⟩
  | @repeated text b hb =>
    have honce : trim (text ++ '!' :: b) = trimStart text ++ ['!'] := by
      rw [trim_append_cons rfl, ← List.nil_append b, trimEnd_append hb]
      rfl
    have htwice : trim (text ++ '!' :: '!' :: b) = trimStart text ++ ['!'] ++ ['!'] := by
      have hend : trimEnd (['!'] ++ b) = ['!'] := trimEnd_append hb ['!']
      rw [trim_append_cons rfl, ← List.singleton_append (l := b), hend, List.append_assoc]
      rfl
    refine ⟨?_, ?_⟩
    · rw [writtenName, writtenName, honce, htwice, dropBangs_concat (trimStart text ++ ['!'])]
    · rw [honce, htwice]
      simp
  | letterCase hcase =>
    have htrim : (trim head).map Char.toLower = (trim head').map Char.toLower := by
      rw [← trim_map_toLower, ← trim_map_toLower, hcase]
    have hlast : ∀ cs : List Char, (cs.getLast? == some '!') =
        ((cs.map Char.toLower).getLast? == some '!') := by
      intro cs
      rw [List.getLast?_map]
      cases cs.getLast? with
      | none => rfl
      | some c =>
        rw [Bool.eq_iff_iff]
        simp [toLower_eq_bang_iff]
    refine ⟨?_, by rw [hlast, hlast (trim head'), htrim]⟩
    rw [writtenName, writtenName, ← dropBangs_map_toLower, ← dropBangs_map_toLower, htrim]

end

/-! ### Conditions -/

section

variable {zone : Calendar.Zone} {kind : RecordKind} {head head' v v' : List Char}

/-- What a condition compiles to, from what stands on either side of its first `=`. -/
theorem compileCondition_append (h : '=' ∉ head) (v : List Char) {p : Predicate} :
    compileCondition zone kind (head ++ '=' :: v) = .ok p ↔ writtenName head ≠ [] ∧
      ∃ name op values, ArgumentName.parse? kind (nameOf head) = some name ∧
        operands zone kind (trim v) name = .ok (op, values) ∧
        p = ⟨name.field, (trim head).getLast? == some '!', op, values⟩ := by
  rw [compileCondition_eq_ok_iff, parse_append h]
  by_cases hname : writtenName head = []
  · simp [hname]
  · rw [if_neg hname, and_iff_right hname]
    constructor
    · rintro ⟨argument, name, op, values, hargument, h⟩
      obtain rfl := Except.ok.inj hargument
      exact ⟨name, op, values, h⟩
    · rintro ⟨name, op, values, h⟩
      exact ⟨_, name, op, values, rfl, h⟩

/-- **Conditions agree** when their heads do, and their values for the argument that is named. -/
theorem agree_condition (h : '=' ∉ head) (h' : '=' ∉ head') (hhead : SameHead head head')
    (hvalue : ∀ name, nameOf head = name.word →
      Agree (operands zone kind (trim v) name) (operands zone kind (trim v') name)) :
    Agree (compileCondition zone kind (head ++ '=' :: v))
      (compileCondition zone kind (head' ++ '=' :: v')) := by
  have hname : nameOf head = nameOf head' := by rw [nameOf, nameOf, lower_congr hhead.name]
  have hnil : writtenName head ≠ [] ↔ writtenName head' ≠ [] := by
    rw [ne_eq, ← List.map_eq_nil_iff, hhead.name, List.map_eq_nil_iff]
  intro p
  rw [compileCondition_append h, compileCondition_append h', hnil, ← hname, hhead.negated]
  refine and_congr_right fun _ => exists_congr fun name => exists_congr fun op =>
    exists_congr fun values => and_congr_right fun hparse => and_congr_left' ?_
  exact hvalue name (parse?_eq_some_iff.1 hparse).2 (op, values)

theorem not_succeeds_compileCondition (h : '=' ∉ v) :
    ¬ Succeeds (compileCondition zone kind v) := by
  rintro ⟨p, hp⟩
  obtain ⟨argument, -, -, -, hargument, -⟩ := compileCondition_eq_ok_iff.1 hp
  rw [Argument.parse, cut?_eq_none_iff.2 h] at hargument
  cases hargument

/-- A change of the head adds nothing but blanks, `!`s and letters. -/
theorem HeadChange.not_mem {c : Char} (h : HeadChange head head') (hblank : isBlank c = false)
    (hbang : c ≠ '!') (hlatin : ¬ Lowercase.IsLatin c) (hc : c ∉ head) : c ∉ head' := by
  cases h with
  | around ha hb => simp [hc, not_mem_of_allBlank ha hblank, not_mem_of_allBlank hb hblank]
  | gap _ ha hb =>
    simp only [List.mem_append, not_or] at hc ⊢
    exact ⟨⟨⟨hc.1.1, not_mem_of_allBlank ha hblank⟩, hc.1.2⟩, hc.2⟩
  | repeated hb =>
    simp only [List.mem_append, List.mem_cons, not_or] at hc ⊢
    exact ⟨hc.1, hbang, hc.2⟩
  | letterCase hcase =>
    intro hc'
    have hsame : c.toLower = c := (Lowercase.toLower_eq_iff hlatin).2 rfl
    have hmem : c ∈ head.map Char.toLower := hcase ▸ List.mem_map.2 ⟨c, hc', hsame⟩
    obtain ⟨d, hd, hdc⟩ := List.mem_map.1 hmem
    exact hc ((Lowercase.toLower_eq_iff hlatin).1 hdc ▸ hd)

variable {piece piece' : List Char}

/-- **A change of a piece** does not change what it compiles to. -/
theorem agree_of_pieceChange (h : PieceChange piece piece') :
    Agree (compileCondition zone kind piece) (compileCondition zone kind piece') := by
  cases h with
  | @ends _ a b ha hb =>
    by_cases hequals : '=' ∈ piece
    · obtain ⟨head, v, rfl, hhead⟩ := List.eq_append_cons_of_mem hequals
      have hmove : a ++ (head ++ '=' :: v) ++ b = a ++ head ++ '=' :: (v ++ b) := by simp
      have hhead' : '=' ∉ a ++ head := by simp [hhead, not_mem_of_allBlank (c := '=') ha rfl]
      rw [hmove]
      refine agree_condition hhead hhead' (.of_trim_eq (trim_append_left ha head).symm) ?_
      intro name _
      rw [trim_append_right hb]
      exact .refl _
    · refine .of_not_succeeds (not_succeeds_compileCondition hequals)
        (not_succeeds_compileCondition ?_)
      simp [hequals, not_mem_of_allBlank (c := '=') ha rfl, not_mem_of_allBlank (c := '=') hb rfl]
  | head hhead hchange =>
    have hhead' := hchange.not_mem (c := '=') rfl (by decide) (by decide) hhead
    exact agree_condition hhead hhead' (sameHead_of_change hchange) fun _ _ => .refl _
  | @equals head value a b hhead ha hb =>
    have hhead' : '=' ∉ head ++ a := by simp [hhead, not_mem_of_allBlank (c := '=') ha rfl]
    refine agree_condition hhead hhead' (.of_trim_eq (trim_append_right ha head).symm) ?_
    intro name _
    rw [trim_append_left hb]
    exact .refl _
  | @item head item a b before after hhead ha hb =>
    refine agree_condition hhead hhead (.of_trim_eq rfl) fun name _ => .of_eq ?_
    exact (sameValue_item ha hb item before after).operands_eq name
  | @network head x y a b hhead hname ha hb =>
    refine agree_condition hhead hhead (.of_trim_eq rfl) fun name hword => .of_eq ?_
    obtain rfl | rfl : name = .src ∨ name = .dst :=
      hname.imp (fun h => word_injective (hword.symm.trans h)) fun h =>
        word_injective (hword.symm.trans h)
    · rw [operands, operands, addressSpec_network_eq ha hb]
    · rw [operands, operands, addressSpec_network_eq ha hb]
  | @range head x y a b hhead hname ha hb =>
    refine agree_condition hhead hhead (.of_trim_eq rfl) fun name hword => ?_
    obtain rfl | rfl : name = .rule ∨ name = .service :=
      hname.imp (fun h => word_injective (hword.symm.trans h)) fun h =>
        word_injective (hword.symm.trans h)
    · rw [operands, operands, ← bind_assoc, ← bind_assoc]
      exact (agree_ranges ha hb _ _ x y).bind fun _ => .refl _
    · rw [operands, operands, ← bind_assoc, ← bind_assoc]
      exact (agree_ranges ha hb _ _ x y).bind fun _ => .refl _

/-- A change of a piece adds no semicolon. -/
theorem PieceChange.not_mem (h : PieceChange piece piece') (hc : ';' ∉ piece) : ';' ∉ piece' := by
  have hblanks : ∀ {a : List Char}, allBlank a = true → ';' ∉ a := fun ha =>
    not_mem_of_allBlank ha rfl
  cases h with
  | ends ha hb => simp [hc, hblanks ha, hblanks hb]
  | head _ hchange =>
    simp only [List.mem_append, not_or] at hc ⊢
    exact ⟨hchange.not_mem rfl (by decide) (by decide) hc.1, hc.2⟩
  | equals _ ha hb =>
    simp only [List.mem_append, List.mem_cons, not_or] at hc ⊢
    exact ⟨⟨hc.1, hblanks ha⟩, hc.2.1, hblanks hb, hc.2.2⟩
  | @item head item a b before after _ ha hb =>
    obtain ⟨x, y, hjoin, -⟩ := exists_join_around ',' before after
    rw [hjoin] at hc ⊢
    simp only [List.mem_append, List.mem_cons, not_or] at hc ⊢
    exact ⟨hc.1, hc.2.1, ⟨hc.2.2.1.1, ⟨hblanks ha, hc.2.2.1.2⟩, hblanks hb⟩, hc.2.2.2⟩
  | network _ _ ha hb | range _ _ ha hb =>
    simp only [List.mem_append, List.mem_cons, not_or] at hc ⊢
    exact ⟨hc.1, hc.2.1, ⟨hc.2.2.1, hblanks ha⟩, hc.2.2.2.1, hblanks hb, hc.2.2.2.2⟩

/-- A change makes no piece blank, and none that is. -/
theorem PieceChange.allBlank_eq (h : PieceChange piece piece') :
    allBlank piece = allBlank piece' := by
  have hequals : ∀ p q : List Char, allBlank (p ++ '=' :: q) = false := fun p q => by
    simp [allBlank, isBlank]
  cases h with
  | ends ha hb =>
    rw [allBlank] at ha hb
    simp [allBlank, ha, hb]
  | _ => rw [hequals, hequals]

end

/-! ### Rules -/

section

variable {zone : Calendar.Zone} {kind : RecordKind} {cs cs' : List Char}

/-- The conditions of joined texts are those of each of them. -/
theorem conditions_join_flatMap (ps : List (List Char)) :
    conditions (join [';'] ps) = ps.flatMap conditions := by
  cases ps with
  | nil => rfl
  | cons p ps =>
    rw [conditions, splitOn_join_flatMap (List.cons_ne_nil p ps), List.filter_flatMap]
    rfl

theorem conditions_of_not_mem {piece : List Char} (h : ';' ∉ piece) :
    conditions piece = if allBlank piece then [] else [piece] := by
  rw [conditions, splitOn_of_not_mem h]
  cases hblank : allBlank piece <;> simp [hblank]

/-- **A change of a rule** does not change what its conditions compile to. -/
theorem agree_of_ruleChange (h : RuleChange cs cs') :
    Agree ((conditions cs).mapM (compileCondition zone kind))
      ((conditions cs').mapM (compileCondition zone kind)) := by
  cases h with
  | @blankPiece before after piece hblank =>
    rw [conditions_join_flatMap, conditions_join_flatMap, List.flatMap_append, List.flatMap_append,
      List.flatMap_cons, conditions_of_not_mem (not_mem_of_allBlank hblank rfl), if_pos hblank]
    exact .refl _
  | @piece before after piece piece' hpiece hchange =>
    rw [conditions_join_flatMap, conditions_join_flatMap]
    refine agree_mapM ?_
    rw [List.flatMap_append, List.flatMap_append, List.flatMap_cons, List.flatMap_cons,
      conditions_of_not_mem hpiece, conditions_of_not_mem (hchange.not_mem hpiece),
      ← hchange.allBlank_eq]
    have hrefl : ∀ ps : List (List Char), List.Forall₂ (fun p p' =>
        Agree (compileCondition zone kind p) (compileCondition zone kind p')) ps ps := fun ps =>
      List.forall₂_same.2 fun _ _ => .refl _
    refine List.rel_append (hrefl _) (List.rel_append ?_ (hrefl _))
    split
    · exact .nil
    · exact .cons (agree_of_pieceChange hchange) .nil

/-- **Layout does not matter.** Any changes to the layout of a rule, made or undone, leave what it
compiles to, and one that does not compile still does not. -/
theorem layout_does_not_matter (zone : Calendar.Zone) (kind : RecordKind) {rule rule' : String}
    (h : Relation.EqvGen RuleChange rule.toList rule'.toList) :
    (∀ r, compileRule zone kind rule = .ok r ↔ compileRule zone kind rule' = .ok r) ∧
      ((∃ fault, compileRule zone kind rule = .error fault) ↔
        ∃ fault, compileRule zone kind rule' = .error fault) := by
  have hconditions : ∀ {cs cs'}, Relation.EqvGen RuleChange cs cs' →
      Agree ((conditions cs).mapM (compileCondition zone kind))
        ((conditions cs').mapM (compileCondition zone kind)) := by
    intro cs cs' h
    induction h with
    | rel _ _ hchange => exact agree_of_ruleChange hchange
    | refl _ => exact .refl _
    | symm _ _ _ ih => exact ih.symm
    | trans _ _ _ _ _ ih ih' => exact ih.trans ih'
  have hagree : Agree (compileRule zone kind rule) (compileRule zone kind rule') :=
    (hconditions h).bind fun _ => .refl _
  refine ⟨hagree, ?_⟩
  rw [← not_succeeds_iff, ← not_succeeds_iff]
  exact not_congr (exists_congr hagree)

end

/-! ### A rule -/

/-- A rule with one piece only. -/
theorem RuleChange.single {piece piece' : List Char} (hpiece : ';' ∉ piece)
    (h : PieceChange piece piece') : RuleChange piece piece' :=
  @RuleChange.piece [] [] piece piece' hpiece h

/-- A rule, written closely and with room. -/
theorem layout_does_not_matter_service :
    Relation.EqvGen RuleChange "service!=20-22,80".toList "SERVICE!!=20 - 22, 80; ".toList ∧
      compileRule .universal .traffic "SERVICE!!=20 - 22, 80; " =
        .ok ⟨.pass, [⟨"service", true, .belongsTo,
          [.ofPort 20, .ofPort 21, .ofPort 22, .ofPort 80]⟩]⟩ := by
  have hcase : RuleChange "service!=20-22,80".toList "SERVICE!=20-22,80".toList :=
    .single (by decide) (@PieceChange.head "service!".toList "SERVICE!".toList "20-22,80".toList
      (by decide) (.letterCase (by decide)))
  have hrepeated : RuleChange "SERVICE!=20-22,80".toList "SERVICE!!=20-22,80".toList :=
    .single (by decide) (@PieceChange.head "SERVICE!".toList "SERVICE!!".toList "20-22,80".toList
      (by decide) (@HeadChange.repeated "SERVICE".toList [] rfl))
  have hrange : RuleChange "SERVICE!!=20-22,80".toList "SERVICE!!=20 - 22,80".toList :=
    .single (by decide) (@PieceChange.range "SERVICE!!".toList "20".toList "22,80".toList
      " ".toList " ".toList (by decide) (.inr (by decide +kernel)) rfl rfl)
  have hitem : RuleChange "SERVICE!!=20 - 22,80".toList "SERVICE!!=20 - 22, 80".toList :=
    .single (by decide) (@PieceChange.item "SERVICE!!".toList "80".toList " ".toList []
      ["20 - 22".toList] [] (by decide) rfl rfl)
  have hblank : RuleChange "SERVICE!!=20 - 22, 80".toList "SERVICE!!=20 - 22, 80; ".toList :=
    @RuleChange.blankPiece ["SERVICE!!=20 - 22, 80".toList] [] " ".toList rfl
  have hchanges : Relation.EqvGen RuleChange "service!=20-22,80".toList
      "SERVICE!!=20 - 22, 80; ".toList :=
    .trans _ _ _ (.rel _ _ hcase) (.trans _ _ _ (.rel _ _ hrepeated)
      (.trans _ _ _ (.rel _ _ hrange) (.trans _ _ _ (.rel _ _ hitem) (.rel _ _ hblank))))
  exact ⟨hchanges, ((layout_does_not_matter .universal .traffic hchanges).1 _).1 rfl⟩

end LogCollector.Filter
