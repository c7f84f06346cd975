import LogCollector.Proofs.Filter.Language
import Mathlib.Data.List.Sort

/-!
# Ranges of numbers

An item of a `rule` or a `service` condition names the first and the last of some numbers
(`Bounds`), which are one when it is a number alone. It stands for the numbers between them, each
once and in ascending order (`Counts`), and is not read when it names no bounds or stands for more
than `maxRange` numbers. Words of 64 bits are wide enough to find these numbers without overflow,
and each of them fits the width of its argument again (`RangeArgument.wordOperands`); the operands
of a condition are those of its items, one after another (`ranges_expand_exactly`).
-/

namespace LogCollector

/-- The number in a value that stands for a firewall rule or a port. -/
def Value.number? : Value → Option Nat
  | .ruleNumber n => some n.toNat
  | v => v.hostPort?.map UInt16.toNat

namespace Filter

open Text Numeral

/-! ### What an item stands for -/

/-- The first and the last number that an item names, both at most `max`: what stands around the
first dash, or the number alone. Blanks around numbers do not matter. -/
inductive Bounds (max : Nat) : List Char → Nat → Nat → Prop where
  /-- A number alone is both. -/
  | alone {n : Nat} {item : List Char} : '-' ∉ item → Spells n (trim item) → n ≤ max →
      Bounds max item n n
  /-- Two numbers. -/
  | between {first last : Nat} {before after : List Char} : '-' ∉ before →
      Spells first (trim before) → first ≤ max → Spells last (trim after) → last ≤ max →
      Bounds max (before ++ '-' :: after) first last

/-- All the numbers from one to another; none if they are in the wrong order. -/
structure Counts (first last : Nat) (ns : List Nat) : Prop where
  /-- They ascend, so that none occurs twice. -/
  ascending : ns.Pairwise (· < ·)
  /-- Nothing is left out, and there is nothing else. -/
  mem_iff : ∀ n, n ∈ ns ↔ first ≤ n ∧ n ≤ last

/-- From one number to another there are more than a range may stand for. -/
def TooMany (first last : Nat) : Prop := first ≤ last ∧ maxRange < last - first + 1

/-- The numbers that an item stands for. -/
def Expands (max : Nat) (item : List Char) (ns : List Nat) : Prop :=
  ∃ first last, Bounds max item first last ∧ ¬ TooMany first last ∧ Counts first last ns

section

variable {max first last : Nat} {what : String} {item : List Char} {ns : List Nat}

/-- There is one list of all numbers between two others. -/
theorem counts_iff : Counts first last ns ↔ ns = List.range' first (last + 1 - first) := by
  have hmem : ∀ n, n ∈ List.range' first (last + 1 - first) ↔ first ≤ n ∧ n ≤ last := by
    intro n
    rw [List.mem_range'_1]
    omega
  have hascending : (List.range' first (last + 1 - first)).Pairwise (· < ·) :=
    List.pairwise_lt_range'
  constructor
  · intro h
    exact h.ascending.eq_of_mem_iff hascending fun n => (h.mem_iff n).trans (hmem n).symm
  · rintro rfl
    exact ⟨hascending, hmem⟩

/-! ### How it is read -/

/-- The numbers of a range whose bounds are known. -/
def numbersBetween (what : String) (item : List Char) (first last : Nat) :
    Except SyntaxReason (List Nat) :=
  if last < first then .ok []
  else if maxRange < last - first + 1 then .error (.longRange what (.ofList item))
  else .ok (List.range' first (last - first + 1))

theorem numbersBetween_eq_ok_iff : numbersBetween what item first last = .ok ns ↔
    ¬ TooMany first last ∧ Counts first last ns := by
  rw [counts_iff, TooMany, numbersBetween]
  split
  · have hlength : last + 1 - first = 0 := by omega
    rw [hlength, List.range'_zero, Except.ok.injEq, eq_comm]
    exact (and_iff_right fun h => by omega).symm
  · have hlength : last + 1 - first = last - first + 1 := by omega
    rw [hlength, ite_error_eq_ok_iff, Except.ok.injEq]
    refine and_congr ?_ eq_comm
    omega

/-- A number alone is a range whose bounds are equal. -/
theorem numbersBetween_self (n : Nat) : numbersBetween what item n n = .ok [n] := by
  rw [numbersBetween, if_neg (Nat.lt_irrefl n), Nat.sub_self, if_neg (by decide)]
  rfl

/-- What is read is what stands between the bounds. -/
theorem range_of_bounds (h : Bounds max item first last) :
    range max what item = numbersBetween what item first last := by
  cases h with
  | alone hdash hn hmax =>
    rw [numbersBetween_self, range, cut?_eq_none_iff.2 hdash]
    dsimp only
    rw [number_eq_ok_iff.2 ⟨hn, hmax⟩]
    rfl
  | between hdash hfirst hfirstMax hlast hlastMax =>
    rw [range, cut?_append hdash]
    dsimp only
    rw [number_eq_ok_iff.2 ⟨hfirst, hfirstMax⟩, number_eq_ok_iff.2 ⟨hlast, hlastMax⟩]
    rfl

/-- An item that is read names bounds. -/
theorem bounds_of_range (h : range max what item = .ok ns) :
    ∃ first last, Bounds max item first last := by
  unfold range at h
  split at h
  · rename_i hcut
    obtain ⟨n, hn, -⟩ := bind_eq_ok_iff.1 h
    obtain ⟨hspells, hmax⟩ := number_eq_ok_iff.1 hn
    exact ⟨n, n, .alone (cut?_eq_none_iff.1 hcut) hspells hmax⟩
  · rename_i before after hcut
    obtain ⟨first, hfirst, h⟩ := bind_eq_ok_iff.1 h
    obtain ⟨last, hlast, -⟩ := bind_eq_ok_iff.1 h
    obtain ⟨hfirst, hfirstMax⟩ := number_eq_ok_iff.1 hfirst
    obtain ⟨hlast, hlastMax⟩ := number_eq_ok_iff.1 hlast
    obtain ⟨rfl, hdash⟩ := cut?_eq_some_iff.1 hcut
    exact ⟨first, last, .between hdash hfirst hfirstMax hlast hlastMax⟩

/-- **An item is read as the numbers that it stands for.** -/
theorem range_eq_ok_iff : range max what item = .ok ns ↔ Expands max item ns := by
  constructor
  · intro h
    obtain ⟨first, last, hbounds⟩ := bounds_of_range h
    rw [range_of_bounds hbounds] at h
    exact ⟨first, last, hbounds, numbersBetween_eq_ok_iff.1 h⟩
  · rintro ⟨first, last, hbounds, hcounts⟩
    rw [range_of_bounds hbounds]
    exact numbersBetween_eq_ok_iff.2 hcounts

/-- **Why an item is not read**: it names no bounds, or stands for too many numbers. -/
theorem range_eq_error_iff : (∃ reason, range max what item = .error reason) ↔
    (¬ ∃ first last, Bounds max item first last) ∨
      ∃ first last, Bounds max item first last ∧ TooMany first last := by
  rw [← not_succeeds_iff]
  constructor
  · intro hfails
    by_cases hbounds : ∃ first last, Bounds max item first last
    · obtain ⟨first, last, h⟩ := hbounds
      refine .inr ⟨first, last, h, by_contra fun hfew => hfails ?_⟩
      exact ⟨_, range_eq_ok_iff.2 ⟨first, last, h, hfew, counts_iff.2 rfl⟩⟩
    · exact .inl hbounds
  · rintro (hnone | ⟨first, last, h, hmany⟩) ⟨ns, hread⟩
    · exact hnone (bounds_of_range hread)
    · rw [range_of_bounds h] at hread
      exact (numbersBetween_eq_ok_iff.1 hread).1 hmany

theorem Bounds.first_le (h : Bounds max item first last) : first ≤ max := by
  cases h with
  | alone _ _ hmax => exact hmax
  | between _ _ hmax _ _ => exact hmax

theorem Bounds.last_le (h : Bounds max item first last) : last ≤ max := by
  cases h with
  | alone _ _ hmax => exact hmax
  | between _ _ _ _ hmax => exact hmax

theorem Bounds.ne_nil (h : Bounds max item first last) : item ≠ [] := by
  rintro rfl
  generalize hempty : ([] : List Char) = cs at h
  cases h with
  | alone _ hn _ => exact hn.ne_nil (hempty ▸ rfl)
  | between => simp at hempty

end

/-! ### The two arguments -/

/-- The arguments whose items are ranges. -/
inductive RangeArgument where
  /-- The number of the firewall rule, of 32 bits. -/
  | rule
  /-- The destination port, of 16 bits. -/
  | service

namespace RangeArgument

/-- The name of the argument. -/
def name : RangeArgument → ArgumentName
  | .rule => .rule
  | .service => .service

/-- The greatest number of its width. -/
def greatest : RangeArgument → Nat
  | .rule => UInt32.size - 1
  | .service => UInt16.size - 1

/-- The operand for a number. -/
def operand : RangeArgument → Nat → Value
  | .rule, n => .ruleNumber (.ofNat n)
  | .service, n => .ofPort (.ofNat n)

/-- The operand for the low bits of a word of 64 bits. -/
def ofWord : RangeArgument → UInt64 → Value
  | .rule, w => .ruleNumber w.toUInt32
  | .service, w => .ofPort w.toUInt16

/-- The operand for a word of 64 bits; nothing if the word does not fit the width of the argument.
-/
def narrow? (a : RangeArgument) (w : UInt64) : Option Value :=
  if w.toNat ≤ a.greatest then some (a.ofWord w) else none

/-- The operands for the words of 64 bits from one to another, each narrowed to the width of the
argument; what does not fit it is left out. The length of the range is one more than the difference
of its bounds, as a word; there are no operands if it is too long. -/
def wordOperands (a : RangeArgument) (first last : UInt64) : Option (List Value) :=
  if last < first then some []
  else if .ofNat maxRange < last - first + 1 then none
  else some (((List.range ((last - first).toNat + 1)).map fun i => first + .ofNat i).filterMap
    a.narrow?)

variable {a : RangeArgument} {zone : Calendar.Zone} {kind : RecordKind}

/-- **No number is lost** on the way to its operand. -/
theorem number?_operand {n : Nat} (h : n ≤ a.greatest) : (a.operand n).number? = some n := by
  cases a with
  | rule =>
    have hlt : n < UInt32.size := Nat.lt_of_le_sub_one (by decide) h
    exact congrArg some (UInt32.toNat_ofNat_of_lt' hlt)
  | service =>
    have hlt : n < UInt16.size := Nat.lt_of_le_sub_one (by decide) h
    show some (swapBytes (swapBytes (.ofNat n))).toNat = some n
    rw [swapBytes_swapBytes, UInt16.toNat_ofNat_of_lt' hlt]

/-! ### Words -/

/-- Words of 64 bits have room for one more than the numbers of either width. -/
theorem greatest_lt (a : RangeArgument) : a.greatest + 1 < UInt64.size := by
  cases a with
  | rule => decide
  | service => decide

theorem toNat_word {n : Nat} (h : n ≤ a.greatest) : (UInt64.ofNat n).toNat = n :=
  UInt64.toNat_ofNat_of_lt' (Nat.lt_of_le_of_lt h (Nat.lt_of_succ_lt a.greatest_lt))

/-- A number of the width is narrowed to its operand. -/
theorem narrow?_word {n : Nat} (h : n ≤ a.greatest) :
    a.narrow? (.ofNat n) = some (a.operand n) := by
  rw [narrow?, toNat_word h, if_pos h]
  cases a with
  | rule => rw [ofWord, UInt64.toUInt32_ofNat', operand]
  | service => rw [ofWord, UInt64.toUInt16_ofNat', operand]

/-- **Words of 64 bits are enough**: neither the length of a range nor its numbers overflow, and
none is left out. -/
theorem wordOperands_eq {first last : Nat} (hfirst : first ≤ a.greatest) (hlast : last ≤ a.greatest)
    (what : String) (item : List Char) : a.wordOperands (.ofNat first) (.ofNat last) =
      (numbersBetween what item first last).toOption.map (·.map a.operand) := by
  have hroom := a.greatest_lt
  have horder : UInt64.ofNat last < .ofNat first ↔ last < first :=
    UInt64.ofNat_lt_iff_lt (by omega) (by omega)
  rw [wordOperands, numbersBetween]
  by_cases hreversed : last < first
  · rw [if_pos hreversed, if_pos (horder.2 hreversed)]
    rfl
  · -- The bounds are in order, so that their difference does not wrap around.
    have hlength : UInt64.ofNat last - .ofNat first + 1 = .ofNat (last - first + 1) := by
      rw [UInt64.ofNat_add, UInt64.ofNat_sub (Nat.not_lt.1 hreversed)]
      rfl
    have hlong : UInt64.ofNat maxRange < .ofNat (last - first + 1) ↔
        maxRange < last - first + 1 :=
      UInt64.ofNat_lt_iff_lt (by decide) (by omega)
    rw [if_neg hreversed, if_neg fun h => hreversed (horder.1 h), hlength]
    by_cases hmany : maxRange < last - first + 1
    · rw [if_pos hmany, if_pos (hlong.2 hmany)]
      rfl
    · have hwords : (List.range ((UInt64.ofNat last - .ofNat first).toNat + 1)).map
          (fun i => UInt64.ofNat first + .ofNat i) =
          (List.range' first (last - first + 1)).map .ofNat := by
        rw [← UInt64.ofNat_sub (Nat.not_lt.1 hreversed), toNat_word (a := a) (by omega),
          List.range'_eq_map_range, List.map_map]
        exact List.map_congr_left fun i _ => (UInt64.ofNat_add first i).symm
      rw [if_neg hmany, if_neg fun h => hmany (hlong.1 h), hwords, List.filterMap_map]
      refine congrArg some (Eq.trans (List.filterMap_congr fun n hn => ?_)
        (congrFun List.filterMap_eq_map _))
      exact narrow?_word (by have := List.mem_range'_1.1 hn; omega)

/-! ### Operands -/

theorem operands_eq (a : RangeArgument) (zone : Calendar.Zone) (kind : RecordKind)
    (value : List Char) : operands zone kind value a.name = (do
      let numbers ← (← listItems value).mapM (range a.greatest a.name.word)
      return (.belongsTo, numbers.flatten.map a.operand)) := by
  cases a with
  | rule => rfl
  | service => rfl

/-- The operands of a value are those of its items, one after another. -/
theorem operands_eq_ok_iff {value : List Char} {op : Comparison} {values : List Value} :
    operands zone kind value a.name = .ok (op, values) ↔ ∃ nss,
      List.Forall₂ (fun piece => Expands a.greatest (trim piece)) (splitOn ',' value) nss ∧
        op = .belongsTo ∧ values = nss.flatten.map a.operand := by
  simp only [operands_eq, bind_eq_ok_iff, mapM_eq_ok_iff, listItems_eq_ok_iff, range_eq_ok_iff,
    listOf_iff]
  constructor
  · rintro ⟨items, ⟨-, rfl⟩, nss, hnss, h⟩
    obtain ⟨rfl, rfl⟩ := Prod.mk.inj (Except.ok.inj h)
    exact ⟨nss, List.forall₂_map_left_iff.1 hnss, rfl, rfl⟩
  · rintro ⟨nss, hnss, rfl, rfl⟩
    refine ⟨_, ⟨fun piece hpiece => ?_, rfl⟩, nss, List.forall₂_map_left_iff.2 hnss, rfl⟩
    obtain ⟨ns, -, first, last, hbounds, -⟩ := exists_left_of_forall₂ hnss.flip hpiece
    exact hbounds.ne_nil

/-- A condition with the name of the argument compares it with these operands. -/
theorem condition_eq_ok_iff {before after : List Char} {p : Predicate} (hb : '=' ∉ before)
    (hname : nameOf before = a.name.word) :
    compileCondition zone .traffic (before ++ '=' :: after) = .ok p ↔ ∃ nss,
      List.Forall₂ (fun piece => Expands a.greatest (trim piece)) (splitOn ',' (trim after)) nss ∧
        p = ⟨a.name.word, (trim before).getLast? == some '!', .belongsTo,
          nss.flatten.map a.operand⟩ := by
  have hparse := parse_append hb after
  rw [if_neg (writtenName_ne_nil hname), hname] at hparse
  have hword : ArgumentName.parse? .traffic a.name.word = some a.name := by
    cases a with
    | rule => rfl
    | service => rfl
  have hfield : a.name.field = a.name.word := by
    cases a with
    | rule => rfl
    | service => rfl
  rw [compileCondition_eq_ok_iff]
  constructor
  · rintro ⟨argument, name, op, values, hargument, hfound, hoperands, rfl⟩
    obtain rfl := Except.ok.inj (hparse.symm.trans hargument)
    obtain rfl := Option.some.inj (hword.symm.trans hfound)
    obtain ⟨nss, hnss, rfl, rfl⟩ := operands_eq_ok_iff.1 hoperands
    exact ⟨nss, hnss, by rw [hfield]⟩
  · rintro ⟨nss, hnss, rfl⟩
    exact ⟨_, a.name, _, _, hparse, hword, operands_eq_ok_iff.2 ⟨nss, hnss, rfl, rfl⟩,
      by rw [hfield]⟩

/-- **Ranges expand exactly.** An item is refused exactly when it names no bounds of the width, or
stands for too many numbers. Otherwise it is read as all the numbers between its bounds, in
ascending order; each of them is the number of its operand, and words of 64 bits lead to the same
operands. A condition is about the operands of its items, one after another. -/
theorem ranges_expand_exactly (a : RangeArgument) (item : List Char) :
    ((∃ reason, range a.greatest a.name.word item = .error reason) ↔
      (¬ ∃ first last, Bounds a.greatest item first last) ∨
        ∃ first last, Bounds a.greatest item first last ∧ TooMany first last) ∧
    (∀ first last, Bounds a.greatest item first last →
      (∀ ns, range a.greatest a.name.word item = .ok ns →
        Counts first last ns ∧ (ns.map a.operand).map Value.number? = ns.map some) ∧
      a.wordOperands (.ofNat first) (.ofNat last) =
        (range a.greatest a.name.word item).toOption.map (·.map a.operand)) ∧
    ∀ zone before after p, '=' ∉ before → nameOf before = a.name.word →
      (compileCondition zone .traffic (before ++ '=' :: after) = .ok p ↔ ∃ nss,
        List.Forall₂ (fun piece => Expands a.greatest (trim piece)) (splitOn ',' (trim after)) nss ∧
          p = ⟨a.name.word, (trim before).getLast? == some '!', .belongsTo,
            nss.flatten.map a.operand⟩) := by
  refine ⟨range_eq_error_iff, fun first last h => ⟨fun ns hread => ?_, ?_⟩,
    fun zone before after p hb hname => condition_eq_ok_iff hb hname⟩
  · have hcounts : Counts first last ns := by
      rw [range_of_bounds h] at hread
      exact (numbersBetween_eq_ok_iff.1 hread).2
    refine ⟨hcounts, ?_⟩
    rw [List.map_map]
    exact List.map_congr_left fun n hn => number?_operand (le_of_mem_range hread hn)
  · rw [range_of_bounds h]
    exact wordOperands_eq h.first_le h.last_le _ _

/-- A negated condition with two numbers up to the greatest one, a range in the wrong order, and a
number with a sign and a zero; and a range of 65537 numbers, which is refused. -/
theorem ranges_expand_exactly_greatest :
    let item := "4294967294 - 4294967295".toList
    let condition := "Rule!=4294967294 - 4294967295,5-3, +07".toList
    let p : Predicate := ⟨"rule", true, .belongsTo,
      [.ruleNumber 4294967294, .ruleNumber 4294967295, .ruleNumber 7]⟩
    (Bounds RangeArgument.rule.greatest item 4294967294 4294967295 ∧
      Counts 4294967294 4294967295 [4294967294, 4294967295] ∧
      RangeArgument.rule.wordOperands 4294967294 4294967295 =
        some [.ruleNumber 4294967294, .ruleNumber 4294967295]) ∧
    (∃ reason, range RangeArgument.rule.greatest "rule" "0-65536".toList = .error reason) ∧
    nameOf "Rule!".toList = "rule" ∧ compileCondition .universal .traffic condition = .ok p ∧
    ∃ nss, List.Forall₂ (fun piece => Expands RangeArgument.rule.greatest (trim piece))
        (splitOn ',' "4294967294 - 4294967295,5-3, +07".toList) nss ∧
      nss.flatten.map RangeArgument.rule.operand = p.operands := by
  intro item condition p
  have hspells : ∀ (n : Nat) (cs : List Char),
      number RangeArgument.rule.greatest "rule" cs = .ok n →
      Spells n (trim cs) ∧ n ≤ RangeArgument.rule.greatest := fun _ _ h => number_eq_ok_iff.1 h
  have hbounds : Bounds RangeArgument.rule.greatest item 4294967294 4294967295 := by
    obtain ⟨hfirst, hfirstMax⟩ := hspells 4294967294 "4294967294 ".toList rfl
    obtain ⟨hlast, hlastMax⟩ := hspells 4294967295 " 4294967295".toList rfl
    exact .between (by decide) hfirst hfirstMax hlast hlastMax
  have hmany : Bounds RangeArgument.rule.greatest "0-65536".toList 0 65536 := by
    obtain ⟨hfirst, hfirstMax⟩ := hspells 0 "0".toList rfl
    obtain ⟨hlast, hlastMax⟩ := hspells 65536 "65536".toList rfl
    exact .between (by decide) hfirst hfirstMax hlast hlastMax
  have hread : range RangeArgument.rule.greatest RangeArgument.rule.name.word item =
      .ok [4294967294, 4294967295] := rfl
  have hcompile : compileCondition .universal .traffic condition = .ok p := rfl
  obtain ⟨-, hexpands, hcondition⟩ := ranges_expand_exactly .rule item
  obtain ⟨hcounts, hwords⟩ := hexpands _ _ hbounds
  refine ⟨⟨hbounds, (hcounts _ hread).1, ?_⟩, ?_, rfl, hcompile, ?_⟩
  · exact hwords.trans (by rw [hread]; rfl)
  · exact (ranges_expand_exactly .rule "0-65536".toList).1.2
      (.inr ⟨0, 65536, hmany, by decide, by decide⟩)
  · obtain ⟨nss, hnss, hp⟩ := (hcondition .universal "Rule!".toList
      "4294967294 - 4294967295,5-3, +07".toList p (by decide) rfl).1 hcompile
    exact ⟨nss, hnss, (congrArg Predicate.operands hp).symm⟩

end RangeArgument

end Filter

end LogCollector
