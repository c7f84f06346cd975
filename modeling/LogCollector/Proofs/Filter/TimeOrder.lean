import LogCollector.Proofs.Calendar.Order
import LogCollector.Proofs.Filter.Language
import Mathlib.Data.String.Basic

/-!
# The order of times in filter rules

Texts of digits of the same length are in the order of their values, and a text that comes before
another one does so in the first of its parts in which they differ. Of two accepted times the
smaller text is therefore that of the earlier reading (`before_readingOf`), which stands for the
earlier instant: a window from one time to a later one is never inverted (`times_are_monotone`).
-/

namespace LogCollector

/-! ### Texts of digits -/

/-- Digits behind a number multiply it by ten at least, each of them. -/
theorem Numeral.le_ofDigitChars (cs : List Char) (init : Nat) :
    Nat.pow 10 cs.length * init ≤ Nat.ofDigitChars 10 cs init := by
  induction cs generalizing init with
  | nil => simp
  | cons c cs ih =>
    have hstep : 10 * init ≤ 10 * init + (c.toNat - '0'.toNat) := Nat.le_add_right _ _
    rw [Nat.ofDigitChars_cons, List.length_cons]
    calc Nat.pow 10 (cs.length + 1) * init
        = Nat.pow 10 cs.length * (10 * init) := by
          rw [← Nat.mul_assoc]
          rfl
      _ ≤ Nat.pow 10 cs.length * (10 * init + (c.toNat - '0'.toNat)) :=
          Nat.mul_le_mul_left _ hstep
      _ ≤ Nat.ofDigitChars 10 cs (10 * init + (c.toNat - '0'.toNat)) := ih _

/-- Texts of the same number of digits are in the order of their values. -/
theorem Numeral.ofDigitChars_lt_of_lt {cs ds : List Char} (hcs : ∀ c ∈ cs, c.isDigit = true)
    (hds : ∀ d ∈ ds, d.isDigit = true) (hlen : cs.length = ds.length) (h : cs < ds) (init : Nat) :
    Nat.ofDigitChars 10 cs init < Nat.ofDigitChars 10 ds init := by
  induction cs generalizing ds init with
  | nil =>
    rw [List.eq_nil_of_length_eq_zero hlen.symm] at h
    exact absurd h (List.not_lt_nil [])
  | cons c cs ih =>
    match ds with
    | [] => exact absurd h (List.not_lt_nil _)
    | d :: ds =>
      have hcs' : ∀ c ∈ cs, c.isDigit = true := fun c hc => hcs c (List.mem_cons_of_mem _ hc)
      have hds' : ∀ d ∈ ds, d.isDigit = true := fun d hd => hds d (List.mem_cons_of_mem _ hd)
      have hlen' : cs.length = ds.length := Nat.succ.inj hlen
      rw [Nat.ofDigitChars_cons, Nat.ofDigitChars_cons]
      rw [List.cons_lt_cons_iff] at h
      obtain hlt | ⟨rfl, hrest⟩ := h
      · -- The digits behind the smaller one do not make up for it.
        have hdigit :
            10 * init + (c.toNat - '0'.toNat) + 1 ≤ 10 * init + (d.toNat - '0'.toNat) := by
          have hc := (Text.toNat_of_isDigit (hcs c List.mem_cons_self)).1
          have hcd : c.toNat < d.toNat := hlt
          have hzero : '0'.toNat = 48 := rfl
          omega
        calc Nat.ofDigitChars 10 cs (10 * init + (c.toNat - '0'.toNat))
            < Nat.pow 10 cs.length * (10 * init + (c.toNat - '0'.toNat) + 1) :=
              ofDigitChars_lt hcs' _
          _ ≤ Nat.pow 10 ds.length * (10 * init + (d.toNat - '0'.toNat)) := by
              rw [hlen']
              exact Nat.mul_le_mul_left _ hdigit
          _ ≤ Nat.ofDigitChars 10 ds (10 * init + (d.toNat - '0'.toNat)) := le_ofDigitChars ds _
      · exact ih hcs' hds' hlen' hrest _

/-- Of two texts the smaller one is smaller in its first part, or else in what follows. -/
theorem Text.take_lt_or_drop_lt {cs ds : List Char} (h : cs < ds) (k : Nat) :
    cs.take k < ds.take k ∨ cs.take k = ds.take k ∧ cs.drop k < ds.drop k := by
  induction k generalizing cs ds with
  | zero => exact .inr ⟨rfl, h⟩
  | succ k ih =>
    match cs, ds with
    | [], [] => exact absurd h (List.not_lt_nil [])
    | [], _ :: _ => exact .inl (List.nil_lt_cons _ _)
    | _ :: _, [] => exact absurd h (List.not_lt_nil _)
    | c :: cs, d :: ds =>
      rw [List.cons_lt_cons_iff] at h
      obtain hlt | ⟨rfl, hrest⟩ := h
      · exact .inl (List.cons_lt_cons_iff.2 (.inl hlt))
      · rcases ih hrest with hlt | ⟨heq, hlt⟩
        · exact .inl (List.cons_lt_cons_iff.2 (.inr ⟨rfl, hlt⟩))
        · exact .inr ⟨congrArg (c :: ·) heq, hlt⟩

namespace Filter

open Calendar

variable {zone : Zone} {cs ds : List Char}

/-- Of two texts of digits, the smaller one has the smaller number in a part, or else the same one
and is smaller behind the part. -/
theorem digitsAt_lt_or (hcs : ∀ c ∈ cs, c.isDigit = true) (hds : ∀ d ∈ ds, d.isDigit = true)
    (hlen : cs.length = ds.length) (start count : Nat) (h : cs.drop start < ds.drop start) :
    digitsAt cs start count < digitsAt ds start count ∨
      digitsAt cs start count = digitsAt ds start count ∧
        cs.drop (start + count) < ds.drop (start + count) := by
  rcases Text.take_lt_or_drop_lt h count with hlt | ⟨heq, hlt⟩
  · refine .inl (Numeral.ofDigitChars_lt_of_lt ?_ ?_ ?_ hlt 0)
    · exact fun c hc => hcs c (List.mem_of_mem_drop (List.mem_of_mem_take hc))
    · exact fun d hd => hds d (List.mem_of_mem_drop (List.mem_of_mem_take hd))
    · rw [List.length_take, List.length_take, List.length_drop, List.length_drop, hlen]
  · refine .inr ⟨by rw [digitsAt, heq, digitsAt], ?_⟩
    rwa [List.drop_drop, List.drop_drop] at hlt

/-- **Of two texts of 14 digits the smaller one is that of the earlier reading.** -/
theorem before_readingOf (hcs : ∀ c ∈ cs, c.isDigit = true) (hds : ∀ d ∈ ds, d.isDigit = true)
    (hlen : cs.length = 14) (hlen' : ds.length = 14) (h : cs < ds) :
    (readingOf cs).Before (readingOf ds) := by
  have part := digitsAt_lt_or hcs hds (hlen.trans hlen'.symm)
  rcases part 0 4 h with hlt | ⟨hyear, h⟩
  · exact .inl (.inl (Int.ofNat_lt.2 hlt))
  rcases part 4 2 h with hlt | ⟨hmonth, h⟩
  · exact .inl (.inr ⟨congrArg Int.ofNat hyear, .inl hlt⟩)
  rcases part 6 2 h with hlt | ⟨hday, h⟩
  · exact .inl (.inr ⟨congrArg Int.ofNat hyear, .inr ⟨hmonth, hlt⟩⟩)
  have hdate : (readingOf cs).date = (readingOf ds).date := by
    simp only [readingOf, hyear, hmonth, hday]
  rcases part 8 2 h with hlt | ⟨hhour, h⟩
  · exact .inr ⟨hdate, .inl hlt⟩
  rcases part 10 2 h with hlt | ⟨hminute, h⟩
  · exact .inr ⟨hdate, .inr ⟨hhour, .inl hlt⟩⟩
  rcases part 12 2 h with hlt | ⟨hsecond, h⟩
  · exact .inr ⟨hdate, .inr ⟨hhour, .inr ⟨hminute, hlt⟩⟩⟩
  · -- Nothing follows the seconds.
    rw [List.drop_eq_nil_of_le (by omega), List.drop_eq_nil_of_le (by omega)] at h
    exact absurd h (List.not_lt_nil [])

/-! ### Windows -/

/-- **Accepted times are in the order of their texts.** -/
theorem localTime_order {a b : Int} (hcs : localTime zone cs = .ok a)
    (hds : localTime zone ds = .ok b) (h : cs < ds) :
    (zone.Jumps (readingOf cs) (readingOf ds) → a = b) ∧
      (¬ zone.Jumps (readingOf cs) (readingOf ds) → a < b) := by
  obtain ⟨hlen, hdig, hvalid, ha⟩ := localTime_eq_ok_iff.1 hcs
  obtain ⟨hlen', hdig', hvalid', hb⟩ := localTime_eq_ok_iff.1 hds
  exact Zone.instantOf?_order hvalid hvalid' ha hb (before_readingOf hdig hdig' hlen hlen' h)

/-- The rule of a window has the instants of its two times as bounds. -/
theorem compileRule_window {a b : Int} (hcs : localTime zone cs = .ok a)
    (hds : localTime zone ds = .ok b) (kind : RecordKind) :
    compileRule zone kind ("starttime=" ++ .ofList cs ++ ";endtime=" ++ .ofList ds) =
      .ok ⟨.pass, [⟨"time", false, .greaterEqual, [.unixTime a]⟩,
        ⟨"time", false, .smallerEqual, [.unixTime b]⟩]⟩ := by
  have hdigits : ∀ {value t}, localTime zone value = .ok t → ∀ c ∈ value, c.isDigit = true :=
    fun h => (localTime_eq_ok_iff.1 h).2.1
  have htrim : ∀ {value t}, localTime zone value = .ok t → Text.Trimmed value :=
    fun h => Text.Trimmed.of_digits (hdigits h)
  have hsemi : ∀ {value t}, localTime zone value = .ok t → ';' ∉ value :=
    fun h hc => absurd (hdigits h _ hc) (by decide)
  have hfrom : StandsFor zone kind (conditionHead .startTime false ++ '=' :: cs)
      ⟨"time", false, .greaterEqual, [.unixTime a]⟩ :=
    standsFor_conditionHead false (by cases kind <;> rfl) (htrim hcs) (hsemi hcs)
      (bind_eq_ok_iff.2 ⟨a, hcs, rfl⟩)
  have huntil : StandsFor zone kind (conditionHead .endTime false ++ '=' :: ds)
      ⟨"time", false, .smallerEqual, [.unixTime b]⟩ :=
    standsFor_conditionHead false (by cases kind <;> rfl) (htrim hds) (hsemi hds)
      (bind_eq_ok_iff.2 ⟨b, hds, rfl⟩)
  have htext : "starttime=" ++ .ofList cs ++ ";endtime=" ++ .ofList ds =
      .ofList (Text.join [';'] [conditionHead .startTime false ++ '=' :: cs,
        conditionHead .endTime false ++ '=' :: ds]) := by
    rw [← String.toList_inj]
    simp [Text.join, conditionHead, ArgumentName.word]
  rw [htext]
  exact compileRule_join (.cons hfrom (.cons huntil .nil))

/-- **Times of filter rules are monotone**, in each of the zones. Of two accepted texts the smaller
one stands for the earlier instant; only the second at which clocks are put forward and 03:00:00 of
that day stand for the same one. The window from a text to one that is not smaller is therefore not
inverted. -/
theorem times_are_monotone (z : Zone) {s t : String} {a b : Int}
    (hs : localTime z s.toList = .ok a) (ht : localTime z t.toList = .ok b) :
    (s < t → (z.Jumps (readingOf s.toList) (readingOf t.toList) → a = b) ∧
      (¬ z.Jumps (readingOf s.toList) (readingOf t.toList) → a < b)) ∧
    (s ≤ t → a ≤ b ∧ ∀ kind, compileRule z kind ("starttime=" ++ s ++ ";endtime=" ++ t) =
      .ok ⟨.pass, [⟨"time", false, .greaterEqual, [.unixTime a]⟩,
        ⟨"time", false, .smallerEqual, [.unixTime b]⟩]⟩) := by
  refine ⟨fun hlt => localTime_order hs ht hlt, fun hle => ⟨?_, fun kind => ?_⟩⟩
  · obtain hlt | rfl := lt_or_eq_of_le hle
    · obtain ⟨hsame, hlater⟩ := localTime_order hs ht hlt
      by_cases hjump : z.Jumps (readingOf s.toList) (readingOf t.toList)
      · exact Int.le_of_eq (hsame hjump)
      · exact Int.le_of_lt (hlater hjump)
    · rw [hs] at ht
      exact Int.le_of_eq (Except.ok.inj ht)
  · have h := compileRule_window hs ht kind
    rwa [String.ofList_toList, String.ofList_toList] at h

/-- The second at which clocks are put forward in the eastern states and the one that they show
then; a window from the last second of a leap day into March. -/
theorem times_are_monotone_forward :
    (∃ t, localTime .easternStates "20240310020000".toList = .ok t ∧
      localTime .easternStates "20240310030000".toList = .ok t) ∧
    ∃ a b, a < b ∧
      compileRule .easternStates .audit "starttime=20240229235959;endtime=20240301000000" =
        .ok ⟨.pass, [⟨"time", false, .greaterEqual, [.unixTime a]⟩,
          ⟨"time", false, .smallerEqual, [.unixTime b]⟩]⟩ := by
  obtain ⟨t, hbefore⟩ : ∃ t, localTime .easternStates "20240310020000".toList = .ok t :=
    ⟨1710054000, by decide +kernel⟩
  obtain ⟨u, hafter⟩ : ∃ u, localTime .easternStates "20240310030000".toList = .ok u :=
    ⟨1710054000, by decide +kernel⟩
  obtain ⟨a, hfrom⟩ : ∃ a, localTime .easternStates "20240229235959".toList = .ok a :=
    ⟨1709269199, by decide +kernel⟩
  obtain ⟨b, huntil⟩ : ∃ b, localTime .easternStates "20240301000000".toList = .ok b :=
    ⟨1709269200, by decide +kernel⟩
  have hsame := ((times_are_monotone .easternStates hbefore hafter).1 (by decide +kernel)).1
    (by decide +kernel)
  have hlater := ((times_are_monotone .easternStates hfrom huntil).1 (by decide +kernel)).2
    (by decide +kernel)
  have hwindow := (times_are_monotone .easternStates hfrom huntil).2 (by decide +kernel)
  exact ⟨⟨t, hbefore, hsame ▸ hafter⟩, a, b, hlater, hwindow.2 .audit⟩

end Filter

end LogCollector
