import LogCollector.Calendar.Zone
import LogCollector.Proofs.Calendar.DayCount
import LogCollector.Proofs.Text.Numerals

/-!
# Local time and back

A reading of a local clock for which there is an instant is shown again at that instant, or, in
the second at which clocks are put forward, an hour later; in both cases the reading shown
leads to the same instant (`instantOf?_readingAt`). The summer of the eastern states lies
within one year, so that a reading and the standard time of its instant agree on the year.
There is an instant for exactly the readings that clocks reach (`exists_instantOf?_iff`).

A reading of the years 0 to 9999, written as 14 digits, has these digits for its parts.
-/

namespace LogCollector.Calendar

open Date

/-! ### Readings as seconds -/

namespace Reading

/-- Whether the reading is one of a clock: a valid date and a time of day. -/
def Valid (r : Reading) : Prop :=
  r.date.isValid = true ∧ r.hour ≤ 23 ∧ r.minute ≤ 59 ∧ r.second ≤ 59

/-- The seconds of the reading a number of seconds after midnight. -/
@[simp] theorem seconds_ofSeconds (n : Int) : (ofSeconds n).seconds = n := by
  simp only [seconds, ofSeconds, dayNumber_ofDayNumber]
  omega

theorem valid_ofSeconds (n : Int) : (ofSeconds n).Valid := by
  refine ⟨isValid_ofDayNumber _, ?_, ?_, ?_⟩
  · simp only [ofSeconds]
    omega
  · simp only [ofSeconds]
    omega
  · simp only [ofSeconds]
    omega

/-- **The reading at the seconds of a reading** is that reading. -/
theorem ofSeconds_seconds {r : Reading} (h : r.Valid) : ofSeconds r.seconds = r := by
  obtain ⟨date, hour, minute, second⟩ := r
  obtain ⟨hdate, hhour, hminute, hsecond⟩ := h
  simp only at hdate hhour hminute hsecond
  have hday : seconds ⟨date, hour, minute, second⟩ / 86400 = date.dayNumber := by
    simp only [seconds]
    omega
  have hrest : seconds ⟨date, hour, minute, second⟩ % 86400 =
      3600 * hour + 60 * minute + second := by
    simp only [seconds]
    omega
  simp only [ofSeconds, hday, hrest, ofDayNumber_dayNumber hdate, mk.injEq, true_and]
  omega

/-- The year of a reading is the one in which its seconds lie. -/
theorem yearOf_seconds {r : Reading} (h : r.Valid) : Zone.yearOf r.seconds = r.date.year := by
  have hyear : (ofSeconds r.seconds).date.year = r.date.year := by rw [ofSeconds_seconds h]
  exact hyear

end Reading

/-- The text of a year is digits, perhaps behind a sign. -/
theorem not_mem_yearText {c : Char} (hd : c.isDigit = false) (hminus : c ≠ '-') (hplus : c ≠ '+')
    (year : Int) : c ∉ yearText year := by
  have hpadded : ∀ n, c ∉ Numeral.padded 4 n := fun n => Numeral.not_mem_padded hd 4 n
  unfold yearText
  split
  · exact hpadded _
  · split <;> simp [hpadded, hminus, hplus]

/-- The text of a date is digits and dashes, perhaps behind a sign. -/
theorem Reading.not_mem_dashedDate {c : Char} (hd : c.isDigit = false) (hminus : c ≠ '-')
    (hplus : c ≠ '+') (r : Reading) : c ∉ r.dashedDate := by
  simp [dashedDate, not_mem_yearText hd hminus hplus, Numeral.not_mem_padded hd, hminus]

/-- The text of a time of day is digits and colons. -/
theorem Reading.not_mem_clockTime {c : Char} (hd : c.isDigit = false) (hcolon : c ≠ ':')
    (r : Reading) : c ∉ r.clockTime := by
  simp [clockTime, Numeral.not_mem_padded hd, hcolon]

namespace Zone

/-! ### Years and summers -/

/-- A reading lies in its year. -/
theorem yearOf_bounds (r : Int) :
    86400 * firstDay (yearOf r) ≤ r ∧ r < 86400 * firstDay (yearOf r + 1) := by
  obtain ⟨hlo, hhi⟩ := dayNumber_bounds (isValid_ofDayNumber (r / 86400))
  rw [dayNumber_ofDayNumber] at hlo hhi
  unfold yearOf
  omega

/-- A reading between the beginnings of two successive years lies in the first one. -/
theorem yearOf_eq {r year : Int} (h₀ : 86400 * firstDay year ≤ r)
    (h₁ : r < 86400 * firstDay (year + 1)) : yearOf r = year :=
  year_ofDayNumber (by omega) (by omega)

/-- The summer of a year is longer than the hour by which clocks are put forward, and lies
within the year. -/
theorem summer_bounds (year : Int) : 86400 * firstDay year ≤ summerBegin year ∧
    summerBegin year + 3600 < summerEnd year ∧ summerEnd year < 86400 * firstDay (year + 1) := by
  have hstep : beforeMarch (year - 1) + 365 ≤ beforeMarch year := by
    unfold beforeMarch
    omega
  have hmarch : dayNumber ⟨year, 3, 1⟩ = beforeMarch year - epochOffset := by
    simp only [dayNumber, beforeMarch, if_neg (by decide : ¬ 3 ≤ 2)]
    omega
  have hnovember : dayNumber ⟨year, 11, 1⟩ = beforeMarch year + 245 - epochOffset := by
    simp only [dayNumber, beforeMarch, if_neg (by decide : ¬ 11 ≤ 2)]
    omega
  rw [firstDay_eq, firstDay_eq, Int.add_sub_cancel]
  simp only [summerBegin, summerEnd, sunday, weekday, hmarch, hnovember]
  omega

/-! ### From a reading to its instant and back -/

/-- What clocks in the eastern states show at an instant: daylight time in summer. -/
theorem readingAt_easternStates {t year : Int} (h : yearOf (t - 18000) = year) :
    readingAt .easternStates t =
      if summerBegin year ≤ t - 18000 ∧ t - 18000 < summerEnd year then t - 14400
      else t - 18000 := by
  simp only [readingAt, offset, h]
  split <;> omega

/-- The instants of readings in the eastern states: standard time up to the second at which
clocks are put forward, nothing in the hour after it, daylight time in the rest of the summer
and standard time again. -/
theorem instantOf?_easternStates_iff {r t : Int} : instantOf? .easternStates r = some t ↔
    (r ≤ summerBegin (yearOf r) ∧ t = r + 18000) ∨
      (summerBegin (yearOf r) + 3600 ≤ r ∧ r < summerEnd (yearOf r) ∧ t = r + 14400) ∨
      (summerEnd (yearOf r) ≤ r ∧ t = r + 18000) := by
  obtain ⟨-, hbe, -⟩ := summer_bounds (yearOf r)
  simp only [instantOf?]
  split
  · rw [Option.some.injEq]
    omega
  · split
    · simp only [reduceCtorEq, false_iff]
      omega
    · split
      · rw [Option.some.injEq]
        omega
      · rw [Option.some.injEq]
        omega

/-- In the eastern states the instant of a reading shows it again, or an hour later in the
second at which clocks are put forward. -/
theorem readingAt_of_instantOf?_easternStates {r t : Int}
    (h : instantOf? .easternStates r = some t) :
    readingAt .easternStates t = if r = summerBegin (yearOf r) then r + 3600 else r := by
  obtain ⟨hlo, hhi⟩ := yearOf_bounds r
  obtain ⟨hb, hbe, he⟩ := summer_bounds (yearOf r)
  obtain ⟨hr, rfl⟩ | ⟨hr, hr', rfl⟩ | ⟨hr, rfl⟩ := instantOf?_easternStates_iff.1 h
  · rw [readingAt_easternStates (congrArg yearOf (Int.add_sub_cancel r 18000))]
    split <;> split <;> omega
  · have hyear : yearOf (r + 14400 - 18000) = yearOf r := yearOf_eq (by omega) (by omega)
    rw [readingAt_easternStates hyear, if_pos (by omega), if_neg (by omega)]
    omega
  · rw [readingAt_easternStates (congrArg yearOf (Int.add_sub_cancel r 18000)),
      if_neg (by omega), if_neg (by omega)]
    omega

/-- What clocks in the eastern states show at the instant of a reading has this instant, too. -/
theorem easternStates_readingAt {r t : Int} (h : instantOf? .easternStates r = some t) :
    instantOf? .easternStates (readingAt .easternStates t) = some t ∧
      yearOf (readingAt .easternStates t) = yearOf r := by
  obtain ⟨hlo, -⟩ := yearOf_bounds r
  obtain ⟨hb, hbe, he⟩ := summer_bounds (yearOf r)
  rw [readingAt_of_instantOf?_easternStates h]
  split
  · rename_i hforward
    have hyear : yearOf (r + 3600) = yearOf r := yearOf_eq (by omega) (by omega)
    obtain ⟨-, rfl⟩ | ⟨hr, -⟩ | ⟨hr, -⟩ := instantOf?_easternStates_iff.1 h
    · rw [instantOf?_easternStates_iff, hyear]
      exact ⟨.inr (.inl ⟨by omega, by omega, by omega⟩), rfl⟩
    · omega
    · omega
  · exact ⟨h, rfl⟩

/-- **The instant of a reading leads back to itself**: what clocks show at it lies in the same
year and has the same instant. -/
theorem instantOf?_readingAt {z : Zone} {r t : Int} (h : z.instantOf? r = some t) :
    z.instantOf? (z.readingAt t) = some t ∧ yearOf (z.readingAt t) = yearOf r := by
  cases z with
  | universal =>
    simp only [instantOf?, Option.some.injEq] at h
    subst h
    simp only [readingAt, offset, instantOf?, Int.add_zero, and_self]
  | korea =>
    simp only [instantOf?, Option.some.injEq] at h
    subst h
    have hr : r - 32400 + 32400 = r := by omega
    simp only [readingAt, offset, instantOf?, hr, and_self]
  | easternStates => exact easternStates_readingAt h

/-- What clocks show at an instant is less than half a day away from it. -/
theorem readingAt_bounds (z : Zone) (t : Int) :
    z.readingAt t - 32400 ≤ t ∧ t ≤ z.readingAt t + 18000 := by
  cases z with
  | universal =>
    rw [readingAt, offset]
    omega
  | korea =>
    rw [readingAt, offset]
    omega
  | easternStates =>
    rw [readingAt_easternStates rfl]
    split <;> omega

/-- An instant is less than half a day away from its reading. -/
theorem instantOf?_bounds {z : Zone} {r t : Int} (h : z.instantOf? r = some t) :
    r - 32400 ≤ t ∧ t ≤ r + 18000 := by
  cases z with
  | universal =>
    simp only [instantOf?, Option.some.injEq] at h
    omega
  | korea =>
    simp only [instantOf?, Option.some.injEq] at h
    omega
  | easternStates =>
    obtain ⟨-, rfl⟩ | ⟨-, -, rfl⟩ | ⟨-, rfl⟩ := instantOf?_easternStates_iff.1 h
    · omega
    · omega
    · omega

/-! ### The readings that clocks reach -/

/-- Whether clocks reach a reading: they show it at some instant, or they are about to when they
are put forward (the reading is the one that follows what they showed a second before). -/
def Reaches (z : Zone) (r : Int) : Prop :=
  ∃ t, z.readingAt t = r ∨ z.readingAt (t - 1) + 1 = r

/-- The readings without an instant are those behind the second at which clocks are put
forward. -/
theorem exists_instantOf?_easternStates_iff {r : Int} :
    (∃ t, instantOf? .easternStates r = some t) ↔
      r ≤ summerBegin (yearOf r) ∨ summerBegin (yearOf r) + 3600 ≤ r := by
  simp only [instantOf?_easternStates_iff]
  constructor
  · obtain ⟨-, hbe, -⟩ := summer_bounds (yearOf r)
    rintro ⟨t, ⟨h, -⟩ | ⟨h, -, -⟩ | ⟨h, -⟩⟩
    · exact .inl h
    · exact .inr h
    · exact .inr (by omega)
  · rintro (h | h)
    · exact ⟨_, .inl ⟨h, rfl⟩⟩
    · by_cases hend : r < summerEnd (yearOf r)
      · exact ⟨_, .inr (.inl ⟨h, hend, rfl⟩)⟩
      · exact ⟨_, .inr (.inr ⟨Int.not_lt.1 hend, rfl⟩)⟩

/-- Summer begins and ends within the first and the last day of the year. -/
theorem summer_within (year : Int) : 86400 * firstDay year < summerBegin year ∧
    summerEnd year + 3600 < 86400 * firstDay (year + 1) := by
  obtain ⟨hb, -, he⟩ := summer_bounds year
  unfold summerBegin at hb ⊢
  unfold summerEnd at he ⊢
  omega

/-- Clocks in the eastern states do not show the readings behind the second at which they are
put forward. -/
theorem readingAt_easternStates_bounds (t : Int) : ∃ year,
    86400 * firstDay year ≤ readingAt .easternStates t ∧
      readingAt .easternStates t < 86400 * firstDay (year + 1) ∧
      (readingAt .easternStates t < summerBegin year ∨
        summerBegin year + 3600 ≤ readingAt .easternStates t) := by
  obtain ⟨hlo, hhi⟩ := yearOf_bounds (t - 18000)
  obtain ⟨hb, he⟩ := summer_within (yearOf (t - 18000))
  obtain ⟨-, hbe, -⟩ := summer_bounds (yearOf (t - 18000))
  refine ⟨yearOf (t - 18000), ?_⟩
  rw [readingAt_easternStates rfl]
  split <;> omega

/-- A reading that clocks in the eastern states reach has an instant. -/
theorem exists_instantOf?_of_reaches {r : Int} (h : Reaches .easternStates r) :
    ∃ t, instantOf? .easternStates r = some t := by
  rw [exists_instantOf?_easternStates_iff]
  obtain ⟨t, rfl | rfl⟩ := h
  · obtain ⟨year, hlo, hhi, hr⟩ := readingAt_easternStates_bounds t
    rw [yearOf_eq hlo hhi]
    omega
  · obtain ⟨year, hlo, hhi, hr⟩ := readingAt_easternStates_bounds (t - 1)
    obtain ⟨hb, he⟩ := summer_within year
    by_cases hnext : readingAt .easternStates (t - 1) + 1 < 86400 * firstDay (year + 1)
    · have hsame : yearOf (readingAt .easternStates (t - 1) + 1) = year :=
        yearOf_eq (by omega) hnext
      rw [hsame]
      omega
    · -- The next second is the first one of the year that follows.
      obtain ⟨hb', -⟩ := summer_within (year + 1)
      have hend : 86400 * firstDay (year + 1) < 86400 * firstDay (year + 1 + 1) := by
        obtain ⟨-, hbe, he'⟩ := summer_bounds (year + 1)
        omega
      have hlater : yearOf (readingAt .easternStates (t - 1) + 1) = year + 1 :=
        yearOf_eq (by omega) (by omega)
      rw [hlater]
      omega

/-- A reading of the eastern states that has an instant is reached. -/
theorem reaches_of_instantOf?_easternStates {r t : Int}
    (h : instantOf? .easternStates r = some t) : Reaches .easternStates r := by
  obtain ⟨hlo, hhi⟩ := yearOf_bounds r
  obtain ⟨hb, he⟩ := summer_within (yearOf r)
  obtain ⟨hr, rfl⟩ | ⟨hr, hr', rfl⟩ | ⟨hr, rfl⟩ := instantOf?_easternStates_iff.1 h
  · by_cases hforward : r = summerBegin (yearOf r)
    · have hyear : yearOf (r + 18000 - 1 - 18000) = yearOf r := yearOf_eq (by omega) (by omega)
      have hshown := readingAt_easternStates hyear
      rw [if_neg (by omega)] at hshown
      exact ⟨r + 18000, .inr (by omega)⟩
    · have hshown := readingAt_easternStates (congrArg yearOf (Int.add_sub_cancel r 18000))
      rw [if_neg (by omega)] at hshown
      exact ⟨r + 18000, .inl (by omega)⟩
  · have hyear : yearOf (r + 14400 - 18000) = yearOf r := yearOf_eq (by omega) (by omega)
    have hshown := readingAt_easternStates hyear
    rw [if_pos (by omega)] at hshown
    exact ⟨r + 14400, .inl (by omega)⟩
  · have hshown := readingAt_easternStates (congrArg yearOf (Int.add_sub_cancel r 18000))
    rw [if_neg (by omega)] at hshown
    exact ⟨r + 18000, .inl (by omega)⟩

/-- **The readings with an instant** are those that clocks reach. -/
theorem exists_instantOf?_iff {z : Zone} {r : Int} :
    (∃ t, z.instantOf? r = some t) ↔ z.Reaches r := by
  cases z with
  | universal =>
    exact ⟨fun _ => ⟨r, .inl (Int.add_zero r)⟩, fun _ => ⟨r, rfl⟩⟩
  | korea =>
    exact ⟨fun _ => ⟨r - 32400, .inl (Int.sub_add_cancel r 32400)⟩, fun _ => ⟨_, rfl⟩⟩
  | easternStates =>
    exact ⟨fun ⟨_, h⟩ => reaches_of_instantOf?_easternStates h, exists_instantOf?_of_reaches⟩

end Zone

/-- The instants that are less than half a day away from readings of the years 0 to 9999 can be
represented. -/
theorem isRepresentable_of_bounds {r t : Int} (hlo : r - 32400 ≤ t) (hhi : t ≤ r + 18000)
    (h₀ : 0 ≤ Zone.yearOf r) (h₁ : Zone.yearOf r ≤ 9999) : isRepresentable t = true := by
  obtain ⟨hr₀, hr₁⟩ := Zone.yearOf_bounds r
  have hfirst : firstDay 0 ≤ firstDay (Zone.yearOf r) := firstDay_mono h₀
  have hlast : firstDay (Zone.yearOf r + 1) ≤ firstDay 10000 := firstDay_mono (by omega)
  have hzero : firstDay 0 = -719528 := by decide
  have hend : firstDay 10000 = 2932897 := by decide
  have hmin : dayNumber ⟨-262143, 1, 1⟩ = -96465292 := by decide
  have hmax : dayNumber ⟨262142, 12, 31⟩ = 95026236 := by decide
  rw [isRepresentable, hmin, hmax, Bool.and_eq_true, decide_eq_true_eq, decide_eq_true_eq]
  omega

/-- The instants of readings of the years 0 to 9999 can be represented. -/
theorem isRepresentable_of_year {z : Zone} {r t : Int} (h : z.instantOf? r = some t)
    (h₀ : 0 ≤ Zone.yearOf r) (h₁ : Zone.yearOf r ≤ 9999) : isRepresentable t = true :=
  isRepresentable_of_bounds (Zone.instantOf?_bounds h).1 (Zone.instantOf?_bounds h).2 h₀ h₁

end LogCollector.Calendar
