import LogCollector.Proofs.Calendar.LocalTime

/-!
# The days on which clocks are changed

In the eastern states clocks are put forward on a Sunday from the 8th to the 14th of March, and put
back on a Sunday among the first seven days of November. A reading has an instant unless it is one
of those that are skipped on the first of these days (`exists_instantOf?_iff_not_skips`), and what
clocks show at the instant is the reading, the second at which they are put forward apart
(`readingAt_instantOf?`). What clocks show at an instant leads back to it, unless they show it
again an hour later (`instantOf?_readingAt_eq`).
-/

namespace LogCollector.Calendar

open Date

/-! ### Sundays -/

namespace Date

/-- The day number of the `k`-th Sunday of a month is that of a Sunday within a week. -/
theorem sunday_eq_iff {year n : Int} {month k : Nat} : n = sunday year month k ↔
    weekday n = 0 ∧ dayNumber ⟨year, month, 1⟩ + 7 * (k - 1) ≤ n ∧
      n < dayNumber ⟨year, month, 1⟩ + 7 * k := by
  simp only [sunday, weekday]
  omega

theorem le_daysInMonth (year : Int) (month : Nat) : 28 ≤ daysInMonth year month := by
  unfold daysInMonth
  repeat' split
  all_goals omega

/-- A date has the day number of the `k`-th Sunday of a month when it is a Sunday of the `k`-th
seven days of the month. -/
theorem dayNumber_eq_sunday_iff {d : Date} {month k : Nat} (h : d.isValid = true) (hm₁ : 1 ≤ month)
    (hm₂ : month ≤ 12) (hk₁ : 1 ≤ k) (hk₂ : k ≤ 4) : d.dayNumber = sunday d.year month k ↔
      d.month = month ∧ weekday d.dayNumber = 0 ∧ 7 * k < d.day + 7 ∧ d.day ≤ 7 * k := by
  obtain ⟨hd₁, hd₂, hday₁, hday₂⟩ := isValid_iff.1 h
  have hfirst : d.dayNumber = dayNumber ⟨d.year, d.month, 1⟩ + d.day - 1 :=
    dayNumber_eq_first d.year d.month d.day
  rw [sunday_eq_iff]
  obtain hlt | rfl | hlt := Nat.lt_trichotomy d.month month
  · have hbefore : d.dayNumber < dayNumber ⟨d.year, month, 1⟩ :=
      dayNumber_lt_of_month_lt _ hd₁ hlt hm₂ hday₂
    omega
  · omega
  · have hlast := dayNumber_eq_first d.year month (daysInMonth d.year month)
    have hafter := dayNumber_lt_of_month_lt d.year hm₁ hlt hd₂ (Nat.le_refl _)
    have hlength := le_daysInMonth d.year month
    omega

end Date

/-- Clocks show every minute and second at three o'clock. -/
theorem Reading.Valid.at_three {r : Reading} (h : r.Valid) : Valid { r with hour := 3 } :=
  ⟨h.1, show 3 ≤ 23 by decide, h.2.2⟩

/-! ### Days of change -/

namespace Zone

/-- Clocks are put forward on the date. -/
def SpringsForward (z : Zone) (d : Date) : Prop :=
  z = .easternStates ∧ d.month = 3 ∧ weekday d.dayNumber = 0 ∧ 8 ≤ d.day ∧ d.day ≤ 14

/-- Clocks are put back on the date. -/
def FallsBack (z : Zone) (d : Date) : Prop :=
  z = .easternStates ∧ d.month = 11 ∧ weekday d.dayNumber = 0 ∧ d.day ≤ 7

/-- The reading is that of the second at which clocks are put forward. -/
def Forwards (z : Zone) (r : Reading) : Prop :=
  z.SpringsForward r.date ∧ r.hour = 2 ∧ r.minute = 0 ∧ r.second = 0

/-- The reading is one of those from 02:00:01 to 02:59:59 that clocks which are put forward do not
show. -/
def Skips (z : Zone) (r : Reading) : Prop :=
  z.SpringsForward r.date ∧ r.hour = 2 ∧ (0 < r.minute ∨ 0 < r.second)

/-- The instant is one of the first pass through the hour from 01:00:00 to 01:59:59 that clocks
which are put back show twice. -/
def FirstPass (z : Zone) (t : Int) : Prop :=
  z.FallsBack (Reading.ofSeconds (z.readingAt t)).date ∧
    (Reading.ofSeconds (z.readingAt t)).hour = 1 ∧ z.readingAt (t + 3600) = z.readingAt t

instance (z : Zone) (r : Reading) : Decidable (z.Forwards r) :=
  inferInstanceAs (Decidable ((_ ∧ _ ∧ _ ∧ _ ∧ _) ∧ _ ∧ _ ∧ _))

instance (z : Zone) (t : Int) : Decidable (z.FirstPass t) :=
  inferInstanceAs (Decidable ((_ ∧ _ ∧ _ ∧ _) ∧ _ ∧ _))

theorem springsForward_iff {d : Date} (h : d.isValid = true) :
    SpringsForward .easternStates d ↔ d.dayNumber = sunday d.year 3 2 := by
  rw [dayNumber_eq_sunday_iff h (by decide) (by decide) (by decide) (by decide), SpringsForward]
  simp only [true_and]
  omega

theorem fallsBack_iff {d : Date} (h : d.isValid = true) :
    FallsBack .easternStates d ↔ d.dayNumber = sunday d.year 11 1 := by
  have hday := (isValid_iff.1 h).2.2.1
  rw [dayNumber_eq_sunday_iff h (by decide) (by decide) (by decide) (by decide), FallsBack]
  simp only [true_and]
  omega

theorem forwards_iff {r : Reading} (h : r.Valid) : Forwards .easternStates r ↔
    r.seconds = summerBegin (yearOf r.seconds) := by
  obtain ⟨hdate, hhour, hminute, hsecond⟩ := id h
  rw [r.yearOf_seconds h, Forwards, springsForward_iff hdate, summerBegin, Reading.seconds]
  omega

/-- Clocks are put forward by an hour. -/
theorem Forwards.seconds_later {z : Zone} {r : Reading} (hf : z.Forwards r) :
    Reading.seconds { r with hour := 3 } = r.seconds + 3600 := by
  simp only [Reading.seconds, hf.2.1]
  omega

theorem skips_iff {r : Reading} (h : r.Valid) : Skips .easternStates r ↔
    summerBegin (yearOf r.seconds) < r.seconds ∧
      r.seconds < summerBegin (yearOf r.seconds) + 3600 := by
  obtain ⟨hdate, hhour, hminute, hsecond⟩ := id h
  rw [r.yearOf_seconds h, Skips, springsForward_iff hdate, summerBegin, Reading.seconds]
  omega

/-! ### Readings and instants -/

/-- **The readings without an instant** are those that clocks skip. -/
theorem exists_instantOf?_iff_not_skips {z : Zone} {r : Reading} (h : r.Valid) :
    (∃ t, z.instantOf? r.seconds = some t) ↔ ¬ z.Skips r := by
  cases z with
  | universal => exact iff_of_true ⟨_, rfl⟩ fun hs => absurd hs.1.1 (by decide)
  | korea => exact iff_of_true ⟨_, rfl⟩ fun hs => absurd hs.1.1 (by decide)
  | easternStates =>
    rw [exists_instantOf?_easternStates_iff, skips_iff h]
    omega

/-- **What clocks show at the instant of a reading** is the reading, or the one an hour later in the
second at which they are put forward. -/
theorem ofSeconds_readingAt {z : Zone} {r : Reading} {t : Int} (h : r.Valid)
    (ht : z.instantOf? r.seconds = some t) :
    Reading.ofSeconds (z.readingAt t) = if z.Forwards r then { r with hour := 3 } else r := by
  have hself := Reading.ofSeconds_seconds h
  cases z with
  | universal =>
    obtain rfl := Option.some.inj ht
    have hf : ¬ Forwards .universal r := fun hf => absurd hf.1.1 (by decide)
    rw [if_neg hf, readingAt, offset, Int.add_zero, hself]
  | korea =>
    obtain rfl := Option.some.inj ht
    have hf : ¬ Forwards .korea r := fun hf => absurd hf.1.1 (by decide)
    rw [if_neg hf, readingAt, offset, Int.sub_add_cancel, hself]
  | easternStates =>
    rw [readingAt_of_instantOf?_easternStates ht]
    by_cases hf : Forwards .easternStates r
    · rw [if_pos ((forwards_iff h).1 hf), if_pos hf, ← hf.seconds_later,
        Reading.ofSeconds_seconds h.at_three]
    · rw [if_neg fun hs => hf ((forwards_iff h).2 hs), if_neg hf, hself]

/-- Clocks in the eastern states show twice what they show in the last hour of daylight time. -/
theorem firstPass_iff {t year : Int} (h : yearOf (t - 18000) = year) :
    FirstPass .easternStates t ↔
      summerEnd year - 3600 ≤ t - 18000 ∧ t - 18000 < summerEnd year := by
  obtain ⟨hlo, hhi⟩ := yearOf_bounds (t - 18000)
  rw [h] at hlo hhi
  obtain ⟨hb, hbe, he⟩ := summer_bounds year
  obtain ⟨hb', he'⟩ := summer_within year
  have hshown := readingAt_easternStates h
  generalize hr : readingAt .easternStates t = r at hshown
  have hvalid := Reading.valid_ofSeconds r
  have hseconds := Reading.seconds_ofSeconds r
  have hyear : (Reading.ofSeconds r).date.year = year := yearOf_eq (by split at hshown <;> omega)
    (by split at hshown <;> omega)
  obtain ⟨hdate, hhour, hminute, hsecond⟩ := hvalid
  have hend : summerEnd year ≤ r ∧ r < summerEnd year + 3600 ↔
      (Reading.ofSeconds r).date.dayNumber = sunday year 11 1 ∧ (Reading.ofSeconds r).hour = 1 := by
    rw [Reading.seconds] at hseconds
    unfold summerEnd
    omega
  rw [FirstPass, hr, fallsBack_iff hdate, hyear, ← and_assoc, ← hend]
  constructor
  · rintro ⟨⟨hfrom, huntil⟩, hagain⟩
    have hyear' : yearOf (t + 3600 - 18000) = year := by
      unfold summerEnd at *
      exact yearOf_eq (by split at hshown <;> omega) (by split at hshown <;> omega)
    rw [readingAt_easternStates hyear'] at hagain
    split at hshown <;> split at hagain <;> omega
  · rintro ⟨hfrom, huntil⟩
    have hyear' : yearOf (t + 3600 - 18000) = year := yearOf_eq (by omega) (by omega)
    rw [readingAt_easternStates hyear', if_neg (by omega)]
    rw [if_pos (by omega)] at hshown
    omega

/-- **The instant of what clocks show at an instant** is that instant, or the one an hour later in
the first pass through an hour that they show twice. -/
theorem instantOf?_readingAt_eq (z : Zone) (t : Int) :
    z.instantOf? (z.readingAt t) = some (if z.FirstPass t then t + 3600 else t) := by
  cases z with
  | universal =>
    have hf : ¬ FirstPass .universal t := fun hf => absurd hf.1.1 (by decide)
    rw [if_neg hf, readingAt, offset, Int.add_zero, instantOf?]
  | korea =>
    have hf : ¬ FirstPass .korea t := fun hf => absurd hf.1.1 (by decide)
    rw [if_neg hf, readingAt, offset, instantOf?, Int.add_sub_cancel]
  | easternStates =>
    obtain ⟨hlo, hhi⟩ := yearOf_bounds (t - 18000)
    obtain ⟨hb, hbe, he⟩ := summer_bounds (yearOf (t - 18000))
    obtain ⟨hb', he'⟩ := summer_within (yearOf (t - 18000))
    have hfirst := firstPass_iff (t := t) rfl
    have hshown := readingAt_easternStates (t := t) rfl
    generalize readingAt .easternStates t = r at hshown ⊢
    have hyear : yearOf r = yearOf (t - 18000) := yearOf_eq (by split at hshown <;> omega)
      (by split at hshown <;> omega)
    simp only [instantOf?_easternStates_iff, hyear, hfirst]
    split at hshown <;> split <;> omega

end Zone

end LogCollector.Calendar
