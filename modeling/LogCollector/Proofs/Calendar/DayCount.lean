import LogCollector.Calendar.Date

/-!
# The count of days

Every day number is the number of the date that `Date.ofDayNumber` gives for it
(`dayNumber_ofDayNumber`), and this date is one of the calendar (`isValid_ofDayNumber`). The
proof takes the day number apart as the definition does: whole runs of 400 years, centuries,
runs of four years and single years of a count in which years begin on the first of March, and
the day of such a year.

The dates of a year have the day numbers from that of its first of January up to that of the
next one, and a day number determines its year (`year_ofDayNumber`). Within a year the months follow
one another by their lengths, so that a date is the one of its day number (`ofDayNumber_dayNumber`).
-/

namespace LogCollector.Calendar.Date

/-- The dates of the calendar. -/
theorem isValid_iff {d : Date} : d.isValid = true ↔
    1 ≤ d.month ∧ d.month ≤ 12 ∧ 1 ≤ d.day ∧ d.day ≤ daysInMonth d.year d.month := by
  simp only [isValid, Bool.and_eq_true, decide_eq_true_eq, and_assoc]

/-! ### Years that begin in March -/

/-- Days from 1 March 0000 to the first of March of a year. -/
def beforeMarch (year : Int) : Int := 365 * year + year / 4 - year / 100 + year / 400

/-- The date of the `day`-th day, from 0, of a year that begins in March. -/
def ofMarch (year day : Int) : Date :=
  let m := (5 * day + 2) / 153
  let d := day - (153 * m + 2) / 5 + 1
  if m < 10 then ⟨year, (m + 3).toNat, d.toNat⟩ else ⟨year + 1, (m - 9).toNat, d.toNat⟩

/-- The days of a year that begins in March are counted from its beginning. -/
theorem dayNumber_ofMarch {year day : Int} (h₀ : 0 ≤ day) (h₁ : day ≤ 365) :
    (ofMarch year day).dayNumber = beforeMarch year + day - epochOffset := by
  have hd : 0 ≤ day - (153 * ((5 * day + 2) / 153) + 2) / 5 + 1 := by omega
  have hm₀ : 0 ≤ (5 * day + 2) / 153 := by omega
  have hm₁ : (5 * day + 2) / 153 ≤ 11 := by omega
  unfold ofMarch
  simp only
  generalize (5 * day + 2) / 153 = m at *
  generalize hk : day - (153 * m + 2) / 5 + 1 = k at *
  split
  · have hmonth : ((m + 3).toNat + 9 : Int) % 12 = m := by omega
    have hyear : ¬ (m + 3).toNat ≤ 2 := by omega
    simp only [dayNumber, beforeMarch, hmonth, if_neg hyear]
    omega
  · have hmonth : ((m - 9).toNat + 9 : Int) % 12 = m := by omega
    have hyear : (m - 9).toNat ≤ 2 := by omega
    have hprev : year + 1 - 1 = year := by omega
    simp only [dayNumber, beforeMarch, hmonth, if_pos hyear, hprev]
    omega

/-- A year that begins in March has 365 days, and one more when it ends in a leap year. -/
theorem isValid_ofMarch {year day : Int} (h₀ : 0 ≤ day) (h₁ : day ≤ 365)
    (hl : day = 365 → isLeapYear (year + 1) = true) : (ofMarch year day).isValid = true := by
  have hm₀ : 0 ≤ (5 * day + 2) / 153 := by omega
  have hm₁ : (5 * day + 2) / 153 ≤ 11 := by omega
  have hlo : 153 * ((5 * day + 2) / 153) ≤ 5 * day + 2 := by omega
  have hhi : 5 * day + 2 < 153 * ((5 * day + 2) / 153) + 153 := by omega
  unfold ofMarch
  simp only
  generalize (5 * day + 2) / 153 = m at *
  split
  · simp only [isValid_iff]
    refine ⟨by omega, by omega, by omega, ?_⟩
    unfold daysInMonth
    split <;> omega
  · simp only [isValid_iff]
    refine ⟨by omega, by omega, by omega, ?_⟩
    obtain hj | hf : (m - 9).toNat = 1 ∨ (m - 9).toNat = 2 := by omega
    · rw [hj]
      change _ ≤ 31
      omega
    · rw [hf]
      change _ ≤ if isLeapYear (year + 1) then 29 else 28
      by_cases h : day = 365
      · rw [if_pos (hl h)]
        omega
      · split <;> omega

/-! ### Taking a day number apart -/

/-- The fourth century of a run of 400 years is longer by a day. -/
theorem century_spec {r : Int} (h₀ : 0 ≤ r) (h₁ : r < 146097) :
    0 ≤ min (r / 36524) 3 ∧ min (r / 36524) 3 ≤ 3 ∧ 0 ≤ r - 36524 * min (r / 36524) 3 ∧
      r - 36524 * min (r / 36524) 3 ≤ 36524 ∧
      (r - 36524 * min (r / 36524) 3 = 36524 → min (r / 36524) 3 = 3) := by
  omega

/-- The fourth year of a run of four is longer by a day. -/
theorem single_spec {r : Int} (h₀ : 0 ≤ r) (h₁ : r < 1461) :
    0 ≤ min (r / 365) 3 ∧ min (r / 365) 3 ≤ 3 ∧ 0 ≤ r - 365 * min (r / 365) 3 ∧
      r - 365 * min (r / 365) 3 ≤ 365 ∧
      (r - 365 * min (r / 365) 3 = 365 → min (r / 365) 3 = 3 ∧ r = 1460) := by
  omega

/-- The days before a year, from the parts into which the count of years falls. -/
theorem beforeMarch_parts {era century four single : Int} (hc : 0 ≤ century ∧ century ≤ 3)
    (hf : 0 ≤ four ∧ four ≤ 24) (hs : 0 ≤ single ∧ single ≤ 3) :
    beforeMarch (400 * era + 100 * century + 4 * four + single) =
      146097 * era + 36524 * century + 1461 * four + 365 * single := by
  generalize hy : 400 * era + 100 * century + 4 * four + single = y
  have h4 : y / 4 = 100 * era + 25 * century + four := by omega
  have h100 : y / 100 = 4 * era + century := by omega
  have h400 : y / 400 = era := by omega
  rw [beforeMarch, h4, h100, h400]
  omega

theorem isLeapYear_iff (year : Int) : isLeapYear year = true ↔
    year % 4 = 0 ∧ (year % 100 ≠ 0 ∨ year % 400 = 0) := by
  simp only [isLeapYear, Bool.and_eq_true, Bool.or_eq_true, beq_iff_eq, bne_iff_ne, ne_eq]

/-- A day number is that of a day of a year that begins in March. -/
theorem exists_ofMarch (n : Int) : ∃ year day : Int,
    ofDayNumber n = ofMarch year day ∧ n = beforeMarch year + day - epochOffset ∧
      0 ≤ day ∧ day ≤ 365 ∧ (day = 365 → isLeapYear (year + 1) = true) := by
  have hz : n + epochOffset
      = 146097 * ((n + epochOffset) / 146097) + (n + epochOffset) % 146097 := by omega
  have hr₀ : 0 ≤ (n + epochOffset) % 146097 := by omega
  have hr₁ : (n + epochOffset) % 146097 < 146097 := by omega
  have hofs : ofDayNumber n = ofMarch
      (400 * ((n + epochOffset) / 146097) + 100 * min ((n + epochOffset) % 146097 / 36524) 3
        + 4 * (((n + epochOffset) % 146097
          - 36524 * min ((n + epochOffset) % 146097 / 36524) 3) / 1461)
        + min (((n + epochOffset) % 146097
          - 36524 * min ((n + epochOffset) % 146097 / 36524) 3) % 1461 / 365) 3)
      (((n + epochOffset) % 146097
          - 36524 * min ((n + epochOffset) % 146097 / 36524) 3) % 1461
        - 365 * min (((n + epochOffset) % 146097
          - 36524 * min ((n + epochOffset) % 146097 / 36524) 3) % 1461 / 365) 3) := rfl
  -- Each part is named as soon as its bounds are known, so that the terms stay small.
  generalize (n + epochOffset) / 146097 = era at *
  generalize (n + epochOffset) % 146097 = inEra at *
  obtain ⟨hc₀, hc₁, hic₀, hic₁, hc⟩ := century_spec hr₀ hr₁
  generalize min (inEra / 36524) 3 = century at *
  generalize hq : inEra - 36524 * century = inCentury at *
  have hf : 0 ≤ inCentury / 1461 ∧ inCentury / 1461 ≤ 24 := by omega
  have hif : inCentury = 1461 * (inCentury / 1461) + inCentury % 1461 := by omega
  have hif₀ : 0 ≤ inCentury % 1461 := by omega
  have hif₁ : inCentury % 1461 < 1461 := by omega
  generalize inCentury / 1461 = four at *
  generalize inCentury % 1461 = inFour at *
  obtain ⟨hs₀, hs₁, hd₀, hd₁, hd⟩ := single_spec hif₀ hif₁
  generalize min (inFour / 365) 3 = single at *
  generalize hy : inFour - 365 * single = inYear at *
  refine ⟨_, _, hofs, ?_, hd₀, hd₁, fun h => ?_⟩
  · rw [beforeMarch_parts ⟨hc₀, hc₁⟩ hf ⟨hs₀, hs₁⟩]
    omega
  · obtain ⟨hsingle, hfour⟩ := hd h
    rw [isLeapYear_iff]
    omega

/-- The date of a day number has that day number. -/
@[simp] theorem dayNumber_ofDayNumber (n : Int) : (ofDayNumber n).dayNumber = n := by
  obtain ⟨year, day, he, hn, h₀, h₁, -⟩ := exists_ofMarch n
  rw [he, dayNumber_ofMarch h₀ h₁, ← hn]

/-- The date of a day number is one of the calendar. -/
theorem isValid_ofDayNumber (n : Int) : (ofDayNumber n).isValid = true := by
  obtain ⟨year, day, he, -, h₀, h₁, hl⟩ := exists_ofMarch n
  rw [he]
  exact isValid_ofMarch h₀ h₁ hl

/-! ### The days of a year -/

/-- The day number of the first of January of a year. -/
def firstDay (year : Int) : Int := dayNumber ⟨year, 1, 1⟩

theorem firstDay_eq (year : Int) :
    firstDay year = beforeMarch (year - 1) + 306 - epochOffset := by
  simp only [firstDay, dayNumber, beforeMarch, if_pos (by decide : 1 ≤ 2)]
  omega

/-- A year ends before a later one begins. -/
theorem firstDay_add_one_le {y₁ y₂ : Int} (h : y₁ < y₂) : firstDay (y₁ + 1) ≤ firstDay y₂ := by
  rw [firstDay_eq, firstDay_eq]
  unfold beforeMarch
  omega

theorem firstDay_mono {y₁ y₂ : Int} (h : y₁ ≤ y₂) : firstDay y₁ ≤ firstDay y₂ := by
  rw [firstDay_eq, firstDay_eq]
  unfold beforeMarch
  omega

theorem daysInMonth_le (year : Int) (month : Nat) : daysInMonth year month ≤ 31 := by
  unfold daysInMonth
  repeat' split
  all_goals omega

/-- The dates of a year lie between its first of January and that of the next year. -/
theorem dayNumber_bounds {d : Date} (h : d.isValid = true) :
    firstDay d.year ≤ d.dayNumber ∧ d.dayNumber < firstDay (d.year + 1) := by
  obtain ⟨year, month, day⟩ := d
  obtain ⟨hm₁, hm₂, hd₁, hd₂⟩ := isValid_iff.1 h
  simp only at hm₁ hm₂ hd₁ hd₂
  have hlen : day ≤ 31 := Nat.le_trans hd₂ (daysInMonth_le year month)
  rw [firstDay_eq, firstDay_eq]
  by_cases hm : month ≤ 2
  · have hshift : ((month : Int) + 9) % 12 = month + 9 := by omega
    have hfeb : month = 2 → day ≤ 29 := by
      rintro rfl
      have hd₂ : day ≤ if isLeapYear year then 29 else 28 := hd₂
      split at hd₂ <;> omega
    simp only [dayNumber, beforeMarch, hshift, if_pos hm]
    omega
  · have hshift : ((month : Int) + 9) % 12 = month - 3 := by omega
    simp only [dayNumber, beforeMarch, hshift, if_neg hm]
    omega

/-- A day number between the first of January of a year and that of the next one belongs to
that year. -/
theorem year_ofDayNumber {n year : Int} (h₀ : firstDay year ≤ n) (h₁ : n < firstDay (year + 1)) :
    (ofDayNumber n).year = year := by
  obtain ⟨hlo, hhi⟩ := dayNumber_bounds (isValid_ofDayNumber n)
  rw [dayNumber_ofDayNumber] at hlo hhi
  obtain hlt | heq | hgt := Int.lt_trichotomy (ofDayNumber n).year year
  · have := firstDay_add_one_le hlt
    omega
  · exact heq
  · have := firstDay_add_one_le hgt
    omega

/-- The year of a valid date is the year of its day number. -/
theorem year_ofDayNumber_dayNumber {d : Date} (h : d.isValid = true) :
    (ofDayNumber d.dayNumber).year = d.year :=
  year_ofDayNumber (dayNumber_bounds h).1 (dayNumber_bounds h).2

/-! ### The days of a month -/

/-- A year that begins in March has a day more when it ends in a leap year. -/
theorem beforeMarch_eq (year : Int) : beforeMarch year =
    beforeMarch (year - 1) + 337 + daysInMonth year 2 := by
  have hfeb : daysInMonth year 2 = if isLeapYear year then 29 else 28 := rfl
  rw [hfeb]
  have hleap := isLeapYear_iff year
  unfold beforeMarch
  split
  · rename_i h
    have := hleap.1 h
    omega
  · rename_i h
    have := mt hleap.2 h
    omega

/-- The days of a month are counted from its first. -/
theorem dayNumber_eq_first (year : Int) (month day : Nat) :
    dayNumber ⟨year, month, day⟩ = dayNumber ⟨year, month, 1⟩ + day - 1 := by
  simp only [dayNumber]
  omega

/-- A month ends before the next one of the year begins. -/
theorem dayNumber_next {year : Int} {month : Nat} (h₁ : 1 ≤ month) (h₂ : month ≤ 11) :
    dayNumber ⟨year, month + 1, 1⟩ = dayNumber ⟨year, month, 1⟩ + daysInMonth year month := by
  have hmarch := beforeMarch_eq year
  obtain rfl | rfl | h₃ : month = 1 ∨ month = 2 ∨ 3 ≤ month := by omega
  · have hlength : daysInMonth year 1 = 31 := rfl
    simp only [dayNumber, hlength]
    simp
    omega
  · simp only [dayNumber, beforeMarch] at hmarch ⊢
    simp
    omega
  · -- From March on, the months begin at fixed days of a year that begins in March.
    simp only [dayNumber, if_neg (show ¬ month ≤ 2 by omega),
      if_neg (show ¬ month + 1 ≤ 2 by omega)]
    obtain rfl | rfl | rfl | rfl | rfl | rfl | rfl | rfl | rfl : month = 3 ∨ month = 4 ∨
      month = 5 ∨ month = 6 ∨ month = 7 ∨ month = 8 ∨ month = 9 ∨ month = 10 ∨ month = 11 := by
      omega
    all_goals
      simp only [daysInMonth]
      omega

/-- The days of a month lie before the later months of the year. -/
theorem dayNumber_lt_of_month_lt (year : Int) {month later day : Nat} (h₁ : 1 ≤ month)
    (hlt : month < later) (h₂ : later ≤ 12) (hday : day ≤ daysInMonth year month) :
    dayNumber ⟨year, month, day⟩ < dayNumber ⟨year, later, 1⟩ := by
  induction later with
  | zero => omega
  | succ later ih =>
    obtain rfl | hlt' : month = later ∨ month < later := by omega
    · rw [dayNumber_eq_first, dayNumber_next h₁ (by omega)]
      omega
    · rw [dayNumber_next (by omega) (by omega)]
      exact Int.lt_of_lt_of_le (ih hlt' (by omega))
        (Int.le_add_of_nonneg_right (Int.natCast_nonneg _))

/-- Different dates have different day numbers. -/
theorem dayNumber_injective {d e : Date} (hd : d.isValid = true) (he : e.isValid = true)
    (h : d.dayNumber = e.dayNumber) : d = e := by
  have hyear : d.year = e.year := by
    rw [← year_ofDayNumber_dayNumber hd, h, year_ofDayNumber_dayNumber he]
  obtain ⟨year, month, day⟩ := d
  obtain ⟨year', month', day'⟩ := e
  obtain rfl : year = year' := hyear
  obtain ⟨hm₁, hm₂, hd₁, hd₂⟩ := isValid_iff.1 hd
  obtain ⟨hm₁', hm₂', hd₁', hd₂'⟩ := isValid_iff.1 he
  simp only at hm₁ hm₂ hd₁ hd₂ hm₁' hm₂' hd₁' hd₂'
  have hfirst := dayNumber_eq_first year month day
  have hfirst' := dayNumber_eq_first year month' day'
  obtain hlt | rfl | hlt := Nat.lt_trichotomy month month'
  · have := dayNumber_lt_of_month_lt year hm₁ hlt hm₂' hd₂
    omega
  · obtain rfl : day = day' := by omega
    rfl
  · have := dayNumber_lt_of_month_lt year hm₁' hlt hm₂ hd₂'
    omega

/-- **The date of the day number of a date** is that date. -/
theorem ofDayNumber_dayNumber {d : Date} (h : d.isValid = true) : ofDayNumber d.dayNumber = d :=
  dayNumber_injective (isValid_ofDayNumber _) h (dayNumber_ofDayNumber _)

end LogCollector.Calendar.Date
