import LogCollector.Proofs.Calendar.ClockChanges

/-!
# Earlier and later

Of two dates the one that is earlier by year, month and day has the smaller day number, whatever
the lengths of the months and years between them are, and so it is with the seconds of readings.
Instants are in the same order. Neither the hour that clocks in the eastern states skip nor the one
that they show twice turns two of them around; only the second at which clocks are put forward and
the one that they show then stand for the same instant (`instantOf?_order`).
-/

namespace LogCollector.Calendar

open Date

/-! ### Dates and readings -/

namespace Date

/-- Earlier by year, month and day. -/
def Before (d e : Date) : Prop :=
  d.year < e.year ∨ d.year = e.year ∧ (d.month < e.month ∨ d.month = e.month ∧ d.day < e.day)

/-- An earlier date has a smaller day number. -/
theorem dayNumber_lt_of_before {d e : Date} (hd : d.isValid = true) (he : e.isValid = true)
    (h : d.Before e) : d.dayNumber < e.dayNumber := by
  obtain ⟨hm₁, -, -, hday⟩ := isValid_iff.1 hd
  obtain ⟨-, hm₂, hday', -⟩ := isValid_iff.1 he
  have hfirst : d.dayNumber = dayNumber ⟨d.year, d.month, 1⟩ + d.day - 1 :=
    dayNumber_eq_first d.year d.month d.day
  have hfirst' : e.dayNumber = dayNumber ⟨e.year, e.month, 1⟩ + e.day - 1 :=
    dayNumber_eq_first e.year e.month e.day
  rcases h with hyear | ⟨hyear, hmonth | ⟨hmonth, hlt⟩⟩
  · have hend := (dayNumber_bounds hd).2
    have hbegin := (dayNumber_bounds he).1
    have hbetween : firstDay (d.year + 1) ≤ firstDay e.year := firstDay_mono hyear
    omega
  · have hlast : d.dayNumber < dayNumber ⟨d.year, e.month, 1⟩ :=
      dayNumber_lt_of_month_lt d.year hm₁ hmonth hm₂ hday
    rw [hyear] at hlast
    omega
  · rw [hfirst, hfirst', hyear, hmonth]
    omega

end Date

namespace Reading

/-- Earlier by date and time of day. -/
def Before (r s : Reading) : Prop :=
  r.date.Before s.date ∨ r.date = s.date ∧ (r.hour < s.hour ∨ r.hour = s.hour ∧
    (r.minute < s.minute ∨ r.minute = s.minute ∧ r.second < s.second))

/-- An earlier reading has fewer seconds. -/
theorem seconds_lt_of_before {r s : Reading} (hr : r.Valid) (hs : s.Valid) (h : r.Before s) :
    r.seconds < s.seconds := by
  obtain ⟨hdate, hhour, hminute, hsecond⟩ := hr
  obtain ⟨hdate', -⟩ := hs
  rcases h with h | ⟨hsame, h⟩
  · have hday := dayNumber_lt_of_before hdate hdate' h
    simp only [seconds]
    omega
  · simp only [seconds, hsame]
    omega

end Reading

/-! ### Instants -/

namespace Zone

/-- Clocks are put forward from the one reading to the other. -/
def Jumps (z : Zone) (r s : Reading) : Prop := z.Forwards r ∧ s = { r with hour := 3 }

instance (z : Zone) (r s : Reading) : Decidable (z.Jumps r s) :=
  inferInstanceAs (Decidable (_ ∧ _))

/-- In the eastern states clocks are put forward from the first second of summer, by an hour. -/
theorem jumps_iff {r s : Reading} (hr : r.Valid) (hs : s.Valid) : Jumps .easternStates r s ↔
    r.seconds = summerBegin (yearOf r.seconds) ∧ s.seconds = r.seconds + 3600 := by
  rw [Jumps, ← forwards_iff hr]
  refine and_congr_right fun hf => ?_
  constructor
  · rintro rfl
    exact hf.seconds_later
  · intro hseconds
    rw [← Reading.ofSeconds_seconds hs, hseconds, ← hf.seconds_later,
      Reading.ofSeconds_seconds hr.at_three]

theorem not_jumps {z : Zone} (hz : z ≠ .easternStates) (r s : Reading) : ¬ z.Jumps r s :=
  fun h => hz h.1.1.1

/-- In the eastern states the instants of readings that follow one another do so too, the first
second of summer and the one an hour later apart. -/
theorem instantOf?_easternStates_order {r r' t t' : Int} (hr : instantOf? .easternStates r = some t)
    (hr' : instantOf? .easternStates r' = some t') (hlt : r < r') :
    (r = summerBegin (yearOf r) ∧ r' = r + 3600 → t = t') ∧
      (¬ (r = summerBegin (yearOf r) ∧ r' = r + 3600) → t < t') := by
  obtain ⟨hlo, hhi⟩ := yearOf_bounds r
  obtain ⟨hlo', hhi'⟩ := yearOf_bounds r'
  obtain ⟨hb, hbe, he⟩ := summer_bounds (yearOf r)
  obtain ⟨hb', hbe', he'⟩ := summer_bounds (yearOf r')
  obtain ⟨-, hwithin⟩ := summer_within (yearOf r)
  rw [instantOf?_easternStates_iff] at hr hr'
  obtain hyear | hyear | hyear := Int.lt_trichotomy (yearOf r) (yearOf r')
  · have hbetween : firstDay (yearOf r + 1) ≤ firstDay (yearOf r') := firstDay_mono hyear
    omega
  · rw [← hyear] at hr'
    omega
  · have hbetween : firstDay (yearOf r' + 1) ≤ firstDay (yearOf r) := firstDay_mono hyear
    omega

/-- **Instants are in the order of their readings**: an earlier reading stands for an earlier
instant, unless clocks are put forward from it to the other one. -/
theorem instantOf?_order {z : Zone} {r s : Reading} {t u : Int} (hr : r.Valid) (hs : s.Valid)
    (ht : z.instantOf? r.seconds = some t) (hu : z.instantOf? s.seconds = some u)
    (h : r.Before s) : (z.Jumps r s → t = u) ∧ (¬ z.Jumps r s → t < u) := by
  have hlt := Reading.seconds_lt_of_before hr hs h
  cases z with
  | universal =>
    obtain rfl := Option.some.inj ht
    obtain rfl := Option.some.inj hu
    exact ⟨fun hjump => absurd hjump (not_jumps (by decide) r s), fun _ => hlt⟩
  | korea =>
    obtain rfl := Option.some.inj ht
    obtain rfl := Option.some.inj hu
    exact ⟨fun hjump => absurd hjump (not_jumps (by decide) r s),
      fun _ => Int.sub_lt_sub_right hlt 32400⟩
  | easternStates =>
    rw [jumps_iff hr hs]
    exact instantOf?_easternStates_order ht hu hlt

end Zone

end LogCollector.Calendar
