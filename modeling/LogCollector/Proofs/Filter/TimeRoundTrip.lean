import LogCollector.Filter.Canonical
import LogCollector.Proofs.Calendar.ClockChanges
import LogCollector.Proofs.Filter.Times

/-!
# Times of filter rules through the local calendar

The times that are accepted are 14 digits that make up a date of the calendar and a time of day that
clocks do not skip. A time that is accepted is written as it was read, and the time that is written
for an instant is read as this instant. There are two exceptions: the second at which clocks are put
forward is written as 03:00:00, and an instant of the first pass through the hour that clocks show
twice is read as the one an hour later (`times_round_trip`).
-/

namespace LogCollector.Filter

open Calendar

/-- A part of a text, and what follows it. -/
theorem take_drop_append (value : List Char) (start count : Nat) :
    (value.drop start).take count ++ value.drop (start + count) = value.drop start := by
  rw [← List.drop_drop, List.take_append_drop]

/-- The number that a part of some digits spells, filled up with zeros, is that part. -/
theorem padded_digitsAt {value : List Char} {start count : Nat}
    (hdig : ∀ c ∈ value, c.isDigit = true) (hcount : 0 < count)
    (hlen : start + count ≤ value.length) :
    Numeral.padded count (digitsAt value start count) = (value.drop start).take count := by
  have hpart : ((value.drop start).take count).length = count := by
    rw [List.length_take, List.length_drop]
    omega
  have hdigits := Numeral.padded_ofDigitChars (List.ne_nil_of_length_pos (hpart ▸ hcount))
    fun c hc => hdig c (List.mem_of_mem_drop (List.mem_of_mem_take hc))
  rwa [hpart] at hdigits

/-- **The reading that 14 digits make up** is written as these digits. -/
theorem compact_readingOf {value : List Char} (hlen : value.length = 14)
    (hdig : ∀ c ∈ value, c.isDigit = true) : (readingOf value).compact = value := by
  have hyear : yearText (digitsAt value 0 4) = Numeral.padded 4 (digitsAt value 0 4) := by
    have hbounds := year_readingOf_bounds hlen hdig
    exact if_pos hbounds
  rw [Reading.compact, readingOf]
  simp only [hyear]
  rw [padded_digitsAt hdig (by decide) (by omega), padded_digitsAt hdig (by decide) (by omega),
    padded_digitsAt hdig (by decide) (by omega), padded_digitsAt hdig (by decide) (by omega),
    padded_digitsAt hdig (by decide) (by omega), padded_digitsAt hdig (by decide) (by omega)]
  have hlast : value.drop (12 + 2) = [] := List.drop_eq_nil_of_le (by omega)
  have hend := take_drop_append value 12 2
  rw [hlast, List.append_nil] at hend
  simp only [List.append_assoc]
  rw [hend, take_drop_append value 10 2, take_drop_append value 8 2, take_drop_append value 6 2,
    take_drop_append value 4 2, take_drop_append value 0 4, List.drop_zero]

/-- **Times of filter rules round trip through the local calendar**, in each of the zones.
Accepted are the texts of 14 digits that make up a date of the calendar and a time of day which
clocks do not skip. What is written for the instant of an accepted text is this text, or its date
with 03:00:00 in the second at which clocks are put forward. What is written for an instant of the
local years 0 to 9999 is read as this instant, or as the one an hour later in the first pass through
the hour that clocks show twice. -/
theorem times_round_trip (z : Zone) :
    (∀ value, (∃ t, localTime z value = .ok t) ↔ value.length = 14 ∧
      (∀ c ∈ value, c.isDigit = true) ∧ (readingOf value).Valid ∧ ¬ z.Skips (readingOf value)) ∧
    (∀ value t, localTime z value = .ok t → timeText? z (.unixTime t) = some (.ofList
      (if z.Forwards (readingOf value) then Reading.compact { readingOf value with hour := 3 }
      else value))) ∧
    (∀ t, 0 ≤ (Reading.ofSeconds (z.readingAt t)).date.year →
      (Reading.ofSeconds (z.readingAt t)).date.year ≤ 9999 →
      ∃ text, timeText? z (.unixTime t) = some text ∧
        localTime z text.toList = .ok (if z.FirstPass t then t + 3600 else t)) := by
  refine ⟨fun value => ?_, fun value t h => ?_, fun t h₀ h₁ => ?_⟩
  · simp only [localTime_eq_ok_iff, exists_and_left]
    refine and_congr_right fun _ => and_congr_right fun _ => and_congr_right fun hvalid => ?_
    exact Zone.exists_instantOf?_iff_not_skips hvalid
  · obtain ⟨hlen, hdig, hvalid, hinstant⟩ := localTime_eq_ok_iff.1 h
    obtain ⟨h₀, h₁⟩ := year_readingOf_bounds hlen hdig
    rw [← Reading.yearOf_seconds hvalid] at h₀ h₁
    rw [timeText?, localReading?, if_pos (isRepresentable_of_year hinstant h₀ h₁),
      Zone.ofSeconds_readingAt hvalid hinstant, Option.map_some]
    split
    · rfl
    · rw [compact_readingOf hlen hdig]
  · obtain ⟨hlo, hhi⟩ := z.readingAt_bounds t
    have hrep := isRepresentable_of_bounds hlo hhi h₀ h₁
    have hvalid := Reading.valid_ofSeconds (z.readingAt t)
    obtain ⟨hlen, hdig, hback⟩ := readingOf_compact hvalid h₀ h₁
    refine ⟨_, by rw [timeText?, localReading?, if_pos hrep, Option.map_some], ?_⟩
    rw [String.toList_ofList, localTime_eq_ok_iff, hback, Reading.seconds_ofSeconds]
    exact ⟨hlen, hdig, hvalid, z.instantOf?_readingAt_eq t⟩

/-- The second at which clocks are put forward in the eastern states. -/
theorem times_round_trip_forward :
    localTime .easternStates "20240310020000".toList = .ok 1710054000 ∧
      timeText? .easternStates (.unixTime 1710054000) = some "20240310030000" := by
  have haccepted : localTime .easternStates "20240310020000".toList = .ok 1710054000 := by
    decide +kernel
  refine ⟨haccepted, ?_⟩
  rw [(times_round_trip .easternStates).2.1 _ _ haccepted]
  decide +kernel

end LogCollector.Filter
