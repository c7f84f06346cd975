import LogCollector.Proofs.Fallible
import LogCollector.Replay.Script

/-!
# Reading scripts

A line of a script counts for nothing or ought to have an event (`Counts`, `eventIn?`). A script is
read exactly when every line that counts has its event, and otherwise the fault names the first line
that has none. The events fall apart into log files and sessions in the one way that
`Script.Follows` describes.
-/

namespace LogCollector.Replay

/-! ### Lines -/

/-- Whether a line counts: it is neither blank nor a comment. -/
def Counts (line : List Char) : Prop :=
  Text.trim line ≠ [] ∧ (Text.trim line).head? ≠ some '#'

instance (line : List Char) : Decidable (Counts line) := inferInstanceAs (Decidable (_ ∧ _))

/-- The event that the text of a line stands for. -/
def eventIn? (line : List Char) : Option ScriptEvent :=
  (Json.parse? (Text.trim line)).bind ScriptEvent.ofJson?

/-- The events of the lines that count, if each of them has one. -/
def Recorded (lines : List (List Char)) (es : List ScriptEvent) : Prop :=
  List.Forall₂ (fun line e => eventIn? line = some e) (lines.filter (Counts ·)) es

section

variable {line : List Char} {lines : List (List Char)} {es : List ScriptEvent}

theorem recorded_cons_of_counts (h : Counts line) : Recorded (line :: lines) es ↔
    ∃ e rest, eventIn? line = some e ∧ Recorded lines rest ∧ es = e :: rest := by
  rw [Recorded, List.filter_cons_of_pos (by simpa using h), List.forall₂_cons_left_iff]
  rfl

theorem recorded_cons_of_not_counts (h : ¬ Counts line) :
    Recorded (line :: lines) es ↔ Recorded lines es := by
  rw [Recorded, List.filter_cons_of_neg (by simpa using h)]
  rfl

end

namespace Script

variable {line : List Char} {lines : List (List Char)} {es : List ScriptEvent} {f : RunFault}

/-- A line that does not count is passed over. -/
theorem events_cons_of_not_counts {number : Nat} (h : ¬ Counts line) :
    events number (line :: lines) = events (number + 1) lines := by
  have hempty : (Text.trim line).isEmpty || (Text.trim line).head? == some '#' := by
    simpa [Counts, imp_iff_not_or] using h
  rw [events, eventOn?, if_pos hempty]
  cases events (number + 1) lines with
  | error f => rfl
  | ok es => rfl

/-- A line that counts has its event, or it is at fault. -/
theorem events_cons_of_counts {number : Nat} (h : Counts line) :
    events number (line :: lines) =
      match eventIn? line with
      | some e => (events (number + 1) lines).map (e :: ·)
      | none => .error (.replay number "invalid event") := by
  have hempty : ¬ ((Text.trim line).isEmpty || (Text.trim line).head? == some '#') := by
    simpa [Counts] using h
  rw [events, eventOn?, if_neg hempty, ← eventIn?]
  cases eventIn? line with
  | none => rfl
  | some e => rfl

/-- **Lines are read** when each one that counts has its event. -/
theorem events_eq_ok_iff {number : Nat} : events number lines = .ok es ↔ Recorded lines es := by
  induction lines generalizing number es with
  | nil =>
    rw [events, Except.ok.injEq, Recorded, List.filter_nil, List.forall₂_nil_left_iff, eq_comm]
  | cons line lines ih =>
    by_cases hline : Counts line
    · rw [events_cons_of_counts hline, recorded_cons_of_counts hline]
      cases hevent : eventIn? line with
      | none => simp
      | some e =>
        constructor
        · intro h
          cases hrest : events (number + 1) lines with
          | error f =>
            rw [hrest] at h
            cases h
          | ok rest =>
            rw [hrest] at h
            exact ⟨e, rest, rfl, ih.1 hrest, (Except.ok.inj h).symm⟩
        · rintro ⟨e', rest, he, hrest, rfl⟩
          obtain rfl := Option.some.inj he
          show (events (number + 1) lines).map (e :: ·) = _
          rw [ih.2 hrest]
          rfl
    · rw [events_cons_of_not_counts hline, recorded_cons_of_not_counts hline]
      exact ih

/-- **The first line without its event** is the one that is named. -/
theorem events_eq_error_iff {number : Nat} : events number lines = .error f ↔
    ∃ before line after, lines = before ++ line :: after ∧
      (∀ l ∈ before, Counts l → (eventIn? l).isSome) ∧ Counts line ∧ eventIn? line = none ∧
      f = .replay (number + before.length) "invalid event" := by
  induction lines generalizing number with
  | nil => simp [events]
  | cons line lines ih =>
    -- A line that is not at fault stands in front of the one that is.
    have hfront : (Counts line → (eventIn? line).isSome) →
        (events (number + 1) lines = .error f ↔
          ∃ before bad after, line :: lines = before ++ bad :: after ∧
            (∀ l ∈ before, Counts l → (eventIn? l).isSome) ∧ Counts bad ∧ eventIn? bad = none ∧
            f = .replay (number + before.length) "invalid event") := by
      intro hline
      rw [ih]
      constructor
      · rintro ⟨before, bad, after, rfl, hbefore, hcounts, hbad, rfl⟩
        refine ⟨line :: before, bad, after, rfl, List.forall_mem_cons.2 ⟨hline, hbefore⟩, hcounts,
          hbad, ?_⟩
        rw [List.length_cons, Nat.add_right_comm, Nat.add_assoc]
      · rintro ⟨before, bad, after, hsplit, hbefore, hcounts, hbad, rfl⟩
        cases before with
        | nil =>
          obtain ⟨rfl, rfl⟩ := List.cons.inj hsplit
          have hsome := hline hcounts
          rw [hbad] at hsome
          cases hsome
        | cons first before =>
          obtain ⟨rfl, rfl⟩ := List.cons.inj hsplit
          refine ⟨before, bad, after, rfl, (List.forall_mem_cons.1 hbefore).2, hcounts, hbad, ?_⟩
          rw [List.length_cons, Nat.add_right_comm, Nat.add_assoc]
    by_cases hcounts : Counts line
    · rw [events_cons_of_counts hcounts]
      cases hevent : eventIn? line with
      | none =>
        constructor
        · intro h
          exact ⟨[], line, lines, rfl, List.forall_mem_nil _, hcounts, hevent,
            (Except.error.inj h).symm⟩
        · rintro ⟨before, bad, after, hsplit, hbefore, -, -, rfl⟩
          cases before with
          | nil => rfl
          | cons first before =>
            obtain ⟨rfl, rfl⟩ := List.cons.inj hsplit
            have hsome := (List.forall_mem_cons.1 hbefore).1 hcounts
            rw [hevent] at hsome
            cases hsome
      | some e =>
        rw [← hfront fun _ => hevent ▸ rfl]
        cases events (number + 1) lines with
        | error g => exact ⟨id, id⟩
        | ok es => exact iff_of_false nofun nofun
    · rw [events_cons_of_not_counts hcounts]
      exact hfront fun h => absurd h hcounts

end Script

/-! ### Sessions -/

/-- The log file that an event declares. -/
def ScriptEvent.file? : ScriptEvent → Option LogFile
  | .logfile f => some f
  | _ => none

/-- A script whose log files and sessions are those of some events. -/
structure Script.Follows (script : Script) (es : List ScriptEvent) : Prop where
  /-- The log files are those that are declared, in order. -/
  files : script.files = es.filterMap ScriptEvent.file?
  /-- The sessions, one behind the other, are all other events, in order. -/
  events : script.sessions.flatten = es.filter (·.file?.isNone)
  /-- Every session has events. -/
  nonempty : ∀ session ∈ script.sessions, session ≠ []
  /-- A session ends with its last event only. -/
  ends : ∀ session ∈ script.sessions, ∀ e ∈ session.dropLast, e.isEnd = false
  /-- Every session but the last one does end. -/
  closed : ∀ session ∈ script.sessions.dropLast, ∃ e ∈ session.getLast?, e.isEnd = true

namespace Script

variable {current es : List ScriptEvent}

theorem flatten_split : (split current es).flatten = current.reverse ++ es := by
  induction es generalizing current with
  | nil =>
    rw [split]
    split
    · rename_i hempty
      rw [List.isEmpty_iff.1 hempty]
      rfl
    · simp
  | cons e es ih =>
    rw [split]
    split
    · rw [List.flatten_cons, ih]
      simp
    · rw [ih]
      simp

theorem ne_nil_of_mem_split {session : List ScriptEvent} (h : session ∈ split current es) :
    session ≠ [] := by
  induction es generalizing current with
  | nil =>
    rw [split] at h
    split at h
    · cases h
    · rename_i hcurrent
      rw [List.mem_singleton.1 h, ne_eq, List.reverse_eq_nil_iff]
      exact fun hnil => hcurrent (List.isEmpty_iff.2 hnil)
  | cons e es ih =>
    rw [split] at h
    split at h
    · obtain rfl | h := List.mem_cons.1 h
      · exact fun hnil => List.cons_ne_nil e current (List.reverse_eq_nil_iff.1 hnil)
      · exact ih h
    · exact ih h

/-- As long as the current session has not ended, an end is the last event of its session. -/
theorem ends_split (hcurrent : ∀ e ∈ current, e.isEnd = false) :
    ∀ session ∈ split current es, ∀ e ∈ session.dropLast, e.isEnd = false := by
  induction es generalizing current with
  | nil =>
    intro session hsession e he
    rw [split] at hsession
    split at hsession
    · cases hsession
    · rw [List.mem_singleton.1 hsession] at he
      exact hcurrent e (List.mem_reverse.1 (List.dropLast_subset _ he))
  | cons e es ih =>
    intro session hsession
    rw [split] at hsession
    split at hsession
    · obtain rfl | hsession := List.mem_cons.1 hsession
      · intro e' he'
        rw [List.reverse_cons, List.dropLast_concat, List.mem_reverse] at he'
        exact hcurrent e' he'
      · exact ih (List.forall_mem_nil _) session hsession
    · rename_i he
      exact ih (List.forall_mem_cons.2 ⟨Bool.eq_false_iff.2 he, hcurrent⟩) session hsession

/-- A session behind which another one begins has ended. -/
theorem closed_split :
    ∀ session ∈ (split current es).dropLast, ∃ e ∈ session.getLast?, e.isEnd = true := by
  induction es generalizing current with
  | nil =>
    intro session hsession
    rw [split] at hsession
    split at hsession <;> cases hsession
  | cons e es ih =>
    intro session hsession
    rw [split] at hsession
    split at hsession
    · rename_i he
      cases hrest : split [] es with
      | nil =>
        rw [hrest] at hsession
        cases hsession
      | cons next later =>
        rw [hrest, List.dropLast_cons_cons, ← hrest] at hsession
        obtain rfl | hsession := List.mem_cons.1 hsession
        · exact ⟨e, by simp, he⟩
        · exact ih session hsession
    · exact ih session hsession

/-- **The script with some events** follows them. -/
theorem follows_ofEvents (es : List ScriptEvent) : (ofEvents es).Follows es where
  files := rfl
  events := by
    rw [ofEvents, flatten_split, List.reverse_nil, List.nil_append]
    refine List.filter_congr fun e _ => ?_
    cases e <;> rfl
  nonempty _ := ne_nil_of_mem_split
  ends := ends_split (List.forall_mem_nil _)
  closed := closed_split

/-- **When a script is read**, and what it is. -/
theorem follows_of_parse {text : String} {script : Script} (h : parse text = .ok script) :
    ∃ es, Recorded (Text.lines text.toList) es ∧ script.Follows es := by
  rw [parse] at h
  cases hevents : events 1 (Text.lines text.toList) with
  | error f =>
    rw [hevents] at h
    cases h
  | ok es =>
    rw [hevents] at h
    obtain rfl := Except.ok.inj h
    exact ⟨es, events_eq_ok_iff.1 hevents, follows_ofEvents es⟩

/-- The fault of a script is that of its lines. -/
theorem parse_eq_error_iff {text : String} {f : RunFault} :
    parse text = .error f ↔ events 1 (Text.lines text.toList) = .error f := by
  rw [parse]
  cases events 1 (Text.lines text.toList) with
  | error g =>
    show (Except.error g : Except RunFault Script) = _ ↔ _
    rw [Except.error.injEq, Except.error.injEq]
  | ok es => exact iff_of_false nofun nofun

end Script

end LogCollector.Replay
