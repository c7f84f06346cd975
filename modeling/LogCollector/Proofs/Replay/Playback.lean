import LogCollector.Proofs.Replay.Reading
import LogCollector.Replay.Session

/-!
# Playing the sessions of a script

What a session has to tell is its `transcript`: its events in order, without the records before the
position at which it was asked to begin, and an end. A session may be asked for events and let go at
any time (`Demand`). Whatever it is asked for, it tells its transcript from the first event on, and
nothing is lost or told twice; only a suspended session makes whoever asks for a record wait
(`answers`). Each demand takes the first event off what is `ahead` of a session (`Taken`), and a
whole schedule of demands is played by induction.
-/

namespace LogCollector.Replay

/-! ### What a session has to tell -/

/-- Whether an event is a record. -/
def ScriptEvent.isRecord : ScriptEvent → Bool
  | .record _ => true
  | _ => false

/-- How a script ends a session. -/
def ScriptEvent.end? : ScriptEvent → Option (EndReason × Option Int)
  | .ended reason position => some (reason, position)
  | _ => none

/-- Whether a record lies before the position at which a session begins. -/
def precedes (r : Record) : StartPosition → Bool
  | .at position => r.position < position
  | _ => false

/-- What is told of an event that is no end; records before the beginning are left out. -/
def ScriptEvent.told? (origin : StartPosition) : ScriptEvent → Option SessionEvent
  | .established => some .established
  | .logSwitch file => some (.logSwitch file)
  | .record r => if precedes r origin then none else some (.record r)
  | _ => none

/-- The position of a record that is told. -/
def recordPosition? : SessionEvent → Option Int
  | .record r => some r.position
  | _ => none

/-- All that a session tells: its events, and an end. The end is at the position that the script
gives, or else at that of the last record told, or at the position known before. -/
def transcript (known : Int) (origin : StartPosition) (session : List ScriptEvent) :
    List SessionEvent :=
  let told := session.filterMap (ScriptEvent.told? origin)
  let position := (told.filterMap recordPosition?).getLast?.getD known
  told ++ [match session.getLast?.bind ScriptEvent.end? with
    | some (reason, scripted) => .ended reason (scripted.getD position)
    | none => .ended .endByApplication position]

section

variable {known : Int} {origin : StartPosition} {e : ScriptEvent} {session : List ScriptEvent}

theorem transcript_nil : transcript known origin [] = [.ended .endByApplication known] := rfl

theorem transcript_ended {reason : EndReason} {position : Option Int} :
    transcript known origin [.ended reason position] =
      [.ended reason (position.getD known)] := rfl

/-- An event in front of a session does not change how it ends. -/
theorem getLast?_bind_end? (h : e.end? = none) :
    (e :: session).getLast?.bind ScriptEvent.end? = session.getLast?.bind ScriptEvent.end? := by
  cases session with
  | nil => exact h
  | cons _ _ => rw [List.getLast?_cons_cons]

/-- An event of which nothing is told. -/
theorem transcript_cons_of_none (hend : e.end? = none) (htold : e.told? origin = none) :
    transcript known origin (e :: session) = transcript known origin session := by
  rw [transcript, transcript, getLast?_bind_end? hend, List.filterMap_cons_none htold]

/-- An event that is told comes first, and a record is the one that is known behind it. -/
theorem transcript_cons_of_some {event : SessionEvent} (hend : e.end? = none)
    (htold : e.told? origin = some event) :
    transcript known origin (e :: session) =
      event :: transcript ((recordPosition? event).getD known) origin session := by
  rw [transcript, transcript, getLast?_bind_end? hend, List.filterMap_cons_some htold]
  cases hposition : recordPosition? event with
  | none => rw [List.filterMap_cons_none hposition]; rfl
  | some position =>
    rw [List.filterMap_cons_some hposition, List.getLast?_cons, Option.getD_some, Option.getD_some]
    rfl

end

/-! ### What a session is asked for -/

/-- What a session may be asked for. -/
inductive Demand where
  /-- It is let go. -/
  | resume
  /-- It is asked for an event. -/
  | next
  deriving DecidableEq

/-- The answers to the demands for events among some demands; nobody asks a session that has
ended. -/
def Player.play : List Demand → Player → List (Except SessionFault SessionEvent)
  | [], _ => []
  | .resume :: ds, p => play ds (p.withSession fun s => (.ok (), s.resume)).2
  | .next :: ds, p =>
    match p.withSession (·.next) with
    | (.ok (.ended reason position), _) => [.ok (.ended reason position)]
    | (answer, p) => answer :: play ds p

/-- The answers of a session that has some events to tell. Before it is let go it tells as many as
`wait` says, if that is a number, and then makes whoever asks wait. -/
def answers (wait : Option Nat) (events : List SessionEvent) (ds : List Demand) :
    List (Except SessionFault SessionEvent) :=
  match wait with
  | none => (events.take (ds.count .next)).map .ok
  | some free =>
    let early := (ds.takeWhile (· = .next)).length
    (events.take (min free early)).map .ok ++
      .replicate (early - free) (.error (.invalidTransition "suspended" "record")) ++
      ((events.drop (min free early)).take ((ds.dropWhile (· = .next)).count .next)).map .ok

section

variable {wait : Option Nat} {event : SessionEvent} {events : List SessionEvent} {ds : List Demand}

theorem answers_nil : answers wait events [] = [] := by
  cases wait <;> simp [answers]

/-- A session that is let go makes nobody wait. -/
theorem answers_resume : answers wait events (.resume :: ds) = answers none events ds := by
  cases wait <;> simp [answers]

/-- Whoever asks for a record too early has to wait. -/
theorem answers_next_wait : answers (some 0) events (.next :: ds) =
    .error (.invalidTransition "suspended" "record") :: answers (some 0) events ds := by
  simp [answers, List.replicate_succ]

/-- The first event is told. -/
theorem answers_next_told : answers (wait.map (· + 1)) (event :: events) (.next :: ds) =
    .ok event :: answers wait events ds := by
  cases wait with
  | none => simp [answers]
  | some free => simp [answers, Nat.succ_min_succ]

theorem answers_replicate (n : Nat) :
    answers none events (.replicate n .next) = (events.take n).map .ok := by
  simp [answers]

theorem answers_next_last : answers none [event] (.next :: ds) = [.ok event] := by
  simp [answers]

end

/-! ### One demand -/

/-- Events that can be played as a session: no log files, and an end only at the end. -/
structure Playable (events : List ScriptEvent) : Prop where
  /-- Log files belong to no session. -/
  files : ∀ e ∈ events, e.file? = none
  /-- Only the last event ends the session. -/
  ends : ∀ e ∈ events.dropLast, e.isEnd = false

namespace Playable

variable {e : ScriptEvent} {events : List ScriptEvent}

theorem tail (h : Playable (e :: events)) : Playable events where
  files e' he' := h.files e' (List.mem_cons_of_mem e he')
  ends e' he' := by
    cases events with
    | nil => cases he'
    | cons next later =>
      refine h.ends e' ?_
      rw [List.dropLast_cons_cons]
      exact List.mem_cons_of_mem e he'

/-- Nothing comes behind an end. -/
theorem eq_nil_of_end {reason : EndReason} {position : Option Int}
    (h : Playable (.ended reason position :: events)) : events = [] := by
  cases events with
  | nil => rfl
  | cons next later =>
    have hend : (ScriptEvent.ended reason position).isEnd = false :=
      h.ends _ (by rw [List.dropLast_cons_cons]; exact List.mem_cons_self)
    cases hend

end Playable

namespace PlayedSession

variable {s t s' : PlayedSession} {answer : Except SessionFault SessionEvent}

/-- All that a session has still to tell. -/
def ahead (s : PlayedSession) : List SessionEvent :=
  (if s.ackPending then [.filterAck] else []) ++ transcript s.lastPosition s.start s.events

/-- How much a session tells before it makes others wait, if it does so. -/
def wait (s : PlayedSession) : Option Nat :=
  if s.suspended then
    (s.events.findIdx? ScriptEvent.isRecord).map (· + if s.ackPending then 1 else 0)
  else none

/-- What comes of a demand for an event. -/
inductive Taken (s : PlayedSession) :
    Except SessionFault SessionEvent → PlayedSession → Prop where
  /-- The next event is a record, and the session is suspended: nothing changes. -/
  | held : s.wait = some 0 → Taken s (.error (.invalidTransition "suspended" "record")) s
  /-- The end is told, and it is all that there was to be told. -/
  | last {s' : PlayedSession} {reason : EndReason} {position : Int} : s.wait = none →
      s.ahead = [.ended reason position] → Taken s (.ok (.ended reason position)) s'
  /-- The first event is told, and the others remain. -/
  | told {s' : PlayedSession} {event : SessionEvent} :
      (∀ reason position, event ≠ .ended reason position) → s.wait = s'.wait.map (· + 1) →
      s.ahead = event :: s'.ahead → Playable s'.events → Taken s (.ok event) s'

/-- Of a session that makes nobody wait only what it has still to tell matters. -/
theorem Taken.congr (h : Taken s answer s') (hs : s.wait = none) (ht : t.wait = none)
    (hahead : t.ahead = s.ahead) : Taken t answer s' := by
  cases h with
  | held hwait =>
    rw [hs] at hwait
    cases hwait
  | last _ hlast => exact .last ht (hahead.trans hlast)
  | told hevent hwait htold hplayable =>
    exact .told hevent ((ht.trans hs.symm).trans hwait) (hahead.trans htold) hplayable

theorem wait_of_not_suspended (h : s.suspended = false) : s.wait = none := by
  rw [wait, h]
  rfl

/-- An event that is no record and no end is told if it is the first one. -/
theorem taken_of_told {e : ScriptEvent} {rest : List ScriptEvent} {event : SessionEvent}
    (hplayable : Playable (e :: rest)) (hack : s.ackPending = false) (hend : e.end? = none)
    (hrecord : e.isRecord = false) (htold : e.told? s.start = some event)
    (hposition : recordPosition? event = none)
    (hevent : ∀ reason position, event ≠ .ended reason position) :
    Taken { s with events := e :: rest } (.ok event) { s with events := rest } := by
  refine .told hevent ?_ ?_ hplayable.tail
  · simp only [wait, hack, List.findIdx?_cons, hrecord]
    cases s.suspended <;> cases rest.findIdx? ScriptEvent.isRecord <;> rfl
  · simp only [ahead, hack, transcript_cons_of_some hend htold, hposition]
    rfl

/-- A session without a pending acknowledgement goes through its events. -/
theorem taken_nextOf {events : List ScriptEvent} (hplayable : Playable events)
    (hack : s.ackPending = false) :
    Taken { s with events := events } (s.nextOf events).1 (s.nextOf events).2 := by
  induction events with
  | nil =>
    refine .last ?_ ?_
    · simp [wait]
    · simp [ahead, hack, transcript_nil]
  | cons e rest ih =>
    cases e with
    | logfile f => cases hplayable.files (.logfile f) List.mem_cons_self
    | established => exact taken_of_told hplayable hack rfl rfl rfl rfl nofun
    | logSwitch file => exact taken_of_told hplayable hack rfl rfl rfl rfl nofun
    | ended reason position =>
      obtain rfl := hplayable.eq_nil_of_end
      refine .last ?_ ?_
      · simp [wait, ScriptEvent.isRecord]
      · simp [ahead, hack, transcript_ended]
    | record r =>
      by_cases hsuspended : s.suspended = true
      · have hwait : ({ s with events := .record r :: rest } : PlayedSession).wait = some 0 := by
          simp [wait, hsuspended, hack, List.findIdx?_cons, ScriptEvent.isRecord]
        rw [nextOf, if_pos hsuspended]
        exact .held hwait
      · rw [nextOf, if_neg hsuspended]
        rw [Bool.not_eq_true] at hsuspended
        by_cases hskips : s.skips r = true
        · have htold : (ScriptEvent.record r).told? s.start = none := if_pos hskips
          rw [if_pos hskips]
          refine (ih hplayable.tail).congr (wait_of_not_suspended hsuspended)
            (wait_of_not_suspended hsuspended) ?_
          simp only [ahead]
          rw [transcript_cons_of_none rfl htold]
        · have htold : (ScriptEvent.record r).told? s.start = some (.record r) := if_neg hskips
          rw [if_neg hskips]
          refine .told nofun ?_ ?_ hplayable.tail
          · simp [wait, hsuspended]
          · simp only [ahead, hack]
            rw [transcript_cons_of_some rfl htold]
            rfl

/-- **One demand for an event.** -/
theorem taken_next (hplayable : Playable s.events) : Taken s s.next.1 s.next.2 := by
  cases hack : s.ackPending with
  | false =>
    rw [next, hack, if_neg Bool.false_ne_true]
    exact taken_nextOf hplayable hack
  | true =>
    rw [next, if_pos hack]
    refine .told nofun ?_ ?_ hplayable
    · simp only [wait, hack]
      cases s.suspended <;> cases s.events.findIdx? ScriptEvent.isRecord <;> rfl
    · simp only [ahead, hack]
      rfl

end PlayedSession

/-! ### Any demands -/

namespace Player

variable {p : Player} {s : PlayedSession}

theorem withSession_of_current {α : Type} (h : p.current = some s)
    (ask : PlayedSession → Except SessionFault α × PlayedSession) :
    p.withSession ask = ((ask s).1, { p with current := some (ask s).2 }) := by
  rw [withSession, h]

/-- **Whatever a session is asked for**, it tells what is ahead of it. -/
theorem play_eq (ds : List Demand) (h : p.current = some s) (hplayable : Playable s.events) :
    p.play ds = answers s.wait s.ahead ds := by
  induction ds generalizing p s with
  | nil => rw [play, answers_nil]
  | cons d ds ih =>
    cases d with
    | resume =>
      have hresumed := PlayedSession.wait_of_not_suspended (s := s.resume) rfl
      rw [play, withSession_of_current h, answers_resume, ← hresumed]
      exact ih (s := s.resume) rfl hplayable
    | next =>
      rw [play, withSession_of_current h]
      have htaken := PlayedSession.taken_next hplayable
      generalize s.next = taken at htaken ⊢
      obtain ⟨answer, s'⟩ := taken
      cases htaken with
      | held hwait =>
        have hplay := ih (p := { p with current := some s' }) rfl hplayable
        rw [hwait] at hplay ⊢
        rw [answers_next_wait, ← hplay]
      | last hwait hlast => rw [hwait, hlast, answers_next_last]
      | @told _ event hevent hwait htold hplayable' =>
        have hplay := ih (p := { p with current := some s' }) rfl hplayable'
        rw [hwait, htold, answers_next_told, ← hplay]
        cases event with
        | ended reason position => exact absurd rfl (hevent reason position)
        | _ => rfl

/-! ### Whole scripts -/

/-- The player once its next session has been opened. -/
def opened (p : Player) (request : SessionRequest) : Player := (p.openSession request).2

/-- The player once its next session has been opened and has been given a filter. -/
def filtered (p : Player) (request : SessionRequest) : Player :=
  ((p.opened request).withSession (·.register)).2

/-- The next session of a player, opened by a request, reproduces a session of the script. -/
structure Reproduces (p : Player) (request : SessionRequest) (session : List ScriptEvent)
    (later : List (List ScriptEvent)) : Prop where
  /-- The session can be opened. -/
  opens : (p.openSession request).1 = .ok ()
  /-- Those behind it remain. -/
  remain : (p.opened request).sessions = later
  /-- It takes a filter if it is suspended. -/
  takesFilter : ((p.opened request).withSession (·.register)).1 = .ok () ↔ request.suspended = true
  /-- Unless it is suspended it tells its transcript, if only it is asked for long enough. -/
  plain : request.suspended = false → ∀ n, (transcript 0 request.start session).length ≤ n →
    (p.opened request).play (.replicate n .next) = (transcript 0 request.start session).map .ok
  /-- With a filter it acknowledges this first, and then, once it is let go, tells its
  transcript. -/
  acknowledged : request.suspended = true → ∀ n, (transcript 0 request.start session).length ≤ n →
    (p.filtered request).play (.next :: .resume :: .replicate n .next) =
      .ok .filterAck :: (transcript 0 request.start session).map .ok
  /-- Any demands without a filter: whoever asks a suspended session for a record has to wait, and
  nothing is lost. -/
  anyDemands : ∀ ds, (p.opened request).play ds =
    answers (if request.suspended then session.findIdx? ScriptEvent.isRecord else none)
      (transcript 0 request.start session) ds
  /-- Any demands with a filter. -/
  anyFiltered : request.suspended = true → ∀ ds, (p.filtered request).play ds =
    answers ((session.findIdx? ScriptEvent.isRecord).map (· + 1))
      (.filterAck :: transcript 0 request.start session) ds

variable {request : SessionRequest} {session : List ScriptEvent} {later : List (List ScriptEvent)}

theorem reproduces_of_playable (hplayable : Playable session) (h : p.sessions = session :: later) :
    p.Reproduces request session later := by
  have hopen : p.openSession request = (.ok (), { p with
      sessions := later
      current := some ⟨session, request.suspended, false, request.start, 0⟩ }) := by
    rw [openSession, h]
  have hcurrent : (p.opened request).current =
      some ⟨session, request.suspended, false, request.start, 0⟩ := by
    rw [opened, hopen]
  have hregister := withSession_of_current hcurrent (·.register)
  have hplay : ∀ ds, (p.opened request).play ds =
      answers (if request.suspended then session.findIdx? ScriptEvent.isRecord else none)
        (transcript 0 request.start session) ds := by
    intro ds
    rw [play_eq ds hcurrent hplayable]
    simp [PlayedSession.wait, PlayedSession.ahead]
  have hfiltered : request.suspended = true → ∀ ds, (p.filtered request).play ds =
      answers ((session.findIdx? ScriptEvent.isRecord).map (· + 1))
        (.filterAck :: transcript 0 request.start session) ds := by
    intro hsuspended ds
    have hnow : (p.filtered request).current =
        some ⟨session, request.suspended, true, request.start, 0⟩ := by
      rw [filtered, hregister]
      simp [PlayedSession.register, hsuspended]
    rw [play_eq ds hnow hplayable]
    simp [PlayedSession.wait, PlayedSession.ahead, hsuspended]
  refine ⟨by rw [hopen], by rw [opened, hopen], ?_, fun hsuspended n hn => ?_,
    fun hsuspended n hn => ?_, hplay, hfiltered⟩
  · rw [hregister]
    cases hsuspended : request.suspended <;> simp [PlayedSession.register]
  · rw [hplay, hsuspended, if_neg Bool.false_ne_true, answers_replicate, List.take_of_length_le hn]
  · rw [hfiltered hsuspended, answers_next_told, answers_resume, answers_replicate,
      List.take_of_length_le hn]

end Player

/-- The sessions of a script can be played. -/
theorem Script.Follows.playable {script : Script} {es session : List ScriptEvent}
    (h : script.Follows es) (hsession : session ∈ script.sessions) : Playable session where
  files e he := by
    have hflat : e ∈ script.sessions.flatten := List.mem_flatten.2 ⟨session, hsession, he⟩
    rw [h.events] at hflat
    simpa using (List.mem_filter.1 hflat).2
  ends := h.ends session hsession

/-- **Playing reproduces the script.** A script cannot be read exactly if a line that counts has no
event, and then the first such line is named. Otherwise its log files and sessions are those of its
events; and every session, opened from any position, tells these events. -/
theorem replay_reproduces_script (text : String) :
    (∀ f, Script.parse text = .error f ↔ ∃ before line after,
      Text.lines text.toList = before ++ line :: after ∧
        (∀ l ∈ before, Counts l → (eventIn? l).isSome) ∧ Counts line ∧ eventIn? line = none ∧
        f = .replay (before.length + 1) "invalid event") ∧
    ∀ script, Script.parse text = .ok script →
      (∃ es, Recorded (Text.lines text.toList) es ∧ script.Follows es) ∧
      ∀ session ∈ script.sessions, ∀ (p : Player) later, p.sessions = session :: later →
        ∀ request, p.Reproduces request session later := by
  refine ⟨fun f => ?_, fun script h => ?_⟩
  · rw [Script.parse_eq_error_iff, Script.events_eq_error_iff]
    simp only [Nat.add_comm 1]
  · obtain ⟨es, hrecorded, hfollows⟩ := Script.follows_of_parse h
    refine ⟨⟨es, hrecorded, hfollows⟩, fun session hsession p later hp request => ?_⟩
    exact Player.reproduces_of_playable (hfollows.playable hsession) hp

/-! ### A script -/

/-- A script with a log file and two sessions; the second one is not ended. -/
def twoSessions : String :=
  .ofList <| Text.join ['\n'] <| List.map String.toList
    ["# two sessions",
      "\x7b\"event\":\"logfile\",\"name\":\"fw.log\",\"file_id\":0\x7d",
      "",
      "\x7b\"event\":\"established\"\x7d",
      "\x7b\"event\":\"record\",\"position\":4,\"fields\":[]\x7d",
      "\x7b\"event\":\"record\",\"position\":7,\"fields\":[]\x7d",
      "\x7b\"event\":\"end\",\"reason\":\"comm_failure\"\x7d",
      " \x7b\"event\":\"record\",\"position\":9,\"fields\":[]\x7d "]

/-- A request for a suspended session from a position on. -/
def suspendedFrom (position : Int) : SessionRequest :=
  ⟨⟨"fw.log", 0⟩, .at position, .traffic, false, false, true, .unspecified⟩

/-- The first session, begun behind its first record, and the second one. -/
theorem replay_reproduces_script_two :
    let first : List ScriptEvent := [.established, .record ⟨4, []⟩, .record ⟨7, []⟩,
      .ended .commFailure none]
    let second : List ScriptEvent := [.record ⟨9, []⟩]
    Script.parse twoSessions = .ok ⟨[⟨"fw.log", 0⟩], [first, second]⟩ ∧
      (Player.filtered ⟨[⟨"fw.log", 0⟩], [first, second], none⟩ (suspendedFrom 5)).play
          [.next, .resume, .next, .next, .next] =
        [.ok .filterAck, .ok .established, .ok (.record ⟨7, []⟩), .ok (.ended .commFailure 7)] ∧
      Player.Reproduces ⟨[⟨"fw.log", 0⟩], [second], none⟩ (suspendedFrom 5) second [] := by
  intro first second
  have hparse : Script.parse twoSessions = .ok ⟨[⟨"fw.log", 0⟩], [first, second]⟩ := by
    rw [Script.parse, twoSessions, String.toList_ofList]
    decide +kernel
  have hreproduces := ((replay_reproduces_script twoSessions).2 _ hparse).2
  refine ⟨hparse, ?_, ?_⟩
  · exact (hreproduces first (by decide) _ [second] rfl (suspendedFrom 5)).acknowledged rfl 3
      (Nat.le_refl 3)
  · exact hreproduces second (by decide) _ [] rfl (suspendedFrom 5)

end LogCollector.Replay
