import LogCollector.Replay.Script

/-!
# Sessions from a script

A collaborator that plays the sessions of a script. A session that is opened suspended takes a
filter, acknowledges it with its next event and delivers records only once it is resumed.
Records before the position at which the session was asked to begin are left out, and a
session whose events are used up ends like one that has been read completely.
-/

namespace LogCollector.Replay

/-- A session that is being played. -/
structure PlayedSession where
  /-- The events still to come. -/
  events : List ScriptEvent
  /-- Whether records have to wait. -/
  suspended : Bool
  /-- Whether a filter has still to be acknowledged. -/
  ackPending : Bool
  /-- Where the session was asked to begin. -/
  start : StartPosition
  /-- The position of the last record, or 0. -/
  lastPosition : Int
  deriving DecidableEq

namespace PlayedSession

/-- Takes a filter. -/
def register (s : PlayedSession) : Except SessionFault Unit × PlayedSession :=
  if s.suspended then (.ok (), { s with ackPending := true })
  else (.error (.filterRegistration "filters can only be registered on a suspended session"), s)

/-- Lets records through. -/
def resume (s : PlayedSession) : PlayedSession := { s with suspended := false }

/-- Whether a record lies before the position at which the session was asked to begin. -/
def skips (s : PlayedSession) (r : Record) : Bool :=
  match s.start with
  | .at position => r.position < position
  | _ => false

/-- The next of some events. -/
def nextOf (s : PlayedSession) :
    List ScriptEvent → Except SessionFault SessionEvent × PlayedSession
  | [] => (.ok (.ended .endByApplication s.lastPosition), { s with events := [] })
  | .logfile _ :: rest => nextOf s rest
  | .established :: rest => (.ok .established, { s with events := rest })
  | .logSwitch file :: rest => (.ok (.logSwitch file), { s with events := rest })
  | .ended reason position :: rest =>
    (.ok (.ended reason (position.getD s.lastPosition)), { s with events := rest })
  | .record r :: rest =>
    if s.suspended then
      (.error (.invalidTransition "suspended" "record"), { s with events := .record r :: rest })
    else if s.skips r then nextOf s rest
    else (.ok (.record r), { s with events := rest, lastPosition := r.position })

/-- The next event. -/
def next (s : PlayedSession) : Except SessionFault SessionEvent × PlayedSession :=
  if s.ackPending then (.ok .filterAck, { s with ackPending := false }) else s.nextOf s.events

end PlayedSession

/-- A collaborator with a script. -/
structure Player where
  /-- The declared log files. -/
  files : List LogFile
  /-- The sessions still to be opened. -/
  sessions : List (List ScriptEvent)
  /-- The session opened last. -/
  current : Option PlayedSession
  deriving DecidableEq

namespace Player

/-- The collaborator with a whole script before it. -/
def ofScript (s : Script) : Player := ⟨s.files, s.sessions, none⟩

/-- Opens the next session. -/
def openSession (p : Player) (request : SessionRequest) : Except SessionFault Unit × Player :=
  match p.sessions with
  | [] => (.error (.openFailed request.target.name "replay script has no more sessions"), p)
  | events :: rest =>
    (.ok (), { p with
      sessions := rest
      current := some ⟨events, request.suspended, false, request.start, 0⟩ })

/-- The fault of a demand on a session when none is open. -/
def notOpen : SessionFault := .invalidTransition "closed" "session"

/-- Asks the session opened last for something. -/
def withSession {α : Type} (p : Player)
    (ask : PlayedSession → Except SessionFault α × PlayedSession) :
    Except SessionFault α × Player :=
  match p.current with
  | none => (.error notOpen, p)
  | some s =>
    let (answer, s) := ask s
    (answer, { p with current := some s })

end Player

end LogCollector.Replay
