import LogCollector.Replay.Session

/-!
# Collaborators on a stage

A collaborator plays either the sessions of a script or prepared scenes. A scene is a session
that also fails where a script would not: when it is opened, takes a filter, is resumed, or is
asked for an event.
-/

namespace LogCollector.Stage

/-- A prepared session. -/
structure Scene where
  /-- Why it cannot be opened. -/
  openError : Option String
  /-- Its events; one that is missing stands for a fault. -/
  events : List (Option SessionEvent)
  /-- Why it takes no filter. -/
  registerError : Option String
  /-- Why it cannot be resumed. -/
  resumeError : Option String
  /-- Whether filters go without acknowledgement. -/
  silent : Bool

/-- A fault with a prepared reason, if there is one. -/
def refuse (fault : String → SessionFault) : Option String → Except SessionFault Unit
  | some reason => .error (fault reason)
  | none => .ok ()

namespace Scene

/-- A scene without events. -/
def empty : Scene := ⟨none, [], none, none, false⟩

/-- Takes a filter. -/
def register (s : Scene) : Except SessionFault Unit × Scene :=
  (refuse .filterRegistration s.registerError,
    if s.registerError.isSome || s.silent then s
    else { s with events := some .filterAck :: s.events })

/-- Gives the next event. -/
def next (s : Scene) : Except SessionFault SessionEvent × Scene :=
  match s.events with
  | some e :: rest => (.ok e, { s with events := rest })
  | events => (.error (.terminated "script exhausted"), { s with events := events.tail })

end Scene

/-- A collaborator with prepared scenes. -/
structure Troupe where
  /-- The log files of the server. -/
  files : List LogFile
  /-- Why they cannot be listed. -/
  listError : Option String
  /-- The scenes still to be opened. -/
  scenes : List Scene
  /-- The scene opened last. -/
  current : Scene

namespace Troupe

/-- A collaborator without scenes. -/
def empty : Troupe := ⟨[], none, [], .empty⟩

/-- Lists the log files. -/
def list (t : Troupe) : Except SessionFault (List LogFile) :=
  (refuse (.openFailed "list") t.listError).map fun () => t.files

/-- Opens the next scene. -/
def openSession (t : Troupe) (request : SessionRequest) : Except SessionFault Unit × Troupe :=
  match t.scenes with
  | [] => (.error (.openFailed request.target.name "connection refused"), t)
  | scene :: rest =>
    (refuse (.openFailed request.target.name) scene.openError,
      { t with scenes := rest, current := scene })

end Troupe

/-- A collaborator. -/
inductive Collaborator where
  /-- It plays a script. -/
  | script (player : Replay.Player)
  /-- It plays prepared scenes. -/
  | scenes (troupe : Troupe)

namespace Collaborator

/-- Lists the log files. -/
def list : Collaborator → Except SessionFault (List LogFile)
  | .script p => .ok p.files
  | .scenes t => t.list

/-- Opens the next session. -/
def openSession (request : SessionRequest) : Collaborator → Except SessionFault Unit × Collaborator
  | .script p => let (r, p) := p.openSession request; (r, .script p)
  | .scenes t => let (r, t) := t.openSession request; (r, .scenes t)

/-- Hands a filter to the session opened last. -/
def register : Collaborator → Except SessionFault Unit × Collaborator
  | .script p => let (r, p) := p.withSession (·.register); (r, .script p)
  | .scenes t => let (r, s) := t.current.register; (r, .scenes { t with current := s })

/-- Lets the session opened last deliver records. -/
def resume : Collaborator → Except SessionFault Unit × Collaborator
  | .script p => let (r, p) := p.withSession fun s => (.ok (), s.resume); (r, .script p)
  | .scenes t => (refuse .terminated t.current.resumeError, .scenes t)

/-- Asks the session opened last for an event. -/
def next : Collaborator → Except SessionFault SessionEvent × Collaborator
  | .script p => let (r, p) := p.withSession (·.next); (r, .script p)
  | .scenes t => let (r, s) := t.current.next; (r, .scenes { t with current := s })

end Collaborator

end LogCollector.Stage
