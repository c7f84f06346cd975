import LogCollector.Fault
import LogCollector.Json.Forms
import LogCollector.Json.Parser
import LogCollector.Session.Event

/-!
# Session scripts

A script records the events of sessions, one JSON object on each line; blank lines and lines
that begin with `#` count for nothing. `logfile` events declare the log files of a server and
belong to no session; an `end` event closes a session, and so does the end of the script.
-/

namespace LogCollector.Replay

/-- An event of a script. -/
inductive ScriptEvent where
  /-- The server has a log file. -/
  | logfile (file : LogFile)
  /-- The session is established. -/
  | established
  /-- A record is delivered. -/
  | record (record : Record)
  /-- The session goes on with another log file. -/
  | logSwitch (file : LogFile)
  /-- The session ends; without a position at that of the last record. -/
  | ended (reason : EndReason) (position : Option Int)
  deriving DecidableEq

namespace ScriptEvent

/-- Reads the reason of an end. -/
def reasonOf? (j : Json) : Option EndReason := (Json.word? j).map EndReason.ofWord

/-- The event with a name and members. -/
def ofParts? (name : String) (members : Json) : Option ScriptEvent :=
  match name with
  | "established" =>
    match members with
    | .array (_ :: _) => none
    | _ => some .established
  | "record" => do
    match ← Json.parts? ["position", "fields"] members with
    | [position, fields] => return .record (← Record.ofParts? position fields)
    | _ => none
  | "logfile" => do
    match ← Json.parts? ["name", "file_id"] members with
    | [file, fileId] => return .logfile (← LogFile.ofParts? file fileId)
    | _ => none
  | "log_switch" => do
    match ← Json.parts? ["name", "file_id"] members with
    | [file, fileId] => return .logSwitch (← LogFile.ofParts? file fileId)
    | _ => none
  | "end" => do
    match ← Json.parts? ["reason", "position"] members with
    | [some reason, position] =>
      return .ended (← reasonOf? reason) (← Json.optional? Json.int64? position)
    | _ => none
  | _ => none

/-- Reads an event: an object with its name under `event`, or a list whose first item is its
name. -/
def ofJson? : Json → Option ScriptEvent
  | .object members =>
    match Json.valuesOf "event" members with
    | [name] => do ofParts? (← name.string?) (.object members)
    | _ => none
  | .array (name :: rest) => do ofParts? (← name.string?) (.array rest)
  | _ => none

/-- Whether the event closes a session. -/
def isEnd : ScriptEvent → Bool
  | .ended _ _ => true
  | _ => false

end ScriptEvent

/-- A script. -/
structure Script where
  /-- The declared log files. -/
  files : List LogFile
  /-- The events of each session. -/
  sessions : List (List ScriptEvent)
  deriving DecidableEq

namespace Script

/-- The event on a line; a line may have none. -/
def eventOn? (line : List Char) : Except Unit (Option ScriptEvent) :=
  let line := Text.trim line
  if line.isEmpty || line.head? == some '#' then .ok none
  else match (Json.parse? line).bind ScriptEvent.ofJson? with
    | some event => .ok (some event)
    | none => .error ()

/-- The events on some lines, the first of which has the given number. A fault tells the number of
the line that cannot be read; its text is always "invalid event" and not what a JSON parser would
say of that line. -/
def events (number : Nat) : List (List Char) → Except RunFault (List ScriptEvent)
  | [] => .ok []
  | line :: rest =>
    match eventOn? line with
    | .error () => .error (.replay number "invalid event")
    | .ok event? => (events (number + 1) rest).map fun es => event?.toList ++ es

/-- Cuts events into sessions, behind the events of the current one, in reverse order. -/
def split (current : List ScriptEvent) : List ScriptEvent → List (List ScriptEvent)
  | [] => if current.isEmpty then [] else [current.reverse]
  | e :: es => if e.isEnd then (e :: current).reverse :: split [] es else split (e :: current) es

/-- The script with some events. -/
def ofEvents (es : List ScriptEvent) : Script :=
  ⟨es.filterMap fun
      | .logfile f => some f
      | _ => none,
    split [] (es.filter fun
      | .logfile _ => false
      | _ => true)⟩

/-- Reads a script. -/
def parse (text : String) : Except RunFault Script :=
  (events 1 (Text.lines text.toList)).map ofEvents

end Script

end LogCollector.Replay
