import LogCollector.Sink.RotatingFile

/-!
# Sinks for lines

Lines are kept in memory, printed, or appended to a rotating file.
-/

namespace LogCollector

/-- Lines kept in memory. -/
structure MemorySink where
  /-- The lines, the latest one first. -/
  held : List String
  /-- How many lines are kept at most, if there is a bound. -/
  capacity : Option Nat
  deriving DecidableEq

namespace MemorySink

/-- The lines in order. -/
def lines (m : MemorySink) : List String := m.held.reverse

/-- Writes a line. -/
def write (m : MemorySink) (line : String) : Except SinkFault Unit × MemorySink :=
  if m.capacity.any (· ≤ m.held.length) then (.error (.writeFailed "memory sink is full"), m)
  else (.ok (), { m with held := line :: m.held })

end MemorySink

/-- A screen that is written line by line. -/
structure Screen where
  /-- The printed texts, the latest one first. -/
  printed : List String
  /-- Whether nothing can be printed because there is no space. -/
  full : Bool
  /-- Whether part of a line is waiting to be printed. -/
  waiting : Bool
  deriving DecidableEq

namespace Screen

/-- The screen before anything is printed. -/
def blank : Screen := ⟨[], false, false⟩

/-- All that has been printed. -/
def text (s : Screen) : String := String.join s.printed.reverse

/-- Prints a text. -/
def print (s : Screen) (t : String) : Screen := { s with printed := t :: s.printed }

/-- The fault of a screen without space. -/
def noSpace : SinkFault := .writeFailed Storage.FileFault.noSpace.message

/-- Prints a line. Without space, a line without a line feed of its own that is shorter than
the buffer of 1024 bytes stays there. -/
def write (s : Screen) (line : String) : Except SinkFault Unit × Screen :=
  if s.full then
    let stays := line ≠ "" ∧ line.utf8ByteSize < 1024 ∧ '\n' ∉ line.toList
    (.error noSpace, { s with waiting := s.waiting || stays })
  else (.ok (), s.print (line ++ "\n"))

/-- Prints what is waiting. -/
def flush (s : Screen) : Except SinkFault Unit := if s.waiting then .error noSpace else .ok ()

end Screen

/-- A sink. -/
inductive Sink where
  /-- Lines are kept in memory. -/
  | memory (sink : MemorySink)
  /-- Lines are printed. -/
  | screen (sink : Screen)
  /-- Lines are appended to a file. -/
  | file (sink : RotatingFile)
  deriving DecidableEq

namespace Sink

/-- The word for the kind of a sink. -/
def name : Sink → String
  | .memory _ => "memory"
  | .screen _ => "screen"
  | .file _ => "file"

/-- Writes a line at a time. -/
def write (time : Calendar.Reading) (line : String) : Sink → Except SinkFault Unit × Sink
  | .memory m => let (r, m) := m.write line; (r, .memory m)
  | .screen s => let (r, s) := s.write line; (r, .screen s)
  | .file f => let (r, f) := f.write time line; (r, .file f)

/-- Writes out what is buffered. -/
def flush : Sink → Except SinkFault Unit × Sink
  | .memory m => (.ok (), .memory m)
  | .screen s => (s.flush, .screen s)
  | .file f =>
    match f.flush with
    | .ok f => (.ok (), .file f)
    | .error e => (.error (.writeFailed e.message), .file f)

end Sink

end LogCollector
