import LogCollector.Calendar.Zone
import LogCollector.Fault
import LogCollector.Storage.Directory

/-!
# The rotating output file

Lines are appended to `<stem>.log`. When more bytes than a limit have been written there the
file is copied to `<stem>-YYYY-MM-DD_hhmmss.log` and emptied; if there is such a copy already,
`_1`, `_2` and so on are tried behind the time.

What is written passes through a buffer of 8192 bytes. A text that does not fit empties the
buffer first, and one as long as the buffer goes past it. What could not be written out stays
in the buffer.
-/

namespace LogCollector

open Storage

/-- What the open file has become. -/
inductive Handle where
  /-- It stands under its name. -/
  | linked
  /-- Its name is gone: what is written is lost. -/
  | unlinked
  /-- It is a device without space. -/
  | device
  deriving DecidableEq

/-- A rotating output file in a tree of files. -/
structure RotatingFile where
  /-- The tree. -/
  directory : Directory
  /-- The text before the `.log`. -/
  stem : String
  /-- The number of bytes above which the file is rotated. -/
  limit : Nat
  /-- What the open file has become. -/
  handle : Handle
  /-- What has not been written out. -/
  buffer : String
  /-- The number of bytes of the file, buffered ones included. -/
  written : Nat
  deriving DecidableEq

namespace RotatingFile

/-- The size of the buffer. -/
def capacity : Nat := 8192

/-- The name of the file as a text. -/
def name (f : RotatingFile) : String := f.stem ++ ".log"

/-- The path of the file. -/
def path (f : RotatingFile) : Path := .parse f.name

/-- Opens the file, or creates it. -/
def openAt (directory : Directory) (stem : String) (limit : Nat) :
    Except SinkFault RotatingFile :=
  let f : RotatingFile := ⟨directory, stem, limit, .linked, "", 0⟩
  match directory.find f.path with
  | .error e => .error (.openFailed f.name e.message)
  | .ok none => .ok { f with directory := directory.put f.path (.file "") }
  | .ok (some (.file content)) => .ok { f with written := content.utf8ByteSize }
  | .ok (some .full) => .ok { f with handle := .device }
  | .ok (some .folder) => .error (.openFailed f.name FileFault.isFolder.message)

/-- Hands a text to the open file. -/
def transfer (f : RotatingFile) (text : String) : Except FileFault RotatingFile :=
  if text.isEmpty then .ok f
  else match f.handle with
    | .device => .error .noSpace
    | .unlinked => .ok f
    | .linked =>
      match f.directory.node? f.path with
      | some (.file content) =>
        .ok { f with directory := f.directory.put f.path (.file (content ++ text)) }
      | _ => .ok f

/-- Writes out what is buffered. -/
def flush (f : RotatingFile) : Except FileFault RotatingFile :=
  (f.transfer f.buffer).map fun f => { f with buffer := "" }

/-- Puts a text into the buffer, or past it. -/
def push (f : RotatingFile) (text : String) : Except FileFault RotatingFile :=
  let size := text.utf8ByteSize
  let spare := capacity - f.buffer.utf8ByteSize
  if size < spare then .ok { f with buffer := f.buffer ++ text }
  else
    (if spare < size then f.flush else .ok f).bind fun f =>
      if capacity ≤ size then f.transfer text else .ok { f with buffer := f.buffer ++ text }

/-- The names for a copy made at a time, in the order in which they are tried. -/
def copyName (f : RotatingFile) (time : Calendar.Reading) : Nat → String
  | 0 => f.stem ++ "-" ++ .ofList time.fileStamp ++ ".log"
  | k => f.stem ++ "-" ++ .ofList time.fileStamp ++ "_" ++ Numeral.text k ++ ".log"

/-- The first of these names that is free. Of as many names as there are files, and one more,
some name is. -/
def freeCopyName (f : RotatingFile) (time : Calendar.Reading) : String :=
  let names := (List.range (f.directory.nodes.length + 2)).map (f.copyName time)
  (names.find? fun s => !f.directory.exists? (.parse s)).getD (f.copyName time 0)

/-- Copies the file and empties it. The file comes back also when that fails. -/
def rotate (f : RotatingFile) (time : Calendar.Reading) :
    Except FileFault Unit × RotatingFile :=
  match f.flush with
  | .error e => (.error e, f)
  | .ok f =>
    match f.directory.copy f.path (.parse (f.freeCopyName time)) with
    | .error e => (.error e, f)
    | .ok directory =>
      (.ok (), { f with
        directory := directory.put f.path (.file "")
        handle := .linked
        written := 0 })

/-- Writes a line at a time. The file comes back also when that fails. -/
def write (f : RotatingFile) (time : Calendar.Reading) (line : String) :
    Except SinkFault Unit × RotatingFile :=
  match f.push line with
  | .error e => (.error (.writeFailed e.message), f)
  | .ok f =>
    match f.push "\n" with
    | .error e => (.error (.writeFailed e.message), f)
    | .ok f =>
      let f := { f with written := f.written + line.utf8ByteSize + 1 }
      if f.limit < f.written then
        let (result, f) := f.rotate time
        (result.mapError fun e => .rotateFailed f.name e.message, f)
      else (.ok (), f)

/-- Takes a file away, as another program might. -/
def remove (f : RotatingFile) (p : Path) : RotatingFile :=
  match f.directory.node? p with
  | none | some .folder => f
  | some _ =>
    { f with
      directory := f.directory.erase p
      handle := if p = f.path ∧ f.handle = .linked then .unlinked else f.handle }

end RotatingFile

end LogCollector
