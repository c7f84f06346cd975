import LogCollector.Daemon.Run
import LogCollector.Operator.Answer

/-!
# The programs

There are two programs: one for operators, and the daemon. A program takes arguments, prints,
complains, leaves files behind and ends with an exit code.
-/

namespace LogCollector

/-- The programs. -/
inductive Program where
  /-- The program for operators. -/
  | operator
  /-- The daemon. -/
  | daemon
  deriving DecidableEq

namespace Program

/-- The name of a program. -/
def name : Program → String
  | .operator => "loggrabber"
  | .daemon => "loggrabber-daemon"

/-- The program behind the path of an executable. -/
def ofPath (path : String) : Program :=
  if path.endsWith (name .daemon) then .daemon else .operator

/-- The version of the programs. -/
def version : String := "0.1.0"

/-- What a program leaves behind. -/
structure Result where
  /-- The exit code. -/
  exitCode : Nat
  /-- What is printed. -/
  out : String
  /-- What is complained about. -/
  err : String
  /-- The files. -/
  directory : Storage.Directory

/-- How the program is used. -/
def usage (p : Program) : String :=
  match p with
  | .operator => "Usage: " ++ p.name ++ " [OPTIONS] <config|filter|fields|status|help>\n"
  | .daemon => "Usage: " ++ p.name ++ " [OPTIONS]\n"

/-- The result of arguments that ask for nothing that could be done. -/
def refuse (p : Program) (s : Surroundings) (r : CommandLine.Refusal) : Result :=
  match r with
  | .help => ⟨r.exitCode, p.usage, "", s.directory⟩
  | .version => ⟨r.exitCode, p.name ++ " " ++ version ++ "\n", "", s.directory⟩
  | _ => ⟨r.exitCode, "", p.usage, s.directory⟩

/-- The names of the files that a program reads. -/
def reads (p : Program) (args : List String) : List String :=
  match p with
  | .operator =>
    match Operator.Request.parse args with
    | .ok r => [r.configPath]
    | .error _ => []
  | .daemon =>
    match Daemon.Request.parse args with
    | .ok r => r.configPath :: r.script.toList
    | .error _ => []

/-- The names of the files that a program may write: the output file, and the copies that are
made of it at the time of the clock, as many as are asked for. -/
def writes (p : Program) (s : Surroundings) (args : List String) (copies : Nat) : List String :=
  let config? := match p with
    | .operator => none
    | .daemon => (Daemon.Request.parse args).toOption.bind fun r =>
      (Daemon.configure s r).toOption
  match config? with
  | some c =>
    if c.output.sink = .file then
      let f : RotatingFile := ⟨s.directory, c.output.stem, c.output.rotateSize, .linked, "", 0⟩
      f.name :: (List.range copies).map
        (f.copyName (.ofSeconds (s.zone.readingAt s.clock)))
    else []
  | none => []

/-- Runs a program. -/
def run (p : Program) (s : Surroundings) (args : List String) : Result :=
  match p with
  | .operator =>
    match Operator.Request.parse args with
    | .error refusal => p.refuse s refusal
    | .ok r =>
      let a := Operator.answer s r
      ⟨a.exitCode, a.out, a.complaint, s.directory⟩
  | .daemon =>
    match Daemon.Request.parse args with
    | .error refusal => p.refuse s refusal
    | .ok r =>
      let e := Daemon.run s r true none
      let checked := match e.result with
        | .ok (.checked _) => "configuration is valid: " ++ r.configPath ++ "\n"
        | _ => ""
      ⟨e.exitCode, e.out ++ checked, e.complaint, e.directory s.directory⟩

end Program

end LogCollector
