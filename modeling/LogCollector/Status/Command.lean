import LogCollector.Fault
import LogCollector.Status.Service
import LogCollector.Text.Split

/-!
# The status service behind a command

A call of the status service may be made by running a command. Its arguments name the
endpoint, the server unless it is the local one, and the parameters; the status of the answer
is looked for in what the command prints, where either `HTTP Status: ` or `FAILED: 'HTTP/1.1 `
stands before it, and the printed text as a whole is the answer's document.
-/

namespace LogCollector.Status.Command

/-- The arguments of the command for a call; an empty server means the local one. -/
def arguments (server endpoint : String) (params : Parameters) : List String :=
  ["_internal", "call", endpoint]
    ++ (if server.isEmpty then [] else ["-uri", server])
    ++ params.flatMap fun (key, value) => ["-post:" ++ key, value]

/-- What a finished command has left behind. -/
structure Output where
  /-- What it printed. -/
  out : String
  /-- What it complained about. -/
  err : String
  /-- Its exit code. -/
  exit : Nat
  deriving DecidableEq

/-- All that a command has written. -/
def Output.text (o : Output) : String := o.out ++ o.err

/-- The three digits behind the first occurrence of a marker. -/
def codeAfter? (marker : String) (text : List Char) : Option Nat := do
  let (_, rest) ← Text.cutAt? marker.toList text
  let digits := rest.take 3
  if digits.length = 3 then Numeral.natural? 65535 digits else none

/-- The status in a printed text. A reported success counts first, then a failure, then any
other report. -/
def httpStatus? (text : List Char) : Option Nat :=
  let reported := codeAfter? "HTTP Status: " text
  match reported.filter (· < 300) with
  | some code => some code
  | none => (codeAfter? "FAILED: 'HTTP/1.1 " text).or reported

/-- The answer that a finished command gives. -/
def answer (endpoint : String) (o : Output) : Except StatusFault Response :=
  match httpStatus? o.text.toList with
  | some status => .ok ⟨status, o.text⟩
  | none => .error (.callFailed endpoint
      ("no http status in command output (exit status: " ++ Numeral.text o.exit ++ ")"))

/-- The fault of a call when nothing says where the command is. -/
def homeless : StatusFault := .callFailed "" "SPLUNK_HOME is not set"

/-- Whether the text holds a character that no argument of a command may hold. -/
def holdsNul (s : String) : Bool := '\x00' ∈ s.toList

/-- The answer of the command for a call; no output means that the command is missing. -/
def run (server endpoint : String) (params : Parameters) (output : Option Output) :
    Except StatusFault Response :=
  if (arguments server endpoint params).any holdsNul then
    .error (.callFailed endpoint "nul byte found in provided data")
  else match output with
    | some o => answer endpoint o
    | none => .error (.callFailed endpoint "No such file or directory (os error 2)")

end LogCollector.Status.Command
