import LogCollector.Fault

/-!
# Why the daemon fails

A failure tells what the daemon was about, and then the causes, each of them the cause of the one
before. A fault that wraps another one comes with the wording of that one as a cause of its own.
-/

namespace LogCollector

/-- The wording of a fault and of the one that it wraps. -/
def Fault.chain (f : Fault) : List String :=
  [f.message, match f with
    | .config g => g.message
    | .filter g => g.message
    | .status g => g.message
    | .session g => g.message
    | .sink g => g.message
    | .io reason => reason]

/-- The wording of a fault of a run; only one of files wraps another one. -/
def RunFault.chain (f : RunFault) : List String :=
  f.message :: match f with
    | .io reason => [reason]
    | _ => []

namespace Daemon

/-- Why the daemon fails. -/
inductive Trouble where
  /-- The configuration cannot be loaded. -/
  | load (path : String) (fault : Fault)
  /-- The configuration is wrong once the request has changed it. -/
  | override (fault : Fault)
  /-- There is no such address for metrics. -/
  | address (reason : String)
  /-- There is no script. -/
  | noScript
  /-- The output file cannot be opened. -/
  | output (fault : SinkFault)
  /-- The script cannot be read. -/
  | script (path : String) (fault : RunFault)
  /-- The status service cannot be found. -/
  | service (fault : StatusFault)
  /-- The parts of the collector do not fit. -/
  | build (fault : RunFault)
  /-- The run has failed. -/
  | run (fault : RunFault)
  deriving DecidableEq

namespace Trouble

/-- What the daemon was about, and the causes. -/
def chain : Trouble → List String
  | .load path f => ("failed to load config from " ++ path) :: f.chain
  | .override f => "invalid configuration after command-line overrides" :: f.chain
  | .address reason => [reason]
  | .noScript => ["no LEA collaborator available; "
      ++ "pass --replay <script> to drive the collector from a session script"]
  | .output f => ["failed to open output file", f.message]
  | .script path f => ("failed to load replay script " ++ path) :: f.chain
  | .service f => [f.message]
  | .build f => "failed to build log pipeline" :: f.chain
  | .run f => f.chain

/-- A text with something before its first line, and before each further one. -/
def indent (first further s : String) : String :=
  first ++ String.join ((s.toList.map fun c =>
    if c = '\n' then "\n" ++ further else .ofList [c]))

/-- The lines about causes: a single one stands alone, several are numbered. -/
def causes : List String → List String
  | [] => []
  | [cause] => ["", "Caused by:", indent "    " "    " cause]
  | cs => ["", "Caused by:"] ++ cs.zipIdx.map fun (cause, i) =>
    let number := Numeral.ofNat i
    indent (.ofList (List.replicate (5 - number.length) ' ' ++ number ++ [':', ' ']))
      "       " cause

/-- What the daemon writes about a failure. -/
def report (t : Trouble) : String :=
  "Error: " ++ match t.chain with
    | [] => "\n"
    | head :: rest => String.join ((head :: causes rest).map (· ++ "\n"))

end Trouble

end Daemon

end LogCollector
