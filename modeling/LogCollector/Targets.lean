import LogCollector.Session.Terms
import LogCollector.World

/-!
# The log files of a run

Audit records have a log file of their own, and records are read as they are written from one
log file only. Otherwise the server is asked which log files it has, and those with the text
of the plan in their name are read; if there is none the plan's text stands for a log file.
-/

namespace LogCollector.Targets

/-- The log file of audit records. -/
def auditFile : LogFile := ⟨"fw.adtlog", -1⟩

/-- The log file that the plan names itself. -/
def namedFile (plan : Plan) : LogFile := ⟨plan.logfile, 0⟩

/-- The log files with a text in their name. -/
def matching (pattern : String) (files : List LogFile) : List LogFile :=
  files.filter fun f => Text.contains pattern.toList f.name.toList

/-- The log files of a run among those of the server. -/
def select (plan : Plan) (files : List LogFile) : List LogFile :=
  match if plan.readsAll then files else matching plan.logfile files with
  | [] => [namedFile plan]
  | targets => targets

/-- Finds out the log files of a run. -/
def resolve {σ : Type} (w : World σ) (plan : Plan) (kind : RecordKind) (online : Bool)
    (params : ConnectionParams) : Run σ (Except RunFault (List LogFile)) :=
  match kind, online with
  | .audit, _ => return .ok [auditFile]
  | .traffic, true => return .ok [namedFile plan]
  | .traffic, false => do
    return match ← w.enumerate params with
      | .error f => .error (.session f)
      | .ok files => .ok (select plan files)

end LogCollector.Targets
