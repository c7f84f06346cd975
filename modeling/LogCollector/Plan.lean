import LogCollector.Calendar.Zone
import LogCollector.Duration
import LogCollector.Fault

/-!
# The plan of a run

What a run collects, how it writes it and how it keeps track of it. A settings document may
change the kind of records and the mode for a session; the plan holds what applies otherwise.
-/

namespace LogCollector

/-- The entity whose progress is kept at the status service, and the application there. -/
structure Tracking where
  /-- The entity. -/
  entity : String
  /-- The application. -/
  app : String
  deriving DecidableEq

/-- The plan of a run. -/
structure Plan where
  /-- The kind of records. -/
  kind : RecordKind
  /-- The mode of the entity. -/
  mode : Mode
  /-- Whether records are read as they are written. -/
  online : Bool
  /-- Whether addresses and ports are resolved. -/
  resolve : Bool
  /-- The log files to be read: those with this text in their name, or `ALL`. -/
  logfile : String
  /-- Whether the server is one of the year 2000, which knows no filters. -/
  legacy : Bool
  /-- How the time of a record is shown. -/
  dateFormat : DateFormat
  /-- The character between two attributes of a line. -/
  separator : Char
  /-- The selected attributes; all of them when there is none. -/
  fields : List String
  /-- The filter rules for traffic records. -/
  trafficRules : List String
  /-- The filter rules for audit records. -/
  auditRules : List String
  /-- Whose progress is kept, if any. -/
  tracking : Option Tracking
  /-- The number of records after which the position is stored; 0 for never. -/
  commitInterval : Nat
  /-- How often a commit is tried. -/
  maxRetries : Nat
  /-- How many times longer each wait between two attempts is. -/
  retryFactor : Nat
  /-- The wait before a reconnect. -/
  recovery : Duration
  /-- The zone of local times. -/
  zone : Calendar.Zone
  deriving DecidableEq

namespace Plan

/-- The plan that applies where nothing else is said. -/
def standard (zone : Calendar.Zone) : Plan where
  kind := .traffic
  mode := .firewall
  online := false
  resolve := false
  logfile := "fw.log"
  legacy := false
  dateFormat := .localTime
  separator := '|'
  fields := []
  trafficRules := []
  auditRules := []
  tracking := none
  commitInterval := 1000
  maxRetries := 3
  retryFactor := 2
  recovery := .ofSeconds 10
  zone := zone

/-- The name that stands for all log files. -/
def allFiles : String := "ALL"

/-- Whether all log files are read. -/
def readsAll (p : Plan) : Bool := p.logfile = allFiles

/-- The filter rules for a kind of records. -/
def rulesFor (p : Plan) : RecordKind → List String
  | .traffic => p.trafficRules
  | .audit => p.auditRules

/-- A character that may not separate attributes, as it is shown in a fault. -/
def separatorText : Char → String
  | '\n' => "\\n"
  | '\\' => "\\\\"
  | c => .ofList [c]

/-- What a plan has to satisfy, in the order in which it is looked at: whether it does, and
the fault if it does not. -/
def requirements (p : Plan) : List (Bool × RunFault) :=
  [(p.separator ∉ ['\n', '\\', '='], .setting "separator"
      ("'" ++ separatorText p.separator ++ "' cannot be used as record separator")),
    (p.logfile ≠ "", .setting "logfile" "must not be empty"),
    (p.maxRetries ≠ 0, .setting "max_retries" "must be greater than 0"),
    (p.retryFactor ≠ 0, .setting "retry_factor" "must be greater than 0"),
    (p.tracking.all (·.app ≠ ""), .setting "app_name" "checkpoint tracking requires an app name")]

/-- The plan if it satisfies all requirements. -/
def check (p : Plan) : Except RunFault Plan :=
  match p.requirements.find? fun (ok, _) => !ok with
  | some (_, fault) => .error fault
  | none => .ok p

/-- A plan is accepted exactly when it satisfies all requirements. -/
theorem check_eq_ok_iff {p q : Plan} :
    p.check = .ok q ↔ q = p ∧ ∀ r ∈ p.requirements, r.1 = true := by
  rw [check]
  split
  · rename_i h
    have hfails := List.find?_some h
    have hmem := List.mem_of_find?_eq_some h
    constructor
    · rintro ⟨⟩
    · rintro ⟨-, hall⟩
      have hholds := hall _ hmem
      simp_all
  · rename_i h
    rw [List.find?_eq_none] at h
    constructor
    · rintro ⟨⟩
      exact ⟨rfl, fun r hr => by simpa using h r hr⟩
    · rintro ⟨rfl, -⟩
      rfl

end Plan

end LogCollector
