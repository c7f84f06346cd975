import LogCollector.Collector
import LogCollector.Json.Forms

/-!
# The JSON forms of plans, requests and reports

What a run is asked for, what it asks of its collaborator and what it comes to, as objects. In
a plan every member may be left out, and then has its usual value.
-/

namespace LogCollector

open Json

namespace Json

/-- The form of a value that may be missing. -/
def ofOption {α : Type} (form : α → Json) : Option α → Json
  | some a => form a
  | none => .null

/-- The form of a natural number. -/
def ofNat (n : Nat) : Json := .int n

/-- The form of some texts. -/
def ofTexts (ss : List String) : Json := .array (ss.map .string)

/-- Reads some texts. -/
def texts? (j : Json) : Option (List String) := do (← j.array?).mapM string?

/-- The member of an object; `null` if there is none. -/
def member (name : String) : Json → Json
  | .object members => (valuesOf name members).getLast?.getD .null
  | _ => .null

/-- Reads a word out of a list of things that have names. -/
def named? {α : Type} (name : α → String) (all : List α) (j : Json) : Option α := do
  let w ← word? j
  all.find? (name · == w)

/-- Reads a character: a text that holds nothing else. -/
def char? (j : Json) : Option Char :=
  match j.string?.map String.toList with
  | some [c] => some c
  | _ => none

end Json

/-- Reads a mode. -/
def Mode.ofJson? : Json → Option Mode := named? name [firewall, ips, vpn, nonAudit, audit]

/-- Reads a format of times. -/
def DateFormat.ofJson? : Json → Option DateFormat := named? name [vendor, epoch, localTime]

/-- Reads an entity and its application. -/
def Tracking.ofJson? : Json → Option Tracking
  | .array [.string entity, .string app] => some ⟨entity, app⟩
  | _ => none

namespace Plan

/-- Reads a plan. -/
def ofJson? (zone : Calendar.Zone) (j : Json) : Option Plan := do
  let d := standard zone
  let usual {α : Type} (read : Json → Option α) (name : String) (value : α) : Option α := do
    return (← optional? read (some (member name j))).getD value
  return {
    kind := ← usual RecordKind.ofJson? "record_kind" d.kind
    mode := ← usual Mode.ofJson? "mode" d.mode
    online := ← usual bool? "online_mode" d.online
    resolve := ← usual bool? "resolve_mode" d.resolve
    logfile := ← usual string? "logfile" d.logfile
    legacy := ← usual bool? "legacy_2000" d.legacy
    dateFormat := ← usual DateFormat.ofJson? "date_format" d.dateFormat
    separator := ← usual char? "separator" d.separator
    fields := ← usual texts? "fields" d.fields
    trafficRules := ← usual texts? "traffic_rules" d.trafficRules
    auditRules := ← usual texts? "audit_rules" d.auditRules
    tracking := ← optional? Tracking.ofJson? (some (member "tracking" j))
    commitInterval := ← usual (nat? (UInt64.size - 1)) "commit_interval" d.commitInterval
    maxRetries := ← usual (nat? (UInt32.size - 1)) "max_retries" d.maxRetries
    retryFactor := ← usual (nat? (UInt32.size - 1)) "retry_factor" d.retryFactor
    recovery := ← usual (fun v => (v.nat? (UInt64.size - 1)).map .ofMilliseconds) "recovery_ms"
      d.recovery
    zone }

/-- The form of a plan. -/
def toJson (p : Plan) : Json :=
  .object [("record_kind", .string p.kind.name), ("mode", .string p.mode.name),
    ("online_mode", .bool p.online), ("resolve_mode", .bool p.resolve),
    ("logfile", .string p.logfile), ("reads_all", .bool p.readsAll),
    ("legacy_2000", .bool p.legacy), ("date_format", .string p.dateFormat.name),
    ("separator", .string (.ofList [p.separator])), ("fields", ofTexts p.fields),
    ("traffic_rules", ofTexts p.trafficRules), ("audit_rules", ofTexts p.auditRules),
    ("tracking", ofOption (fun t => ofTexts [t.entity, t.app]) p.tracking),
    ("commit_interval", ofNat p.commitInterval), ("max_retries", ofNat p.maxRetries),
    ("retry_factor", ofNat p.retryFactor),
    ("recovery_ms", ofNat (p.recovery.nanoseconds / 1000000))]

end Plan

/-- The form of the parameters of a connection. -/
def ConnectionParams.toJson (p : ConnectionParams) : Json :=
  .object [("remote", .bool p.remote), ("mode", ofOption (fun m => .string m.name) p.mode),
    ("resolve", ofOption .bool p.resolve), ("online", .bool p.online),
    ("no_nagle", .bool p.noDelay), ("conn_buf_size", ofOption ofNat p.bufferSize),
    ("server_ip", ofOption .string p.serverIp), ("server_port", ofOption ofNat p.serverPort),
    ("auth_port", ofOption ofNat p.authPort), ("auth_type", ofOption .string p.authType),
    ("sic_name", ofOption .string p.sicName), ("sslca_file", ofOption .string p.certificate),
    ("entity_sic_name", ofOption .string p.serverSicName)]

/-- The form of the beginning of a session. -/
def StartPosition.toJson : StartPosition → Json
  | .start => .object [("at", .string "start")]
  | .tail => .object [("at", .string "end")]
  | .at p => .object [("at", .string "position"), ("position", .int p)]

/-- The form of a request for a session. -/
def SessionRequest.toJson (r : SessionRequest) : Json :=
  .object [("target", r.target.toJson), ("start", r.start.toJson), ("kind", .string r.kind.name),
    ("online", .bool r.online), ("resolve", .bool r.resolve), ("suspended", .bool r.suspended),
    ("params", r.params.toJson)]

/-- The form of the terms of a session. -/
def SessionTerms.toJson (t : SessionTerms) : Json :=
  .object [("kind", .string t.kind.name), ("mode", .string t.mode.name),
    ("resolve", .bool t.resolve), ("online", .bool t.online),
    ("rulebase", ofOption (fun b => .string b.text) t.rulebase), ("params", t.params.toJson)]

/-- The form of the outcome of a session. -/
def SessionOutcome.toJson : SessionOutcome → Json
  | .reconnect r => .object [("reconnect", .string r.word)]
  | .terminated r => .object [("terminated", .string r.word)]

/-- The form of the outcome of retries. -/
def RetryOutcome.toJson : RetryOutcome → Json
  | .succeeded k => .object [("succeeded", ofNat k)]
  | .gaveUp k e => .object [("gave_up", ofNat k), ("last_error", .string e)]

/-- The form of a report on a run. -/
def RunReport.toJson (r : RunReport) : Json :=
  .object [("interrupted", .bool r.interrupted),
    ("targets", .array (r.targets.map fun t => .array [t.target.toJson, ofNat t.sessions,
      ofOption (fun e => .string e.word) t.reason]))]

/-- The form of a span of time: its seconds and the nanoseconds beyond. -/
def Duration.toJson (d : Duration) : Json :=
  .array [ofNat (d.nanoseconds / 1000000000), ofNat (d.nanoseconds % 1000000000)]

/-- Reads a span of time. -/
def Duration.ofJson? : Json → Option Duration
  | .array [s, ns] => do
    return ⟨(← s.nat? (UInt64.size - 1)) * 1000000000 + (← ns.nat? (UInt32.size - 1))⟩
  | _ => none

/-- Reads a checkpoint. -/
def Checkpoint.ofJson? (j : Json) : Option Checkpoint := do
  return ⟨← (member "entity" j).string?, ← (member "file_id" j).int32?,
    ← (member "last_record_position" j).int64?, ← (member "file_name" j).string?⟩

/-- The form of a report on a connection. -/
def HealthReport.toJson (r : HealthReport) : Json :=
  .object [("entity", .string r.entity), ("connected", .bool r.connected),
    ("last_connection_timestamp", .string r.lastConnection)]

/-! ### Journals -/

/-- The calls of a role of the status service in a journal, in order. -/
def callsForm (role : ServiceRole) (steps : List Step) : Json :=
  .array (steps.filterMap fun
    | .called r endpoint params _ =>
      if r = role then
        some (.array [.string endpoint, .array (params.map fun (k, v) => ofTexts [k, v])])
      else none
    | _ => none)

/-- Equal sleeps that follow each other, with their number. -/
def sleepRuns (steps : List Step) : List (Duration × Nat) :=
  steps.foldr (fun step runs =>
    match step, runs with
    | .slept d, (e, k) :: rest => if d = e then (e, k + 1) :: rest else (d, 1) :: (e, k) :: rest
    | .slept d, [] => [(d, 1)]
    | _, _ => runs) []

/-- The sleeps of a journal: seconds, nanoseconds and number of equal ones. -/
def sleepsForm (steps : List Step) : Json :=
  .array ((sleepRuns steps).map fun (d, k) =>
    .array [ofNat (d.nanoseconds / 1000000000), ofNat (d.nanoseconds % 1000000000), ofNat k])

/-- What a journal asked of the collaborator, events apart. -/
def sessionForm (steps : List Step) : Json :=
  .array (steps.filterMap fun
    | .listed _ => some (.string "list")
    | .opened r _ => some (.object [("open", r.toJson)])
    | .registered b _ => some (.object [("register", .string b.text)])
    | .resumed _ => some (.string "resume")
    | _ => none)

end LogCollector
