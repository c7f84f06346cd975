import LogCollector.Config.Basic

/-!
# What a configuration has to satisfy

The requirements in the order in which they are looked at; the first one that is not met is the
fault of a configuration.
-/

namespace LogCollector.Config

/-- The levels of messages. -/
def logLevels : List String := ["trace", "debug", "info", "warn", "error"]

/-- The formats of messages. -/
def logFormats : List String := [LogFormat.json.name, LogFormat.pretty.name]

/-- The reason that lists the values that a setting may have. -/
def oneOf (words : List String) : String := "must be one of: " ++ ", ".intercalate words

/-- Whether a text is one character that may separate attributes. -/
def isSeparator (s : String) : Bool :=
  match s.toList with
  | [c] => c ∉ ['\n', '\\', '=']
  | _ => false

/-- What a configuration has to satisfy: whether it does, the setting at fault if it does not,
and why. -/
def requirements (c : Config) : List (Bool × String × String) :=
  let file := c.output.sink = .file
  let traffic := c.lea.kind = .traffic
  [(c.general.logLevel ∈ logLevels, "general.log_level", oneOf logLevels),
    (c.general.logFormat ∈ logFormats, "general.log_format", oneOf logFormats),
    (isSeparator c.output.separator, "output.record_separator",
      "must be a single character other than newline, '\\' or '='"),
    (file → c.output.stem ≠ "", "output.file_prefix", "must not be empty when sink is 'file'"),
    (file → c.output.rotateSize ≠ 0, "output.rotate_size_bytes", "must be greater than 0"),
    (c.lea.logfile ≠ "", "lea.logfile", "must not be empty"),
    (c.lea.online ∧ traffic → c.lea.logfile = trafficFile, "lea.logfile",
      "a custom logfile is not available in online mode; "
        ++ "use record_kind = \"audit\" for the audit log"),
    (traffic → c.lea.logfile ≠ auditFile, "lea.logfile",
      "fw.adtlog requires record_kind = \"audit\""),
    (c.lea.legacy → traffic, "lea.record_kind",
      "audit records are not available on legacy 2000 servers"),
    (c.status.tracks → c.status.app ≠ "", "status.app_name",
      "must be set when status.entity is configured"),
    (c.status.maxRetries ≠ 0, "status.max_retries", "must be at least 1"),
    (c.status.retryFactor ≠ 0, "status.retry_factor", "must be at least 1")]

/-- The configuration if it satisfies all requirements. -/
def check (c : Config) : Except ConfigFault Config :=
  match c.requirements.find? fun (ok, _) => !ok with
  | some (_, field, reason) => .error (.invalidValue field reason)
  | none => .ok c

/-- A configuration is accepted exactly when it satisfies all requirements. -/
theorem check_eq_ok_iff {c d : Config} :
    c.check = .ok d ↔ d = c ∧ ∀ r ∈ c.requirements, r.1 = true := by
  rw [check]
  split
  · rename_i field reason h
    have hfalse := List.find?_some h
    have hmem := List.mem_of_find?_eq_some h
    simp only [reduceCtorEq, false_iff, not_and]
    intro _ hall
    have htrue := hall _ hmem
    simp_all
  · rename_i h
    rw [List.find?_eq_none] at h
    constructor
    · rintro ⟨⟩
      exact ⟨rfl, fun r hr => by simpa using h r hr⟩
    · rintro ⟨rfl, _⟩
      rfl

end LogCollector.Config
