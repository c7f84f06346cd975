import LogCollector.Config.Document
import LogCollector.Config.Environment
import LogCollector.Proofs.Fallible
import LogCollector.Proofs.Text.Numerals

/-!
# What the environment may override

The settings with a single value are listed with the section and the key under which they stand in
the document of a configuration (`settings`, `scalars_eq`). The variable of a setting is named after
both, and what its texts stand for is said without the reader that looks at them
(`Setting.Spells`).

A setting that heeds its variable has the value that the variable spells, or the one it had before
(`Setting.Heeds`). Every setting does so but one: no variable is looked at for the mode, so that a
configuration gets what its environment asks for exactly when the environment asks for no other mode
(`overrides_reach_settings_iff`).
-/

namespace LogCollector

/-! ### Settings with a single value -/

/-- A setting with a single value. -/
structure Setting where
  /-- The section in which it stands. -/
  group : String
  /-- Its name there. -/
  key : String
  /-- The type of its values. -/
  Value : Type
  /-- Its value in a configuration. -/
  get : Config → Value
  /-- How a value is written in the document. -/
  form : Value → Toml
  /-- The texts that stand for a value. -/
  Spells : String → Value → Prop

namespace Setting

/-- The variable of a setting: its section and its key in upper case. -/
def variableName (s : Setting) : String :=
  "LOGGRABBER_" ++ s.group.toUpper ++ "_" ++ s.key.toUpper

/-- A text, which stands for itself. -/
def text (group key : String) (get : Config → String) : Setting where
  group := group
  key := key
  Value := String
  get := get
  form := .string
  Spells text value := text = value

/-- A truth value. -/
def flag (group key : String) (get : Config → Bool) : Setting where
  group := group
  key := key
  Value := Bool
  get := get
  form := .boolean
  Spells text value := text = if value then "true" else "false"

/-- A natural number below a bound, from any of its texts. -/
def number (bound : Nat) (group key : String) (get : Config → Nat) : Setting where
  group := group
  key := key
  Value := Nat
  get := get
  form n := .integer n
  Spells text n := Numeral.Spells n text.toList ∧ n < bound

/-- One of some things with a name, from any of its words in any letter case. -/
def word {α : Type} (name : α → String) (words : α → List String) (group key : String)
    (get : Config → α) : Setting where
  group := group
  key := key
  Value := α
  get := get
  form a := .string (name a)
  Spells text a := String.ofList (Text.lower text.toList) ∈ words a

/-- The mode, from its word in a document. -/
def mode : Setting where
  group := "lea"
  key := "mode"
  Value := Mode
  get c := c.lea.mode
  form m := .string m.name
  Spells text m := text = m.name

end Setting

/-- The words for a kind of records. -/
def RecordKind.words : RecordKind → List String
  | .traffic => ["traffic", "normal"]
  | .audit => ["audit"]

namespace Config

/-- The settings with a single value, in the order of the document. -/
def settings : List Setting :=
  [.text "general" "log_level" (·.general.logLevel),
    .text "general" "log_format" (·.general.logFormat),
    .word RecordKind.name RecordKind.words "lea" "record_kind" (·.lea.kind),
    .mode,
    .flag "lea" "online_mode" (·.lea.online),
    .flag "lea" "resolve_mode" (·.lea.resolve),
    .text "lea" "logfile" (·.lea.logfile),
    .flag "lea" "legacy_2000" (·.lea.legacy),
    .number UInt64.size "lea" "recovery_interval_secs" (·.lea.recoverySeconds),
    .word DateFormat.name (fun f => [f.name]) "output" "date_format" (·.output.dateFormat),
    .text "output" "record_separator" (·.output.separator),
    .word SinkKind.name (fun s => [s.name]) "output" "sink" (·.output.sink),
    .text "output" "file_prefix" (·.output.stem),
    .number UInt64.size "output" "rotate_size_bytes" (·.output.rotateSize),
    .text "status" "entity" (·.status.entity),
    .text "status" "app_name" (·.status.app),
    .text "status" "status_server" (·.status.statusServer),
    .text "status" "config_server" (·.status.configServer),
    .number UInt64.size "status" "commit_interval" (·.status.commitInterval),
    .number UInt32.size "status" "max_retries" (·.status.maxRetries),
    .number UInt32.size "status" "retry_factor" (·.status.retryFactor),
    .flag "metrics" "enabled" (·.metrics.enabled),
    .text "metrics" "listen_addr" (·.metrics.host),
    .number UInt16.size "metrics" "port" (·.metrics.port)]

/-- The entries of a document that are no lists, each with its section. -/
def scalars (c : Config) : List (String × String × Toml) :=
  c.sections.flatMap fun (group, entries) => entries.filterMap fun (key, value) =>
    match value with
    | .array _ => none
    | _ => some (group, key, value)

/-- **The settings are complete**: they are all that a document holds apart from lists. -/
theorem scalars_eq (c : Config) :
    c.scalars = settings.map fun s => (s.group, s.key, s.form (s.get c)) := rfl

end Config

/-! ### Heeding a variable -/

namespace Setting

variable {s : Setting} {env : Environment} {c : Config}

/-- The setting has the value that its variable spells, or the one it had if that spells none. -/
def Heeds (s : Setting) (env : Environment) (c : Config) : Prop :=
  (∀ text value, env s.variableName = some text → s.Spells text value →
    s.get (c.override env) = value) ∧
  ((∀ text value, env s.variableName = some text → ¬ s.Spells text value) →
    s.get (c.override env) = s.get c)

/-- The setting is looked up under its variable by a reader of its texts. -/
def IsLookedUp (s : Setting) : Prop :=
  ∃ read : String → Option s.Value, (∀ text value, read text = some value ↔ s.Spells text value) ∧
    ∀ env c, s.get (c.override env) = Environment.setting env s.variableName read (s.get c)

/-- A setting that is looked up heeds its variable. -/
theorem IsLookedUp.heeds (h : s.IsLookedUp) (env : Environment) (c : Config) : s.Heeds env c := by
  obtain ⟨read, hread, hget⟩ := h
  refine ⟨fun text value hset hspells => ?_, fun hnone => ?_⟩
  · rw [hget]
    exact Environment.setting_of_some _ hset ((hread text value).2 hspells)
  · rw [hget]
    cases hset : env s.variableName with
    | none => exact Environment.setting_of_none read (s.get c) hset
    | some text =>
      have hunread : read text = none := by
        by_contra hsome
        obtain ⟨value, hvalue⟩ := Option.ne_none_iff_exists'.1 hsome
        exact hnone text value hset ((hread text value).1 hvalue)
      simp [Environment.setting, hset, hunread]

/-- A setting that is looked up depends on no other variable. -/
theorem IsLookedUp.get_update (h : s.IsLookedUp) {name : String} (hname : s.variableName ≠ name)
    (value : Option String) :
    s.get (c.override (Function.update env name value)) = s.get (c.override env) := by
  obtain ⟨read, -, hget⟩ := h
  rw [hget, hget, Environment.setting, Environment.setting, Function.update_of_ne hname]

end Setting

/-! ### The readers -/

namespace Config

theorem readBool_eq_some_iff {text : String} {value : Bool} :
    readBool text = some value ↔ text = if value then "true" else "false" := by
  unfold readBool
  split
  · cases value <;> simp
  · cases value <;> simp
  · rename_i htrue hfalse
    cases value
    · simpa using hfalse
    · simpa using htrue

theorem readNat_eq_some_iff {bound n : Nat} (hbound : 0 < bound) {text : String} :
    readNat bound text = some n ↔ Numeral.Spells n text.toList ∧ n < bound := by
  rw [readNat, Numeral.natural?_eq_some_iff]
  exact and_congr_right fun _ => Nat.le_sub_one_iff_lt hbound

theorem parseKind_eq_some_iff {text : String} {kind : RecordKind} :
    (RecordKind.parse text).toOption = some kind ↔
      String.ofList (Text.lower text.toList) ∈ kind.words := by
  unfold RecordKind.parse
  generalize String.ofList (Text.lower text.toList) = word
  split <;> cases kind <;> simp_all [RecordKind.words, Except.toOption]

theorem parseFormat_eq_some_iff {text : String} {format : DateFormat} :
    (DateFormat.parse text).toOption = some format ↔
      String.ofList (Text.lower text.toList) ∈ [format.name] := by
  unfold DateFormat.parse
  generalize String.ofList (Text.lower text.toList) = word
  split <;> cases format <;> simp_all [DateFormat.name, Except.toOption]

theorem parseSink_eq_some_iff {text : String} {sink : SinkKind} :
    (SinkKind.parse text).toOption = some sink ↔
      String.ofList (Text.lower text.toList) ∈ [sink.name] := by
  unfold SinkKind.parse
  generalize String.ofList (Text.lower text.toList) = word
  split <;> cases sink <;> simp_all [SinkKind.name, Except.toOption]

end Config

/-! ### The settings that are looked up -/

namespace Setting

variable {group key name : String}

theorem isLookedUp_text {get : Config → String} (hname : (text group key get).variableName = name)
    (hget : ∀ env c, get (c.override env) = Environment.setting env name some (get c)) :
    (text group key get).IsLookedUp :=
  ⟨some, fun _ _ => Option.some_inj, fun env c => hname ▸ hget env c⟩

theorem isLookedUp_flag {get : Config → Bool} (hname : (flag group key get).variableName = name)
    (hget : ∀ env c, get (c.override env) = Environment.setting env name Config.readBool (get c)) :
    (flag group key get).IsLookedUp :=
  ⟨Config.readBool, fun _ _ => Config.readBool_eq_some_iff, fun env c => hname ▸ hget env c⟩

theorem isLookedUp_number {bound : Nat} (hbound : 0 < bound) {get : Config → Nat}
    (hname : (number bound group key get).variableName = name)
    (hget : ∀ env c,
      get (c.override env) = Environment.setting env name (Config.readNat bound) (get c)) :
    (number bound group key get).IsLookedUp :=
  ⟨Config.readNat bound, fun _ _ => Config.readNat_eq_some_iff hbound,
    fun env c => hname ▸ hget env c⟩

theorem isLookedUp_word {α : Type} {form : α → String} {words : α → List String}
    {get : Config → α} {read : String → Option α}
    (hread : ∀ text a, read text = some a ↔ String.ofList (Text.lower text.toList) ∈ words a)
    (hname : (word form words group key get).variableName = name)
    (hget : ∀ env c, get (c.override env) = Environment.setting env name read (get c)) :
    (word form words group key get).IsLookedUp :=
  ⟨read, hread, fun env c => hname ▸ hget env c⟩

end Setting

namespace Config

open Setting

/-- **Every setting but the mode is looked up.** -/
theorem isLookedUp_or_eq_mode : ∀ s ∈ settings, s = .mode ∨ s.IsLookedUp := by
  have hwide : 0 < UInt64.size := by decide
  have hhalf : 0 < UInt32.size := by decide
  have hport : 0 < UInt16.size := by decide
  simp only [settings, List.forall_mem_cons, List.not_mem_nil, false_imp_iff, implies_true,
    and_true]
  exact ⟨
    .inr (isLookedUp_text (by decide +kernel) fun _ _ => rfl),
    .inr (isLookedUp_text (by decide +kernel) fun _ _ => rfl),
    .inr (isLookedUp_word (fun _ _ => parseKind_eq_some_iff) (by decide +kernel) fun _ _ => rfl),
    .inl trivial,
    .inr (isLookedUp_flag (by decide +kernel) fun _ _ => rfl),
    .inr (isLookedUp_flag (by decide +kernel) fun _ _ => rfl),
    .inr (isLookedUp_text (by decide +kernel) fun _ _ => rfl),
    .inr (isLookedUp_flag (by decide +kernel) fun _ _ => rfl),
    .inr (isLookedUp_number hwide (by decide +kernel) fun _ _ => rfl),
    .inr (isLookedUp_word (fun _ _ => parseFormat_eq_some_iff) (by decide +kernel) fun _ _ => rfl),
    .inr (isLookedUp_text (by decide +kernel) fun _ _ => rfl),
    .inr (isLookedUp_word (fun _ _ => parseSink_eq_some_iff) (by decide +kernel) fun _ _ => rfl),
    .inr (isLookedUp_text (by decide +kernel) fun _ _ => rfl),
    .inr (isLookedUp_number hwide (by decide +kernel) fun _ _ => rfl),
    .inr (isLookedUp_text (by decide +kernel) fun _ _ => rfl),
    .inr (isLookedUp_text (by decide +kernel) fun _ _ => rfl),
    .inr (isLookedUp_text (by decide +kernel) fun _ _ => rfl),
    .inr (isLookedUp_text (by decide +kernel) fun _ _ => rfl),
    .inr (isLookedUp_number hwide (by decide +kernel) fun _ _ => rfl),
    .inr (isLookedUp_number hhalf (by decide +kernel) fun _ _ => rfl),
    .inr (isLookedUp_number hhalf (by decide +kernel) fun _ _ => rfl),
    .inr (isLookedUp_flag (by decide +kernel) fun _ _ => rfl),
    .inr (isLookedUp_text (by decide +kernel) fun _ _ => rfl),
    .inr (isLookedUp_number hport (by decide +kernel) fun _ _ => rfl)⟩

/-! ### The configuration under an environment -/

variable {env : Environment} {c : Config}

/-- The mode is left as it is, so that it heeds its variable when that names no other one. -/
theorem mode_heeds_iff : Setting.mode.Heeds env c ↔
    ∀ m : Mode, env "LOGGRABBER_LEA_MODE" = some m.name → c.lea.mode = m := by
  have hname : Setting.mode.variableName = "LOGGRABBER_LEA_MODE" := by decide +kernel
  rw [Setting.Heeds, hname]
  constructor
  · rintro ⟨hspelled, -⟩ m hset
    exact hspelled m.name m hset rfl
  · intro h
    refine ⟨fun text m hset hspells => ?_, fun _ => rfl⟩
    obtain rfl : text = m.name := hspells
    exact h m hset

/-- Looking a setting up again finds the same. -/
theorem setting_setting {α : Type} (name : String) (read : String → Option α) (value : α) :
    env.setting name read (env.setting name read value) = env.setting name read value := by
  unfold Environment.setting
  cases (env name).bind read <;> rfl

/-- **The settings of the environment are settled at once.** -/
theorem override_override (env : Environment) (c : Config) :
    (c.override env).override env = c.override env := by
  simp only [override, setting_setting]

/-- **Overrides reach every setting but the mode.** The settings are all that a configuration's
document holds apart from lists. Each of them has the value that its variable spells, or the one it
had, exactly when the variable for the mode is not set to the name of another mode than the one that
is configured; apart from the mode this is always so. The variables are different ones, each changes
no setting but the one it is named after, and asking the environment again changes nothing. -/
theorem overrides_reach_settings_iff (env : Environment) (c : Config) :
    (c.scalars = settings.map fun s => (s.group, s.key, s.form (s.get c))) ∧
    ((∀ s ∈ settings, s.Heeds env c) ↔
      ∀ m : Mode, env "LOGGRABBER_LEA_MODE" = some m.name → c.lea.mode = m) ∧
    (∀ s ∈ settings, s.variableName ≠ "LOGGRABBER_LEA_MODE" → s.Heeds env c) ∧
    ("LOGGRABBER_OUTPUT_FIELDS" :: settings.map Setting.variableName).Nodup ∧
    (∀ name value,
      (∀ s ∈ settings, s.variableName ≠ name →
        s.get (c.override (Function.update env name value)) = s.get (c.override env)) ∧
      (name ≠ "LOGGRABBER_OUTPUT_FIELDS" →
        (c.override (Function.update env name value)).output.fields =
          (c.override env).output.fields) ∧
      (c.override (Function.update env name value)).filter = c.filter) ∧
    (c.override env).override env = c.override env := by
  have hmode : Setting.mode.variableName = "LOGGRABBER_LEA_MODE" := by decide +kernel
  have hothers : ∀ s ∈ settings, s.variableName ≠ "LOGGRABBER_LEA_MODE" → s.Heeds env c := by
    intro s hs hname
    rcases isLookedUp_or_eq_mode s hs with rfl | hlooked
    · exact absurd hmode hname
    · exact hlooked.heeds env c
  refine ⟨scalars_eq c, ?_, hothers, by decide +kernel,
    fun name value => ⟨fun s hs hname => ?_, fun hname => ?_, rfl⟩, override_override env c⟩
  · rw [← mode_heeds_iff]
    constructor
    · intro h
      exact h .mode (by simp [settings])
    · intro h s hs
      rcases isLookedUp_or_eq_mode s hs with rfl | hlooked
      · exact h
      · exact hlooked.heeds env c
  · rcases isLookedUp_or_eq_mode s hs with rfl | hlooked
    · rfl
    · exact hlooked.get_update hname value
  · simp only [override, Environment.setting, Function.update_of_ne hname.symm]

/-- The document names one mode and the environment another one. -/
theorem mode_variable_is_ignored :
    let env := Environment.ofList [("LOGGRABBER_LEA_MODE", "ips")]
    ∃ c, parse "[lea]\nmode = \"firewall\"\n" = .ok c ∧
      env Setting.mode.variableName = some "ips" ∧ Setting.mode.Spells "ips" Mode.ips ∧
      Setting.mode.get (c.override env) = Mode.firewall ∧ ¬ ∀ s ∈ settings, s.Heeds env c := by
  intro env
  have hread : (Toml.parse? "[lea]\nmode = \"firewall\"\n".toList).bind ofToml? = some {} := by
    decide +kernel
  have hname : Setting.mode.variableName = "LOGGRABBER_LEA_MODE" := by decide +kernel
  refine ⟨{}, ?_, ?_, rfl, rfl, fun h => ?_⟩
  · rw [parse, hread]
  · rw [hname]
    rfl
  · have hmode := mode_heeds_iff.1 (h .mode (by simp [settings]))
    exact absurd (hmode .ips rfl) (by decide)

end Config

end LogCollector
