import LogCollector.Connection
import LogCollector.Filter.Compile
import LogCollector.Plan

/-!
# The terms of a session

What the plan of a run and the parameters of a connection come to for one session. The mode
in a settings document decides on the kind of records and on the rulebase; without one a plan
for audit records stands for the audit mode.
-/

namespace LogCollector

/-- The terms of a session. -/
structure SessionTerms where
  /-- The kind of records. -/
  kind : RecordKind
  /-- The mode. -/
  mode : Mode
  /-- Whether addresses and ports are resolved. -/
  resolve : Bool
  /-- Whether records are read as they are written. -/
  online : Bool
  /-- The rulebase to be registered, if any. -/
  rulebase : Option Filter.Rulebase
  /-- The parameters of the connection. -/
  params : ConnectionParams
  deriving DecidableEq

namespace SessionTerms

/-- The kind and the mode of a session. -/
def kindAndMode (plan : Plan) (params : ConnectionParams) : RecordKind × Mode :=
  match params.mode, plan.kind with
  | some mode, _ => (mode.recordKind, mode)
  | none, .audit => (.audit, .audit)
  | none, .traffic => (.traffic, plan.mode)

/-- The terms for a plan and the parameters of a connection. -/
def derive (plan : Plan) (params : ConnectionParams) : Except RunFault SessionTerms := do
  (params.check plan.legacy).mapError .config
  let (kind, mode) := kindAndMode plan params
  let rulebase ←
    if plan.legacy then pure none
    else (Filter.sessionRulebase plan.zone kind mode (plan.rulesFor kind)).mapError .filter
  return ⟨kind, mode, params.resolve.getD plan.resolve, plan.online || params.online, rulebase,
    params⟩

section

variable {plan : Plan} {params : ConnectionParams} {terms : SessionTerms}

/-- The terms of a session, once the parameters and the filter rules have been accepted. -/
theorem eq_of_derive (h : derive plan params = .ok terms) :
    terms = ⟨(kindAndMode plan params).1, (kindAndMode plan params).2,
      params.resolve.getD plan.resolve, plan.online || params.online, terms.rulebase, params⟩ := by
  unfold derive at h
  simp only [bind, Except.bind] at h
  split at h
  · cases h
  · split at h
    · rw [← Except.ok.inj h]
    · split at h
      · cases h
      · rw [← Except.ok.inj h]

/-- The parameters of a connection are kept with the terms. -/
theorem params_of_derive (h : derive plan params = .ok terms) : terms.params = params := by
  rw [eq_of_derive h]

theorem kind_of_derive (h : derive plan params = .ok terms) :
    terms.kind = (kindAndMode plan params).1 := by
  rw [eq_of_derive h]

theorem online_of_derive (h : derive plan params = .ok terms) :
    terms.online = (plan.online || params.online) := by
  rw [eq_of_derive h]

end

end SessionTerms

end LogCollector
