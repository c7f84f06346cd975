import LogCollector.Session.Terms
import LogCollector.World

/-!
# Where connection parameters come from

Either nothing is known about a connection, or the status service has a settings document for
the entity.
-/

namespace LogCollector

/-- Where connection parameters come from. -/
inductive ParamsSource where
  /-- Nothing is known about the connection. -/
  | unspecified
  /-- The settings document of an entity. -/
  | document (role : ServiceRole) (tracking : Tracking)
  deriving DecidableEq

namespace ParamsSource

variable {σ : Type} (w : World σ)

/-- Fetches the settings document of an entity. -/
def fetch (role : ServiceRole) (t : Tracking) : Run σ (Except RunFault ConnectionParams) := do
  let endpoint := (Status.Endpoints.ofApp t.app).settings ++ t.entity
  match ← w.serve role endpoint [] with
  | .error f => return .error (.status f)
  | .ok r =>
    if r.isSuccess then
      return (ConnectionParams.ofDocument (.parse r.body)).mapError .config
    else return .error (.status (.httpStatus endpoint r.status))

/-- Finds out the parameters of a connection. -/
def acquire : ParamsSource → Run σ (Except RunFault ConnectionParams)
  | .unspecified => return .ok .unspecified
  | .document role t => fetch w role t

/-- Finds out the terms of a session under a plan. -/
def terms (s : ParamsSource) (plan : Plan) : Run σ (Except RunFault SessionTerms) := do
  return (← s.acquire w).bind (SessionTerms.derive plan)

end ParamsSource

end LogCollector
