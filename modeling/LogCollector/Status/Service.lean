import LogCollector.Text.Numeral

/-!
# The status service

A service that keeps documents at endpoints. A call without parameters fetches the document
of an endpoint, a call with parameters posts to it. Every application has three endpoints:
the settings of its entities, the positions reached in log files, and whether an entity is
connected.
-/

namespace LogCollector.Status

/-- The parameters of a call, in order. -/
abbrev Parameters := List (String × String)

/-- The answer to a call. -/
structure Response where
  /-- The status, as in HTTP. -/
  status : Nat
  /-- The document. -/
  body : String
  deriving DecidableEq

namespace Response

/-- Whether the call succeeded. -/
def isSuccess (r : Response) : Bool := r.status < 300

/-- Whether there is nothing at the endpoint. -/
def isNotFound (r : Response) : Bool := r.status = 404

end Response

/-- The endpoints of an application; the name of an entry is written behind them. -/
structure Endpoints where
  /-- The settings of entities. -/
  settings : String
  /-- The positions reached in log files. -/
  positions : String
  /-- Whether entities are connected. -/
  health : String
  deriving DecidableEq

/-- The endpoints of an application. -/
def Endpoints.ofApp (app : String) : Endpoints :=
  let base := "/servicesNS/nobody/" ++ app ++ "/opsec/"
  ⟨base ++ "opsec_conf/", base ++ "log_status/", base ++ "entity_health/"⟩

/-- The name of the entry for a log file of an entity. -/
def entryName (fileId : Int) (entity : String) : String :=
  Numeral.intText fileId ++ "@" ++ entity

end LogCollector.Status
