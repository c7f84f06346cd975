import LogCollector.Status.Command

/-!
# Status services on a stage

A status service is either played or stands behind a command. A played one gives prepared
answers first. Then it looks documents up at their endpoints and takes posts; if it remembers
posts, the document of an entry declares each of the parameters that were posted.
-/

namespace LogCollector.Stage

open Status

/-- A status service that is played. -/
structure PlayedService where
  /-- The prepared answers; a text is the reason why a call fails. -/
  script : List (Except String Response)
  /-- The documents at the endpoints, the latest one first. -/
  documents : List (String × String)
  /-- Whether posts are remembered. -/
  remembers : Bool
  /-- The status of every look-up, if it is prepared. -/
  failGets : Option Nat
  /-- The status of every post, if it is prepared. -/
  failPosts : Option Nat

namespace PlayedService

/-- A service with nothing in it. -/
def empty : PlayedService := ⟨[], [], false, none, none⟩

/-- The document that declares some parameters. -/
def document (params : Parameters) : String :=
  String.join (params.map fun (key, value) =>
    "<s:key name=\"" ++ key ++ "\">" ++ value ++ "</s:key>")

/-- Looks the document of an endpoint up. -/
def lookUp (s : PlayedService) (endpoint : String) : Response :=
  match s.failGets, s.documents.lookup endpoint with
  | some status, _ => ⟨status, ""⟩
  | none, some body => ⟨200, body⟩
  | none, none => ⟨if s.remembers then 404 else 200, ""⟩

/-- Takes a post. -/
def post (s : PlayedService) (endpoint : String) (params : Parameters) :
    Response × PlayedService :=
  match s.failPosts with
  | some status => (⟨status, ""⟩, s)
  | none =>
    let entry := (endpoint ++ (params.lookup "name").getD "", document params)
    (⟨201, ""⟩, if s.remembers then { s with documents := entry :: s.documents } else s)

/-- Answers a call. -/
def call (s : PlayedService) (endpoint : String) (params : Parameters) :
    Except StatusFault Response × PlayedService :=
  match s.script with
  | .error reason :: rest => (.error (.callFailed endpoint reason), { s with script := rest })
  | .ok r :: rest => (.ok r, { s with script := rest })
  | [] =>
    if params.isEmpty then (.ok (s.lookUp endpoint), s)
    else
      let (r, s) := s.post endpoint params
      (.ok r, s)

end PlayedService

/-- A status service. -/
inductive Service where
  /-- It is played. -/
  | played (service : PlayedService)
  /-- It stands behind a command, which always leaves the same output behind, or is
  missing. -/
  | command (server : String) (output : Option Command.Output)

/-- Answers a call. -/
def Service.call (endpoint : String) (params : Parameters) :
    Service → Except StatusFault Response × Service
  | .played s => let (r, s) := s.call endpoint params; (r, .played s)
  | .command server output => (Command.run server endpoint params output, .command server output)

end LogCollector.Stage
