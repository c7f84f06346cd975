import LogCollector.Checkpoint
import LogCollector.Line
import LogCollector.Session.Source
import LogCollector.Session.State

/-!
# The session controller

A controller reads one log file through any number of sessions, one after another. Before a
session it finds out the terms and the position to begin at; during the session it answers the
events, writes the records and stores the position now and then; at the end it stores the last
position, reports that the entity is disconnected, and decides whether another session is to
follow.

Each operation returns the controller afterwards also when it fails.
-/

namespace LogCollector

/-- What a controller works on. -/
structure Assignment where
  /-- The plan of the run. -/
  plan : Plan
  /-- Where positions are kept. -/
  store : CheckpointStore
  /-- Where connection parameters come from. -/
  source : ParamsSource
  /-- The log file. -/
  target : LogFile
  deriving DecidableEq

/-- What is known while a session lasts. -/
structure ActiveSession where
  /-- How records are written. -/
  format : LineFormat
  /-- The log file that records come from now. -/
  file : LogFile
  /-- The position of the last record, or 0. -/
  lastPosition : Int
  deriving DecidableEq

/-- How a session ended. -/
inductive SessionOutcome where
  /-- Another session is to follow. -/
  | reconnect (reason : EndReason)
  /-- No further session follows. -/
  | terminated (reason : EndReason)
  deriving DecidableEq

/-- Why the session ended. -/
def SessionOutcome.reason : SessionOutcome → EndReason
  | .reconnect r | .terminated r => r

/-- What has to be done after an event. -/
inductive Directive where
  /-- The next event is waited for. -/
  | proceed
  /-- The suspended session is to be resumed. -/
  | resume
  /-- The session has ended. -/
  | finish (outcome : SessionOutcome)
  deriving DecidableEq

/-- A session controller. -/
structure Controller where
  /-- Its state. -/
  state : SessionState
  /-- Whether some session has been established. -/
  established : Bool
  /-- The session that lasts. -/
  active : Option ActiveSession
  /-- The rulebase still to be registered. -/
  pending : Option Filter.Rulebase
  deriving DecidableEq

namespace Controller

/-- The controller before its first session. -/
def initial : Controller := ⟨.init, false, none, none⟩

/-- Changes the state, if that is allowed. -/
def moveTo (c : Controller) (next : SessionState) : Except SessionFault Controller :=
  if c.state.allows next then .ok { c with state := next }
  else .error (.invalidTransition c.state.name next.name)

/-- The controller after a fault. -/
def abort (c : Controller) : Controller :=
  { c with
    state := if c.state.allows .terminated then .terminated else c.state
    active := none
    pending := none }

/-- The log file that records come from. -/
def currentFile (c : Controller) (a : Assignment) : LogFile :=
  (c.active.map (·.file)).getD a.target

/-- The position of the last record of the session, or 0. -/
def lastPosition (c : Controller) : Int := (c.active.map (·.lastPosition)).getD 0

/-- Prepares the controller for another session. -/
def enter (c : Controller) : Except SessionFault Controller :=
  if c.state = .init then .ok { c with active := none }
  else (c.moveTo .init).map fun c => { c with active := none }

/-! ### Before a session -/

/-- Where a session begins, given the stored position. -/
def startFor (online : Bool) (stored : Option Int) : StartPosition :=
  if online then .tail
  else match stored with
    | some position => if 0 < position then .at position else .start
    | none => .start

/-- How records are written under some terms. -/
def formatFor (plan : Plan) (terms : SessionTerms) : LineFormat :=
  ⟨terms.kind, terms.resolve, plan.dateFormat, plan.separator, plan.fields, plan.zone⟩

/-- The request for a session. -/
def requestFor (a : Assignment) (terms : SessionTerms) (position : StartPosition) :
    SessionRequest :=
  ⟨a.target, position, terms.kind, terms.online, terms.resolve, terms.rulebase.isSome, terms.params⟩

/-- The controller with a session about to be opened. -/
def ready (c : Controller) (a : Assignment) (terms : SessionTerms) : Controller :=
  { c with
    state := .filterRegistered
    active := some ⟨formatFor a.plan terms, a.target, 0⟩
    pending := terms.rulebase }

variable {σ : Type} (w : World σ)

/-- The position stored for the log file; not to learn it is a fault of the session. -/
def resumePosition (a : Assignment) : Run σ (Except RunFault (Option Int)) := do
  return (← a.store.lastPosition w a.target.fileId).mapError fun f =>
    .session (.resumeFailed a.target.name f.message)

/-- Goes as far as the request for a session. -/
def start (a : Assignment) (c : Controller) : Run σ (Except RunFault SessionRequest × Controller) :=
  match c.enter with
  | .error f => return (.error (.session f), c)
  | .ok c => do
    match ← a.source.terms w a.plan with
    | .error f => return (.error f, c.abort)
    | .ok terms =>
      if a.store.isEnabled then
        let resuming := { c with state := .resuming }
        match ← resumePosition w a with
        | .error f => return (.error f, resuming.abort)
        | .ok stored =>
          return (.ok (requestFor a terms (startFor terms.online stored)), resuming.ready a terms)
      else
        return (.ok (requestFor a terms (startFor terms.online none)), c.ready a terms)

/-- Registers the rulebase with the opened session; without one records may come at once. -/
def attach (c : Controller) : Run σ (Except RunFault Unit × Controller) :=
  match c.pending with
  | some rulebase => do
    let answer ← w.registerFilter rulebase
    return (answer.mapError .session, { c with pending := none })
  | none =>
    match c.moveTo .streaming with
    | .ok c => return (.ok (), c)
    | .error f => return (.error (.session f), c)

/-! ### During a session -/

/-- Stores a position of the current log file, whatever comes of it. -/
def commit (a : Assignment) (c : Controller) (position : Int) : Run σ Unit :=
  match a.store.tracking with
  | none => return ()
  | some t => do
    let file := c.currentFile a
    let policy := RetryPolicy.ofAttempts a.plan.maxRetries a.plan.retryFactor
    let _ ← a.store.commitWithRetry w policy ⟨t.entity, file.fileId, position, file.name⟩

/-- Whether the position of a record is to be stored. -/
def isDue (a : Assignment) (position : Int) : Bool :=
  a.store.isEnabled && 0 < a.plan.commitInterval && 0 < position
    && position % a.plan.commitInterval == 0

/-- Writes the line of a record, unless it is empty. -/
def dispatch (format : LineFormat) (r : Record) : Run σ (Except RunFault Unit) := do
  Run.measure (.received format.kind)
  let line := format.line r
  if line.isEmpty then
    Run.measure .suppressed
    return .ok ()
  else
    match ← w.emit line with
    | .error f =>
      Run.measure .writeFailed
      return .error (.sink f)
    | .ok () =>
      Run.measure (.emitted format.kind)
      return .ok ()

/-- Answers a record. -/
def onRecord (a : Assignment) (c : Controller) (r : Record) :
    Run σ (Except RunFault Unit × Controller) :=
  match c.active with
  | none => return (.error (.session (.invalidTransition c.state.name "record")), c)
  | some session => do
    match ← dispatch w session.format r with
    | .error f => return (.error f, c)
    | .ok () =>
      let c := { c with active := some { session with lastPosition := r.position } }
      if isDue a r.position then
        commit w a c r.position
        let _ ← a.store.reportHealth w true
      return (.ok (), c)

/-! ### After a session -/

/-- Winds a session up. -/
def finish (a : Assignment) (c : Controller) (reason : EndReason) (position : Int) :
    Run σ (Except RunFault SessionOutcome × Controller) :=
  match c.moveTo .ending with
  | .error f => return (.error (.session f), c)
  | .ok c => do
    Run.measure (.connection false)
    if a.store.isEnabled then
      if 0 < position then commit w a c position
      let _ ← a.store.reportHealth w false
    Run.measure (.ended reason.cls)
    if reason.callsForReconnect c.established then
      return (.ok (.reconnect reason), { c with state := .reconnect, active := none })
    else
      return (.ok (.terminated reason), { c with state := .terminated, active := none })

/-- Answers an event. -/
def handle (a : Assignment) (c : Controller) (event : SessionEvent) :
    Run σ (Except RunFault Directive × Controller) :=
  match event with
  | .established => do
    Run.measure (.connection true)
    return (.ok .proceed, { c with established := true })
  | .filterAck =>
    if c.state = .filterRegistered then return (.ok .resume, { c with state := .streaming })
    else return (.ok .proceed, c)
  | .record r =>
    if c.state = .streaming then do
      let (result, c) ← onRecord w a c r
      return (result.map fun () => .proceed, c)
    else return (.error (.session (.invalidTransition c.state.name "record")), c)
  | .logSwitch file =>
    return (.ok .proceed, { c with active := c.active.map fun s => { s with file } })
  | .ended reason position => do
    let (result, c) ← finish w a c reason position
    return (result.map .finish, c)

/-! ### A whole session -/

/-- The event that an answer of the collaborator stands for: a fault is the end of the
connection. -/
def eventOf (c : Controller) : Except SessionFault SessionEvent → SessionEvent
  | .ok event => event
  | .error _ => .ended .commFailure c.lastPosition

/-- Answers events until the session is over, at most `fuel` of them; no result means that
more would have come. -/
def pump (a : Assignment) :
    Nat → Controller → Run σ (Option (Except RunFault SessionOutcome) × Controller)
  | 0, c => return (none, c)
  | fuel + 1, c => do
    let (result, c) ← handle w a c (c.eventOf (← w.receive))
    match result with
    | .error f => return (some (.error f), c.abort)
    | .ok .proceed => pump a fuel c
    | .ok .resume =>
      match ← w.release with
      | .error f => return (some (.error (.session f)), c.abort)
      | .ok () => pump a fuel c
    | .ok (.finish outcome) => return (some (.ok outcome), c)

/-- Opens a session and goes through it, for at most `fuel` events. -/
def runSession (a : Assignment) (fuel : Nat) (c : Controller) :
    Run σ (Option (Except RunFault SessionOutcome) × Controller) := do
  match ← start w a c with
  | (.error f, c) => return (some (.error f), c)
  | (.ok request, c) =>
    match ← w.connect request with
    | .error _ =>
      let (result, c) ← finish w a c .unableToAttachComm 0
      return (some result, c)
    | .ok () =>
      match ← attach w c with
      | (.error f, c) => return (some (.error f), c.abort)
      | (.ok (), c) => pump w a fuel c

end Controller

end LogCollector
