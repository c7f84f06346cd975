/-!
# Why sessions end

A session ends for a reason that its collaborator reports. Reasons fall into transient ones,
after which another session may be opened, and terminal ones; a transient reason calls for
another session only if some session of the target was established before.
-/

namespace LogCollector

/-- The classes of reasons. -/
inductive EndClass where
  /-- The target is done with. -/
  | terminal
  /-- Another session may be opened. -/
  | transient
  deriving DecidableEq

/-- The word for a class. -/
def EndClass.name : EndClass → String
  | .terminal => "terminal"
  | .transient => "transient"

/-- The reasons for which sessions end. -/
inductive EndReason where
  /-- The collector has read everything. -/
  | endByApplication
  /-- The session took too long. -/
  | sessionTimeout
  /-- The session has not ended. -/
  | sessionNotEnded
  /-- No connection could be made. -/
  | unableToAttachComm
  /-- The library of the peer could not start the session. -/
  | entityTypeSessionInitFail
  /-- The start handler of the peer failed. -/
  | entitySessionInitFail
  /-- The connection failed. -/
  | commFailure
  /-- The peer has another version. -/
  | badVersion
  /-- The peer dropped the connection. -/
  | peerSendDrop
  /-- The peer ended the session. -/
  | peerEnded
  /-- The peer reset the connection. -/
  | peerSendReset
  /-- The connection is dead. -/
  | commIsDead
  /-- The peer could not be authenticated. -/
  | sicFailure
  /-- Any other reason. -/
  | unknown
  deriving DecidableEq

namespace EndReason

/-- All reasons. -/
def all : List EndReason :=
  [endByApplication, sessionTimeout, sessionNotEnded, unableToAttachComm,
    entityTypeSessionInitFail, entitySessionInitFail, commFailure, badVersion, peerSendDrop,
    peerEnded, peerSendReset, commIsDead, sicFailure, unknown]

/-- The word for a reason. -/
def word : EndReason → String
  | .endByApplication => "end_by_application"
  | .sessionTimeout => "session_timeout"
  | .sessionNotEnded => "session_not_ended"
  | .unableToAttachComm => "unable_to_attach_comm"
  | .entityTypeSessionInitFail => "entity_type_session_init_fail"
  | .entitySessionInitFail => "entity_session_init_fail"
  | .commFailure => "comm_failure"
  | .badVersion => "bad_version"
  | .peerSendDrop => "peer_send_drop"
  | .peerEnded => "peer_ended"
  | .peerSendReset => "peer_send_reset"
  | .commIsDead => "comm_is_dead"
  | .sicFailure => "sic_failure"
  | .unknown => "unknown"

/-- The reason that a word stands for; any other word stands for an unknown reason. -/
def ofWord (s : String) : EndReason := (all.find? (·.word == s)).getD .unknown

/-- The class of a reason. -/
def cls : EndReason → EndClass
  | .unableToAttachComm | .commFailure | .peerSendDrop | .peerSendReset | .commIsDead =>
    .transient
  | _ => .terminal

/-- Whether another session follows, given whether some session of the target was
established. -/
def callsForReconnect (r : EndReason) (established : Bool) : Bool :=
  r.cls = .transient && established

/-- Whether the reason is a fault. -/
def isError : EndReason → Bool
  | .endByApplication | .sessionTimeout | .sessionNotEnded => false
  | _ => true

/-- The reason in words. -/
def description : EndReason → String
  | .endByApplication => "the session has been ended"
  | .sessionTimeout => "the session timed out"
  | .sessionNotEnded => "the session has not been terminated"
  | .unableToAttachComm => "failed to establish connection"
  | .entityTypeSessionInitFail => "peer library failed to initialize the session"
  | .entitySessionInitFail => "peer start handler failed"
  | .commFailure => "communication failure"
  | .badVersion => "incorrect version at other side"
  | .peerSendDrop => "the peer dropped the connection"
  | .peerEnded => "the peer ended the session"
  | .peerSendReset => "the peer reset the connection"
  | .commIsDead => "no communication"
  | .sicFailure => "SIC authentication failure"
  | .unknown => "unknown reason of session end"

end EndReason

end LogCollector
