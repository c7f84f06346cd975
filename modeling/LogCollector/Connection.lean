import LogCollector.Fault
import LogCollector.Status.Document

/-!
# Connection parameters

How a session reaches its log server. The parameters come from the settings document of an
entity, where a value may stand between blanks; without a document nothing is known and
nothing is required.
-/

namespace LogCollector

/-- The parameters of a connection. -/
structure ConnectionParams where
  /-- Whether they come from a document. -/
  remote : Bool
  /-- The mode of the entity. -/
  mode : Option Mode
  /-- Whether addresses and ports are resolved. -/
  resolve : Option Bool
  /-- Whether records are read as they are written. -/
  online : Bool
  /-- Whether small packets are sent at once. -/
  noDelay : Bool
  /-- The size of the buffer. -/
  bufferSize : Option Nat
  /-- The address of the server. -/
  serverIp : Option String
  /-- The port for plain connections. -/
  serverPort : Option Nat
  /-- The port for authenticated connections. -/
  authPort : Option Nat
  /-- How the connection is authenticated, if it is. -/
  authType : Option String
  /-- The certified name of the collector. -/
  sicName : Option String
  /-- The file with its certificate. -/
  certificate : Option String
  /-- The certified name of the server. -/
  serverSicName : Option String
  deriving DecidableEq

namespace ConnectionParams

/-- The parameters when there is no document. -/
def unspecified : ConnectionParams :=
  ⟨false, none, none, false, false, none, none, none, none, none, none, none, none⟩

/-- The value of a key without the blanks around it. -/
def text? (d : Status.Document) (key : String) : Option String :=
  (d.nonEmpty? key).map fun v => .ofList (Text.trim v.toList)

/-- Whether the value of a key is `1`. -/
def flag (d : Status.Document) (key : String) : Bool := text? d key = some "1"

/-- The number that a key is declared to be. -/
def number? {α : Type} (d : Status.Document) (key : String) (read : List Char → Option α) :
    Except ConfigFault (Option α) :=
  match d.nonEmpty? key with
  | none => .ok none
  | some v =>
    match read (Text.trim v.toList) with
    | some n => .ok (some n)
    | none => .error (.invalidValue key ("'" ++ v ++ "' is not a valid number"))

/-- The parameters in a settings document. -/
def ofDocument (d : Status.Document) : Except ConfigFault ConnectionParams := do
  let size ← number? d "conn_buf_size" (Numeral.integer? (-9223372036854775808) 9223372036854775807)
  let port ← number? d "lea_server_port" (Numeral.natural? 65535)
  let authPort ← number? d "lea_server_auth_port" (Numeral.natural? 65535)
  return {
    remote := true
    mode := some (.ofDocument ((d.get? "mode").getD ""))
    resolve := match text? d "no_resolve" with
      | some "1" => some false
      | some "0" => some true
      | _ => none
    online := flag d "online_mode"
    noDelay := flag d "no_nagle"
    bufferSize := (size.filter (0 < ·)).map Int.toNat |>.filter (· < UInt32.size)
    serverIp := text? d "lea_server_ip"
    serverPort := port
    authPort := authPort
    authType := text? d "lea_server_auth_type"
    sicName := text? d "opsec_sic_name"
    certificate := text? d "opsec_sslca_file"
    serverSicName := text? d "opsec_entity_sic_name" }

/-- Whether the connection is authenticated. -/
def isAuthenticated (p : ConnectionParams) : Bool := p.authType.isSome

/-- The names of the parameters that are required, in the order in which they are asked for,
each with whether it is there. Authenticated connections to servers of the year 2000 need no
certificates. -/
def requirements (p : ConnectionParams) (legacy : Bool) : List (String × Bool) :=
  if !p.remote then []
  else
    ("lea_server_ip", p.serverIp.isSome) ::
      if p.isAuthenticated then
        ("lea_server_auth_port", p.authPort.isSome) ::
          if legacy then []
          else [("opsec_sslca_file", p.certificate.isSome), ("opsec_sic_name", p.sicName.isSome),
            ("opsec_entity_sic_name", p.serverSicName.isSome)]
      else [("lea_server_port", p.serverPort.isSome)]

/-- Whether all required parameters are there. -/
def check (p : ConnectionParams) (legacy : Bool) : Except ConfigFault Unit :=
  match (p.requirements legacy).find? fun (_, present) => !present with
  | some (name, _) => .error (.missingParameter name)
  | none => .ok ()

/-- The parameters as arguments of a session, each behind `-v`. -/
def arguments (p : ConnectionParams) : List String :=
  let own (name : String) (value : Option String) : List String :=
    value.toList.flatMap fun v => ["-v", name, v]
  let server (name : String) (value : Option String) : List String :=
    value.toList.flatMap fun v => ["-v", "lea_server", name, v]
  own "opsec_sic_name" p.sicName
    ++ own "opsec_sslca_file" p.certificate
    ++ server "ip" p.serverIp
    ++ server "auth_port" (p.authPort.map Numeral.text)
    ++ server "auth_type" p.authType
    ++ server "opsec_entity_sic_name" p.serverSicName
    ++ server "conn_buf_size" (p.bufferSize.map Numeral.text)
    ++ (if p.noDelay then ["-v", "lea_server", "no_nagle"] else [])
    ++ server "port" (p.serverPort.map Numeral.text)

end ConnectionParams

end LogCollector
