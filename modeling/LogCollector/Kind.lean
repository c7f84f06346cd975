import LogCollector.Text.Lowercase

/-!
# What is collected, and how it is shown

The kinds of records, the collection modes of an entity, the formats of the time field, and
the kinds of output. Each has one word by which it is written, and some accept further
spellings when they are read.
-/

namespace LogCollector

/-- The kinds of records; each has its own fields and its own filter arguments. -/
inductive RecordKind where
  /-- Firewall traffic. -/
  | traffic
  /-- Changes made by administrators. -/
  | audit
  deriving DecidableEq

namespace RecordKind

/-- The word for the kind. -/
def name : RecordKind → String
  | .traffic => "traffic"
  | .audit => "audit"

/-- Reads a kind in any letter case; `normal` is another word for traffic. -/
def parse (s : String) : Except String RecordKind :=
  match String.ofList (Text.lower s.toList) with
  | "traffic" | "normal" => .ok .traffic
  | "audit" => .ok .audit
  | other => .error ("unknown record kind: " ++ other)

end RecordKind

/-- How the time field is shown. -/
inductive DateFormat where
  /-- The text that came with the record. -/
  | vendor
  /-- Seconds since 1970. -/
  | epoch
  /-- Local date and time. -/
  | localTime
  deriving DecidableEq

namespace DateFormat

/-- The word for the format. -/
def name : DateFormat → String
  | .vendor => "cp"
  | .epoch => "unix"
  | .localTime => "std"

/-- Reads a format in any letter case. -/
def parse (s : String) : Except String DateFormat :=
  match String.ofList (Text.lower s.toList) with
  | "cp" => .ok .vendor
  | "unix" => .ok .epoch
  | "std" => .ok .localTime
  | other => .error ("unsupported date format: " ++ other)

end DateFormat

/-- Where formatted records go. -/
inductive SinkKind where
  /-- Standard output. -/
  | screen
  /-- A file that is rotated. -/
  | file
  deriving DecidableEq

namespace SinkKind

/-- The word for the sink. -/
def name : SinkKind → String
  | .screen => "screen"
  | .file => "file"

/-- Reads a sink in any letter case. -/
def parse (s : String) : Except String SinkKind :=
  match String.ofList (Text.lower s.toList) with
  | "screen" => .ok .screen
  | "file" => .ok .file
  | other => .error ("unknown sink: " ++ other)

end SinkKind

/-- How messages about the running of the collector are written. -/
inductive LogFormat where
  /-- As objects. -/
  | json
  /-- For a reader. -/
  | pretty
  deriving DecidableEq

namespace LogFormat

/-- The word for the format. -/
def name : LogFormat → String
  | .json => "json"
  | .pretty => "pretty"

/-- Reads a format; letter case counts. -/
def parse (s : String) : Except String LogFormat :=
  match s with
  | "json" => .ok .json
  | "pretty" => .ok .pretty
  | other => .error ("unknown log format '" ++ other ++ "', expected 'json' or 'pretty'")

end LogFormat

/-- The collection modes of an entity. -/
inductive Mode where
  /-- Firewall records. -/
  | firewall
  /-- Intrusion prevention records. -/
  | ips
  /-- Records of virtual private networks. -/
  | vpn
  /-- Everything but audit records. -/
  | nonAudit
  /-- Audit records. -/
  | audit
  deriving DecidableEq

namespace Mode

/-- The word for the mode. -/
def name : Mode → String
  | .firewall => "firewall"
  | .ips => "ips"
  | .vpn => "vpn"
  | .nonAudit => "non_audit"
  | .audit => "audit"

/-- The mode named by a connection document; an unknown word means firewall records. -/
def ofDocument (s : String) : Mode :=
  match s with
  | "audit" => .audit
  | "ips" => .ips
  | "vpn" => .vpn
  | "non_audit" => .nonAudit
  | _ => .firewall

/-- The filter rule that the mode adds to those of the user. -/
def impliedRule? : Mode → Option String
  | .ips => some "product=SmartDefense"
  | .vpn => some "fw_subproduct=VPN-1"
  | .firewall => some "product=VPN-1 & FireWall-1"
  | .nonAudit | .audit => none

/-- The kind of records read in the mode. -/
def recordKind : Mode → RecordKind
  | .audit => .audit
  | _ => .traffic

end Mode

end LogCollector
