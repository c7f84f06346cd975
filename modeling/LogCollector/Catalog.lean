import LogCollector.Kind

/-!
# The field catalog

The known attributes of each kind of records, in order, and the words that a filter rule of
that kind may begin with. The first attribute of a kind is the number of the record and the
second one its time.
-/

namespace LogCollector.Catalog

/-- The attributes of traffic records. -/
def trafficFields : List String := [
  "loc", "time", "action", "orig", "alert", "i/f_dir", "i/f_name", "has_accounting", "uuid",
  "product", "__policy_id_tag", "src", "s_port", "dst", "service", "tcp_flags", "proto", "rule",
  "xlatesrc", "xlatedst", "xlatesport", "xlatedport", "NAT_rulenum", "NAT_addtnl_rulenum",
  "resource", "elapsed", "packets", "bytes", "reason", "service_name", "agent", "from", "to",
  "sys_msgs", "fw_message", "Internal_CA:", "serial_num:", "dn:", "ICMP", "icmp-type",
  "ICMP Type", "icmp-code", "ICMP Code", "msgid", "message_info", "log_sys_message",
  "session_id:", "dns_query", "dns_type", "scheme:", "srckeyid", "dstkeyid", "methods:",
  "peer gateway", "IKE:", "IKE IDs:", "encryption failure:", "encryption fail reason:",
  "CookieI", "CookieR", "start_time", "segment_time", "client_inbound_packets",
  "client_outbound_packets", "client_inbound_bytes", "client_outbound_bytes",
  "client_inbound_interface", "client_outbound_interface", "server_inbound_packets",
  "server_outbound_packets", "server_inbound_bytes", "server_outbound_bytes",
  "server_inbound_interface", "server_outbound_interface", "message", "user", "srcname", "OM:",
  "om_method:", "assigned_IP:", "vpn_user", "MAC:", "attack", "Attack Info", "Cluster_Info",
  "DCE-RPC Interface UUID", "DCE-RPC Interface UUID-1", "DCE-RPC Interface UUID-2",
  "DCE-RPC Interface UUID-3", "during_sec", "fragments_dropped", "ip_id", "ip_len", "ip_offset",
  "TCP flags", "sync_info:", "log", "cpmad", "auth_method", "TCP packet out of state",
  "rpc_prog", "th_flags", "cp_message:", "reject_category", "IKE Log:", "Negotiation Id:",
  "decryption failure:", "len"]

/-- The attributes of audit records. -/
def auditFields : List String := [
  "loc", "time", "action", "orig", "i/f_dir", "i/f_name", "has_accounting", "uuid", "product",
  "ObjectName", "ObjectType", "ObjectTable", "Operation", "Uid", "Administrator", "Machine",
  "Subject", "Audit Status", "Additional Info", "Operation Number", "FieldsChanges"]

/-- The attributes of a kind of records. -/
def fields : RecordKind → List String
  | .traffic => trafficFields
  | .audit => auditFields

/-- The attribute that holds the number of a record. -/
def recordNumber : String := "loc"

/-- The attribute that holds the time of a record. -/
def time : String := "time"

/-- The place of an attribute among those of its kind; letter case counts. -/
def indexOf? (kind : RecordKind) (name : String) : Option Nat :=
  (fields kind).findIdx? (· == name)

/-- The attribute at a place. -/
def field? (kind : RecordKind) (index : Nat) : Option String := (fields kind)[index]?

/-- Both kinds begin with the number and the time of the record. -/
theorem fields_begin (kind : RecordKind) :
    field? kind 0 = some recordNumber ∧ field? kind 1 = some time := by
  cases kind <;> exact ⟨rfl, rfl⟩

end LogCollector.Catalog
