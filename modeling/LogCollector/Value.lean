import LogCollector.Net.Ipv4

/-!
# Values of record attributes

The attributes of a record and the operands of a filter are tagged values. Addresses and
ports are kept as the words a session hands over, bytes in the order they travel; their text
and their meaning on the host come from `Net.Ipv4.ofWire` and `hostPort`.
-/

namespace LogCollector

/-- The tags of values. -/
inductive ValueTag where
  /-- Free text. -/
  | string
  /-- An address. -/
  | ipAddress
  /-- A port. -/
  | port
  /-- The number of an Internet protocol. -/
  | protocolNumber
  /-- What the firewall did. -/
  | actionCode
  /-- The number of a firewall rule. -/
  | ruleNumber
  /-- An instant. -/
  | unixTime
  deriving DecidableEq

/-- The tag in the text of a filter. -/
def ValueTag.name : ValueTag → String
  | .string => "STRING"
  | .ipAddress => "IP_ADDRESS"
  | .port => "PORT"
  | .protocolNumber => "PROTOCOL_NUMBER"
  | .actionCode => "ACTION_CODE"
  | .ruleNumber => "RULE_NUMBER"
  | .unixTime => "UNIX_TIME"

/-- A tagged value. -/
inductive Value where
  /-- Free text. -/
  | string (text : String)
  /-- An address, as its word. -/
  | ipAddress (word : UInt32)
  /-- A port, as its word. -/
  | port (word : UInt16)
  /-- The number of an Internet protocol. -/
  | protocolNumber (number : UInt8)
  /-- What the firewall did. -/
  | actionCode (code : UInt8)
  /-- The number of a firewall rule. -/
  | ruleNumber (number : UInt32)
  /-- An instant, in seconds since 1970. -/
  | unixTime (instant : Int)
  deriving DecidableEq

/-- The two bytes of a word in the other order: leads from the word of a port to its number
and back. -/
def swapBytes (w : UInt16) : UInt16 := .ofNat (w.toNat % 256 * 256 + w.toNat / 256)

namespace Value

/-- The tag of a value. -/
def tag : Value → ValueTag
  | .string _ => .string
  | .ipAddress _ => .ipAddress
  | .port _ => .port
  | .protocolNumber _ => .protocolNumber
  | .actionCode _ => .actionCode
  | .ruleNumber _ => .ruleNumber
  | .unixTime _ => .unixTime

/-- The value of an address. -/
def ofAddress (x : Net.Ipv4) : Value := .ipAddress x.toWire

/-- The value of a port number. -/
def ofPort (number : UInt16) : Value := .port (swapBytes number)

/-- The address in a value. -/
def address? : Value → Option Net.Ipv4
  | .ipAddress w => some (.ofWire w)
  | _ => none

/-- The port number in a value. -/
def hostPort? : Value → Option UInt16
  | .port w => some (swapBytes w)
  | _ => none

/-- The text of a value. -/
def text : Value → String
  | .string s => s
  | .ipAddress w => (Net.Ipv4.ofWire w).text
  | .port w => Numeral.text (swapBytes w).toNat
  | .protocolNumber n | .actionCode n => Numeral.text n.toNat
  | .ruleNumber n => Numeral.text n.toNat
  | .unixTime t => Numeral.intText t

end Value

theorem toNat_swapBytes (w : UInt16) :
    (swapBytes w).toNat = w.toNat % 256 * 256 + w.toNat / 256 := by
  have hw := w.toNat_lt
  exact UInt16.toNat_ofNat_of_lt' (by simp only [UInt16.size]; omega)

/-- The other order twice is the first order. -/
@[simp] theorem swapBytes_swapBytes (w : UInt16) : swapBytes (swapBytes w) = w := by
  have hw := w.toNat_lt
  apply UInt16.toNat_inj.1
  rw [toNat_swapBytes, toNat_swapBytes]
  omega

end LogCollector
