import LogCollector.Calendar.Zone
import LogCollector.Filter.Argument
import LogCollector.Net.Ipv4

/-!
# The values of filter arguments

The syntax of the values that may stand behind the `=` of a condition: words of a table,
addresses, a network, ranges of numbers and local times.
-/

namespace LogCollector.Filter

/-- The codes of what a firewall does. -/
def actionCodes : List (String × UInt8) :=
  [("ctl", 0), ("drop", 2), ("reject", 3), ("accept", 4), ("encrypt", 5), ("decrypt", 6),
    ("keyinst", 7)]

/-- The numbers of Internet protocols. -/
def protocolNumbers : List (String × UInt8) := [("icmp", 1), ("tcp", 6), ("udp", 17)]

/-- The products that write records of a kind. -/
def products : RecordKind → List String
  | .traffic => ["VPN-1 & FireWall-1", "SmartDefense"]
  | .audit => ["SmartDashboard", "Policy Editor", "SmartView Tracker", "SmartView Status",
      "SmartView Monitor", "System Monitor", "cpstat_monitor", "SmartUpdate", "CPMI Client"]

/-- A text that has to be one of the allowed words; letter case counts. -/
def checkedWord (what : String) (allowed : List String) (value : List Char) :
    Except SyntaxReason String :=
  let word := String.ofList value
  if word ∈ allowed then .ok word else .error (.unknownWord what word)

/-- The code of a word in a table; letter case counts. -/
def codeOf (what : String) (table : List (String × UInt8)) (value : List Char) :
    Except SyntaxReason UInt8 :=
  let word := String.ofList value
  match table.lookup word with
  | some code => .ok code
  | none => .error (.unknownWord what word)

/-- A dotted quad. -/
def address (value : List Char) : Except SyntaxReason Net.Ipv4 :=
  match Net.Ipv4.parse? value with
  | some x => .ok x
  | none => .error (.badAddress (.ofList value))

/-- A network mask: a dotted quad, or the number of its leading one bits. -/
def mask (value : List Char) : Except SyntaxReason Net.Ipv4 :=
  if '.' ∈ value then address value
  else match Numeral.natural? 32 value with
    | some bits => .ok (.mask bits)
    | none => .error (.badMask (.ofList value))

/-- What an address argument asks for. -/
inductive AddressSpec where
  /-- One of some addresses. -/
  | list (addresses : List Net.Ipv4)
  /-- The addresses of a network. -/
  | network (network mask : Net.Ipv4)
  deriving DecidableEq

/-- Some addresses separated by commas, or one network with its mask behind a slash. -/
def addressSpec (value : List Char) : Except SyntaxReason AddressSpec :=
  if ',' ∈ value ∧ '/' ∈ value then .error .listOfNetworks
  else match Text.cut? '/' value with
    | some (before, after) => do
      let network := Text.trim before
      let bits := Text.trim after
      if network.isEmpty || bits.isEmpty || bits.contains '/' then .error .badNetwork
      else return .network (← address network) (← mask bits)
    | none => do return .list (← (← listItems value).mapM address)

/-- The most numbers that one range may stand for. -/
def maxRange : Nat := 65536

/-- A number of at most `max` with blanks around it. -/
def number (max : Nat) (what : String) (value : List Char) : Except SyntaxReason Nat :=
  let digits := Text.trim value
  match Numeral.natural? max digits with
  | some n => .ok n
  | none => .error (.badNumber what (.ofList digits))

/-- The numbers of `a-b`, or the number `a` alone. A range whose end lies before its start
stands for no number. -/
def range (max : Nat) (what : String) (item : List Char) : Except SyntaxReason (List Nat) :=
  match Text.cut? '-' item with
  | none => do return [← number max what item]
  | some (before, after) => do
    let first ← number max what before
    let last ← number max what after
    if last < first then return []
    else if last - first + 1 > maxRange then .error (.longRange what (.ofList item))
    else return List.range' first (last - first + 1)

/-- The number that the digits from `start` on spell. -/
def digitsAt (value : List Char) (start count : Nat) : Nat :=
  Nat.ofDigitChars 10 ((value.drop start).take count) 0

/-- A local time as `YYYYMMDDhhmmss`, as an instant. -/
def localTime (zone : Calendar.Zone) (value : List Char) : Except SyntaxReason Int :=
  if value.length ≠ 14 ∨ ¬ value.all Char.isDigit then .error .badTime
  else
    let month := digitsAt value 4 2
    let day := digitsAt value 6 2
    let hour := digitsAt value 8 2
    let minute := digitsAt value 10 2
    let second := digitsAt value 12 2
    if month < 1 ∨ 12 < month then .error (.badMonth month)
    else if day < 1 ∨ 31 < day then .error (.badDay day)
    else if 23 < hour then .error (.badHour hour)
    else if 59 < minute then .error (.badMinute minute)
    else if 59 < second then .error (.badSecond second)
    else
      let date : Calendar.Date := ⟨digitsAt value 0 4, month, day⟩
      if !date.isValid then .error (.badDate (.ofList value))
      else match zone.instantOf? (Calendar.Reading.seconds ⟨date, hour, minute, second⟩) with
        | some instant => .ok instant
        | none => .error (.skippedTime (.ofList value))

end LogCollector.Filter
