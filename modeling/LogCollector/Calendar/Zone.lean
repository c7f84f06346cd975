import LogCollector.Calendar.Date

/-!
# Local time

A clock reading is a date with hours, minutes and seconds; it is counted in seconds from
midnight of 1 January 1970 on the same clock. An instant is counted in seconds from that
midnight in universal time. A zone leads from instants to readings and back.

In the eastern United States clocks are put forward from 02:00:00 to 03:00:00 on the second
Sunday of March and back from 02:00:00 to 01:00:00 on the first Sunday of November, every
year. On the way back from a reading the skipped hour has no instant, except its first second,
and the hour that occurs twice stands for its second pass.
-/

namespace LogCollector.Calendar

/-- A reading of a local clock. -/
structure Reading where
  /-- The date. -/
  date : Date
  /-- The hour, 0 to 23 in a valid reading. -/
  hour : Nat
  /-- The minute, 0 to 59 in a valid reading. -/
  minute : Nat
  /-- The second, 0 to 59 in a valid reading. -/
  second : Nat
  deriving DecidableEq

namespace Reading

/-- Seconds from midnight of 1 January 1970 on the same clock. -/
def seconds (r : Reading) : Int :=
  86400 * r.date.dayNumber + 3600 * r.hour + 60 * r.minute + r.second

/-- The reading a number of seconds after midnight of 1 January 1970. -/
def ofSeconds (n : Int) : Reading :=
  let inDay := n % 86400
  ⟨.ofDayNumber (n / 86400), (inDay / 3600).toNat, (inDay % 3600 / 60).toNat, (inDay % 60).toNat⟩

/-- The reading as `YYYYMMDDhhmmss`, the form of a time in a filter rule. -/
def compact (r : Reading) : List Char :=
  yearText r.date.year ++ Numeral.padded 2 r.date.month ++ Numeral.padded 2 r.date.day
    ++ Numeral.padded 2 r.hour ++ Numeral.padded 2 r.minute ++ Numeral.padded 2 r.second

/-- The date as `YYYY-MM-DD`. -/
def dashedDate (r : Reading) : List Char :=
  yearText r.date.year ++ ['-'] ++ Numeral.padded 2 r.date.month ++ ['-']
    ++ Numeral.padded 2 r.date.day

/-- The time of day as `hh:mm:ss`. -/
def clockTime (r : Reading) : List Char :=
  Numeral.padded 2 r.hour ++ [':'] ++ Numeral.padded 2 r.minute ++ [':']
    ++ Numeral.padded 2 r.second

/-- The reading as `YYYY-MM-DD hh:mm:ss`, the form of a time in a line. -/
def spaced (r : Reading) : List Char := r.dashedDate ++ [' '] ++ r.clockTime

/-- The reading as `YYYY-MM-DD_hhmmss`, the form of a time in a file name. -/
def fileStamp (r : Reading) : List Char :=
  r.dashedDate ++ ['_'] ++ Numeral.padded 2 r.hour ++ Numeral.padded 2 r.minute
    ++ Numeral.padded 2 r.second

/-- The reading as `YYYY-MM-DDThh:mm:ssZ`, the form of a time in universal time. -/
def universal (r : Reading) : List Char := r.dashedDate ++ ['T'] ++ r.clockTime ++ ['Z']

end Reading

/-- The local zones. -/
inductive Zone where
  /-- Universal time. -/
  | universal
  /-- Nine hours ahead of universal time, all year. -/
  | korea
  /-- Five hours behind universal time, four in summer. -/
  | easternStates
  deriving DecidableEq

namespace Zone

/-- The zone that a rule of the environment stands for. -/
def ofRule? (rule : String) : Option Zone :=
  match rule with
  | "UTC0" => some .universal
  | "KST-9" => some .korea
  | "EST5EDT,M3.2.0,M11.1.0" => some .easternStates
  | _ => none

/-- The local reading, in seconds, at which clocks in the eastern states are put forward. -/
def summerBegin (year : Int) : Int := 86400 * Date.sunday year 3 2 + 7200

/-- The first local reading, in seconds, of the hour that occurs twice in the eastern
states. -/
def summerEnd (year : Int) : Int := 86400 * Date.sunday year 11 1 + 3600

/-- The year in which a local reading, given in seconds, lies. -/
def yearOf (reading : Int) : Int := (Date.ofDayNumber (reading / 86400)).year

/-- Seconds by which local clocks are ahead of universal time at an instant. -/
def offset (z : Zone) (instant : Int) : Int :=
  match z with
  | .universal => 0
  | .korea => 32400
  | .easternStates =>
    let standard := instant - 18000
    let year := yearOf standard
    if summerBegin year ≤ standard ∧ standard < summerEnd year then -14400 else -18000

/-- The local reading, in seconds, at an instant. -/
def readingAt (z : Zone) (instant : Int) : Int := instant + z.offset instant

/-- The instant at which local clocks show a reading given in seconds. -/
def instantOf? (z : Zone) (reading : Int) : Option Int :=
  match z with
  | .universal => some reading
  | .korea => some (reading - 32400)
  | .easternStates =>
    let year := yearOf reading
    if reading ≤ summerBegin year then some (reading + 18000)
    else if reading < summerBegin year + 3600 then none
    else if reading < summerEnd year then some (reading + 14400)
    else some (reading + 18000)

end Zone

/-- Whether an instant lies within the years -262143 to 262142. -/
def isRepresentable (instant : Int) : Bool :=
  86400 * Date.dayNumber ⟨-262143, 1, 1⟩ ≤ instant
    && instant < 86400 * (Date.dayNumber ⟨262142, 12, 31⟩ + 1)

/-- What local clocks show at an instant that can be represented. -/
def localReading? (z : Zone) (instant : Int) : Option Reading :=
  if isRepresentable instant then some (.ofSeconds (z.readingAt instant)) else none

end LogCollector.Calendar
