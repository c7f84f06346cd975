import LogCollector.Value

/-!
# Log records

A record is a position in its log file, counted from 0, and the attributes that the session
delivered, in order.
-/

namespace LogCollector

/-- An attribute of a record. -/
structure Field where
  /-- Its name. -/
  name : String
  /-- Its value. -/
  value : Value
  /-- What the session resolved the value to: a host, a service, a vendor's time. -/
  resolved : Option String
  deriving DecidableEq

/-- The resolved text of an attribute, or the text of its value. -/
def Field.resolvedText (f : Field) : String := f.resolved.getD f.value.text

/-- A record. -/
structure Record where
  /-- The position in the log file, from 0. -/
  position : Int
  /-- The attributes, as delivered. -/
  fields : List Field
  deriving DecidableEq

/-- The number of a record as it is shown, from 1. It is an integer without bounds, where a number
of 64 bits would have none for the greatest position. -/
def Record.number (r : Record) : Int := r.position + 1

/-- A log file on the server. -/
structure LogFile where
  /-- Its name. -/
  name : String
  /-- Its number on the server. -/
  fileId : Int
  deriving DecidableEq

end LogCollector
