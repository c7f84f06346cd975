import LogCollector.Net.Ipv6

/-!
# Addresses to listen at

A host is a dotted quad, or an address of version 6 between brackets, perhaps with the number
of a scope behind `%`. With a port it is an address to listen at.
-/

namespace LogCollector.Net

/-- A host. -/
inductive Host where
  /-- An address of version 4. -/
  | v4 (address : Ipv4)
  /-- An address of version 6 in a scope; scope 0 is not written. -/
  | v6 (address : Ipv6) (scope : Nat)
  deriving DecidableEq

namespace Host

/-- The number of a scope behind `%`, and what follows it; 0 if there is none. -/
def scopeAt (cs : List Char) : Nat × List Char :=
  match skip? '%' cs with
  | none => (0, cs)
  | some body =>
    let (digits, rest) := body.span Char.isDigit
    match (Numeral.digits? digits).filter (· < UInt32.size) with
    | some scope => (scope, rest)
    | none => (0, cs)

/-- Reads a host. -/
def parse? (cs : List Char) : Option Host :=
  match quadAt? cs with
  | some (x, []) => some (.v4 x)
  | _ => do
    let (x, rest) ← Ipv6.at? (← skip? '[' cs)
    let (scope, rest) := scopeAt rest
    if rest = [']'] then some (.v6 x scope) else none

/-- The text of a host. -/
def chars : Host → List Char
  | .v4 x => x.chars
  | .v6 x scope =>
    ['['] ++ x.chars ++ (if scope = 0 then [] else '%' :: Numeral.ofNat scope) ++ [']']

end Host

/-- The address to listen at for a host and a port, or why there is none. -/
def listenAddress (host : String) (port : Nat) : Except String String :=
  match Host.parse? host.toList with
  | some h => .ok (.ofList (h.chars ++ ':' :: Numeral.ofNat port))
  | none => .error "invalid metrics listen address: invalid socket address syntax"

end LogCollector.Net
