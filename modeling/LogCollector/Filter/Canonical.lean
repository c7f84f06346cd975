import LogCollector.Filter.Compile

/-!
# Canonical rule texts

The way back from rulebases to rule texts: the text of a rule that passes records compiles to
that rule again. A rule that drops records has no text, nor has a predicate that no condition
stands for.
-/

namespace LogCollector.Filter

/-- The word of a code in a table. -/
def wordOf? (table : List (String × UInt8)) (code : UInt8) : Option String :=
  (table.find? fun (_, c) => c == code).map (·.1)

/-- The text of an operand in a list. -/
def operandText? : Value → Option String
  | .string s => some s
  | .ipAddress w => some (Net.Ipv4.ofWire w).text
  | .port w => some (Numeral.text (swapBytes w).toNat)
  | .actionCode c => wordOf? actionCodes c
  | .protocolNumber n => wordOf? protocolNumbers n
  | .ruleNumber n => some (Numeral.text n.toNat)
  | .unixTime _ => none

/-- The text of a time operand. -/
def timeText? (zone : Calendar.Zone) : Value → Option String
  | .unixTime t => (Calendar.localReading? zone t).map fun r => .ofList r.compact
  | _ => none

/-- The name and the value of the condition for a predicate. -/
def conditionParts? (zone : Calendar.Zone) (p : Predicate) : Option (String × String) :=
  match p.op with
  | .greaterEqual =>
    if p.field = "time" then
      p.operands.head?.bind fun v => (timeText? zone v).map fun t => ("starttime", t)
    else none
  | .smallerEqual =>
    if p.field = "time" then
      p.operands.head?.bind fun v => (timeText? zone v).map fun t => ("endtime", t)
    else none
  | .belongsToMask =>
    match p.operands with
    | [network, mask] => do
      return (p.field, (← network.address?).text ++ "/" ++ (← mask.address?).text)
    | _ => none
  | .belongsTo =>
    if p.operands.isEmpty then
      if p.field = "rule" ∨ p.field = "service" then some (p.field, "1-0") else none
    else (p.operands.mapM operandText?).map fun texts => (p.field, ",".intercalate texts)

/-- The condition that compiles to a predicate. -/
def Predicate.condition? (zone : Calendar.Zone) (p : Predicate) : Option String :=
  (conditionParts? zone p).map fun (name, value) =>
    (if name = "Administrator" then "administrator" else name)
      ++ (if p.negated then "!" else "") ++ "=" ++ value

/-- The rule text that compiles to a rule. -/
def Rule.ruleText? (zone : Calendar.Zone) (r : Rule) : Option String :=
  match r.action with
  | .drop => none
  | .pass => (r.predicates.mapM (Predicate.condition? zone)).map fun cs => ";".intercalate cs

/-- The rule texts of the rules that have one. -/
def Rulebase.ruleTexts (zone : Calendar.Zone) (t : Rulebase) : List String :=
  t.rules.filterMap (Rule.ruleText? zone)

end LogCollector.Filter
