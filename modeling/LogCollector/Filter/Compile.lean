import LogCollector.Fault
import LogCollector.Filter.Operand
import LogCollector.Filter.Rule

/-!
# From rule texts to rulebases

A condition becomes a predicate, a rule text a rule that passes records, and a list of rule
texts a rulebase; the first condition that cannot be read is the fault of the whole. For a
session the mode of the connection adds a rule of its own behind those of the user, and in
firewall mode records of virtual private networks are dropped first unless a rule of the user
speaks of the product.
-/

namespace LogCollector.Filter

/-- The attribute that an argument is about. -/
def ArgumentName.field : ArgumentName → String
  | .administrator => "Administrator"
  | .startTime | .endTime => "time"
  | name => name.word

/-- The comparison and the operands that an argument's value stands for. -/
def operands (zone : Calendar.Zone) (kind : RecordKind) (value : List Char) :
    ArgumentName → Except SyntaxReason (Comparison × List Value)
  | .product => do
    let items ← (← listItems value).mapM (checkedWord "product" (products kind))
    return (.belongsTo, items.map .string)
  | .fwSubproduct | .administrator => do
    return (.belongsTo, (← listItems value).map fun item => .string (.ofList item))
  | .action => do
    let codes ← (← listItems value).mapM (codeOf "action" actionCodes)
    return (.belongsTo, codes.map .actionCode)
  | .proto => do
    let numbers ← (← listItems value).mapM (codeOf "proto" protocolNumbers)
    return (.belongsTo, numbers.map .protocolNumber)
  | .orig => do
    let addresses ← (← listItems value).mapM address
    return (.belongsTo, addresses.map .ofAddress)
  | .src | .dst => do
    match ← addressSpec value with
    | .list addresses => return (.belongsTo, addresses.map .ofAddress)
    | .network network mask => return (.belongsToMask, [.ofAddress network, .ofAddress mask])
  | .rule => do
    let numbers ← (← listItems value).mapM (range (UInt32.size - 1) "rule")
    return (.belongsTo, numbers.flatten.map fun n => .ruleNumber (.ofNat n))
  | .service => do
    let ports ← (← listItems value).mapM (range (UInt16.size - 1) "service")
    return (.belongsTo, ports.flatten.map fun n => .ofPort (.ofNat n))
  | .startTime => do return (.greaterEqual, [.unixTime (← localTime zone value)])
  | .endTime => do return (.smallerEqual, [.unixTime (← localTime zone value)])

/-- Compiles a condition. -/
def compileCondition (zone : Calendar.Zone) (kind : RecordKind) (condition : List Char) :
    Except FilterFault Predicate :=
  match Argument.parse condition with
  | .error reason => .error (.syntaxError (.ofList condition) reason)
  | .ok argument =>
    match ArgumentName.parse? kind argument.name with
    | none => .error (.unknownArgument argument.name kind.name)
    | some name =>
      match operands zone kind argument.value name with
      | .error reason => .error (.syntaxError (.ofList condition) reason)
      | .ok (op, values) => .ok ⟨name.field, argument.negated, op, values⟩

/-- Compiles a rule text. -/
def compileRule (zone : Calendar.Zone) (kind : RecordKind) (rule : String) :
    Except FilterFault Rule := do
  return ⟨.pass, ← (conditions rule.toList).mapM (compileCondition zone kind)⟩

/-- Compiles a list of rule texts. -/
def compile (zone : Calendar.Zone) (kind : RecordKind) (rules : List String) :
    Except FilterFault Rulebase := do
  return ⟨kind, ← rules.mapM (compileRule zone kind)⟩

/-- The rule that leaves out records of virtual private networks. -/
def dropVpn : Rule := ⟨.drop, [⟨"fw_subproduct", false, .belongsTo, [.string "VPN-1"]⟩]⟩

/-- The rulebase that a session registers; none when there is no rule. -/
def sessionRulebase (zone : Calendar.Zone) (kind : RecordKind) (mode : Mode)
    (userRules : List String) : Except FilterFault (Option Rulebase) := do
  let user := (← compile zone kind userRules).rules
  let implied ← match kind, mode.impliedRule? with
    | .traffic, some rule => do pure [← compileRule zone kind rule]
    | _, _ => pure []
  let dropped := kind = .traffic ∧ mode = .firewall
    ∧ ¬ user.any fun r => r.constrains "fw_subproduct" || r.constrains "product"
  let rules := (if dropped then [dropVpn] else []) ++ user ++ implied
  return if rules.isEmpty then none else some ⟨kind, rules⟩

end LogCollector.Filter
