import LogCollector.Kind
import LogCollector.Value

/-!
# Compiled filter rules

A rulebase is an ordered list of rules; a rule lets records pass or drops them when all of its
predicates hold, and a predicate compares one attribute with some operands. The text of a
rulebase has one numbered line for each rule.
-/

namespace LogCollector.Filter

/-- What a rule does with the records it applies to. -/
inductive RuleAction where
  /-- Hands the record on. -/
  | pass
  /-- Leaves the record out. -/
  | drop
  deriving DecidableEq

/-- The word for an action. -/
def RuleAction.name : RuleAction → String
  | .pass => "PASS"
  | .drop => "DROP"

/-- How an attribute is compared with the operands. -/
inductive Comparison where
  /-- It equals one of them. -/
  | belongsTo
  /-- It lies in the network of the first one under the mask of the second. -/
  | belongsToMask
  /-- It is at least the operand. -/
  | greaterEqual
  /-- It is at most the operand. -/
  | smallerEqual
  deriving DecidableEq

/-- The word for a comparison. -/
def Comparison.name : Comparison → String
  | .belongsTo => "BELONGS_TO"
  | .belongsToMask => "BELONGS_TO_MASK"
  | .greaterEqual => "GREATER_EQUAL"
  | .smallerEqual => "SMALLER_EQUAL"

/-- One comparison of an attribute. -/
structure Predicate where
  /-- The attribute. -/
  field : String
  /-- Whether the comparison has to fail. -/
  negated : Bool
  /-- The comparison. -/
  op : Comparison
  /-- What the attribute is compared with. -/
  operands : List Value
  deriving DecidableEq

/-- The text of a predicate. -/
def Predicate.text (p : Predicate) : String :=
  (if p.negated then "NOT " else "") ++ p.field ++ " " ++ p.op.name ++ "["
    ++ ", ".intercalate (p.operands.map fun v => v.tag.name ++ ":" ++ v.text) ++ "]"

/-- A rule; it applies to the records for which all its predicates hold. -/
structure Rule where
  /-- What is done with such a record. -/
  action : RuleAction
  /-- The predicates. -/
  predicates : List Predicate
  deriving DecidableEq

namespace Rule

/-- Whether some predicate of the rule is on the attribute. -/
def constrains (r : Rule) (field : String) : Bool := r.predicates.any (·.field == field)

/-- The text of a rule. -/
def text (r : Rule) : String :=
  r.action.name ++ " "
    ++ (if r.predicates.isEmpty then "*"
      else " AND ".intercalate (r.predicates.map Predicate.text))

end Rule

/-- The rules for a kind of records; the first one that applies decides. -/
structure Rulebase where
  /-- The kind of records. -/
  kind : RecordKind
  /-- The rules, in order. -/
  rules : List Rule
  deriving DecidableEq

/-- The text of a rulebase: a numbered line for each rule. -/
def Rulebase.text (t : Rulebase) : String :=
  "\n".intercalate (t.rules.zipIdx.map fun (r, i) => Numeral.text (i + 1) ++ ": " ++ r.text)

end LogCollector.Filter
