import LogCollector.CommandLine.Grammar

/-!
# Reading command lines

Arguments are read from left to right. A word that leads to a command opens a new level with the
options and operands of that command; what was given before stays with the levels outside it.
An option behind two hyphens has its value behind `=` or in the next argument, one behind a
single hyphen also right behind its letter, and several letters may share a hyphen. Behind `--`
everything is an operand.

The value of an option is looked at when the next option or operand of its level comes, or at
the end of the level. A level ends with the arguments, the innermost one first.
-/

namespace LogCollector.CommandLine

/-- What has been read of the arguments of a command. -/
structure Level where
  /-- The command. -/
  command : Command
  /-- The options with their values, the latest one first; a flag has an empty one. -/
  given : List (String × String)
  /-- The operands, the latest one first. -/
  operands : List String
  /-- The option that was read last, if its value has not been looked at, and that value. -/
  pending : Option (Opt × Option String)
  /-- Whether everything else is an operand. -/
  closed : Bool
  deriving DecidableEq

namespace Level

/-- A level before its first argument. -/
def start (c : Command) : Level := ⟨c, [], [], none, false⟩

/-- The option that waits for its value. -/
def waiting? (l : Level) : Option Opt :=
  match l.pending with
  | some (o, none) => some o
  | _ => none

/-- Adds an option. -/
def add (l : Level) (o : Opt) (value : String) : Except Refusal Level :=
  if (l.given.lookup o.name).isSome then .error .repeatedOption
  else .ok { l with given := (o.name, value) :: l.given, pending := none }

/-- Looks at the value of the option that was read last. -/
def settle (l : Level) : Except Refusal Level :=
  match l.pending with
  | none => .ok l
  | some (_, none) => .error .invalidValue
  | some (o, some v) => do
    let added ← l.add o v
    match o.form with
    | .value form _ _ =>
      match form.refusal? v with
      | some r => .error r
      | none => .ok added
    | _ => .ok added

/-- Gives a value to the option that waits for it. -/
def giveValue (l : Level) (v : String) : Level :=
  { l with pending := l.pending.map fun (o, _) => (o, some v) }

/-- Reads an option, with a value if one stands behind it. -/
def option (l : Level) (o : Opt) (value : Option String) : Except Refusal Level :=
  match o.form, value with
  | .value .., some v => do
    let l ← l.settle
    { l with pending := some (o, some v) }.settle
  | .value .., none => do
    let l ← l.settle
    return { l with pending := some (o, none) }
  | _, some _ => .error .unwantedValue
  | .flag, none => do (← l.settle).add o ""
  | .help, none => l.settle.bind fun _ => .error .help
  | .version, none => l.settle.bind fun _ => .error .version

/-- Reads the letters behind a hyphen. -/
def letters (l : Level) : List Char → Except Refusal Level
  | [] => .ok l
  | c :: rest =>
    match l.command.options.find? (·.letter = some c) with
    | none => .error .unknownArgument
    | some o =>
      match o.form, rest with
      | .value .., [] => l.option o none
      | .value .., '=' :: v => l.option o (some (.ofList v))
      | .value .., v => l.option o (some (.ofList v))
      | _, _ => do (← l.option o none).letters rest

/-- Reads an operand. -/
def operand (g : Grammar) (l : Level) (arg : String) : Except Refusal Level :=
  if l.command.operands.admits l.operands.length then do
    let l ← l.settle
    return { l with operands := arg :: l.operands }
  else
    let words := g.words l.command.path
    .error (if words.isEmpty || (l.closed && words.contains arg) then .unknownArgument
      else .unknownCommand)

/-- The shapes of an argument. -/
inductive Shape where
  /-- Two hyphens. -/
  | escape
  /-- Two hyphens with a name, and perhaps a value behind `=`. -/
  | long (name : String) (value : Option String)
  /-- A hyphen with letters. -/
  | short (letters : List Char)
  /-- Anything else. -/
  | plain
  deriving DecidableEq

/-- The shape of an argument. -/
def Shape.of (arg : String) : Shape :=
  match arg.toList with
  | ['-', '-'] => .escape
  | '-' :: '-' :: body =>
    match body.span (· != '=') with
    | (name, '=' :: v) => .long (.ofList name) (some (.ofList v))
    | (name, _) => .long (.ofList name) none
  | '-' :: c :: cs => .short (c :: cs)
  | _ => .plain

/-- Reads an argument that leads to no command. -/
def argument (g : Grammar) (l : Level) (arg : String) : Except Refusal Level :=
  if l.closed then l.operand g arg
  else if l.waiting?.any (·.takesHyphens) then .ok (l.giveValue arg)
  else match Shape.of arg with
    | .escape => .ok { l with closed := true }
    | .long name value =>
      match l.command.options.find? (·.name = name) with
      | none => .error .unknownArgument
      | some o => l.option o value
    | .short letters => l.letters letters
    | .plain => if l.waiting?.isSome then .ok (l.giveValue arg) else l.operand g arg

/-- Ends a level; `leaf` says that no command below it was named. -/
def finish (g : Grammar) (leaf : Bool) (l : Level) : Except Refusal Level := do
  let l ← l.settle
  if leaf && !(g.below l.command.path).isEmpty then
    throw (if l.given.isEmpty then .nothingGiven else .missingCommand)
  let missing := l.command.options.any fun o => o.isRequired && (l.given.lookup o.name).isNone
  if missing || (l.command.operands = .several && l.operands.isEmpty) then
    throw .missingArgument
  return l

end Level

/-- What arguments ask for. -/
structure Demand where
  /-- The words that lead to the command. -/
  path : List String
  /-- The options with their values; of two the first one counts. -/
  given : List (String × String)
  /-- The operands. -/
  operands : List String
  deriving DecidableEq

namespace Demand

/-- The value of an option. -/
def value? (d : Demand) (name : String) : Option String := d.given.lookup name

/-- Whether a flag is given. -/
def has (d : Demand) (name : String) : Bool := (d.value? name).isSome

end Demand

namespace Grammar

/-- Reads arguments on a level; the levels outside it come innermost first. -/
def scan (g : Grammar) (outer : List Level) (l : Level) :
    List String → Except Refusal (Level × List Level)
  | [] => .ok (l, outer)
  | arg :: rest =>
    if !l.closed && l.waiting?.isNone && (g.words l.command.path).contains arg then
      if arg = "help" then .error (g.helpAbout l.command.path rest)
      else g.scan (l :: outer) (.start (g.command (l.command.path ++ [arg]))) rest
    else do g.scan outer (← l.argument g arg) rest

/-- Reads the arguments of a program. An option that is given on several levels has the value of
the innermost one. -/
def read (g : Grammar) (args : List String) : Except Refusal Demand := do
  let (l, outer) ← g.scan [] (.start (g.command [])) args
  let l ← l.finish g true
  let outer ← outer.mapM (Level.finish g false)
  return ⟨l.command.path, l.given ++ outer.flatMap (·.given), l.operands.reverse⟩

end Grammar

end LogCollector.CommandLine
