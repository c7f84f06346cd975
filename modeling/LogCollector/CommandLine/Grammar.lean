import LogCollector.Text.Numeral

/-!
# Grammars of command lines

A grammar is a list of commands. A command is found by its path, the words that lead to it; the
program itself has the empty path. A command has options and operands, or commands below it, and
then it always has a command `help` as well.
-/

namespace LogCollector.CommandLine

/-- Why arguments ask for nothing that could be done. -/
inductive Refusal where
  /-- They ask for help. -/
  | help
  /-- They ask for the version. -/
  | version
  /-- There are none although there should be a command. -/
  | nothingGiven
  /-- They name no command. -/
  | missingCommand
  /-- They name a command that there is not. -/
  | unknownCommand
  /-- An argument has no meaning. -/
  | unknownArgument
  /-- An option or operand is missing. -/
  | missingArgument
  /-- An option has no value, or one that it may not have. -/
  | invalidValue
  /-- The value of an option cannot be read. -/
  | unreadableValue
  /-- An option has a value although it takes none. -/
  | unwantedValue
  /-- An option is given twice. -/
  | repeatedOption
  deriving DecidableEq

/-- The exit code for arguments that ask for nothing that could be done. -/
def Refusal.exitCode : Refusal → Nat
  | .help | .version => 0
  | _ => 2

/-- The values that an option takes. -/
inductive ValueForm where
  /-- Any text. -/
  | text
  /-- The name of a file. -/
  | path
  /-- One of some words. -/
  | word (words : List String)
  /-- A whole number within bounds. -/
  | integer (low high : Int)
  deriving DecidableEq

/-- What is wrong with a value. -/
def ValueForm.refusal? (s : String) : ValueForm → Option Refusal
  | .text => none
  | .path => if s = "" then some .invalidValue else none
  | .word words => if s ∈ words then none else some .invalidValue
  | .integer low high =>
    if (Numeral.integer? low high s.toList).isSome then none else some .unreadableValue

/-- The kinds of options. -/
inductive OptionForm where
  /-- It takes a value; whether that may begin with a hyphen, and whether it has to be given. -/
  | value (form : ValueForm) (hyphens : Bool) (required : Bool)
  /-- It takes no value. -/
  | flag
  /-- It asks for help. -/
  | help
  /-- It asks for the version. -/
  | version
  deriving DecidableEq

/-- An option. -/
structure Opt where
  /-- The name behind two hyphens. -/
  name : String
  /-- The letter behind one hyphen. -/
  letter : Option Char
  /-- What it takes. -/
  form : OptionForm
  deriving DecidableEq

/-- An option with a text that may be left out. -/
def Opt.text (name : String) : Opt := ⟨name, none, .value .text false false⟩

/-- An option with the name of a file that may be left out. -/
def Opt.path (name : String) (letter : Option Char) : Opt :=
  ⟨name, letter, .value .path false false⟩

/-- An option without a value. -/
def Opt.flag (name : String) : Opt := ⟨name, none, .flag⟩

/-- The option that asks for help. -/
def Opt.help : Opt := ⟨"help", some 'h', .help⟩

/-- The option that asks for the version. -/
def Opt.version : Opt := ⟨"version", some 'V', .version⟩

/-- Whether an option has to be given. -/
def Opt.isRequired (o : Opt) : Bool := o.form matches .value _ _ true

/-- Whether the value of an option may begin with a hyphen. -/
def Opt.takesHyphens (o : Opt) : Bool := o.form matches .value _ true _

/-- How many operands there may be. -/
inductive Operands where
  /-- None. -/
  | none
  /-- One or none. -/
  | optional
  /-- One or more. -/
  | several
  deriving DecidableEq

/-- Whether there may be another operand behind some. -/
def Operands.admits (count : Nat) : Operands → Bool
  | .none => false
  | .optional => count = 0
  | .several => true

/-- A command. -/
structure Command where
  /-- The words that lead to it. -/
  path : List String
  /-- Its options. -/
  options : List Opt
  /-- Its operands. -/
  operands : Operands
  deriving DecidableEq

/-- A grammar. -/
abbrev Grammar := List Command

namespace Grammar

/-- The command at a path; one that there is not takes nothing. -/
def command (g : Grammar) (path : List String) : Command :=
  (g.find? (·.path = path)).getD ⟨path, [], .none⟩

/-- The words that lead on from a path, `help` apart. -/
def below (g : Grammar) (path : List String) : List String :=
  g.filterMap fun c => if c.path ≠ [] ∧ c.path.dropLast = path then c.path.getLast? else none

/-- The words that lead on from a path. -/
def words (g : Grammar) (path : List String) : List String :=
  let ws := g.below path
  if ws.isEmpty then [] else ws ++ ["help"]

/-- What comes of asking for help about words behind a path. -/
def helpAbout (g : Grammar) (path : List String) : List String → Refusal
  | [] => .help
  | w :: ws => if w ∈ g.words path then g.helpAbout (path ++ [w]) ws else .unknownCommand

end Grammar

end LogCollector.CommandLine
