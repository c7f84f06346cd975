import LogCollector.Program
import Std.Time.DateTime.Timestamp

/-!
# The command line

The name of the executable tells which program is run. The files that it reads, and those that
stand where it may write, are looked at beforehand; what it leaves behind is printed and
written afterwards.

No other program is started: the command of the status service counts as missing. Nor is there
a pause between two attempts or sessions.
-/

namespace LogCollector

open Storage

/-- What precedes the names of a path: a slash if the path starts at the root. -/
def rootOf (name : String) : String := if name.startsWith "/" then "/" else ""

/-- What a path leads to, as far as reading it tells. -/
def nodeAt (name : String) : IO (Option Node) := do
  match ← (IO.FS.readFile name).toBaseIO with
  | .ok content => return some (.file content)
  | .error (.noFileOrDirectory ..) => return none
  | .error _ => return some .folder

/-- Adds what stands on the way to a file, and the file. -/
def survey (d : Directory) (name : String) : IO Directory := do
  let path := Path.parse name
  let mut d := d
  for k in List.range path.length do
    let p := path.take (k + 1)
    if let some x ← nodeAt (rootOf name ++ "/".intercalate p) then
      d := d.put p x
  return d

/-- The variables of the environment that programs ask for. -/
def readEnvironment : IO Environment := do
  let names := "SPLUNK_HOME" :: Config.variableNames
  let values ← names.mapM fun name => return (← IO.getEnv name).map (name, ·)
  return .ofList (values.filterMap id)

/-- How many copies of an output file made in one second are looked for. -/
def lookedForCopies : Nat := 100

end LogCollector

open LogCollector Storage in
/-- Runs the program that the executable is named after. -/
def main (args : List String) : IO UInt32 := do
  let p := Program.ofPath (toString (← IO.appPath))
  let found ← (p.reads args).foldlM survey .empty
  let s : Surroundings := {
    directory := found
    environment := ← readEnvironment
    command := none
    zone := ((← IO.getEnv "TZ").bind Calendar.Zone.ofRule?).getD .universal
    clock := (← Std.Time.Timestamp.now).toSecondsSinceUnixEpoch.val }
  let targets := p.writes s args lookedForCopies
  let s := { s with directory := ← targets.foldlM survey found }
  let r := p.run s args
  for name in targets do
    let path := Path.parse name
    if let some (.file content) := r.directory.node? path then
      if s.directory.node? path ≠ some (.file content) then
        IO.FS.writeFile name content
  IO.print r.out
  IO.eprint r.err
  return r.exitCode.toUInt32
