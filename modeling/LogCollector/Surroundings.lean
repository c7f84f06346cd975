import LogCollector.Config.Check
import LogCollector.Config.Document
import LogCollector.Config.Environment
import LogCollector.Status.Command
import LogCollector.Storage.Directory

/-!
# What a program finds around it

The files, the variables of the environment, the command of the status service, the zone and
the clock. The command is looked for below the folder that the variable `SPLUNK_HOME` names.
-/

namespace LogCollector

/-- What a program finds around it. -/
structure Surroundings where
  /-- The files. -/
  directory : Storage.Directory
  /-- The variables of the environment. -/
  environment : Environment
  /-- What the command of the status service leaves behind; nothing if it is missing. -/
  command : Option Status.Command.Output
  /-- The zone of local times. -/
  zone : Calendar.Zone
  /-- The time, in seconds since 1970. -/
  clock : Int

namespace Surroundings

variable (s : Surroundings)

/-- The document of the configuration in a file. -/
def readConfig (path : String) : Except Fault String :=
  match s.directory.read path with
  | .ok text => .ok text
  | .error .notFound => .error (.config (.fileNotFound path))
  | .error f => .error (.io f.message)

/-- The configuration in a file with the settings of the environment. -/
def loadConfig (path : String) : Except Fault Config := do
  let c ← (Config.parse (← s.readConfig path)).mapError .config
  (c.override s.environment).check.mapError .config

/-- Whether it is known where the command of the status service is. -/
def knowsCommand : Except StatusFault Unit :=
  if (s.environment "SPLUNK_HOME").isSome then .ok () else .error Status.Command.homeless

end Surroundings

end LogCollector
