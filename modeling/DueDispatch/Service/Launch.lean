import DueDispatch.Schedule.Basic
import DueDispatch.Service.Startup
import DueDispatch.Settings.EnvFile
import DueDispatch.Settings.Help

/-!
# DueDispatch — from the command line to the running service

The environment file is loaded first, then the settings are read and checked,
then the peers are reached. `launch` gives the running service, or the `Exit` of
a program that ends before its first tick.
-/

namespace DueDispatch

/-- How the program ends, and what it has written by then. -/
structure Exit where
  code : UInt32
  output : String := ""
  errors : String := ""
deriving DecidableEq

namespace Exit

/-- What is written of a text that is meant for a terminal. -/
def written (env : Environment) (text : String) : String :=
  if env.forcesColor then text else Text.Terminal.plainText .suspends text

/-- The end of a program whose command line is not followed by a run. -/
def ofStop (env : Environment) : Stop → Exit
  | .help long =>
    { code := 0, output := written env (if long then Help.long env else Help.short env) }
  | .version => { code := 0, output := versionText }
  | .fault f => { code := 2, errors := written env f.message }

/-- The end of a program that was told to stop. -/
def normal : Exit := { code := 0 }

/-- The end of a program whose schedule cannot be set up. -/
def ofCrash (fault : Schedule.Fault) : Exit := { code := 101, errors := fault.message ++ "\n" }

/-- The end of a program that cannot start. -/
def ofFailure (message : String) : Exit := { code := 1, errors := "Error: " ++ message ++ "\n" }

end Exit

/-- The environment after the environment file, if there is one. -/
def loadEnvFile (envFile : Option String) (env : Environment) : Environment :=
  match envFile with
  | none => env
  | some text => EnvFile.load text env

/-- Reads and checks the settings. -/
def configure (args : List String) (env : Environment) : Except Exit Config :=
  match readSettings args env with
  | .error stop => .error (.ofStop env stop)
  | .ok values =>
    match Config.check values with
    | .error fault => .error (.ofFailure fault.message)
    | .ok config => .ok config

/-- Runs the program up to its first tick. -/
def launch {σ : Type} (network : Network σ) (args : List String) (envFile : Option String)
    (env : Environment) (s : σ) : Except Exit (Service σ) × σ :=
  let env := loadEnvFile envFile env
  match configure args env with
  | .error exit => (.error exit, s)
  | .ok config =>
    match Service.start network env config s with
    | (.error fault, s) => (.error (.ofFailure fault.message), s)
    | (.ok service, s) => (.ok service, s)

end DueDispatch
