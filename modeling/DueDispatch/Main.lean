import DueDispatch.Service.Launch

/-!
# DueDispatch — the command line program

Finds the environment file, reads the environment, and hands both to `launch`.
No transport is linked into this program: it explains itself, checks its
settings, and finds no database.
-/

namespace DueDispatch.Program

/-- A network without any server. -/
def noNetwork : Network Unit where
  postgres _ := .unreachable (.disconnected "no transport")
  redis _ := .unreachable "no transport"

/-- The names that variables in a text may have: its runs of letters and
digits, and what stands in braces, up to an equals sign. -/
def mentionedNames (text : String) : List String :=
  let split (isInside : Char → Bool) : List String :=
    (text.split fun c => !isInside c).toList.map toString
  split Text.isAlphanumeric ++ split fun c => c != '\x7b' && c != '\x7d' && c != '='

/-- The text of the file `.env` in the working directory or the nearest
directory above that has one. -/
def findEnvFile : (levels : Nat) → (path : String) → IO (Option String)
  | 0, _ => return none
  | levels + 1, path => do
    match ← (IO.FS.readFile (path ++ ".env")).toBaseIO with
    | .ok text => return some text
    | .error _ => findEnvFile levels (path ++ "../")

/-- The variables with these names, as far as they are set. -/
def readVariables (names : List String) : IO (List (String × String)) :=
  names.filterMapM fun name => return (← IO.getEnv name).map fun value => (name, value)

end DueDispatch.Program

open DueDispatch in
/-- Runs the program. -/
def main (args : List String) : IO UInt32 := do
  let levels := ((← IO.currentDir).toString.splitOn "/").length
  let envFile ← Program.findEnvFile levels ""
  let names := Setting.all.map Setting.envName ++ Environment.colorVariables ++
    Postgres.Endpoint.variableNames ++ Program.mentionedNames (envFile.getD "")
  let env := Environment.ofList (← Program.readVariables names)
  match (launch Program.noNetwork args envFile env ()).1 with
  | .ok _ => return 0
  | .error exit =>
    IO.print exit.output
    IO.eprint exit.errors
    return exit.code
