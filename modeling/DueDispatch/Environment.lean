/-!
# DueDispatch — the environment

The variables of the process, each with a text or without.
-/

namespace DueDispatch

/-- The values of environment variables. -/
abbrev Environment := String → Option String

namespace Environment

/-- The environment with these variables; of two with the same name the earlier
one counts. -/
def ofList (entries : List (String × String)) : Environment := fun name => entries.lookup name

/-- The environment with one more variable, unless it is set already. -/
def setDefault (env : Environment) (key value : String) : Environment := fun name =>
  match env name with
  | some old => some old
  | none => if name = key then some value else none

/-- What stands after `name` and an equals sign in the line `KEY=value` of a
variable. If there is no equals sign in the name, that is the value of the
variable; otherwise the name goes on into the value. -/
def textAfter (env : Environment) (name : List Char) : Option (List Char) :=
  let key := name.takeWhile (· != '=')
  match name.dropWhile (· != '=') with
  | [] => (env (String.ofList key)).map String.toList
  | _ :: more =>
    (env (String.ofList key)).bind fun value =>
      let start := more ++ ['=']
      if start.isPrefixOf value.toList then some (value.toList.drop start.length) else none

/-- Whether a variable has a text that is not empty. -/
def hasText (env : Environment) (name : String) : Bool :=
  match env name with
  | some text => !text.isEmpty
  | none => false

/-- The variables that `forcesColor` looks at. -/
def colorVariables : List String := ["CLICOLOR_FORCE", "NO_COLOR"]

/-- Whether texts for a terminal are written as they are wherever they go:
`CLICOLOR_FORCE` asks for it, and `NO_COLOR` forbids it. -/
def forcesColor (env : Environment) : Bool :=
  env.hasText "CLICOLOR_FORCE" && !env.hasText "NO_COLOR"

theorem setDefault_of_eq_some {env : Environment} (key new : String) {name value : String}
    (h : env name = some value) : env.setDefault key new name = some value := by
  simp [setDefault, h]

end Environment

end DueDispatch
