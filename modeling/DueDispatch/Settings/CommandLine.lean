import DueDispatch.Environment
import DueDispatch.Settings.Setting
import DueDispatch.Text.Similarity

/-!
# DueDispatch — the command line

Arguments give settings as `--name=value` or as `--name value`. A separate value
must not look like an option: it starts with no dash, or it is a single dash.
What is not given on the command line is taken from the environment, and what is
given nowhere has its default.

Values are read in the order in which they are given: a value that waits for its
option to be complete is read when the next option comes, or at the end. The
first fault ends the reading. So does a request for help or for the version,
whatever comes after it.
-/

namespace DueDispatch

/-- An option that takes no value. -/
inductive Query
  | help
  | version
deriving DecidableEq

/-- The name of a query, without the two dashes. -/
def Query.name : Query → String
  | .help => "help"
  | .version => "version"

/-- Anything that has a name on the command line. -/
inductive Flag
  | setting (s : Setting)
  | query (q : Query)
deriving DecidableEq

namespace Flag

/-- All options in the order in which they are shown. -/
def all : List Flag := Setting.all.map setting ++ [query .help, query .version]

/-- The name without the two dashes. -/
def name : Flag → String
  | setting s => s.name
  | query q => q.name

/-- How the option is shown in messages. -/
def shown : Flag → String
  | setting s => s.shown
  | query q => "--" ++ q.name

/-- The option of this name. -/
def ofName? (name : String) : Option Flag := all.find? (·.name == name)

end Flag

/-- What an argument looks like. -/
inductive Token
  /-- The two dashes after which no options follow. -/
  | terminator
  /-- A name after two dashes, and what follows its first equals sign. -/
  | long (name : String) (value : Option String)
  /-- The first letter after one dash. -/
  | short (letter : Char)
  | plain (text : String)
deriving DecidableEq

/-- Splits off what follows the first equals sign. -/
def splitValue (cs : List Char) : String × Option String :=
  match cs.dropWhile (· != '=') with
  | [] => (String.ofList cs, none)
  | _ :: value => (String.ofList (cs.takeWhile (· != '=')), some (String.ofList value))

/-- What an argument looks like. -/
def Token.of (arg : String) : Token :=
  match arg.toList with
  | ['-', '-'] => .terminator
  | '-' :: '-' :: rest => .long (splitValue rest).1 (splitValue rest).2
  | '-' :: c :: _ => .short c
  | _ => .plain arg

/-- Why a command line is refused. -/
inductive UsageFault
  /-- An argument that means nothing, what it may have been meant for, and the
  options with which the use of the program is explained. -/
  | unexpected (shown : String) (meant : Option Flag) (used : List Flag)
  /-- A value for an option that takes none, and whether any settings had been
  read before. -/
  | needless (value : String) (query : Query) (afterSettings : Bool)
  /-- An option that was given twice. -/
  | repeated (s : Setting)
  /-- An option without its value. -/
  | missingValue (s : Setting)
  /-- A text that is no value of the setting. -/
  | badValue (s : Setting) (text : String) (fault : ValueFault)
  /-- The database is not named; the settings that are given. -/
  | missingDatabase (given : List Setting)
deriving DecidableEq

/-- Why the program does not go on with settings. -/
inductive Stop
  /-- Help was asked for, at length or in short. -/
  | help (long : Bool)
  | version
  | fault (f : UsageFault)
deriving DecidableEq

/-- Values of settings. -/
abbrev Values := (s : Setting) → Option s.Value

/-- No values. -/
def Values.empty : Values := fun _ => none

/-- Values with one more. -/
def Values.set (v : Values) (s : Setting) (value : s.Value) : Values :=
  fun other => if h : s = other then some (h ▸ value) else v other

/-- How far the reading has come. -/
structure Progress where
  /-- The values read so far. -/
  values : Values := Values.empty
  /-- Their settings, in the order of reading. -/
  given : List Setting := []
  /-- An option that is not complete, with its value if that has come. -/
  pending : Option (Setting × Option String) := none

namespace Progress

/-- Reads the value of a setting that was not given before. -/
def accept (p : Progress) (s : Setting) (text : String) : Except Stop Progress :=
  match s.read text with
  | .error f => .error (.fault (.badValue s text f))
  | .ok value => .ok { p with values := p.values.set s value, given := p.given ++ [s] }

/-- Reads the value that an option on the command line was given. -/
def acceptOption (p : Progress) (s : Setting) (text : String) : Except Stop Progress :=
  if s ∈ p.given then .error (.fault (.repeated s)) else p.accept s text

/-- Completes the pending option. -/
def resolve (p : Progress) : Except Stop Progress :=
  match p.pending with
  | none => .ok p
  | some (s, none) => .error (.fault (.missingValue s))
  | some (s, some text) => acceptOption { p with pending := none } s text

/-- The settings that count as given in a message about an unknown option: the
pending one is among them, unless that makes it given twice. -/
def givenWithPending (p : Progress) : List Setting :=
  match p.pending with
  | some (s, some _) => if s ∈ p.given then p.given.erase s else p.given ++ [s]
  | _ => p.given

/-- The fault of an unknown long option. The use of the program is explained
with the options that were given, and with the one that may have been meant. -/
def unknown (p : Progress) (name : String) : UsageFault :=
  let meant := (Text.mostSimilar? name (Flag.all.map Flag.name)).bind Flag.ofName?
  let given := p.givenWithPending.map Flag.setting
  .unexpected ("--" ++ name) meant (given ++ meant.toList.filter (· ∉ given))

/-- Takes a long option. -/
def long (p : Progress) (name : String) (value : Option String) : Except Stop Progress :=
  match Flag.ofName? name, value with
  | some (.setting s), some text => do (← p.resolve).acceptOption s text
  | some (.setting s), none => do return { ← p.resolve with pending := some (s, none) }
  | some (.query q), some text => .error (.fault (.needless text q (!p.given.isEmpty)))
  | some (.query .help), none => do
    let _ ← p.resolve
    .error (.help true)
  | some (.query .version), none => do
    let _ ← p.resolve
    .error .version
  | none, _ => .error (.fault (p.unknown name))

/-- Takes a short option. -/
def short (p : Progress) (letter : Char) : Except Stop Progress :=
  match letter with
  | 'h' => do
    let _ ← p.resolve
    .error (.help false)
  | 'V' => do
    let _ ← p.resolve
    .error .version
  | c => .error (.fault (.unexpected (String.ofList ['-', c]) none []))

/-- Takes an argument that is no option: the value of the one before it. -/
def plain (p : Progress) (text : String) : Except Stop Progress :=
  match p.pending with
  | some (s, none) => .ok { p with pending := some (s, some text) }
  | _ => .error (.fault (.unexpected text none []))

/-- Takes all arguments. -/
def takeAll : List String → Progress → Except Stop Progress
  | [], p => p.resolve
  | arg :: rest, p =>
    match Token.of arg with
    | .terminator =>
      match rest with
      | [] => p.resolve
      | next :: _ => .error (.fault (.unexpected next none []))
    | .long name value => p.long name value >>= takeAll rest
    | .short letter => p.short letter >>= takeAll rest
    | .plain text => p.plain text >>= takeAll rest

/-- Takes the value of a setting from the environment, unless it was given. -/
def takeVariable (environment : Environment) (p : Progress) (s : Setting) :
    Except Stop Progress :=
  if s ∈ p.given then .ok p
  else
    match environment s.envName with
    | none => .ok p
    | some text => p.accept s text

end Progress

/-- A value that is given, or the default. -/
def Values.orDefault (v : Values) : Values := fun s =>
  match v s with
  | some value => some value
  | none => s.default?.bind fun text => (s.read text).toOption

/-- Reads the settings from the command line and the environment. Every setting
that has a default has a value afterwards, and so has the database. -/
def readSettings (args : List String) (environment : Environment) :
    Except Stop Values := do
  let p ← Progress.takeAll args {}
  let p ← Setting.all.foldlM (Progress.takeVariable environment) p
  if Setting.databaseUrl ∈ p.given then return p.values.orDefault
  else .error (.fault (.missingDatabase p.given))

end DueDispatch
