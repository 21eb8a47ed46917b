import DueDispatch.Settings.CommandLine
import DueDispatch.Text.Terminal

/-!
# DueDispatch — messages about the command line

The wording of a refused command line: what is wrong, what may have been meant,
how the program is used, and where to read on. The messages are meant for a
terminal, which sets off what is right and wrong in them; what is written
elsewhere is their `Text.Terminal.plainText`.
-/

namespace DueDispatch

open Text.Terminal (Look)

/-- The name of the program. -/
def programName : String := "account-dispatch-server"

/-- The wording of a refused value; nothing is said of a word that is none of the
possible ones. -/
def ValueFault.message : ValueFault → String
  | .number f => ": " ++ f.message
  | .outOfBounds i => ": " ++ Decimal.write i ++ " is not in 0..=" ++ Decimal.write maxSmall
  | .unknownWord => ""

/-- How an option is shown in the line on the use of the program. -/
def Flag.usage : Flag → String
  | setting s => Look.name.on ("--" ++ s.name) ++ " <" ++ s.envName ++ ">"
  | query q => Look.name.on ("--" ++ q.name)

namespace UsageFault

/-- How the line on the use of the program begins. -/
def usageStart : String := Look.title.on "Usage:" ++ " " ++ Look.name.on programName ++ " "

/-- How the program is used when nothing particular is known. -/
def generalUsage : String := usageStart ++ "[OPTIONS] " ++ (Flag.setting .databaseUrl).usage

/-- How the program is used with these options beside the database. -/
def usageWith (flags : List Flag) : String :=
  usageStart ++
    String.intercalate " "
      ((Flag.setting .databaseUrl :: flags.filter (· != .setting .databaseUrl)).map Flag.usage)

/-- How the program is used with these options, or in general. -/
def usage (flags : List Flag) : String :=
  if flags.isEmpty then generalUsage else usageWith flags

/-- How a query is used together with any of the settings. -/
def usageAmongSettings (query : Query) : String :=
  usageStart ++ (Flag.query query).usage ++
    " <" ++ String.intercalate "|" (Setting.all.map Setting.shown) ++ ">"

/-- A line that lists the words among which a value is chosen. -/
def wordList (s : Setting) : List String :=
  if s.words.isEmpty then []
  else ["  [possible values: " ++ String.intercalate ", " (s.words.map Look.right.on) ++ "]"]

/-- A hint at something similar. -/
def hint (sort name : String) : String :=
  "  " ++ Look.right.on "tip:" ++ " a similar " ++ sort ++ " exists: " ++
    "'" ++ Look.right.on name ++ "'"

/-- Something in quotes. -/
def quote (look : Look) (text : String) : String := "'" ++ look.on text ++ "'"

/-- A value that a setting cannot have. -/
def refusal (s : Setting) (text : String) : String :=
  "invalid value " ++ quote .wrong text ++ " for " ++ quote .name s.shown

/-- A setting without its value, and the words that it can have. -/
def absence (s : Setting) : String :=
  String.intercalate "\n"
    (("a value is required for " ++ quote .wrong s.shown ++ " but none was supplied") :: wordList s)

/-- The first paragraph: what is wrong. -/
def complaint : UsageFault → String
  | unexpected shown _ _ => "unexpected argument " ++ quote .wrong shown ++ " found"
  | needless value query _ =>
    "unexpected value " ++ quote .wrong value ++ " for " ++ quote .name (Flag.query query).shown ++
      " found; no more were expected"
  | repeated s => "the argument " ++ quote .wrong s.shown ++ " cannot be used multiple times"
  | missingValue s => absence s
  | badValue s text .unknownWord =>
    if text.isEmpty then absence s else String.intercalate "\n" (refusal s text :: wordList s)
  | badValue s text fault => refusal s text ++ fault.message
  | missingDatabase _ =>
    "the following required arguments were not provided:\n  " ++
      Look.right.on Setting.databaseUrl.shown

/-- What may have been meant. -/
def hints : UsageFault → List String
  | unexpected _ (some meant) _ => [hint "argument" ("--" ++ meant.name)]
  | badValue s text .unknownWord => ((Text.mostSimilar? text s.words).map (hint "value")).toList
  | _ => []

/-- How the program is used, where that helps. -/
def usages : UsageFault → List String
  | unexpected _ _ used => [usage used]
  | needless _ query afterSettings =>
    [if afterSettings then usageAmongSettings query else usageWith [.query query]]
  | repeated _ => [generalUsage]
  | missingDatabase given => [usageWith (given.map .setting)]
  | missingValue _ => []
  | badValue .. => []

/-- The whole message. -/
def message (f : UsageFault) : String :=
  String.intercalate "\n\n"
    ([Look.alarm.on "error:" ++ " " ++ f.complaint] ++ f.hints ++ f.usages ++
      ["For more information, try " ++ quote .name "--help" ++ ".\n"])

end UsageFault

end DueDispatch
