import DueDispatch.Environment
import DueDispatch.Text.Alphanumeric
import DueDispatch.Text.Blank

/-!
# DueDispatch — the environment file

A text of lines `KEY=value` that adds variables to the environment. A variable
that is set already keeps its value. The first line that cannot be read ends the
reading; what came before it stays.

Reading has three stages:

* `EnvFile.lines` — the logical lines. A line break between quotes or after a
  backslash does not end one, and a number sign after a blank does.
* `EnvFile.readLine` — the variable that a line sets, if it sets one.
* `EnvFile.readValue` — its value. Single quotes keep their text as it is. In
  double quotes and outside of quotes a backslash escapes and a dollar sign
  names a variable, `$name` or `$` and the name in braces. Outside of quotes a
  blank ends the value.

## Results

* `load_of_isSome` — a variable that is set already keeps its value.
-/

namespace DueDispatch

namespace EnvFile

/-! ## Logical lines -/

/-- Where a character stands, as far as the end of a line depends on it. -/
inductive Place
  | plain
  /-- After a blank that is not inside quotes. -/
  | blank
  /-- After a backslash that is not inside quotes. -/
  | escape
  /-- Between single quotes. -/
  | single
  | singleEscape
  /-- Between double quotes. -/
  | double
  | doubleEscape
deriving DecidableEq

/-- Where the next character stands outside of quotes. -/
def Place.outside (c : Char) : Place :=
  if c = '\\' then .escape
  else if c = '"' then .double
  else if c = '\'' then .single
  else .plain

/-- Where the next character stands. -/
def Place.next (p : Place) (c : Char) : Place :=
  match p with
  | .plain =>
    if Text.isBlank c ∧ c ≠ '\n' ∧ c ≠ '\r' then .blank else .outside c
  | .blank => .outside c
  | .escape => .plain
  | .single => if c = '\\' then .singleEscape else if c = '\'' then .plain else .single
  | .singleEscape => .single
  | .double => if c = '\\' then .doubleEscape else if c = '"' then .plain else .double
  | .doubleEscape => .double

/-- Goes through a line. Returns what stands before a comment, if one begins,
and otherwise where the line ends. -/
def scan (p : Place) : List Char → List Char ⊕ Place
  | [] => .inr p
  | c :: rest =>
    if p = .blank ∧ c = '#' then .inl []
    else
      match scan (p.next c) rest with
      | .inl before => .inl (c :: before)
      | .inr last => .inr last

/-- The lines of a text, each with its line break. -/
def physicalLines : List Char → List (List Char)
  | [] => []
  | c :: rest =>
    if c = '\n' then [c] :: physicalLines rest
    else
      match physicalLines rest with
      | [] => [[c]]
      | line :: others => (c :: line) :: others

/-- A line without its line break. -/
def dropBreak (line : List Char) : List Char :=
  match line.reverse with
  | '\n' :: '\r' :: before => before.reverse
  | '\n' :: before => before.reverse
  | _ => line

/-- Joins lines to logical ones. `before` is what is open already, and `p` where
it ends. A text that ends inside a logical line does not have that one. -/
def join (before : List Char) (p : Place) : List (List Char) → List (List Char)
  | [] => []
  | line :: rest =>
    let whole := before ++ line
    if (Text.trimLeft whole).head? = some '#' then [] :: join [] .plain rest
    else
      match scan p line with
      | .inl visible => (before ++ visible) :: join [] .plain rest
      | .inr .plain => dropBreak whole :: join [] .plain rest
      | .inr place => join whole place rest

/-- The logical lines of a text. A byte order mark before them is left out. -/
def lines (text : List Char) : List (List Char) :=
  let text := if text.head? = some '\ufeff' then text.drop 1 else text
  join [] .plain (physicalLines text)

/-! ## Values -/

/-- Quotes around a part of a value. -/
inductive Quotes
  | none
  | single
  | double
deriving DecidableEq

/-- What the next character of a value belongs to. -/
inductive Mode
  | text
  /-- A backslash was read. -/
  | escape
  /-- A dollar sign was read, and this much of a name. -/
  | name (sofar : List Char)
  /-- The same within braces. -/
  | braced (sofar : List Char)
  /-- The value is complete. -/
  | complete
deriving DecidableEq

/-- The value of a variable that is named in a value; one that is not set counts
as empty. -/
def valueOf (env : Environment) (name : List Char) : List Char :=
  (env.textAfter name).getD []

/-- Reads a value, or the rest of one. -/
def readFrom (env : Environment) : Quotes → Mode → List Char → Option (List Char)
  | .none, .name name, [] => some (valueOf env name)
  | .none, .braced _, [] => none
  | .none, _, [] => some []
  | _, _, [] => none
  | quotes, .complete, c :: rest =>
    if c = ' ' ∨ c = '\t' then readFrom env quotes .complete rest
    else if c = '#' then some []
    else none
  | quotes, .escape, c :: rest =>
    if c ∈ ['\\', '\'', '"', '$', ' '] then (readFrom env quotes .text rest).map (c :: ·)
    else if c = 'n' then (readFrom env quotes .text rest).map ('\n' :: ·)
    else none
  | quotes, .name name, c :: rest =>
    if Text.isAlphanumeric c then readFrom env quotes (.name (name ++ [c])) rest
    else if c = '\x7b' ∧ name = [] then readFrom env quotes (.braced []) rest
    else if c = '$' then (readFrom env quotes (.name []) rest).map (valueOf env name ++ ·)
    else (readFrom env quotes .text rest).map (valueOf env name ++ c :: ·)
  | quotes, .braced name, c :: rest =>
    if c = '\x7d' then (readFrom env quotes .text rest).map (valueOf env name ++ ·)
    else readFrom env quotes (.braced (name ++ [c])) rest
  | .single, .text, c :: rest =>
    if c = '\'' then readFrom env .none .text rest
    else (readFrom env .single .text rest).map (c :: ·)
  | .double, .text, c :: rest =>
    if c = '$' then readFrom env .double (.name []) rest
    else if c = '"' then readFrom env .none .text rest
    else if c = '\\' then readFrom env .double .escape rest
    else (readFrom env .double .text rest).map (c :: ·)
  | .none, .text, c :: rest =>
    if c = '$' then readFrom env .none (.name []) rest
    else if c = '\'' then readFrom env .single .text rest
    else if c = '"' then readFrom env .double .text rest
    else if c = '\\' then readFrom env .none .escape rest
    else if c = ' ' ∨ c = '\t' then readFrom env .none .complete rest
    else (readFrom env .none .text rest).map (c :: ·)

/-- Reads a value. -/
def readValue (env : Environment) (cs : List Char) : Option (List Char) :=
  readFrom env .none .text cs

/-! ## Lines -/

/-- What a line does. -/
inductive Line
  | nothing
  /-- It sets a variable. -/
  | entry (key value : String)
  /-- It cannot be read. -/
  | unreadable
deriving DecidableEq

/-- A character that a key may go on with. -/
def isKeyChar (c : Char) : Bool := c.isAlphanum || c == '_' || c == '.'

/-- The key at the beginning of a text, and what follows it and blanks. -/
def splitKey? : List Char → Option (List Char × List Char)
  | [] => none
  | c :: rest =>
    if c.isAlpha || c == '_' then
      some (c :: rest.takeWhile isKeyChar, Text.trimLeft (rest.dropWhile isKeyChar))
    else none

/-- What follows an equals sign. -/
def afterEquals? : List Char → Option (List Char)
  | '=' :: rest => some rest
  | _ => none

/-- The key of an entry and the text of its value. The word `export` before the
key means nothing, unless it is the key. -/
def splitEntry? (cs : List Char) : Option (List Char × List Char) :=
  match splitKey? cs with
  | none => none
  | some (key, rest) =>
    match afterEquals? rest with
    | some value => some (key, value)
    | none =>
      if key = "export".toList then
        (splitKey? rest).bind fun (key, rest) => (afterEquals? rest).map fun value => (key, value)
      else none

/-- Reads a logical line. -/
def readLine (env : Environment) (line : List Char) : Line :=
  let cs := Text.trimLeft (Text.trimRight line)
  if cs = [] ∨ cs.head? = some '#' then .nothing
  else
    match splitEntry? cs with
    | none => .unreadable
    | some (key, rest) =>
      let rest := Text.trimLeft rest
      if rest = [] ∨ rest.head? = some '#' then .entry (String.ofList key) ""
      else
        match readValue env rest with
        | none => .unreadable
        | some value => .entry (String.ofList key) (String.ofList value)

/-- Adds the variables that lines set, up to a line that cannot be read. -/
def loadLines : List (List Char) → Environment → Environment
  | [], env => env
  | line :: rest, env =>
    match readLine env line with
    | .nothing => loadLines rest env
    | .entry key value => loadLines rest (env.setDefault key value)
    | .unreadable => env

/-- Adds the variables of an environment file. -/
def load (text : String) (env : Environment) : Environment := loadLines (lines text.toList) env

theorem loadLines_of_isSome (ls : List (List Char)) {env : Environment} {name value : String}
    (h : env name = some value) : loadLines ls env name = some value := by
  induction ls generalizing env with
  | nil => exact h
  | cons line rest ih =>
    cases hLine : readLine env line with
    | nothing => simpa only [loadLines, hLine] using ih h
    | entry key new =>
      simpa only [loadLines, hLine] using ih (Environment.setDefault_of_eq_some key new h)
    | unreadable => simpa only [loadLines, hLine] using h

/-- A variable that is set already keeps its value. -/
theorem load_of_isSome (text : String) {env : Environment} {name value : String}
    (h : env name = some value) : load text env name = some value :=
  loadLines_of_isSome _ h

end EnvFile

end DueDispatch
