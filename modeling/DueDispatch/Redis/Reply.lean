import DueDispatch.Grant
import DueDispatch.Text.Quoted

/-!
# DueDispatch — replies of a Redis server

`Reply` is a value that a Redis server answers with. `Reply.text` is its
spelling in messages.

`Reply.granted` reads the answer to a lease request: an array, each element of
which is an id as an integer or as decimal text. The first element that is not
is reported with its place.
-/

namespace DueDispatch.Redis

/-- A value from a Redis server. -/
inductive Reply
  | null
  | okay
  | integer (n : Int64)
  /-- A string of any bytes. -/
  | bulk (bytes : ByteArray)
  /-- A one-line string. -/
  | simple (text : String)
  | array (items : List Reply)
  | set (items : List Reply)
  | map (entries : List (Reply × Reply))
  | boolean (b : Bool)
  /-- A value of any other kind, such as a number with a fraction or a pushed message: its
  spelling in messages, and whether it can be taken for a text. -/
  | other (spelling : String) (isText : Bool)
deriving Inhabited

namespace Reply

/-- The value that a status line stands for. -/
def ofStatus (line : String) : Reply := if line = "OK" then okay else simple line

/-- Bytes in a message: quoted if they are text, listed if not. -/
def bytesText (bytes : ByteArray) : String :=
  match String.fromUTF8? bytes with
  | some s => "bulk-string('" ++ Text.quoted s ++ "')"
  | none =>
    "binary-data([" ++
      String.intercalate ", " (bytes.toList.map fun b => Decimal.writeNat b.toNat) ++ "])"

mutual

/-- The spelling of a value in messages. -/
def text : Reply → String
  | null => "nil"
  | okay => "ok"
  | integer n => "int(" ++ Decimal.write n.toInt ++ ")"
  | bulk bytes => bytesText bytes
  | simple s => "simple-string(" ++ Text.quoted s ++ ")"
  | array items => "array([" ++ String.intercalate ", " (texts items) ++ "])"
  | set items => "set([" ++ String.intercalate ", " (texts items) ++ "])"
  | map entries => "map([" ++ String.intercalate ", " (entryTexts entries) ++ "])"
  | boolean b => if b then "boolean(true)" else "boolean(false)"
  | other spelling _ => spelling

/-- The spellings of the items of a list. -/
def texts : List Reply → List String
  | [] => []
  | item :: rest => text item :: texts rest

/-- The spellings of the entries of a map. -/
def entryTexts : List (Reply × Reply) → List String
  | [] => []
  | (key, value) :: rest => ("(" ++ text key ++ ", " ++ text value ++ ")") :: entryTexts rest

end

/-- The id that a value stands for: an integer, or a decimal text. -/
def id? : Reply → Option AccountId
  | integer n => some n
  | bulk bytes => (String.fromUTF8? bytes).bind AccountId.read?
  | simple s => AccountId.read? s
  | _ => none

/-- The ids that the elements of an array stand for, the first of them having
the place `index`. -/
def idsFrom (index : Nat) : List Reply → Except GrantError (List AccountId)
  | [] => .ok []
  | item :: rest =>
    match item.id? with
    | none => .error (.invalidElement index item.text)
    | some id => (idsFrom (index + 1) rest).map (id :: ·)

/-- The ids that an answer to a lease request grants. -/
def granted : Reply → Except GrantError (List AccountId)
  | array items => idsFrom 0 items
  | reply => .error (.notAnArray reply.text)

end Reply

end DueDispatch.Redis
