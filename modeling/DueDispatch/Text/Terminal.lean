/-!
# DueDispatch — terminal texts without their controls

A text that is meant for a terminal holds control characters and escape
sequences, some of which it may have from a user. `plainText` leaves them out,
so that the text can do no more than be read. Blanks and line breaks stay.

`Place.next` follows the grammar of escape sequences: a control sequence ends
with its final character, a system command with a bell, and each sequence where
it is cancelled or another one begins. A device string also ends with the byte
0x9c, even in the middle of the UTF-8 form of a character.

A blank in the middle of a sequence is printed. `Interruption` tells what
becomes of the sequence then.
-/

namespace DueDispatch.Text.Terminal

/-- How a terminal sets a text off. -/
inductive Look
  | title
  /-- The word that announces a fault. -/
  | alarm
  /-- Something to be typed as it is. -/
  | name
  | right
  | wrong
deriving DecidableEq

/-- The sequences with which a look begins: bold, underlined, or in a color. -/
def Look.opening : Look → String
  | .title => "\x1b[1m\x1b[4m"
  | .alarm => "\x1b[1m\x1b[31m"
  | .name => "\x1b[1m"
  | .right => "\x1b[32m"
  | .wrong => "\x1b[33m"

/-- A text with a look. -/
def Look.on (look : Look) (text : String) : String := look.opening ++ text ++ "\x1b[0m"

/-- Where a character stands. -/
inductive Place
  | plain
  /-- After an escape character. -/
  | escape
  /-- After the first characters of a longer escape sequence. -/
  | intermediate
  /-- In a control sequence. -/
  | control
  /-- Before the parameters of a device string. -/
  | deviceEntry
  /-- Among the parameters of a device string. -/
  | deviceParameter
  /-- After the parameters of a device string. -/
  | deviceIntermediate
  /-- In a device string, a message or a string that is left out. -/
  | device
  /-- In a system command. -/
  | system
deriving DecidableEq

/-- A control character that moves the position. -/
def isMove (c : Char) : Bool := c == '\t' || c == '\n' || c == '\x0c' || c == '\r'

/-- A character that is printed outside of sequences. -/
def isPlain (c : Char) : Bool := isMove c || (' ' ≤ c && c != '\x7f')

/-- The place after the character that follows an escape character. -/
def afterEscape (c : Char) : Place :=
  if c < ' ' || '~' < c then .escape
  else if c ≤ '/' then .intermediate
  else if c == '[' then .control
  else if c == ']' then .system
  else if c == 'P' then .deviceEntry
  else if ['X', '^', '_'].contains c then .device
  else .plain

/-- The place after a character at the head of a device string: `parameter` and
`mark` are the places after a digit or separator and after one of `<=>?`. -/
def afterDeviceHead (stay parameter mark : Place) (c : Char) : Place :=
  if c < ' ' || '~' < c then stay
  else if c ≤ '/' then .deviceIntermediate
  else if c ≤ ';' then parameter
  else if c ≤ '?' then mark
  else .device

/-- Whether the UTF-8 form of a character holds the byte that ends strings. -/
def holdsTerminator (c : Char) : Bool := (String.ofList [c]).toUTF8.toList.contains 0x9c

/-- Where the next character stands, if no blank interrupts. -/
def Place.next (p : Place) (c : Char) : Place :=
  if c == '\x18' || c == '\x1a' then .plain
  else if c == '\x1b' then .escape
  else
    match p with
    | .plain => .plain
    | .escape => afterEscape c
    | .intermediate => if '0' ≤ c && c ≤ '~' then .plain else .intermediate
    | .control => if '@' ≤ c && c ≤ '~' then .plain else .control
    | .deviceEntry => afterDeviceHead .deviceEntry .deviceParameter .deviceParameter c
    | .deviceParameter => afterDeviceHead .deviceParameter .deviceParameter .device c
    | .deviceIntermediate => afterDeviceHead .deviceIntermediate .device .device c
    | .device => if holdsTerminator c then .plain else .device
    | .system => if c == '\x07' then .plain else .system

/-- Whether a character at a place is printed. -/
def Place.prints (p : Place) (c : Char) : Bool :=
  match p with
  | .plain => isPlain c
  | .escape => isMove c
  | .intermediate => isMove c
  | .control => isMove c
  | _ => false

/-- What a blank in the middle of a sequence does to it. -/
inductive Interruption
  /-- The sequence is over. -/
  | ends
  /-- The sequence goes on with the next character that is not plain; what comes
  before that is printed. -/
  | suspends
deriving DecidableEq

/-- How far the reading of a text has come. -/
structure Scan where
  place : Place := .plain
  /-- Whether a blank has interrupted the sequence. -/
  suspended : Bool := false
deriving DecidableEq

namespace Scan

/-- Whether a character is printed. -/
def prints (s : Scan) (c : Char) : Bool :=
  if s.suspended && isPlain c then true else s.place.prints c

/-- The reading after one more character. A character beyond ASCII ends a
sequence that is suspended. -/
def next (i : Interruption) (s : Scan) (c : Char) : Scan :=
  if s.suspended && isPlain c then (if c ≤ '\x7f' then s else {})
  else if s.place != .plain && s.place.prints c then
    match i with
    | .ends => {}
    | .suspends => { s with suspended := true }
  else { place := s.place.next c }

/-- What is printed of the rest of a text. -/
def printed (i : Interruption) (s : Scan) : List Char → List Char
  | [] => []
  | c :: rest =>
    if s.prints c then c :: (s.next i c).printed i rest else (s.next i c).printed i rest

end Scan

/-- A text without control characters and escape sequences. -/
def plainText (i : Interruption) (text : String) : String :=
  String.ofList (Scan.printed i {} text.toList)

end DueDispatch.Text.Terminal
