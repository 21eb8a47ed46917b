/-!
# DueDispatch — bytes as UTF-8

`utf8Fault?` finds the first place at which bytes are no UTF-8. `lossyText`
reads them all the same: every longest piece that is the beginning of no
character becomes a replacement character.
-/

namespace DueDispatch.Text

/-- The UTF-8 bytes of a character. -/
def utf8Bytes (c : Char) : List UInt8 := (String.ofList [c]).toUTF8.toList

/-- Whether bytes are UTF-8. -/
def isUtf8 (bytes : List UInt8) : Bool := (ByteArray.mk bytes.toArray).validateUTF8

/-- What a first byte announces: the number of bytes that follow, and the bounds
of the first of them. -/
def announced? (b : UInt8) : Option (Nat × UInt8 × UInt8) :=
  if 0xc2 ≤ b ∧ b ≤ 0xdf then some (1, 0x80, 0xbf)
  else if b = 0xe0 then some (2, 0xa0, 0xbf)
  else if b = 0xed then some (2, 0x80, 0x9f)
  else if 0xe1 ≤ b ∧ b ≤ 0xef then some (2, 0x80, 0xbf)
  else if b = 0xf0 then some (3, 0x90, 0xbf)
  else if 0xf1 ≤ b ∧ b ≤ 0xf3 then some (3, 0x80, 0xbf)
  else if b = 0xf4 then some (3, 0x80, 0x8f)
  else none

/-- The bytes that follow a first byte, as many as are acceptable. -/
def continuation : Nat → UInt8 → UInt8 → List UInt8 → List UInt8
  | 0, _, _, _ => []
  | _ + 1, _, _, [] => []
  | n + 1, low, high, b :: rest =>
    if low ≤ b ∧ b ≤ high then b :: continuation n 0x80 0xbf rest else []

/-- The character of a complete sequence of bytes. -/
def charOfBytes (bytes : List UInt8) : Char :=
  match String.fromUTF8? (ByteArray.mk bytes.toArray) with
  | some s => s.toList.headD '\ufffd'
  | none => '\ufffd'

/-- What bytes begin with. -/
inductive Piece
  | char (c : Char)
  /-- The beginning of no character. -/
  | invalid
  /-- The beginning of a character that is cut off. -/
  | incomplete

/-- What bytes begin with, and how many of them it takes after the first. -/
def firstPiece (b : UInt8) (rest : List UInt8) : Piece × Nat :=
  if b < 0x80 then (.char (Char.ofNat b.toNat), 0)
  else
    match announced? b with
    | none => (.invalid, 0)
    | some (count, low, high) =>
      let more := continuation count low high rest
      if more.length = count then (.char (charOfBytes (b :: more)), count)
      else if more.length = rest.length then (.incomplete, more.length)
      else (.invalid, more.length)

/-- The character that stands for a piece. -/
def Piece.shown : Piece → Char
  | .char c => c
  | _ => '\ufffd'

/-- The characters of bytes read as UTF-8. -/
def lossyChars : List UInt8 → List Char
  | [] => []
  | b :: rest => (firstPiece b rest).1.shown :: lossyChars (rest.drop (firstPiece b rest).2)
termination_by bytes => bytes.length
decreasing_by simp only [List.length_drop, List.length_cons]; omega

/-- The text of bytes read as UTF-8. -/
def lossyText (bytes : List UInt8) : String := String.ofList (lossyChars bytes)

/-- Why bytes are no UTF-8. Places count from 0. -/
inductive Utf8Fault
  /-- From this place on so many bytes are the beginning of no character. -/
  | invalid (size place : Nat)
  /-- The character that begins at this place is cut off. -/
  | incomplete (place : Nat)
deriving DecidableEq

/-- The first fault of bytes that follow `place` others. -/
def utf8FaultFrom (place : Nat) : List UInt8 → Option Utf8Fault
  | [] => none
  | b :: rest =>
    match (firstPiece b rest).1 with
    | .char _ =>
      utf8FaultFrom (place + 1 + (firstPiece b rest).2) (rest.drop (firstPiece b rest).2)
    | .invalid => some (.invalid ((firstPiece b rest).2 + 1) place)
    | .incomplete => some (.incomplete place)
termination_by bytes => bytes.length
decreasing_by simp only [List.length_drop, List.length_cons]; omega

/-- The first fault of bytes that are no UTF-8. -/
def utf8Fault? (bytes : List UInt8) : Option Utf8Fault := utf8FaultFrom 0 bytes

end DueDispatch.Text
