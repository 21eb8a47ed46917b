import DueDispatch.Text.Utf8

/-!
# DueDispatch — percent-encoded text

In a URL a byte may be written as a percent sign and two hexadecimal digits.
`percentDecode` gives the bytes that a piece of a URL stands for.
-/

namespace DueDispatch.Text

/-- The value of a hexadecimal digit. -/
def hexValue? (c : Char) : Option Nat :=
  if '0' ≤ c ∧ c ≤ '9' then some (c.toNat - '0'.toNat)
  else if 'a' ≤ c ∧ c ≤ 'f' then some (c.toNat - 'a'.toNat + 10)
  else if 'A' ≤ c ∧ c ≤ 'F' then some (c.toNat - 'A'.toNat + 10)
  else none

/-- The bytes that a percent-encoded text stands for. A percent sign without two
digits behind it stands for itself. -/
def percentDecode : List Char → List UInt8
  | [] => []
  | '%' :: high :: low :: rest =>
    match hexValue? high, hexValue? low with
    | some h, some l => (h * 16 + l).toUInt8 :: percentDecode rest
    | _, _ => 0x25 :: percentDecode (high :: low :: rest)
  | c :: rest => utf8Bytes c ++ percentDecode rest
termination_by cs => cs.length

/-- The text that a percent-encoded text stands for, if it is one. -/
def percentText (cs : List Char) : Except Utf8Fault String :=
  match utf8Fault? (percentDecode cs) with
  | none => .ok (lossyText (percentDecode cs))
  | some fault => .error fault

end DueDispatch.Text
