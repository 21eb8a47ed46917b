import DueDispatch.Text.Unprintable

/-!
# DueDispatch — quoted text

`quoted` shows a string inside a message so that its ends and its invisible
characters can be seen: it stands between double quotes, quotes and backslashes
in it are escaped, the common controls have short escapes, and every other
unprintable character is written as its code point in braces.
-/

namespace DueDispatch.Text

/-- The lower-case hexadecimal digits of `n`, the most significant first. -/
def hexDigits (n : Nat) : List Char := Nat.toDigits 16 n

/-- How one character is shown between quotes. -/
def escaped (c : Char) : List Char :=
  match c with
  | '\x00' => ['\\', '0']
  | '\t' => ['\\', 't']
  | '\n' => ['\\', 'n']
  | '\r' => ['\\', 'r']
  | '"' => ['\\', '"']
  | '\\' => ['\\', '\\']
  | c =>
    if isUnprintable c then ['\\', 'u', '\x7b'] ++ hexDigits c.toNat ++ ['\x7d'] else [c]

/-- A string between double quotes. -/
def quoted (s : String) : String :=
  String.ofList (['"'] ++ s.toList.flatMap escaped ++ ['"'])

end DueDispatch.Text
