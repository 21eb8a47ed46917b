/-!
# DueDispatch — decimal numbers

Ids, thresholds and limits are written and read in decimal.

* `Decimal.write` prints an integer: a minus sign if it is negative, then its
  digits without leading zeros.
* `Decimal.readNatural` and `Decimal.readInteger` read one back within a bound.
  A sign is optional, leading zeros are allowed, and nothing else may stand
  around the digits. They go from left to right and report the first fault:
  a character that is no ASCII digit, or the digit at which the value leaves
  the bound.
-/

namespace DueDispatch.Decimal

/-- Why a text is not a number in the wanted range. -/
inductive Fault
  | empty
  | invalidDigit
  | tooLarge
  | tooSmall
deriving DecidableEq, Inhabited

/-- The wording of a fault. -/
def Fault.message : Fault → String
  | .empty => "cannot parse integer from empty string"
  | .invalidDigit => "invalid digit found in string"
  | .tooLarge => "number too large to fit in target type"
  | .tooSmall => "number too small to fit in target type"

/-- The character of a digit below ten. -/
def digitChar (d : Nat) : Char := Char.ofNat ('0'.toNat + d)

/-- The digits of `n`, the most significant first. -/
def digits (n : Nat) : List Char :=
  if n < 10 then [digitChar n] else digits (n / 10) ++ [digitChar (n % 10)]

/-- The characters of an integer. -/
def chars (i : Int) : List Char :=
  if i < 0 then '-' :: digits i.natAbs else digits i.natAbs

/-- The text of an integer. -/
def write (i : Int) : String := String.ofList (chars i)

/-- The text of a natural number. -/
def writeNat (n : Nat) : String := String.ofList (digits n)

/-- The value of an ASCII digit. -/
def digit? (c : Char) : Option Nat :=
  if '0' ≤ c ∧ c ≤ '9' then some (c.toNat - '0'.toNat) else none

/-- Continues the value `acc` with the remaining digits; a value above `bound`
is the fault `beyond`. -/
def readDigits (bound : Nat) (beyond : Fault) (acc : Nat) : List Char → Except Fault Nat
  | [] => .ok acc
  | c :: rest =>
    match digit? c with
    | none => .error .invalidDigit
    | some d =>
      if acc * 10 + d ≤ bound then readDigits bound beyond (acc * 10 + d) rest else .error beyond

/-- Reads a number from 0 to `bound`, with an optional plus sign. -/
def readNatural (bound : Nat) : List Char → Except Fault Nat
  | [] => .error .empty
  | ['+'] => .error .invalidDigit
  | '+' :: rest => readDigits bound .tooLarge 0 rest
  | cs => readDigits bound .tooLarge 0 cs

/-- Reads an integer from `-low` to `high`, with an optional sign. -/
def readInteger (low high : Nat) : List Char → Except Fault Int
  | [] => .error .empty
  | ['+'] => .error .invalidDigit
  | ['-'] => .error .invalidDigit
  | '+' :: rest => (readDigits high .tooLarge 0 rest).map Int.ofNat
  | '-' :: rest => (readDigits low .tooSmall 0 rest).map fun n => -(n : Int)
  | cs => (readDigits high .tooLarge 0 cs).map Int.ofNat

/-- Reads an unsigned 64-bit number. -/
def readWord (cs : List Char) : Except Fault Nat := readNatural 0xffffffffffffffff cs

/-- Reads a signed 64-bit number. -/
def readInt64 (cs : List Char) : Except Fault Int :=
  readInteger 0x8000000000000000 0x7fffffffffffffff cs

end DueDispatch.Decimal
