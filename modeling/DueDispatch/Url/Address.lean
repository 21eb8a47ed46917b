import DueDispatch.Text.Percent
import DueDispatch.Url.Basic

/-!
# DueDispatch — addresses of machines

An address of version 4 has four numbers below 256. The strict form, `isIpv4`,
writes them in decimal. The host of a web address may write fewer numbers, the
last of which then fills what is left, and write them in octal or hexadecimal:
`isLooseIpv4`.

An address of version 6 has eight groups of hexadecimal digits, `isIpv6`. Two
colons stand for a run of zeros, and the last two groups may be written as an
address of version 4.
-/

namespace DueDispatch.Url

/-- The value of a text in a base, if all its characters are digits there. -/
def digitsValue? (base : Nat) (cs : List Char) : Option Nat :=
  cs.foldl (fun value? c => do
    let value ← value?
    let digit ← Text.hexValue? c
    if digit < base then some (value * base + digit) else none) (some 0)

/-! ## Version 4 -/

/-- Whether a text is a decimal number below 256 without leading zeros. -/
def isQuad (cs : List Char) : Bool :=
  match cs with
  | [] => false
  | ['0'] => true
  | '0' :: _ => false
  | cs => cs.length ≤ 3 && (digitsValue? 10 cs).any (· ≤ 255)

/-- Whether a text is an address of four decimal numbers. -/
def isIpv4 (cs : List Char) : Bool :=
  let parts := pieces '.' cs
  parts.length == 4 && parts.all isQuad

/-- Reads a number in the base that its beginning shows. -/
def looseNumber? (cs : List Char) : Option Nat :=
  match cs with
  | [] => none
  | ['0'] => some 0
  | '0' :: 'x' :: rest => digitsValue? 16 rest
  | '0' :: 'X' :: rest => digitsValue? 16 rest
  | '0' :: rest => digitsValue? 8 rest
  | cs => digitsValue? 10 cs

/-- The parts of a domain between its dots, without an empty one at the end. -/
def domainParts (cs : List Char) : List (List Char) :=
  let parts := pieces '.' cs
  if parts.getLast? = some [] then parts.dropLast else parts

/-- Whether the last part of a domain is a number. -/
def endsInNumber (cs : List Char) : Bool :=
  match (domainParts cs).getLast? with
  | none => false
  | some last => (!last.isEmpty && last.all Char.isDigit) || (looseNumber? last).isSome

/-- Whether numbers make a value below `limit`: all but the last fill one byte, and
the last one what is left. -/
def fillAddress : (limit : Nat) → List (Option Nat) → Bool
  | _, [] => false
  | limit, [last] => last.any (· < limit)
  | limit, first :: rest => first.any (· < 256) && fillAddress (limit / 256) rest

/-- Whether a text is an address of at most four numbers in any base. -/
def isLooseIpv4 (cs : List Char) : Bool :=
  let parts := domainParts cs
  parts.length ≤ 4 && fillAddress 0x100000000 (parts.map looseNumber?)

/-! ## Version 6 -/

/-- The leading hexadecimal digits, at most four. -/
def hexGroup (cs : List Char) : List Char :=
  (cs.take 4).takeWhile fun c => (Text.hexValue? c).isSome

/-- Whether a text can follow `index` groups of an address of eight, a run of
zeros having been left out if `compressed`. -/
def isIpv6From (index : Nat) (compressed : Bool) (cs : List Char) : Bool :=
  match cs with
  | [] => compressed || index == 8
  | ':' :: rest => index < 8 && !compressed && isIpv6From (index + 1) true rest
  | cs =>
    let group := hexGroup cs
    match _hRest : cs.drop group.length with
    | [] => index < 8 && (compressed || index + 1 == 8)
    | ':' :: rest => index < 8 && !rest.isEmpty && isIpv6From (index + 1) compressed rest
    | '.' :: _ =>
      index ≤ 6 && !group.isEmpty && isIpv4 cs && (compressed || index + 2 == 8)
    | _ => false
termination_by cs.length
decreasing_by
  · simp
  · have h := congrArg List.length _hRest
    simp only [List.length_drop, List.length_cons] at h
    omega

/-- Whether a text is an address of eight groups. -/
def isIpv6 (cs : List Char) : Bool :=
  match cs with
  | ':' :: ':' :: rest => isIpv6From 1 true rest
  | ':' :: _ => false
  | cs => isIpv6From 0 false cs

end DueDispatch.Url
