/-!
# DueDispatch — Punycode

Domain names are kept in ASCII. A label with other characters is written as its
ASCII characters, a dash, and then digits that tell which characters are put in,
and where. `Punycode.decode` reads that.

A number has digits in base 36, the lowest first, and ends at the first digit
below a threshold. The thresholds depend on the place of the digit and on a
bias, which follows the numbers read so far.
-/

namespace DueDispatch.Text.Punycode

/-- The value of a digit: letters, and then figures. -/
def digit? (c : Char) : Option Nat :=
  if 'a' ≤ c ∧ c ≤ 'z' then some (c.toNat - 'a'.toNat)
  else if 'A' ≤ c ∧ c ≤ 'Z' then some (c.toNat - 'A'.toNat)
  else if '0' ≤ c ∧ c ≤ '9' then some (c.toNat - '0'.toNat + 26)
  else none

/-- The threshold at a place, which is a multiple of 36. -/
def threshold (place bias : Nat) : Nat := max 1 (min 26 (place - bias))

/-- Halves a difference until it is small. -/
def settle (delta place : Nat) : Nat × Nat :=
  if 455 < delta then settle (delta / 35) (place + 36) else (delta, place)
termination_by delta
decreasing_by exact Nat.div_lt_self (by omega) (by omega)

/-- The bias after a number. -/
def adapt (delta count : Nat) (first : Bool) : Nat :=
  let damped := if first then delta / 700 else delta / 2
  let (rest, place) := settle (damped + damped / count) 0
  place + 36 * rest / (rest + 38)

/-- Reads a number. Returns `sum` increased by it, and what follows. -/
def readNumber (bias place weight sum : Nat) : List Char → Option (Nat × List Char)
  | [] => none
  | c :: rest =>
    match digit? c with
    | none => none
    | some d =>
      if d < threshold place bias then some (sum + d * weight, rest)
      else
        readNumber bias (place + 36) (weight * (36 - threshold place bias)) (sum + d * weight) rest

theorem length_of_readNumber {bias place weight sum : Nat} {cs : List Char}
    {out : Nat × List Char} (h : readNumber bias place weight sum cs = some out) :
    out.2.length < cs.length := by
  induction cs generalizing place weight sum with
  | nil => simp [readNumber] at h
  | cons c rest ih =>
    unfold readNumber at h
    split at h
    · simp at h
    · split at h
      · simp only [Option.some.injEq] at h
        simp [← h]
      · have := ih h
        simp only [List.length_cons]
        omega

/-- Puts characters in. `code` is the last one, and `next` the place after it. -/
def insertAll (bias code next : Nat) (done : List Char) (cs : List Char) : Option (List Char) :=
  if cs = [] then some done
  else
    match _hNumber : readNumber bias 36 1 next cs with
    | none => none
    | some (sum, rest) =>
      let count := done.length + 1
      let code' := code + sum / count
      if code'.isValidChar then
        insertAll (adapt (sum - next) count (next == 0)) code' (sum % count + 1)
          (done.insertIdx (sum % count) (Char.ofNat code')) rest
      else none
termination_by cs.length
decreasing_by exact length_of_readNumber _hNumber

/-- The ASCII characters before the last dash, and what follows it. A dash with
nothing before it does not count. -/
def splitAtDash (cs : List Char) : List Char × List Char :=
  match cs.reverse.dropWhile (· != '-') with
  | [] => ([], cs)
  | [_] => ([], cs)
  | _ :: before => (before.reverse, (cs.reverse.takeWhile (· != '-')).reverse)

/-- The label that a Punycode text stands for. -/
def decode (cs : List Char) : Option (List Char) :=
  let (start, numbers) := splitAtDash cs
  insertAll 72 128 0 start numbers

end DueDispatch.Text.Punycode
