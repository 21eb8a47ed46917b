import DueDispatch.Time.Duration

/-!
# DueDispatch — account timestamps

A timestamp counts seconds since the epoch in double precision. It is kept as
its 64 bits, so that every value a table can hold is told apart: signed zeros,
infinities and the not-a-numbers.

Two orders are defined on it, both read off the bits as integers:

* `Timestamp.rank` — the total order by which rows are sorted: −∞ first, −0
  before +0, +∞ after all numbers and a positive NaN after that. `rank_inj`
  says that only equal bits share a rank.
* `a < b` and `a ≤ b` — the comparison of numbers: both zeros are equal, and a
  NaN stands in no relation to anything.

`Timestamp.max` is the later of two readings. A NaN is ignored, which is what
keeps a claim from erasing an account's last claim time (`le_max_right`,
`le_max_left`).
-/

namespace DueDispatch

/-- Seconds since the epoch as the bits of a double-precision number. -/
structure Timestamp where
  bits : UInt64
deriving DecidableEq, Inhabited

namespace Timestamp

/-- The bits of a floating-point number of seconds. -/
def ofFloat (x : Float) : Timestamp := ⟨x.toBits⟩

/-- The number of seconds these bits stand for. -/
def toFloat (t : Timestamp) : Float := Float.ofBits t.bits

/-- The weight of the sign bit. -/
abbrev signWeight : Nat := 0x8000000000000000

/-- The bits of +∞; larger magnitudes are NaNs. -/
abbrev infinity : Nat := 0x7ff0000000000000

/-- The bits without the sign. -/
def magnitude (t : Timestamp) : Nat := t.bits.toNat % signWeight

/-- Whether the sign bit is set. -/
def isNegative (t : Timestamp) : Bool := decide (signWeight ≤ t.bits.toNat)

/-- Whether the bits stand for no number. -/
def isNaN (t : Timestamp) : Bool := decide (infinity < t.magnitude)

/-- The place in the total order of all bit patterns. -/
def rank (t : Timestamp) : Int :=
  if t.isNegative then -1 - (t.magnitude : Int) else t.magnitude

/-- The place among the numbers; both zeros have place 0. -/
def level (t : Timestamp) : Int :=
  if t.isNegative then -(t.magnitude : Int) else t.magnitude

/-- `a` and `b` are numbers and `a` is at most `b`. -/
instance : LE Timestamp := ⟨fun a b => a.isNaN = false ∧ b.isNaN = false ∧ a.level ≤ b.level⟩

/-- `a` and `b` are numbers and `a` is less than `b`. -/
instance : LT Timestamp := ⟨fun a b => a.isNaN = false ∧ b.isNaN = false ∧ a.level < b.level⟩

instance (a b : Timestamp) : Decidable (a ≤ b) :=
  inferInstanceAs (Decidable (a.isNaN = false ∧ b.isNaN = false ∧ a.level ≤ b.level))

instance (a b : Timestamp) : Decidable (a < b) :=
  inferInstanceAs (Decidable (a.isNaN = false ∧ b.isNaN = false ∧ a.level < b.level))

/-- The later of two readings; a NaN is ignored if the other is a number. Of
two equal numbers the first is kept. -/
protected def max (a b : Timestamp) : Timestamp :=
  if a.isNaN then b else if a < b then b else a

/-- The reading `d` later, rounded. -/
instance : HAdd Timestamp Duration Timestamp := ⟨fun t d => ofFloat (t.toFloat + d.toSeconds)⟩

/-- The reading `d` earlier, rounded. -/
instance : HSub Timestamp Duration Timestamp := ⟨fun t d => ofFloat (t.toFloat - d.toSeconds)⟩

/-! ## The two orders -/

/-- Only equal bits share a rank, so sorting by rank leaves no choice. -/
theorem rank_inj {a b : Timestamp} (h : a.rank = b.rank) : a = b := by
  have hA := a.bits.toNat_lt
  have hB := b.bits.toNat_lt
  have hBits : a.bits.toNat = b.bits.toNat := by
    simp only [rank, isNegative, magnitude, signWeight, decide_eq_true_eq] at h
    split at h <;> split at h <;> omega
  cases a; cases b
  exact congrArg Timestamp.mk (UInt64.toNat_inj.mp hBits)

theorem le_refl {a : Timestamp} (hNum : a.isNaN = false) : a ≤ a := ⟨hNum, hNum, Int.le_refl _⟩

theorem le_trans {a b c : Timestamp} (hab : a ≤ b) (hbc : b ≤ c) : a ≤ c :=
  ⟨hab.1, hbc.2.1, Int.le_trans hab.2.2 hbc.2.2⟩

theorem le_of_not_lt {a b : Timestamp} (hA : a.isNaN = false) (hB : b.isNaN = false)
    (h : ¬ a < b) : b ≤ a :=
  ⟨hB, hA, Int.not_lt.mp fun hlt => h ⟨hA, hB, hlt⟩⟩

theorem le_of_lt {a b : Timestamp} (h : a < b) : a ≤ b :=
  ⟨h.1, h.2.1, Int.le_of_lt h.2.2⟩

theorem not_lt_of_le {a b : Timestamp} (h : a ≤ b) : ¬ b < a :=
  fun hlt => Int.not_lt.mpr h.2.2 hlt.2.2

/-! ## The later of two readings -/

/-- A number is at most the later reading, whatever the other one is. -/
theorem le_max_left {a b : Timestamp} (hA : a.isNaN = false) : a ≤ a.max b := by
  unfold Timestamp.max
  split
  · simp_all
  · split
    · exact le_of_lt ‹_›
    · exact le_refl hA

/-- A number is at most the later reading, also on the right. -/
theorem le_max_right {a b : Timestamp} (hB : b.isNaN = false) : b ≤ a.max b := by
  unfold Timestamp.max
  split
  · exact le_refl hB
  · split
    · exact le_refl hB
    · exact le_of_not_lt (by simp_all) hB ‹_›

end Timestamp

end DueDispatch
