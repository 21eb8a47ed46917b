/-!
# DueDispatch — spans of time

A `Duration` is a whole number of seconds and a rest in nanoseconds. Two
readings of it are used:

* `Duration.toNanos` — the exact length, for timers;
* `Duration.toSeconds` — the length as a floating-point number of seconds, for
  comparisons with account timestamps, which are floating-point seconds.

`toNanos_ofSecs` and `toNanos_ofMillis` say that the two constructors used for
configured values lose nothing.
-/

namespace DueDispatch

/-- A span of time: `secs` seconds and `nanos` nanoseconds, the latter below
one second in every value the program builds. -/
structure Duration where
  secs : UInt64
  nanos : UInt32 := 0
deriving DecidableEq, Inhabited

namespace Duration

/-- Nanoseconds in a second. -/
abbrev nanosPerSec : Nat := 1000000000

/-- Nanoseconds in a millisecond. -/
abbrev nanosPerMilli : Nat := 1000000

/-- A whole number of seconds. -/
def ofSecs (n : UInt64) : Duration := ⟨n, 0⟩

/-- A whole number of milliseconds. -/
def ofMillis (n : UInt64) : Duration := ⟨n / 1000, (n % 1000).toUInt32 * 1000000⟩

/-- The exact length in nanoseconds. -/
def toNanos (d : Duration) : Nat := d.secs.toNat * nanosPerSec + d.nanos.toNat

/-- The length in seconds. Both parts and their sum are rounded to the nearest
floating-point number, in this order. -/
def toSeconds (d : Duration) : Float := d.secs.toFloat + d.nanos.toFloat / 1e9

/-- A span of `n` nanoseconds, for `n` below 2^64 seconds. -/
def ofNanos (n : Nat) : Duration :=
  ⟨(n / nanosPerSec).toUInt64, (n % nanosPerSec).toUInt32⟩

theorem toNanos_ofSecs (n : UInt64) : (ofSecs n).toNanos = n.toNat * nanosPerSec := by
  simp [ofSecs, toNanos]

theorem toNanos_ofMillis (n : UInt64) : (ofMillis n).toNanos = n.toNat * nanosPerMilli := by
  have hMod : n.toNat % 1000 < 1000 := Nat.mod_lt _ (by decide)
  have hDiv := Nat.div_add_mod n.toNat 1000
  simp only [ofMillis, toNanos, UInt64.toNat_div, UInt32.toNat_mul, UInt64.toNat_toUInt32,
    UInt64.toNat_mod, UInt64.toNat_ofNat, UInt32.toNat_ofNat, nanosPerSec, nanosPerMilli,
    Nat.reducePow, Nat.reduceMod]
  omega

end Duration

end DueDispatch
