import DueDispatch.Time.Duration

/-!
# DueDispatch — periodic deadlines

Times of a schedule are nanoseconds since its start. A timer fires at a whole
millisecond, the first one not before its deadline. No timer is set for longer
than `longestWait`: one that should be has a deadline so far ahead instead.

A tick follows its predecessor by one period as long as it is handled in time,
up to a small tolerance. After a tick that was missed there are two ways to go
on: `Missed.skip` stays on the grid of multiples and leaves out what has passed,
`Missed.delay` starts a new period from the moment of handling.

## Results

* `le_fires`, `fires_eq_of_dvd` — a timer is never early, and exact for a
  deadline of whole milliseconds.
* `lt_timerDeadline` — a timer that is set for the future has its deadline there.
* `lt_nextDeadline` — deadlines move forward.
-/

namespace DueDispatch.Schedule

open Duration (nanosPerMilli nanosPerSec)

/-- Why a schedule cannot be started. -/
inductive Fault
  | tooManySlots
  | zeroPeriod
deriving DecidableEq

/-- The wording of a fault. -/
def Fault.message : Fault → String
  | .tooManySlots => "a semaphore may not have more than MAX_PERMITS permits (2305843009213693951)"
  | .zeroPeriod => "`period` must be non-zero."

/-- The moment at which a timer with this deadline fires. -/
def fires (deadline : Nat) : Nat :=
  (deadline + (nanosPerMilli - 1)) / nanosPerMilli * nanosPerMilli

/-- The longest time for which a timer is set: thirty years of 365 days. -/
def longestWait : Nat := 30 * 365 * 86400 * nanosPerSec

/-- The deadline of a timer that is set at `now` for a moment. -/
def timerDeadline (now moment : Nat) : Nat := min moment (now + longestWait)

/-- How late a tick may be handled without counting as missed. -/
def tolerance : Nat := 5 * nanosPerMilli

/-- How to go on after a missed tick. -/
inductive Missed
  | skip
  | delay
deriving DecidableEq

/-- The deadline after `deadline`, the tick of which is handled at `now`. -/
def nextDeadline (missed : Missed) (period deadline now : Nat) : Nat :=
  timerDeadline now <|
    if now ≤ deadline + tolerance then deadline + period
    else
      match missed with
      | .skip => now + (period - (now - deadline) % period)
      | .delay => now + period

theorem le_fires (deadline : Nat) : deadline ≤ fires deadline := by
  simp only [fires, nanosPerMilli]; omega

theorem fires_lt_add (deadline : Nat) : fires deadline < deadline + nanosPerMilli := by
  simp only [fires, nanosPerMilli]; omega

theorem fires_eq_of_dvd {deadline : Nat} (hWhole : nanosPerMilli ∣ deadline) :
    fires deadline = deadline := by
  obtain ⟨k, rfl⟩ := hWhole
  simp only [fires, nanosPerMilli]; omega

theorem timerDeadline_le (now moment : Nat) : timerDeadline now moment ≤ moment :=
  Nat.min_le_left ..

/-- A timer that is set for the future has its deadline there. -/
theorem lt_timerDeadline {now moment : Nat} (h : now < moment) :
    now < timerDeadline now moment := by
  simp only [timerDeadline, longestWait, nanosPerSec]; omega

theorem timerDeadline_eq {now moment : Nat} (h : moment ≤ now + longestWait) :
    timerDeadline now moment = moment := Nat.min_eq_left h

/-- Deadlines move forward. -/
theorem lt_nextDeadline (missed : Missed) {period deadline now : Nat} (hPeriod : 0 < period)
    (hNow : deadline ≤ now) : deadline < nextDeadline missed period deadline now := by
  have hLongest : deadline < now + longestWait := by
    simp only [longestWait, nanosPerSec]; omega
  refine Nat.lt_min.mpr ⟨?_, hLongest⟩
  split
  · omega
  · have hMod := Nat.mod_lt (now - deadline) hPeriod
    cases missed <;> simp only <;> omega

end DueDispatch.Schedule
