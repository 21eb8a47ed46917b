import DueDispatch.Error
import DueDispatch.Schedule.Basic

/-!
# DueDispatch — periodic account counts

Once a period the accounts are counted and the total is reported. Counts never
overlap. A count that fails reports nothing. After a late tick the next one
comes a full period later.

Shutdown is noticed between counts only: a count that is under way is waited
for, and its total is still reported.

## Results

* `left_handle_lt` — as for the tick schedule, what is handled before a limit
  leaves less to do before it.
-/

namespace DueDispatch.Schedule.CountReports

/-- How the accounts of a world are counted. -/
structure Counter (W : Type) where
  /-- Nanoseconds that a count takes, by its number from 0. -/
  latency : Nat → Nat
  /-- What a count finds at its end. -/
  total : W → Except Error Nat × W

/-- What the reporter is doing. -/
inductive Phase
  /-- Waiting for the tick with this deadline. -/
  | waiting (deadline : Nat)
  /-- A count is under way until `ends`; the next tick has the deadline `next`. -/
  | counting (ends next : Nat)
  /-- Over since this time. -/
  | stopped (time : Nat)
deriving DecidableEq

/-- The reporter between two events. -/
structure State (W : Type) where
  now : Nat := 0
  phase : Phase := .waiting 0
  shuttingDown : Bool := false
  /-- Counts begun so far. -/
  counts : Nat := 0
  /-- Reported totals with their times, the latest first. -/
  reports : List (Nat × Nat) := []
  world : W

namespace State

variable {W : Type}

/-- When something happens by itself next. -/
def due? (s : State W) : Option Nat :=
  match s.phase with
  | .waiting deadline => some (fires deadline)
  | .counting ends _ => some ends
  | .stopped _ => none

/-- Begins a count. -/
def tick (c : Counter W) (period deadline : Nat) (s : State W) : State W :=
  { s with
    counts := s.counts + 1
    phase := .counting (wakeTime s.now (c.latency s.counts))
      (nextDeadline .delay period deadline s.now) }

/-- Reports the total of the count under way, and goes on unless a shutdown was
asked for. -/
def endCount (c : Counter W) (next : Nat) (s : State W) : State W :=
  let out := c.total s.world
  let reports :=
    match out.1 with
    | .ok total => (s.now, total) :: s.reports
    | .error _ => s.reports
  { s with
    world := out.2
    reports
    phase := if s.shuttingDown then .stopped s.now else .waiting next }

/-- Handles what is due, the clock standing at `s.now`. -/
def handle (c : Counter W) (period : Nat) (s : State W) : State W :=
  match s.phase with
  | .waiting deadline => s.tick c period deadline
  | .counting _ next => s.endCount c next
  | .stopped _ => s

/-- Moves the clock forward to a time, unless it is past it. -/
def waitUntil (s : State W) (time : Nat) : State W := { s with now := max s.now time }

/-- What is left to do before a limit: the time until the next tick, and the
count under way. -/
def left (limit : Nat) (s : State W) : Nat :=
  match s.phase with
  | .waiting deadline => 2 * (limit - deadline) + 1
  | .counting _ next => 2 * (limit - next) + 2
  | .stopped _ => 0

/-- What is handled before a limit leaves less to do before it. -/
theorem left_handle_lt (c : Counter W) {period : Nat} (hPeriod : 0 < period) (s : State W)
    {limit time : Nat} (hDue : s.due? = some time) (hLimit : time < limit) :
    ((s.waitUntil time).handle c period).left limit < s.left limit := by
  cases hPhase : s.phase with
  | waiting deadline =>
    have hLate := le_fires deadline
    simp only [due?, hPhase, Option.some.injEq] at hDue
    have hNow : deadline ≤ max s.now time := by omega
    have hNext := lt_nextDeadline .delay hPeriod hNow
    simp only [handle, waitUntil, hPhase, tick, left]
    omega
  | counting ends next =>
    simp only [handle, waitUntil, hPhase, endCount, left]
    cases s.shuttingDown <;> simp
  | stopped time => simp [due?, hPhase] at hDue

/-- Handles everything that comes before `limit`. -/
def runUntil (c : Counter W) (period : Nat) (hPeriod : 0 < period) (limit : Nat) (s : State W) :
    State W :=
  match _hDue : s.due? with
  | none => s
  | some time =>
    if _hLimit : time < limit then
      runUntil c period hPeriod limit ((s.waitUntil time).handle c period)
    else s
termination_by s.left limit
decreasing_by exact left_handle_lt c hPeriod s _hDue _hLimit

/-- No more counts are begun. -/
def shutdown (s : State W) : State W :=
  match s.phase with
  | .waiting _ => { s with shuttingDown := true, phase := .stopped s.now }
  | _ => { s with shuttingDown := true }

/-- An outside step at the present time. An abort has no effect: there is
nothing to give up. -/
def perform (s : State W) : Step W → State W
  | .shutdown => s.shutdown
  | .abort => s
  | .jump span => { s with now := s.now + span }
  | .edit change => { s with world := change s.world }

/-- Handles what comes before an outside step, then the step. -/
def advance (c : Counter W) (period : Nat) (hPeriod : 0 < period) (s : State W)
    (entry : Nat × Step W) : State W :=
  ((s.runUntil c period hPeriod entry.1).waitUntil entry.1).perform entry.2

/-- Waits for the count under way. -/
def finish (c : Counter W) (period : Nat) (s : State W) : State W :=
  match s.phase with
  | .counting ends _ => (s.waitUntil ends).handle c period
  | _ => s

end State

/-- Runs the reporter under a script until both are over. -/
def run {W : Type} (c : Counter W) (period : Duration) (script : Script W) (world : W) :
    Except Fault (State W) :=
  if hPeriod : 0 < period.toNanos then
    .ok ((script.foldl (State.advance c period.toNanos hPeriod) { world }).finish c
      period.toNanos)
  else .error .zeroPeriod

end DueDispatch.Schedule.CountReports
