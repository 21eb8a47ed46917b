import DueDispatch.Schedule.Basic

/-!
# DueDispatch — jobs that only take time

The simplest workload: a job sleeps once for a given span and then ends as it
was told to. It is what the schedule itself is studied with.
-/

namespace DueDispatch.Schedule

/-- The behaviour of a job that only takes time. -/
structure Sleeper where
  /-- Nanoseconds from its start to its end. -/
  span : Nat
  ending : Ending := .finished
deriving DecidableEq, Inhabited

/-- Jobs the n-th of which behaves as `behaviour n`. A sleeping job only knows
how it will end. -/
def sleepers (behaviour : Nat → Sleeper) : Workload Unit Ending where
  start number _ world :=
    let s := behaviour number
    if h : 0 < s.span then (.sleep s.span s.ending h, world) else (.done s.ending, world)
  resume ending _ world := (.done ending, world)

/-- The behaviours of a list, over and over. -/
def repeating (behaviours : List Sleeper) (number : Nat) : Sleeper :=
  behaviours.getD (number % behaviours.length) { span := 0 }

end DueDispatch.Schedule
