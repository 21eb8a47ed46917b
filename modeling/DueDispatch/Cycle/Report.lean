/-!
# DueDispatch — what a cycle reports

A `Report` counts what one dispatch cycle did, stage by stage.
-/

namespace DueDispatch

/-- Counters of one dispatch cycle. -/
structure Report where
  /-- Ids returned by the claim. -/
  selected : Nat := 0
  /-- Ids that received a lease. -/
  granted : Nat := 0
  /-- Ids accepted by the queue. -/
  enqueued : Nat := 0
  /-- Ids that received no lease. -/
  skipped : Nat := 0
  /-- Ids in chunks that the queue did not accept. -/
  failed : Nat := 0
  /-- The claim failed, and nothing else was attempted. -/
  selectionFailed : Bool := false
  /-- Lease calls that failed. -/
  leaseFailures : Nat := 0
  /-- Publish calls that failed. -/
  publishFailures : Nat := 0
  /-- Duration of the cycle in nanoseconds. -/
  elapsed : Nat := 0
deriving DecidableEq, Inhabited

/-- Whether some backend call of the cycle failed. -/
def Report.hasErrors (r : Report) : Bool :=
  r.selectionFailed || decide (0 < r.leaseFailures) || decide (0 < r.publishFailures)

end DueDispatch
