import DueDispatch.Account

/-!
# DueDispatch — the readiness rule

A `Policy` says which accounts are due. An account is due when its last claim
is at least `ready` old, or when its last completed check is strictly older
than `expired`. The second threshold is also the life of a lease, so an account
whose worker is lost comes back when the lease does.

`isDue_iff` spells the rule out over the two cut-off readings.
-/

namespace DueDispatch

/-- Accounts claimed by one cycle if nothing else is configured. -/
def defaultBatchCap : Nat := 1000

/-- Which accounts are due, and how many one claim may take. -/
structure Policy where
  /-- Least age of the last claim before an account may be claimed again. -/
  ready : Duration
  /-- Age of the last check after which an account is always due. -/
  expired : Duration
  /-- Most ids returned by one claim. -/
  cap : Nat := defaultBatchCap
deriving DecidableEq, Inhabited

namespace Policy

/-- The latest claim time that is old enough at `now`. -/
def readyCutoff (p : Policy) (now : Timestamp) : Timestamp := now - p.ready

/-- Check times before this reading are too old at `now`. -/
def expiredCutoff (p : Policy) (now : Timestamp) : Timestamp := now - p.expired

/-- Whether an account is due at `now`. -/
def isDue (p : Policy) (now : Timestamp) (a : Account) : Bool :=
  decide (a.enqueuedAt ≤ p.readyCutoff now) || decide (a.checkedAt < p.expiredCutoff now)

/-- How long a claimed account stays leased. -/
def leaseTtl (p : Policy) : Duration := p.expired

theorem isDue_iff {p : Policy} {now : Timestamp} {a : Account} :
    p.isDue now a = true ↔
      a.enqueuedAt ≤ p.readyCutoff now ∨ a.checkedAt < p.expiredCutoff now := by
  simp [isDue]

end Policy

end DueDispatch
