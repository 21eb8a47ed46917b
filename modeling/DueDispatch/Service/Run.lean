import DueDispatch.Schedule.CountReports
import DueDispatch.Schedule.Cycles
import DueDispatch.Service.Startup

/-!
# DueDispatch — the running service

A service runs dispatch cycles on a tick schedule and, if it is told to, counts
the accounts once a period. The first signal ends the ticks and the counts and
lets the live cycles go on for the drain time. The second one gives them up.

The two halves do not wait for each other. The service is over when both are.
-/

namespace DueDispatch

open Schedule (CountReports.Counter CountReports.State Remote Site Waiting)

/-- What signals at these times do to a schedule: the first one shuts it down,
the second one aborts it, and more have no effect. -/
def signalScript {W : Type} : List Nat → Schedule.Script W
  | [] => []
  | [first] => [(first, .shutdown)]
  | first :: second :: _ => [(first, .shutdown), (second, .abort)]

/-- The dispatcher that a configuration describes. -/
def Config.dispatcher (c : Config) : Dispatcher where
  policy := c.policy
  ttl := c.policy.leaseTtl
  channel := c.queueChannel
  chunkSize := c.chunkSize

/-- The schedule that a configuration describes. Skipped ticks are announced,
and an abort reaches the cycles. -/
def Config.schedule (c : Config) : Except Schedule.Fault Schedule.Settings :=
  Schedule.Settings.check c.tickPeriod c.maxInFlight c.shutdownTimeout true true

/-- Everything that happens while a service runs. -/
structure Run (σ : Type) where
  /-- The tick schedule and its cycles. -/
  cycles : Schedule.State (Site σ) Waiting
  /-- The count reports, if they are enabled. -/
  counts : Option (CountReports.State σ)

namespace Service

variable {σ : Type}

/-- The peers as backends of the cycles. -/
def backends (v : Service σ) : Backends σ := v.peers.backends v.table v.config.leaseNamespace

/-- Counts over the database, each of which takes its latency. -/
def counter (v : Service σ) (latency : Nat → Nat) : CountReports.Counter σ where
  latency
  total := v.peers.postgres.count v.table

/-- The count reports under signals, if they are enabled. -/
def runCounts (v : Service σ) (latency : Nat → Nat) (signals : List Nat) (s : σ) :
    Except Schedule.Fault (Option (CountReports.State σ)) :=
  match v.config.countReportInterval with
  | none => .ok none
  | some period =>
    (Schedule.CountReports.run (v.counter latency) period (signalScript signals) s).map some

/-- The cycles under signals. -/
def runCycles (v : Service σ) (remote : Remote σ) (clock : Nat → Timestamp) (signals : List Nat)
    (s : σ) : Except Schedule.Fault (Schedule.State (Site σ) Waiting) :=
  v.config.schedule.map fun settings =>
    Schedule.run settings (Schedule.cycles v.config.dispatcher remote clock)
      (signalScript signals) { state := s }

/-- Runs a service under signals. The cycles speak to `remote`; a count takes
`latency`. -/
def run (v : Service σ) (remote : Remote σ) (latency : Nat → Nat) (clock : Nat → Timestamp)
    (signals : List Nat) (s : σ) : Except Schedule.Fault (Run σ) := do
  let cycles ← v.runCycles remote clock signals s
  let counts ← v.runCounts latency signals s
  return { cycles, counts }

end Service

end DueDispatch
