import DueDispatch.Memory.Basic
import DueDispatch.Schedule.Basic

/-!
# DueDispatch — scheduled dispatch cycles

The workload of the running program: every job is one dispatch cycle. Its
backends are remote. A call is sent, then waited for, and then carried out at
once. So what an abandoned cycle has done stays done, and what it was waiting
for is never done.
-/

namespace DueDispatch.Schedule

/-- Backends that calls have to be waited for. Times are nanoseconds since the
start of the schedule. -/
structure Remote (σ : Type) where
  /-- Sends a call, and tells how long it is waited for. -/
  send : Call → σ → Nat × σ
  /-- Carries out a call that was waited for until this time. -/
  answer : (time : Nat) → Backends σ

/-- The backends at a time, every call to which has taken `elapsed`. -/
def Remote.backends {σ : Type} (r : Remote σ) (time elapsed : Nat) : Backends σ := fun call s =>
  let out := r.answer time call s
  ({ out.1 with elapsed }, out.2)

/-- The state of the backends, and the reports of the cycles that ended, in
order. -/
structure Site (σ : Type) where
  state : σ
  reports : List (Nat × Report) := []

/-- Changes the state of the backends. -/
def Site.edit {σ : Type} (change : σ → σ) (s : Site σ) : Site σ :=
  { s with state := change s.state }

/-- A cycle whose next call was sent at `since`. -/
structure Waiting where
  cycle : Cycle
  since : Nat
deriving DecidableEq

/-- Sends the next call of a cycle. A finished cycle has none to wait for. -/
def sendNext {σ : Type} (d : Dispatcher) (r : Remote σ) (c : Cycle) (s : σ) : Nat × σ :=
  match d.call? c with
  | some call => r.send call s
  | none => (0, s)

/-- Makes calls that take no time, until a call has to be waited for or the
cycle is over. -/
def proceed {σ : Type} (d : Dispatcher) (r : Remote σ) (now : Nat) (c : Cycle) (s : Site σ) :
    Turn Waiting × Site σ :=
  match _hReport : c.report? with
  | some report => (.done .finished, { s with reports := s.reports ++ [(now, report)] })
  | none =>
    let sent := sendNext d r c s.state
    if h : 0 < sent.1 then (.sleep sent.1 ⟨c, now⟩ h, { s with state := sent.2 })
    else
      let out := d.step (r.backends now 0) c sent.2
      proceed d r now out.1 { s with state := out.2 }
termination_by c.remaining
decreasing_by exact d.step_remaining_lt _ _ _hReport

/-- Cycles of a dispatcher, the clock of which is given. -/
def cycles {σ : Type} (d : Dispatcher) (r : Remote σ) (clock : Nat → Timestamp) :
    Workload (Site σ) Waiting where
  start _ now s := proceed d r now (d.begin (clock now)) s
  resume w now s :=
    let out := d.step (r.backends now (now - w.since)) w.cycle s.state
    proceed d r now out.1 { s with state := out.2 }

/-- The reading of a clock that showed `origin` at time 0. -/
def clockAt (origin : Timestamp) (now : Nat) : Timestamp := origin + Duration.ofNanos now

/-! ## Stores in memory -/

/-- Nanoseconds that each kind of backend call takes. -/
structure Latencies where
  claim : Nat := 0
  lease : Nat := 0
  publish : Nat := 0
deriving DecidableEq

/-- How long a call takes. -/
def Latencies.of (l : Latencies) : Call → Nat
  | .claim .. => l.claim
  | .lease .. => l.lease
  | .publish .. => l.publish

/-- The stores in memory, with a clock that shows `origin` at time 0. -/
def ofMemory (latencies : Latencies) (origin : Timestamp) : Remote Memory where
  send call m := (latencies.of call, m)
  answer time call m := Memory.backends call { m with clock := clockAt origin time }

end DueDispatch.Schedule
