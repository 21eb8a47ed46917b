import DueDispatch.Schedule.Script
import DueDispatch.Schedule.Ticks

/-!
# DueDispatch — the tick schedule

A schedule starts one job per tick. At most `Settings.slots` jobs are live at a
time: a tick that finds all slots taken is skipped. On shutdown it starts no
more jobs and waits for the live ones, but no longer than the drain time and
only until an abort; what is then left is dropped.

The schedule is a state machine over a simulated clock. `State.due?` is the
next thing that happens by itself, `State.handle` does it, and `State.runUntil`
handles everything that comes before a given time. `run` lets a script of
outside steps act in between.

A `Workload` says how jobs behave: each turn of a job works on a shared world
and then sleeps or ends.

## Results

* `left_handle_lt` — what is handled before a limit leaves less to do before
  it, so the machine never stands still.
-/

namespace DueDispatch.Schedule

/-- How a job ends by itself. -/
inductive Ending
  | finished
  | crashed
deriving DecidableEq

/-- What a job does at the end of a turn. -/
inductive Turn (J : Type)
  /-- It sleeps for `span` nanoseconds and goes on as `job`. -/
  | sleep (span : Nat) (job : J) (span_pos : 0 < span)
  | done (ending : Ending)

/-- The behaviour of jobs in state `J` over a world `W`. Both functions take the
time of the turn. -/
structure Workload (W J : Type) where
  /-- The first turn of the job with this number, counted from 0. -/
  start : (number now : Nat) → W → Turn J × W
  /-- A turn after a sleep. -/
  resume : (job : J) → (now : Nat) → W → Turn J × W

/-- The most slots a schedule can have. -/
def maxSlots : Nat := 2305843009213693951

/-- The time from tick to tick if nothing else is configured. -/
def defaultPeriod : Duration := .ofSecs 1

/-- The drain time if nothing else is configured. -/
def defaultDrain : Duration := .ofSecs 5

/-- The settings of a schedule. -/
structure Settings where
  /-- Nanoseconds from tick to tick. -/
  period : Nat
  period_pos : 0 < period
  /-- Most jobs that are live at a time. -/
  slots : Nat := 1
  /-- Nanoseconds for which live jobs are waited for after a shutdown. -/
  drain : Nat := defaultDrain.toNanos
  /-- Whether skipped ticks are announced. -/
  announcesSkips : Bool := false
  /-- Whether an abort from outside reaches the jobs. -/
  abortable : Bool := false

/-- The settings for these values, if a schedule can have them. Zero slots count
as one. -/
def Settings.check (period : Duration) (maxInFlight : Nat) (drain : Duration)
    (announcesSkips abortable : Bool) : Except Fault Settings :=
  if maxSlots < max maxInFlight 1 then .error .tooManySlots
  else if hPeriod : 0 < period.toNanos then
    .ok {
      period := period.toNanos
      period_pos := hPeriod
      slots := max maxInFlight 1
      drain := drain.toNanos
      announcesSkips
      abortable }
  else .error .zeroPeriod

/-- When a sleep of `span` nanoseconds ends that begins at `now`. -/
def wakeTime (now span : Nat) : Nat := fires (timerDeadline now (now + span))

theorem lt_wakeTime {span : Nat} (now : Nat) (hSpan : 0 < span) : now < wakeTime now span :=
  Nat.lt_of_lt_of_le (lt_timerDeadline (by omega)) (le_fires _)

/-- A sleeping job. -/
structure Live (J : Type) where
  number : Nat
  /-- When it goes on. -/
  wakes : Nat
  job : J

/-- Puts a job among others in order of waking, behind those that wake at the
same time. -/
def enqueue {J : Type} (l : Live J) : List (Live J) → List (Live J)
  | [] => [l]
  | m :: rest => if m.wakes ≤ l.wakes then m :: enqueue l rest else l :: m :: rest

/-- What a schedule is doing. -/
inductive Phase
  /-- Waiting for the tick with this deadline. -/
  | ticking (deadline : Nat)
  /-- Waiting for the live jobs until this deadline. -/
  | draining (deadline : Nat)
  /-- Over since this time. -/
  | stopped (time : Nat)
deriving DecidableEq

/-- What can be seen of a schedule. Jobs are named by their number. -/
inductive Event
  | started (number : Nat)
  | finished (number : Nat)
  | crashed (number : Nat)
  | dropped (number : Nat)
  | skipped
deriving DecidableEq

/-- A schedule between two events. -/
structure State (W J : Type) where
  now : Nat := 0
  phase : Phase := .ticking 0
  /-- The live jobs in order of waking. -/
  live : List (Live J) := []
  /-- Whether jobs are given up as soon as they sleep. -/
  aborted : Bool := false
  /-- Whether an abort was asked for from outside. -/
  abortAsked : Bool := false
  /-- Ticks that started a job. -/
  fired : Nat := 0
  /-- Ticks that found all slots taken. -/
  skipped : Nat := 0
  /-- Jobs that were dropped before their end. -/
  abandoned : Nat := 0
  /-- Everything seen so far with its time, the latest first. -/
  log : List (Nat × Event) := []
  world : W

/-- Something that happens by itself. -/
inductive Due
  /-- The first live job wakes. -/
  | wake
  /-- A tick. -/
  | tick
  /-- The drain time is over. -/
  | drainEnd
deriving DecidableEq

namespace State

variable {W J : Type}

/-- Writes down an event at the present time. -/
def record (s : State W J) (e : Event) : State W J := { s with log := (s.now, e) :: s.log }

/-- Drops all live jobs. -/
def dropLive (s : State W J) : State W J :=
  { s with
    live := []
    abandoned := s.abandoned + s.live.length
    log := (s.live.map fun l => (s.now, Event.dropped l.number)).reverse ++ s.log }

/-- Ends a drain that has nothing left to wait for. -/
def stopIfDrained (s : State W J) : State W J :=
  match s.phase, s.live with
  | .draining _, [] => { s with phase := .stopped s.now }
  | _, _ => s

/-- Takes note of what a job does at the end of its turn. -/
def place (s : State W J) (number : Nat) : Turn J → State W J
  | .done .finished => s.record (.finished number)
  | .done .crashed => s.record (.crashed number)
  | .sleep span job _ =>
    if s.aborted then
      { s with abandoned := s.abandoned + 1 }.record (.dropped number)
    else
      { s with live := enqueue ⟨number, wakeTime s.now span, job⟩ s.live }

/-- The next thing that happens by itself, and when. A job that wakes comes
before a deadline at the same time. -/
def due? (s : State W J) : Option (Nat × Due) :=
  let orWake (time : Nat) (due : Due) : Nat × Due :=
    match s.live with
    | [] => (time, due)
    | l :: _ => if l.wakes ≤ time then (l.wakes, .wake) else (time, due)
  match s.phase with
  | .ticking deadline => some (orWake (fires deadline) .tick)
  | .draining deadline => some (orWake (fires deadline) .drainEnd)
  | .stopped _ => none

/-- The first live job takes a turn. -/
def wake (w : Workload W J) (s : State W J) : State W J :=
  match s.live with
  | [] => s
  | l :: rest =>
    let out := w.resume l.job s.now s.world
    ({ s with live := rest, world := out.2 }.place l.number out.1).stopIfDrained

/-- Starts the next job. -/
def startJob (w : Workload W J) (s : State W J) : State W J :=
  let out := w.start s.fired s.now s.world
  ({ s with fired := s.fired + 1, world := out.2 }.record (.started s.fired)).place s.fired out.1

/-- Leaves out a tick. -/
def skipTick (settings : Settings) (s : State W J) : State W J :=
  let s := { s with skipped := s.skipped + 1 }
  if settings.announcesSkips then s.record .skipped else s

/-- What a schedule does after the tick with this deadline. -/
def phaseAfter (settings : Settings) (deadline now : Nat) : Phase :=
  .ticking (nextDeadline .skip settings.period deadline now)

/-- A tick with this deadline: a job is started if a slot is free. -/
def tick (settings : Settings) (w : Workload W J) (deadline : Nat) (s : State W J) : State W J :=
  let s := { s with phase := phaseAfter settings deadline s.now }
  if s.live.length < settings.slots then s.startJob w else s.skipTick settings

/-- The drain time is over: the live jobs are dropped. -/
def endDrain (s : State W J) : State W J :=
  { s.dropLive with aborted := true, phase := .stopped s.now }

/-- Handles what is due, the clock standing at `s.now`. -/
def handle (settings : Settings) (w : Workload W J) (due : Due) (s : State W J) : State W J :=
  match due, s.phase with
  | .wake, _ => s.wake w
  | .tick, .ticking deadline => s.tick settings w deadline
  | .drainEnd, .draining _ => s.endDrain
  | _, _ => s

/-- Moves the clock forward to a time, unless it is past it. -/
def waitUntil (s : State W J) (time : Nat) : State W J := { s with now := max s.now time }

/-! ## The machine never stands still -/

/-- What a phase has left to do before a limit. -/
def phaseLeft (limit : Nat) : Phase → Nat
  | .ticking deadline => limit - deadline + 2
  | .draining _ => 1
  | .stopped _ => 0

/-- The sleep that jobs have left before a limit. -/
def sleepLeft (limit : Nat) (live : List (Live J)) : Nat :=
  live.foldr (fun l sum => limit - l.wakes + sum) 0

/-- What is left to do before a limit: the phase, then the sleep. -/
def left (limit : Nat) (s : State W J) : Nat × Nat :=
  (phaseLeft limit s.phase, sleepLeft limit s.live)

/-- The order on what is left to do. -/
abbrev Less (a b : Nat × Nat) : Prop := Prod.Lex (· < ·) (· < ·) a b

theorem less_iff {a b : Nat × Nat} : Less a b ↔ a.1 < b.1 ∨ a.1 = b.1 ∧ a.2 < b.2 :=
  Prod.lex_def

theorem sleepLeft_enqueue (limit : Nat) (l : Live J) (ls : List (Live J)) :
    sleepLeft limit (enqueue l ls) = limit - l.wakes + sleepLeft limit ls := by
  unfold sleepLeft
  induction ls with
  | nil => rfl
  | cons m rest ih =>
    unfold enqueue
    split
    · simp only [List.foldr_cons, ih]
      omega
    · rfl

@[simp] theorem phase_record (s : State W J) (e : Event) : (s.record e).phase = s.phase := rfl

@[simp] theorem live_record (s : State W J) (e : Event) : (s.record e).live = s.live := rfl

@[simp] theorem phase_place (s : State W J) (n : Nat) (t : Turn J) :
    (s.place n t).phase = s.phase := by
  unfold place
  split <;> try rfl
  split <;> rfl

/-- A job that sleeps again sleeps longer than until now. -/
theorem sleepLeft_place_lt (s : State W J) (n : Nat) (t : Turn J) {limit wakes : Nat}
    (hNow : wakes ≤ s.now) (hLimit : wakes < limit) :
    sleepLeft limit (s.place n t).live < limit - wakes + sleepLeft limit s.live := by
  unfold place
  split
  · simp only [live_record]; omega
  · simp only [live_record]; omega
  · rename_i span job hSpan
    split
    · simp only [live_record]; omega
    · have hLate := lt_wakeTime s.now hSpan
      simp only [sleepLeft_enqueue]; omega

theorem phase_tick (settings : Settings) (w : Workload W J) (deadline : Nat) (s : State W J) :
    (s.tick settings w deadline).phase = phaseAfter settings deadline s.now := by
  simp only [tick, startJob, skipTick]
  split
  · simp
  · split <;> rfl

/-- A drain that ends leaves less to do, anything else is left as it is. -/
theorem left_stopIfDrained_le (limit : Nat) (s : State W J) :
    phaseLeft limit s.stopIfDrained.phase ≤ phaseLeft limit s.phase ∧
      s.stopIfDrained.live = s.live := by
  unfold stopIfDrained
  split
  · rename_i hPhase hLive
    simp [hPhase, phaseLeft]
  · exact ⟨Nat.le_refl _, rfl⟩

/-- A job's turn leaves less to do before a limit that lies after its waking. -/
theorem left_wake_lt (w : Workload W J) (s : State W J) {l : Live J} {rest : List (Live J)}
    {limit : Nat} (hLive : s.live = l :: rest) (hNow : l.wakes ≤ s.now) (hSoon : l.wakes < limit) :
    Less ((s.wake w).left limit) (s.left limit) := by
  simp only [wake, hLive]
  generalize w.resume l.job s.now s.world = out
  have hSum := sleepLeft_place_lt { s with live := rest, world := out.2 } l.number out.1 hNow hSoon
  have hStop := left_stopIfDrained_le limit
    ({ s with live := rest, world := out.2 }.place l.number out.1)
  rw [phase_place] at hStop
  simp only [less_iff, left, hLive, hStop.2] at hStop ⊢
  simp only [sleepLeft, List.foldr_cons] at hSum ⊢
  omega

/-- A tick leaves less to do before a limit that lies after its deadline. -/
theorem left_tick_lt (settings : Settings) (w : Workload W J) (s : State W J)
    {deadline limit : Nat} (hPhase : s.phase = .ticking deadline) (hNow : deadline ≤ s.now)
    (hSoon : deadline < limit) :
    Less ((s.tick settings w deadline).left limit) (s.left limit) := by
  have hNext := lt_nextDeadline .skip settings.period_pos hNow
  simp only [less_iff, left, phase_tick, hPhase, phaseAfter, phaseLeft]
  omega

/-- The end of the drain time leaves nothing to do. -/
theorem left_endDrain_lt (s : State W J) {deadline : Nat} (hPhase : s.phase = .draining deadline)
    (limit : Nat) : Less (s.endDrain.left limit) (s.left limit) := by
  simp [less_iff, left, endDrain, hPhase, phaseLeft]

/-- **What is handled before a limit leaves less to do before it.** -/
theorem left_handle_lt (settings : Settings) (w : Workload W J) (s : State W J)
    {limit time : Nat} {due : Due} (hDue : s.due? = some (time, due)) (hLimit : time < limit) :
    Less (((s.waitUntil time).handle settings w due).left limit) (s.left limit) := by
  -- a job that wakes, in whichever phase
  have hWake : ∀ l rest, s.live = l :: rest → time = l.wakes →
      Less (((s.waitUntil time).wake w).left limit) (s.left limit) := by
    intro l rest hLive hTime
    exact left_wake_lt w (s.waitUntil time) hLive (by simp only [waitUntil]; omega) (by omega)
  cases hPhase : s.phase with
  | ticking deadline =>
    -- the deadline lies before the limit, since its timer is never early
    have hLate := le_fires deadline
    have hTick : time = fires deadline →
        Less (((s.waitUntil time).handle settings w .tick).left limit) (s.left limit) := by
      intro hTime
      have hSoon : deadline < limit := by omega
      have hNow : deadline ≤ (s.waitUntil time).now := by simp only [waitUntil]; omega
      have h := left_tick_lt settings w (s.waitUntil time) hPhase hNow hSoon
      have hHandle : (s.waitUntil time).handle settings w .tick =
          (s.waitUntil time).tick settings w deadline := by simp only [handle, waitUntil, hPhase]
      exact hHandle ▸ h
    cases hLive : s.live with
    | nil =>
      simp only [due?, hPhase, hLive, Option.some.injEq, Prod.mk.injEq] at hDue
      obtain ⟨hTime, rfl⟩ := hDue
      exact hTick hTime.symm
    | cons l rest =>
      simp only [due?, hPhase, hLive, Option.some.injEq] at hDue
      split at hDue <;> (simp only [Prod.mk.injEq] at hDue; obtain ⟨hTime, rfl⟩ := hDue)
      · exact hWake l rest hLive hTime.symm
      · exact hTick hTime.symm
  | draining deadline =>
    have hEnd : Less (((s.waitUntil time).handle settings w .drainEnd).left limit)
        (s.left limit) := by
      have h := left_endDrain_lt (s.waitUntil time) hPhase limit
      have hHandle : (s.waitUntil time).handle settings w .drainEnd =
          (s.waitUntil time).endDrain := by simp only [handle, waitUntil, hPhase]
      exact hHandle ▸ h
    cases hLive : s.live with
    | nil =>
      simp only [due?, hPhase, hLive, Option.some.injEq, Prod.mk.injEq] at hDue
      obtain ⟨_, rfl⟩ := hDue
      exact hEnd
    | cons l rest =>
      simp only [due?, hPhase, hLive, Option.some.injEq] at hDue
      split at hDue <;> (simp only [Prod.mk.injEq] at hDue; obtain ⟨hTime, rfl⟩ := hDue)
      · exact hWake l rest hLive hTime.symm
      · exact hEnd
  | stopped time => simp [due?, hPhase] at hDue

/-! ## Running -/

/-- Handles everything that comes before `limit`. -/
def runUntil (settings : Settings) (w : Workload W J) (limit : Nat) (s : State W J) : State W J :=
  match _hDue : s.due? with
  | none => s
  | some (time, due) =>
    if _hLimit : time < limit then
      runUntil settings w limit ((s.waitUntil time).handle settings w due)
    else s
termination_by s.left limit
decreasing_by exact left_handle_lt settings w s _hDue _hLimit

/-- No more jobs are started. -/
def shutdown (settings : Settings) (s : State W J) : State W J :=
  match s.phase with
  | .ticking _ =>
    { s with phase := .draining (timerDeadline s.now (s.now + settings.drain)) }.stopIfDrained
  | _ => s

/-- All jobs are given up, the live ones and those to come. -/
def abort (settings : Settings) (s : State W J) : State W J :=
  let s := { s with abortAsked := true }
  if settings.abortable then { s.dropLive with aborted := true }.stopIfDrained else s

/-- An outside step at the present time. -/
def perform (settings : Settings) (s : State W J) : Step W → State W J
  | .shutdown => s.shutdown settings
  | .abort => s.abort settings
  | .jump span => { s with now := s.now + span }
  | .edit change => { s with world := change s.world }

/-- Handles what comes before an outside step, then the step. -/
def advance (settings : Settings) (w : Workload W J) (s : State W J) (entry : Nat × Step W) :
    State W J :=
  ((s.runUntil settings w entry.1).waitUntil entry.1).perform settings entry.2

/-- Waits for the end of a drain. A schedule that was not shut down stays as it
is. -/
def finish (settings : Settings) (w : Workload W J) (s : State W J) : State W J :=
  match s.phase with
  | .draining deadline => s.runUntil settings w (fires deadline + 1)
  | _ => s

/-- Whether an abort can be seen from outside: it was asked for there, or the
schedule gave up its jobs on the shared signal. -/
def abortVisible (settings : Settings) (s : State W J) : Bool :=
  s.abortAsked || (settings.abortable && s.aborted)

end State

/-- Runs a schedule under a script until both are over. -/
def run {W J : Type} (settings : Settings) (w : Workload W J) (script : Script W) (world : W) :
    State W J :=
  (script.foldl (State.advance settings w) { world }).finish settings w

end DueDispatch.Schedule
