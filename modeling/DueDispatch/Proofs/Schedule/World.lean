import DueDispatch.Proofs.Cycle.History
import DueDispatch.Proofs.Schedule.Course
import DueDispatch.Proofs.Schedule.Jobs
import DueDispatch.Schedule.CountReports
import DueDispatch.Schedule.Cycles

/-!
# DueDispatch — what a run keeps of its world

The world that jobs work on is changed by their turns and by edits from outside, and by
nothing else that a schedule does: ticks that are left out, the end of the drain time and
signals leave it alone. The same goes for count reports, which change it at the end of a
count only. So what every turn keeps, a run keeps that is not edited.

## Results

* `world_run` — a schedule keeps what the turns of its jobs keep.
* `Remote.Keeps.cycles` — cycles keep what the calls to their backends keep.
* `CountReports.world_run` — count reports keep what a count keeps.
-/

namespace DueDispatch.Schedule

variable {W J : Type} {settings : Settings} {w : Workload W J} {R : W → Prop}

/-- Every turn of a job keeps a property of the world. -/
structure Workload.Keeps (w : Workload W J) (R : W → Prop) : Prop where
  start : ∀ number now world, R world → R (w.start number now world).2
  resume : ∀ job now world, R world → R (w.resume job now world).2

/-- A step from outside leaves the world alone. -/
def Step.IsSignal : Step W → Prop
  | .edit _ => False
  | _ => True

-- ---------------------------------------------------------------------------
-- The schedule
-- ---------------------------------------------------------------------------

namespace State

variable {s : State W J}

@[simp] theorem world_place (s : State W J) (n : Nat) (t : Turn J) :
    (s.place n t).world = s.world := by
  rcases place_cases s n t with ⟨e, -, -, -, -, hPlace⟩ | ⟨-, hPlace⟩ | ⟨-, wakes, job, hPlace⟩ <;>
    rw [hPlace] <;> rfl

@[simp] theorem world_stopIfDrained (s : State W J) : s.stopIfDrained.world = s.world := by
  unfold stopIfDrained
  split <;> rfl

theorem world_wake (hWorld : R s.world) (hKeeps : w.Keeps R) : R (s.wake w).world := by
  unfold wake
  split
  · exact hWorld
  · rw [world_stopIfDrained, world_place]
    exact hKeeps.resume _ _ _ hWorld

theorem world_tick (hWorld : R s.world) (hKeeps : w.Keeps R) (settings : Settings)
    (deadline : Nat) : R (s.tick settings w deadline).world := by
  rcases tick_cases settings w deadline s with ⟨-, hTick⟩ | ⟨-, hTick⟩ <;> rw [hTick]
  · rw [startJob, world_place]
    exact hKeeps.start _ _ _ hWorld
  · unfold skipTick
    split <;> exact hWorld

/-- What is due keeps whatever the turns of the jobs keep. -/
theorem world_handle (hWorld : R s.world) (hKeeps : w.Keeps R) (settings : Settings) (due : Due) :
    R (s.handle settings w due).world := by
  unfold handle
  split
  · exact world_wake hWorld hKeeps
  · exact world_tick hWorld hKeeps settings _
  · exact hWorld
  · exact hWorld

/-- A signal leaves the world alone. -/
theorem world_perform (hWorld : R s.world) (settings : Settings) {step : Step W}
    (hSignal : step.IsSignal) : R (s.perform settings step).world := by
  cases step with
  | shutdown =>
    show R (s.shutdown settings).world
    unfold shutdown
    split
    · rwa [world_stopIfDrained]
    · exact hWorld
  | abort =>
    show R (s.abort settings).world
    unfold abort
    split
    · rwa [world_stopIfDrained]
    · exact hWorld
  | jump span => exact hWorld
  | edit change => exact hSignal.elim

end State

/-- **A schedule keeps what the turns of its jobs keep.** -/
theorem world_run (hKeeps : w.Keeps R) (settings : Settings) {script : Script W}
    (hSignals : ∀ entry ∈ script, entry.2.IsSignal) {world : W} (hWorld : R world) :
    R (run settings w script world).world :=
  (course_induction (P := fun s => R s.world) script world hWorld
    (fun s time due hState _ =>
      ⟨hState, State.world_handle (s := s.waitUntil time) hState hKeeps settings due⟩)
    (fun s hState entry hEntry =>
      ⟨hState, State.world_perform (s := s.waitUntil entry.1) hState settings
        (hSignals entry hEntry)⟩)).2

-- ---------------------------------------------------------------------------
-- Cycles
-- ---------------------------------------------------------------------------

section

variable {σ : Type} {d : Dispatcher} {r : Remote σ} {Q : σ → Prop}

/-- Every call keeps a property of the backends, when it is sent and when it is carried
out. -/
structure Remote.Keeps (r : Remote σ) (Q : σ → Prop) : Prop where
  send : ∀ call s, Q s → Q (r.send call s).2
  answer : ∀ time call s, Q s → Q (r.answer time call s).2

namespace Remote.Keeps

/-- A step of a cycle keeps what its calls keep. -/
theorem step (hKeeps : r.Keeps Q) (c : Cycle) (time elapsed : Nat) {s : σ} (hState : Q s) :
    Q (d.step (r.backends time elapsed) c s).2 := by
  cases c with
  | finished report => exact hState
  | _ =>
    rw [Dispatcher.state_step _ s rfl]
    exact hKeeps.answer time _ s hState

theorem sendNext (hKeeps : r.Keeps Q) (c : Cycle) {s : σ} (hState : Q s) :
    Q (Schedule.sendNext d r c s).2 := by
  unfold Schedule.sendNext
  split
  · exact hKeeps.send _ s hState
  · exact hState

theorem proceed (hKeeps : r.Keeps Q) (now : Nat) (c : Cycle) {site : Site σ}
    (hState : Q site.state) : Q (Schedule.proceed d r now c site).2.state := by
  fun_induction Schedule.proceed d r now c site with
  | case1 => exact hState
  | case2 c site hOpen sent hWaits => exact hKeeps.sendNext c hState
  | case3 c site hOpen sent hAtOnce out ih =>
    exact ih (hKeeps.step c now 0 (hKeeps.sendNext c hState))

/-- **Cycles keep what the calls to their backends keep.** -/
theorem cycles (hKeeps : r.Keeps Q) (d : Dispatcher) (clock : Nat → Timestamp) :
    (Schedule.cycles d r clock).Keeps fun site => Q site.state where
  start _ now _ hState := hKeeps.proceed now _ hState
  resume waiting now _ hState := hKeeps.proceed now _ (hKeeps.step waiting.cycle now _ hState)

end Remote.Keeps

end

-- ---------------------------------------------------------------------------
-- The count reports
-- ---------------------------------------------------------------------------

namespace CountReports

variable {c : Counter W} {s : State W}

namespace State

theorem world_handle (hWorld : R s.world) (hTotal : ∀ world, R world → R (c.total world).2)
    (period : Nat) : R (s.handle c period).world := by
  unfold handle
  split
  · exact hWorld
  · exact hTotal _ hWorld
  · exact hWorld

theorem world_runUntil (hWorld : R s.world) (hTotal : ∀ world, R world → R (c.total world).2)
    {period : Nat} (hPeriod : 0 < period) (limit : Nat) :
    R (s.runUntil c period hPeriod limit).world := by
  fun_induction s.runUntil c period hPeriod limit with
  | case1 s hNone => exact hWorld
  | case2 s time hDue hLimit ih =>
    exact ih (world_handle (s := s.waitUntil time) hWorld hTotal period)
  | case3 s time hDue hLimit => exact hWorld

theorem world_perform (hWorld : R s.world) {step : Step W} (hSignal : step.IsSignal) :
    R (s.perform step).world := by
  cases step with
  | shutdown =>
    show R s.shutdown.world
    unfold shutdown
    split <;> exact hWorld
  | abort => exact hWorld
  | jump span => exact hWorld
  | edit change => exact hSignal.elim

theorem world_foldl (hTotal : ∀ world, R world → R (c.total world).2) {period : Nat}
    (hPeriod : 0 < period) {script : Script W} (hSignals : ∀ entry ∈ script, entry.2.IsSignal)
    (hWorld : R s.world) : R (script.foldl (State.advance c period hPeriod) s).world := by
  induction script generalizing s with
  | nil => exact hWorld
  | cons entry rest ih =>
    obtain ⟨hFirst, hRest⟩ := List.forall_mem_cons.mp hSignals
    refine ih hRest (world_perform (s := State.waitUntil _ entry.1) ?_ hFirst)
    exact world_runUntil hWorld hTotal hPeriod entry.1

end State

/-- **Count reports keep what a count keeps.** -/
theorem world_run (hTotal : ∀ world, R world → R (c.total world).2) {period : Duration}
    {script : Script W} (hSignals : ∀ entry ∈ script, entry.2.IsSignal) {world : W}
    (hWorld : R world) (hRun : run c period script world = .ok s) : R s.world := by
  unfold run at hRun
  split at hRun
  · rename_i hPeriod
    obtain rfl := Except.ok.inj hRun
    have hFold := State.world_foldl hTotal hPeriod hSignals (s := { world }) hWorld
    unfold State.finish
    split
    · exact State.world_handle (s := State.waitUntil _ _) hFold hTotal _
    · exact hFold
  · contradiction

end CountReports

end DueDispatch.Schedule
