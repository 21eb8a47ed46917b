import DueDispatch.Proofs.Schedule.Pace

/-!
# DueDispatch — how a drain closes

A drain goes on while it has jobs, and ends at the latest when its time is up: by then the
clock has not passed that time. An abort ends it at once.

## Results

* `Closing.runUntil` — a drain goes on or stops, and is not late.
* `Closing.finish`, `Closing.advance_abort` — the ways it ends.
* `closing_of_shutdown` — a shutdown begins a drain, or ends it at once.
-/

namespace DueDispatch.Schedule

variable {W J : Type} {settings : Settings} {w : Workload W J} {s s' : State W J}
  {first close limit : Nat}

/-- A drain that began at `first` and is over by `close`. -/
def Closing (first close : Nat) (s : State W J) : Prop :=
  ∃ deadline, s.phase = .draining deadline ∧ first ≤ s.now ∧ s.now ≤ fires deadline ∧
    fires deadline ≤ close

/-- A schedule that stopped between two times. -/
def StoppedWithin (first close : Nat) (s : State W J) : Prop :=
  ∃ stop, s.phase = .stopped stop ∧ first ≤ stop ∧ stop ≤ close

/-- If the drain is over the schedule stops now, and else it stays in its phase. -/
theorem State.phase_stopIfDrained (s : State W J) :
    s.stopIfDrained.phase = s.phase ∨ s.stopIfDrained.phase = .stopped s.now := by
  unfold stopIfDrained
  split
  · exact Or.inr rfl
  · exact Or.inl rfl

/-- When a job wakes the schedule stops now or stays in its phase. -/
theorem State.phase_wake_cases (w : Workload W J) (s : State W J) :
    (s.wake w).phase = s.phase ∨ (s.wake w).phase = .stopped s.now := by
  unfold wake
  split
  · exact Or.inl rfl
  · rename_i l rest hLive
    have hCases := State.phase_stopIfDrained
      (({ s with live := rest, world := (w.resume l.job s.now s.world).2 } : State W J).place
        l.number (w.resume l.job s.now s.world).1)
    rw [phase_place, now_place] at hCases
    exact hCases

theorem State.now_shutdown (settings : Settings) (s : State W J) :
    (s.shutdown settings).now = s.now := by
  rcases State.now_perform settings .shutdown s with hSame | ⟨_, hJump, -⟩
  · exact hSame
  · contradiction

/-- A schedule that is over stays as it is. -/
theorem StoppedWithin.onward (hStopped : StoppedWithin first close s)
    (hOnward : s.phase.Onward s'.phase) : StoppedWithin first close s' := by
  obtain ⟨stop, hPhase, hWithin⟩ := hStopped
  rcases hOnward with hSame | ⟨_, _, hDraining, -⟩
  · exact ⟨stop, hSame.trans hPhase, hWithin⟩
  · rw [hPhase] at hDraining
    contradiction

theorem StoppedWithin.isTicking (hStopped : StoppedWithin first close s) :
    s.phase.isTicking = false := by
  obtain ⟨stop, hPhase, -⟩ := hStopped
  rw [hPhase]
  rfl

/-- Nothing is due in a schedule that has stopped, so it stays as it is. -/
theorem StoppedWithin.runUntil (hStopped : StoppedWithin first close s) (settings : Settings)
    (w : Workload W J) (limit : Nat) : StoppedWithin first close (s.runUntil settings w limit) :=
  hStopped.onward ((leads_momentsUntil settings w ([] : Script W) limit s).onward
    hStopped.isTicking)

theorem StoppedWithin.mono {close' : Nat} (hStopped : StoppedWithin first close s)
    (hClose : close ≤ close') : StoppedWithin first close' s := by
  obtain ⟨stop, hPhase, hFirst, hStop⟩ := hStopped
  exact ⟨stop, hPhase, hFirst, Nat.le_trans hStop hClose⟩

/-- A job ends before the drain, and perhaps with it the drain. -/
theorem Closing.wake {time : Nat} (hClosing : Closing first close s)
    (hTime : ∀ deadline, s.phase = .draining deadline → time ≤ fires deadline) (w : Workload W J) :
    Closing first close ((s.waitUntil time).wake w) ∨
      StoppedWithin first (min close (max s.now time)) ((s.waitUntil time).wake w) := by
  obtain ⟨deadline, hPhase, hFirst, hEarly, hClose⟩ := hClosing
  have hSoon := hTime deadline hPhase
  have hSame : ((s.waitUntil time).wake w).now = max s.now time := (State.requeued_wake w _).1
  rcases State.phase_wake_cases w (s.waitUntil time) with hGoes | hStopped
  · left
    refine ⟨deadline, hGoes.trans hPhase, ?_, ?_, hClose⟩
    · rw [hSame]
      omega
    · rw [hSame]
      omega
  · right
    refine ⟨_, hStopped, ?_, ?_⟩
    · show first ≤ max s.now time
      omega
    · show max s.now time ≤ _
      omega

/-- The drain time is up. -/
theorem Closing.drainEnd {deadline : Nat} (hClosing : Closing first close s)
    (hPhase : s.phase = .draining deadline) (settings : Settings) (w : Workload W J) :
    StoppedWithin first (min close (max s.now (fires deadline)))
      ((s.waitUntil (fires deadline)).handle settings w .drainEnd) := by
  obtain ⟨deadline', hPhase', hFirst, hEarly, hClose⟩ := hClosing
  obtain rfl : deadline = deadline' := Phase.draining.inj (hPhase.symm.trans hPhase')
  have hEnd : (s.waitUntil (fires deadline)).handle settings w .drainEnd =
      (s.waitUntil (fires deadline)).endDrain := by
    simp only [State.handle, State.waitUntil, hPhase]
  rw [hEnd]
  refine ⟨_, rfl, ?_, ?_⟩
  · show first ≤ max s.now (fires deadline)
    omega
  · show max s.now (fires deadline) ≤ _
    omega

/-- Until a limit a drain goes on or stops, and is not late. -/
theorem Closing.runUntil (hClosing : Closing first close s) (hNow : s.now ≤ limit)
    (settings : Settings) (w : Workload W J) :
    (Closing first close (s.runUntil settings w limit) ∧
        (s.runUntil settings w limit).now ≤ limit) ∨
      StoppedWithin first (min close limit) (s.runUntil settings w limit) := by
  fun_induction s.runUntil settings w limit with
  | case1 s hNone =>
    obtain ⟨deadline, hPhase, -⟩ := hClosing
    rw [State.due_of_draining hPhase] at hNone
    contradiction
  | case2 s time due hDue hLimit ih =>
    obtain ⟨deadline, hPhase, -⟩ := id hClosing
    rw [State.due_of_draining hPhase] at hDue
    have hReach : min close (max s.now time) ≤ min close limit := by omega
    -- either a job wakes by the end of the drain, or the drain ends
    rcases State.orWake_cases (Option.some.inj hDue) with
      ⟨rfl, l, rest, -, rfl, hWake⟩ | ⟨rfl, rfl, -⟩
    · have hTime : ∀ deadline', s.phase = .draining deadline' → l.wakes ≤ fires deadline' := by
        intro deadline' hPhase'
        obtain rfl := Phase.draining.inj (hPhase.symm.trans hPhase')
        exact hWake
      rcases hClosing.wake hTime w with hGoes | hStopped
      · refine ih hGoes ?_
        have hSame : ((s.waitUntil l.wakes).wake w).now = max s.now l.wakes :=
          (State.requeued_wake w _).1
        show ((s.waitUntil l.wakes).wake w).now ≤ limit
        omega
      · exact Or.inr ((hStopped.mono hReach).runUntil settings w limit)
    · have hStopped := hClosing.drainEnd hPhase settings w
      exact Or.inr ((hStopped.mono hReach).runUntil settings w limit)
  | case3 s time due hDue hLimit => exact Or.inl ⟨hClosing, hNow⟩

/-- The end of the drain is waited for. -/
theorem Closing.finish (hClosing : Closing first close s) (settings : Settings)
    (w : Workload W J) : StoppedWithin first close (s.finish settings w) := by
  obtain ⟨deadline, hPhase, -, hEarly, -⟩ := id hClosing
  have hFinish : s.finish settings w = s.runUntil settings w (fires deadline + 1) := by
    rw [State.finish, hPhase]
  rcases hClosing.runUntil (Nat.le_succ_of_le hEarly) settings w with ⟨⟨_, hDrains, -⟩, -⟩ | hStop
  · exact absurd (hFinish ▸ hDrains) (phase_finish_ne_draining settings w s _)
  · rw [hFinish]
    exact hStop.mono (Nat.min_le_left ..)

/-- The end of a run leaves a schedule alone that has stopped. -/
theorem StoppedWithin.finish (hStopped : StoppedWithin first close s) (settings : Settings)
    (w : Workload W J) : StoppedWithin first close (s.finish settings w) := by
  obtain ⟨stop, hPhase, -⟩ := id hStopped
  have hFinish : s.finish settings w = s := by rw [State.finish, hPhase]
  rwa [hFinish]

/-- An abort ends a drain at once. -/
theorem Closing.abort (hClosing : Closing first close s) (hNow : s.now ≤ limit)
    (hDue : ∀ time due, s.due? = some (time, due) → limit ≤ time)
    (hAbortable : settings.abortable = true) :
    StoppedWithin first (min close limit) ((s.waitUntil limit).abort settings) := by
  obtain ⟨deadline, hPhase, hFirst, hEarly, hClose⟩ := hClosing
  have hLimit : limit ≤ fires deadline :=
    Nat.le_trans (hDue _ _ (State.due_of_draining hPhase)) (State.orWake_le ..)
  have hStop : ((s.waitUntil limit).abort settings).phase = .stopped (max s.now limit) := by
    simp only [State.abort, hAbortable, if_true, State.waitUntil, State.dropLive,
      State.stopIfDrained, hPhase]
  refine ⟨_, hStop, ?_, ?_⟩ <;> omega

/-- A schedule that is over stays as it is, whatever happens outside. -/
theorem StoppedWithin.advance (hStopped : StoppedWithin first close s) (settings : Settings)
    (w : Workload W J) (entry : Nat × Step W) :
    StoppedWithin first close (s.advance settings w entry) := by
  have hUntil := hStopped.runUntil settings w entry.1
  exact hUntil.onward
    (State.onward_perform (s := s.met settings w entry.1) hUntil.isTicking settings entry.2)

/-- **An abort ends a drain that it still meets**; else the drain was over before. -/
theorem Closing.advance_abort (hClosing : Closing first close s) (hNow : s.now ≤ limit)
    (hAbortable : settings.abortable = true) (w : Workload W J) :
    StoppedWithin first (min close limit) (s.advance settings w (limit, .abort)) := by
  rcases hClosing.runUntil hNow settings w with ⟨hDrains, hReach⟩ | hStopped
  · exact hDrains.abort hReach (State.le_due_runUntil settings w limit s) hAbortable
  · exact hStopped.onward (State.onward_perform (s := s.met settings w limit) hStopped.isTicking
      settings .abort)

/-- The shutdown of a schedule that ticks begins its drain, or ends it at once. -/
theorem closing_of_shutdown {deadline : Nat} (hPhase : s.phase = .ticking deadline)
    (settings : Settings) :
    Closing s.now (fires (s.now + settings.drain)) (s.shutdown settings) ∨
      StoppedWithin s.now s.now (s.shutdown settings) := by
  have hShutdown : s.shutdown settings = State.stopIfDrained
      { s with phase := .draining (timerDeadline s.now (s.now + settings.drain)) } := by
    rw [State.shutdown, hPhase]
  have hLater : s.now ≤ timerDeadline s.now (s.now + settings.drain) :=
    Nat.le_min.mpr ⟨Nat.le_add_right .., Nat.le_add_right ..⟩
  rw [hShutdown]
  rcases State.phase_stopIfDrained
    { s with phase := .draining (timerDeadline s.now (s.now + settings.drain)) } with
    hDrains | hStopped
  · left
    refine ⟨_, hDrains, ?_, ?_, fires_mono (timerDeadline_le ..)⟩
    · rw [State.now_stopIfDrained]
    · rw [State.now_stopIfDrained]
      exact Nat.le_trans hLater (le_fires _)
  · exact Or.inr ⟨_, hStopped, Nat.le_refl _, Nat.le_refl _⟩

end DueDispatch.Schedule
