import DueDispatch.Proofs.Schedule.Timers
import DueDispatch.Schedule.CountReports

/-!
# DueDispatch — the end of the count reports

A shutdown is noticed between two counts. If none is under way the reporter is over at
once; otherwise it is over with that count, however long it takes, and an abort does not
cut it short.

## Results

* `le_due_runUntil` — after everything before a limit nothing is due before it.
* `ends_of_shutdown` — when count reports are over that are shut down.
-/

namespace DueDispatch.Schedule

theorem le_wakeTime (now span : Nat) : now ≤ wakeTime now span := by
  refine Nat.le_trans ?_ (le_fires _)
  exact Nat.le_min.mpr ⟨Nat.le_add_right .., Nat.le_add_right ..⟩

namespace CountReports

variable {W : Type} {c : Counter W} {period : Nat} {hPeriod : 0 < period}

namespace State

variable {s : State W} {time limit : Nat}

/-- After everything before a limit nothing is due before it. -/
theorem le_due_runUntil (c : Counter W) (hPeriod : 0 < period) (limit : Nat) (s : State W) :
    ∀ time, (s.runUntil c period hPeriod limit).due? = some time → limit ≤ time := by
  fun_induction s.runUntil c period hPeriod limit with
  | case1 s hNone =>
    intro time hDue
    rw [hNone] at hDue
    contradiction
  | case2 s time hDue hLimit ih => exact ih
  | case3 s time hDue hLimit =>
    intro time' hDue'
    obtain rfl : time = time' := Option.some.inj (hDue.symm.trans hDue')
    omega

theorem now_handle (c : Counter W) (period : Nat) (s : State W) :
    (s.handle c period).now = s.now := by
  unfold handle
  split
  · rfl
  · rfl
  · rfl

/-- The clock does not pass a limit before which everything is handled. -/
theorem now_runUntil_le (c : Counter W) (hPeriod : 0 < period) (hNow : s.now ≤ limit) :
    (s.runUntil c period hPeriod limit).now ≤ limit := by
  fun_induction s.runUntil c period hPeriod limit with
  | case1 s hNone => exact hNow
  | case2 s time hDue hLimit ih =>
    refine ih ?_
    rw [now_handle]
    show max s.now time ≤ limit
    omega
  | case3 s time hDue hLimit => exact hNow

-- ---------------------------------------------------------------------------
-- Before the shutdown
-- ---------------------------------------------------------------------------

/-- A reporter that was not shut down. A count under way was begun before and takes its
latency. -/
structure Open (c : Counter W) (s : State W) : Prop where
  going : s.shuttingDown = false
  notStopped : ∀ time, s.phase ≠ .stopped time
  count : ∀ ends next, s.phase = .counting ends next →
    s.now ≤ ends ∧ ∃ number start, start ≤ s.now ∧ ends = wakeTime start (c.latency number)

/-- At the beginning no count is under way. -/
theorem open_initial (c : Counter W) (world : W) : Open c ({ world } : State W) :=
  ⟨rfl, by simp, by simp⟩

/-- Nobody waits past what is due. -/
theorem Open.waitUntil (hOpen : s.Open c) (hTime : ∀ due, s.due? = some due → time ≤ due) :
    (s.waitUntil time).Open c where
  going := hOpen.going
  notStopped := hOpen.notStopped
  count ends next hPhase := by
    have hCounting : s.phase = .counting ends next := hPhase
    obtain ⟨hNow, number, start, hStart, hEnds⟩ := hOpen.count ends next hCounting
    have hLimit := hTime ends (by rw [due?, hCounting])
    refine ⟨?_, number, start, ?_, hEnds⟩
    · show max s.now time ≤ ends
      omega
    · show start ≤ max s.now time
      omega

theorem Open.tick (hOpen : s.Open c) (period deadline : Nat) :
    (s.tick c period deadline).Open c := by
  refine ⟨hOpen.going, by simp [State.tick], ?_⟩
  intro ends next hPhase
  obtain ⟨rfl, -⟩ : wakeTime s.now (c.latency s.counts) = ends ∧ _ = next := by
    simpa [State.tick] using hPhase
  exact ⟨le_wakeTime .., s.counts, s.now, Nat.le_refl _, rfl⟩

theorem Open.endCount (hOpen : s.Open c) (next : Nat) : (s.endCount c next).Open c := by
  have hPhase : (s.endCount c next).phase = .waiting next := by
    simp only [State.endCount, hOpen.going, Bool.false_eq_true, if_false]
  exact ⟨hOpen.going, by simp [hPhase], by simp [hPhase]⟩

theorem Open.handle (hOpen : s.Open c) (period : Nat) : (s.handle c period).Open c := by
  unfold State.handle
  split
  · exact hOpen.tick period _
  · exact hOpen.endCount _
  · exact hOpen

/-- A reporter that was not shut down stays open until any limit. -/
theorem Open.runUntil (hOpen : s.Open c) (hPeriod : 0 < period) (limit : Nat) :
    (s.runUntil c period hPeriod limit).Open c := by
  fun_induction s.runUntil c period hPeriod limit with
  | case1 s hNone => exact hOpen
  | case2 s time hDue hLimit ih =>
    have hWait : (s.waitUntil time).Open c :=
      hOpen.waitUntil fun due hSome => Nat.le_of_eq (Option.some.inj (hDue.symm.trans hSome))
    exact ih (hWait.handle period)
  | case3 s time hDue hLimit => exact hOpen

-- ---------------------------------------------------------------------------
-- After the shutdown
-- ---------------------------------------------------------------------------

/-- A reporter that is over in this phase, or will be with the count under way. -/
def BoundFor (p : Phase) (s : State W) : Prop :=
  (s.phase = p ∧ s.due? = none) ∨
    ∃ ends next, p = .stopped ends ∧ s.phase = .counting ends next ∧ s.shuttingDown = true ∧
      s.now ≤ ends

variable {p : Phase}

/-- The last count ends when it is said to. -/
theorem phase_endCount {ends next : Nat} (hPhase : s.phase = .counting ends next)
    (hShutdown : s.shuttingDown = true) (hNow : s.now ≤ ends) (c : Counter W) (period : Nat) :
    ((s.waitUntil ends).handle c period).phase = .stopped ends := by
  simp only [handle, waitUntil, hPhase, endCount, hShutdown, if_true]
  exact congrArg Phase.stopped (Nat.max_eq_right hNow)

theorem BoundFor.waitUntil (hBound : BoundFor p s) (hTime : ∀ due, s.due? = some due → time ≤ due) :
    BoundFor p (s.waitUntil time) := by
  rcases hBound with hOver | ⟨ends, next, hEnd, hPhase, hShutdown, hNow⟩
  · exact Or.inl hOver
  · refine Or.inr ⟨ends, next, hEnd, hPhase, hShutdown, ?_⟩
    have hLimit := hTime ends (by rw [due?, hPhase])
    show max s.now time ≤ ends
    omega

theorem BoundFor.runUntil (hBound : BoundFor p s) (c : Counter W) (hPeriod : 0 < period)
    (limit : Nat) : BoundFor p (s.runUntil c period hPeriod limit) := by
  fun_induction s.runUntil c period hPeriod limit with
  | case1 s hNone => exact hBound
  | case2 s time hDue hLimit ih =>
    refine ih ?_
    rcases hBound with ⟨-, hNone⟩ | ⟨ends, next, hEnd, hPhase, hShutdown, hNow⟩
    · rw [hDue] at hNone
      contradiction
    · obtain rfl : ends = time := by simpa [due?, hPhase] using hDue
      have hStopped := phase_endCount hPhase hShutdown hNow c period
      exact Or.inl ⟨hStopped.trans hEnd.symm, by rw [due?, hStopped]⟩
  | case3 s time hDue hLimit => exact hBound

/-- An abort changes nothing. -/
theorem BoundFor.advance (hBound : BoundFor p s) (c : Counter W) (hPeriod : 0 < period)
    (time : Nat) : BoundFor p (s.advance c period hPeriod (time, .abort)) :=
  (hBound.runUntil c hPeriod time).waitUntil (le_due_runUntil c hPeriod time s)

/-- Aborts do not change how a reporter ends. -/
theorem BoundFor.foldl {rest : Script W} (hRest : ∀ entry ∈ rest, entry.2 = .abort)
    (hBound : BoundFor p s) (c : Counter W) (hPeriod : 0 < period) :
    BoundFor p (rest.foldl (State.advance c period hPeriod) s) := by
  induction rest generalizing s with
  | nil => exact hBound
  | cons entry rest ih =>
    obtain ⟨time, step⟩ := entry
    obtain ⟨rfl, hLater⟩ := List.forall_mem_cons.mp hRest
    exact ih hLater (hBound.advance c hPeriod time)

/-- At the end the reporter is in the phase that it was bound for. -/
theorem BoundFor.finish (hBound : BoundFor p s) (c : Counter W) (period : Nat) :
    (s.finish c period).phase = p := by
  rcases hBound with ⟨hPhase, hNone⟩ | ⟨ends, next, rfl, hPhase, hShutdown, hNow⟩
  · unfold State.finish
    split
    · rename_i ends next hCounting
      simp [due?, hCounting] at hNone
    · exact hPhase
  · rw [State.finish, hPhase]
    exact phase_endCount hPhase hShutdown hNow c period

end State

/-- How count reports end in the second state that are shut down at `time` in the first
one: at once if no count is under way, and else with that count. -/
def Ends (c : Counter W) (time : Nat) (s r : State W) : Prop :=
  match s.phase with
  | .waiting _ => r.phase = .stopped time
  | .counting ends _ =>
    r.phase = .stopped ends ∧ time ≤ ends ∧
      ∃ number start, start ≤ time ∧ ends = wakeTime start (c.latency number)
  | .stopped _ => False

/-- Whether count reports are over by a time. -/
def State.OverBy (limit : Nat) (s : State W) : Prop :=
  ∃ stop, s.phase = .stopped stop ∧ stop ≤ limit

/-- Whether they are over in time is decided by the count under way. -/
theorem Ends.overBy_iff {s r : State W} {time limit : Nat} (hEnds : Ends c time s r)
    (hTime : time ≤ limit) :
    r.OverBy limit ↔ ∀ ends next, s.phase = .counting ends next → ends ≤ limit := by
  unfold Ends at hEnds
  cases hPhase : s.phase with
  | waiting deadline =>
    rw [hPhase] at hEnds
    exact iff_of_true ⟨time, hEnds, hTime⟩ (by simp)
  | counting ends next =>
    rw [hPhase] at hEnds
    have hStopped : r.phase = .stopped ends := hEnds.1
    simp only [State.OverBy, hStopped, Phase.stopped.injEq, Phase.counting.injEq]
    constructor
    · rintro ⟨_, rfl, hLimit⟩ _ _ ⟨rfl, -⟩
      exact hLimit
    · intro hAll
      exact ⟨ends, rfl, hAll ends next ⟨rfl, rfl⟩⟩
  | stopped stop => simp [hPhase] at hEnds

/-- **When count reports are over that are shut down.** Aborts have no effect. -/
theorem ends_of_shutdown (c : Counter W) (hPeriod : 0 < period) (time : Nat) {rest : Script W}
    (hRest : ∀ entry ∈ rest, entry.2 = .abort) (world : W) :
    Ends c time (({ world } : State W).runUntil c period hPeriod time)
      ((((time, .shutdown) :: rest).foldl (State.advance c period hPeriod) { world }).finish c
        period) := by
  have hOpen := (State.open_initial c world).runUntil hPeriod time
  have hDue := State.le_due_runUntil c hPeriod time { world }
  have hNow := State.now_runUntil_le c hPeriod (s := { world }) (Nat.zero_le time)
  rw [List.foldl_cons]
  unfold State.advance
  generalize State.runUntil c period hPeriod time { world } = s at hOpen hDue hNow
  have hMet := hOpen.waitUntil hDue
  have hTime : (s.waitUntil time).now = time := Nat.max_eq_right hNow
  -- what is left of the script does not change how the reporter ends
  have hEnd {p : Phase} (hBound : State.BoundFor p (s.waitUntil time).shutdown) :
      ((rest.foldl (State.advance c period hPeriod) (s.waitUntil time).shutdown).finish c
        period).phase = p :=
    (hBound.foldl hRest c hPeriod).finish c period
  unfold Ends
  cases hPhase : s.phase with
  | waiting deadline =>
    have hShut : (s.waitUntil time).shutdown.phase = .stopped time := by
      simp only [State.shutdown, State.waitUntil, hPhase]
      exact congrArg Phase.stopped hTime
    exact hEnd (Or.inl ⟨hShut, by rw [State.due?, hShut]⟩)
  | counting ends next =>
    obtain ⟨hEnds, number, start, hStart, hSame⟩ := hMet.count ends next hPhase
    rw [hTime] at hEnds hStart
    refine ⟨hEnd (Or.inr ⟨ends, next, rfl, ?_, ?_, ?_⟩), hEnds, number, start, hStart, hSame⟩
    · simp only [State.shutdown, State.waitUntil, hPhase]
    · simp only [State.shutdown, State.waitUntil, hPhase]
    · have hShut : (s.waitUntil time).shutdown.now = time := by
        simp only [State.shutdown, State.waitUntil, hPhase]
        exact hTime
      rw [hShut]
      exact hEnds
  | stopped stop => exact absurd hPhase (hOpen.notStopped stop)

end CountReports

end DueDispatch.Schedule
