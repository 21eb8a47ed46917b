import DueDispatch.Proofs.Schedule.Timers

/-!
# DueDispatch — ticks on the grid

A tick that is handled in time, or not later than the tolerance, is followed by one a
period after its deadline. After a later one the schedule goes on with the first multiple
of the period, counted from that deadline, that lies in the future. So the deadlines of a
run are multiples of the period, whatever its jobs and the clock do, and there are never
more of them than periods have passed.

This is what is said of an interval as long as its timers reach. `Tick.Regular` says it of
one tick; what follows for a run is proved from that, and `regular_watched` gives the
settings for which it holds.

## Results

* `regular_watched` — an interval of at most thirty years goes on as it is said to.
* `Leads.follows` — the deadlines of a run follow one another on the grid.
* `Leads.count_ticks` — each of them starts a job or is left out.
* `Follows.count_le` — there are not more ticks than periods have passed.
-/

namespace DueDispatch.Schedule

open Duration (nanosPerMilli nanosPerSec)

-- ---------------------------------------------------------------------------
-- One tick
-- ---------------------------------------------------------------------------

/-- A tick that was handled. -/
structure Tick where
  deadline : Nat
  /-- The time at which it was handled. -/
  handled : Nat
deriving DecidableEq

/-- The deadline that the interval goes on with after a tick. -/
def Tick.next (period : Nat) (t : Tick) : Nat := nextDeadline .skip period t.deadline t.handled

/-- The deadline that follows a tick on the grid: the next one, or the first one in the
future if the tick was missed. -/
def Tick.onward (period : Nat) (t : Tick) : Nat :=
  if t.handled ≤ t.deadline + tolerance then t.deadline + period
  else t.deadline + ((t.handled - t.deadline) / period + 1) * period

/-- The interval goes on after a tick on the grid. -/
def Tick.Regular (period : Nat) (t : Tick) : Prop := t.next period = t.onward period

instance (period : Nat) : DecidablePred (Tick.Regular period) := fun _ =>
  inferInstanceAs (Decidable (_ = _))

namespace Tick

variable {period : Nat} {t : Tick}

/-- The first multiple of the period in the future, counted from the deadline. -/
theorem onward_of_missed (hPeriod : 0 < period) (hMissed : t.deadline + tolerance < t.handled) :
    t.onward period = t.handled + (period - (t.handled - t.deadline) % period) := by
  have hMod := Nat.mod_lt (t.handled - t.deadline) hPeriod
  have hDiv := Nat.div_add_mod (t.handled - t.deadline) period
  rw [onward, if_neg (Nat.not_le.mpr hMissed), Nat.add_mul, Nat.mul_comm _ period, Nat.one_mul]
  omega

/-- An interval of at most thirty years goes on as it is said to. -/
theorem regular_of_reach (hLongest : period ≤ longestWait) (hPeriod : 0 < period)
    (hNow : t.deadline ≤ t.handled) : t.Regular period := by
  have hMod := Nat.mod_lt (t.handled - t.deadline) hPeriod
  rw [Regular, next, nextDeadline]
  by_cases hMissed : t.handled ≤ t.deadline + tolerance
  · rw [if_pos hMissed, onward, if_pos hMissed]
    exact timerDeadline_eq (by omega)
  · rw [if_neg hMissed, onward_of_missed hPeriod (Nat.lt_of_not_le hMissed)]
    exact timerDeadline_eq (by omega)

/-- The deadline after a tick is a period later at least. -/
theorem add_le_onward (period : Nat) (t : Tick) : t.deadline + period ≤ t.onward period := by
  unfold onward
  split
  · exact Nat.le_refl _
  · exact Nat.add_le_add_left (Nat.le_mul_of_pos_left _ (Nat.succ_pos _)) _

/-- From a deadline on the grid the next one is on the grid too. -/
theorem dvd_onward (hGrid : period ∣ t.deadline) : period ∣ t.onward period := by
  unfold onward
  split
  · exact Nat.dvd_add hGrid (Nat.dvd_refl _)
  · exact Nat.dvd_add hGrid (Nat.dvd_mul_left _ _)

end Tick

-- ---------------------------------------------------------------------------
-- The ticks of a run
-- ---------------------------------------------------------------------------

variable {W J : Type} {settings : Settings} {w : Workload W J}

/-- The tick that is handled at a moment, if one is. -/
def Moment.tick? (m : Moment W J) : Option Tick :=
  match m.cause, m.state.phase with
  | .due .tick, .ticking deadline => some ⟨deadline, m.state.now⟩
  | _, _ => none

/-- The ticks among moments, in order. -/
def ticks (ms : List (Moment W J)) : List Tick := ms.filterMap Moment.tick?

/-- Everything that happens to a schedule under a script, and then by itself until `limit`.
A schedule that was shut down does not go on. -/
def State.future (settings : Settings) (w : Workload W J) (script : Script W) (limit : Nat)
    (s : State W J) : List (Moment W J) :=
  s.moments settings w script ++
    ((script.foldl (State.advance settings w) s).finish settings w).momentsUntil settings w limit

/-- The moments that are watched lead from the beginning of a script to where the watching
ends. -/
theorem leads_future (settings : Settings) (w : Workload W J) (script : Script W) (limit : Nat)
    (s : State W J) :
    Leads settings w script s (s.future settings w script limit)
      (((script.foldl (State.advance settings w) s).finish settings w).runUntil settings w
        limit) :=
  (leads_moments settings w (List.Subset.refl script) s).append
    (leads_momentsUntil settings w script limit _)

/-- Everything that happens in a run that is watched until `limit` after its script. -/
def watched (settings : Settings) (w : Workload W J) (script : Script W) (world : W)
    (limit : Nat) : List (Moment W J) :=
  State.future settings w script limit { world }

@[simp] theorem ticks_nil : ticks ([] : List (Moment W J)) = [] := rfl

@[simp] theorem ticks_append (ms ms' : List (Moment W J)) :
    ticks (ms ++ ms') = ticks ms ++ ticks ms' := List.filterMap_append

theorem ticks_cons_of_tick {m : Moment W J} {t : Tick} (hTick : m.tick? = some t)
    (ms : List (Moment W J)) : ticks (m :: ms) = t :: ticks ms :=
  List.filterMap_cons_some hTick

theorem ticks_cons_of_none {m : Moment W J} (hNone : m.tick? = none) (ms : List (Moment W J)) :
    ticks (m :: ms) = ticks ms :=
  List.filterMap_cons_none hNone

theorem tick?_of_not_ticking {m : Moment W J} (hPhase : m.state.phase.isTicking = false) :
    m.tick? = none := by
  unfold Moment.tick?
  split
  · rename_i hTicking
    rw [hTicking] at hPhase
    contradiction
  · rfl

theorem tick?_of_ne {m : Moment W J} (hCause : m.cause ≠ .due .tick) : m.tick? = none := by
  unfold Moment.tick?
  split
  · contradiction
  · rfl

/-- After the ticks there are no more of them. -/
theorem Leads.no_ticks {script : Script W} {s s' : State W J} {ms : List (Moment W J)}
    (hLeads : Leads settings w script s ms s') (hPhase : s.phase.isTicking = false) :
    ticks ms = [] := by
  have hAll := (hLeads.induction (P := fun u => u.phase.isTicking = false) hPhase
    (fun u time due hu _ =>
      ⟨hu, (State.onward_handle (s := u.waitUntil time) hu settings w due).isTicking_eq hu⟩)
    (fun u hu entry _ =>
      ⟨hu, (State.onward_perform (s := u.waitUntil entry.1) hu settings entry.2).isTicking_eq
        hu⟩)).1
  exact List.filterMap_eq_nil_iff.mpr fun m hm => tick?_of_not_ticking (hAll m hm).1

namespace State

variable {s : State W J} {deadline : Nat}

theorem phase_wake (hPhase : s.phase = .ticking deadline) (w : Workload W J) :
    (s.wake w).phase = .ticking deadline := by
  rcases onward_wake w s with hSame | ⟨_, _, hDraining, -⟩
  · rw [hSame, hPhase]
  · rw [hPhase] at hDraining
    contradiction

/-- Only a shutdown ends the ticks. -/
theorem phase_perform (hPhase : s.phase = .ticking deadline) (settings : Settings)
    {step : Step W} (hStep : step ≠ .shutdown) :
    (s.perform settings step).phase = .ticking deadline := by
  cases step with
  | shutdown => contradiction
  | abort =>
    rcases onward_abort settings s with hSame | ⟨_, _, hDraining, -⟩
    · exact hSame.trans hPhase
    · rw [hPhase] at hDraining
      contradiction
  | jump span => exact hPhase
  | edit change => exact hPhase

/-- What is due while a schedule ticks: a job that wakes, or the tick. -/
theorem due_ticking (hPhase : s.phase = .ticking deadline) {time : Nat} {due : Due}
    (hDue : s.due? = some (time, due)) :
    time ≤ fires deadline ∧ (due = .wake ∨ due = .tick ∧ time = fires deadline) := by
  rw [due_of_ticking hPhase] at hDue
  rcases orWake_cases (Option.some.inj hDue) with ⟨rfl, l, rest, -, rfl, hWake⟩ | ⟨rfl, rfl, -⟩
  · exact ⟨hWake, Or.inl rfl⟩
  · exact ⟨Nat.le_refl _, Or.inr ⟨rfl, rfl⟩⟩

/-- The tick that is due is handled when it is waited for. -/
theorem tick?_waitUntil (hPhase : s.phase = .ticking deadline) (time : Nat) :
    Moment.tick? ⟨s.waitUntil time, .due .tick⟩ = some ⟨deadline, (s.waitUntil time).now⟩ := by
  simp only [Moment.tick?, waitUntil, hPhase]

theorem handle_ticking (hPhase : s.phase = .ticking deadline) (settings : Settings)
    (w : Workload W J) : s.handle settings w .tick = s.tick settings w deadline := by
  simp only [handle, hPhase]

/-- The phase after a tick. -/
theorem phase_handle_tick (hPhase : s.phase = .ticking deadline) (settings : Settings)
    (w : Workload W J) :
    (s.handle settings w .tick).phase = phaseAfter settings deadline s.now := by
  rw [handle_ticking hPhase]
  exact phase_tick settings w deadline s

theorem le_now_waitUntil (s : State W J) (deadline : Nat) :
    deadline ≤ (s.waitUntil (fires deadline)).now :=
  Nat.le_trans (le_fires deadline) (Nat.le_max_right ..)

/-- From a tick on the grid the schedule waits for the next one there. -/
theorem phaseAfter_of_regular {now : Nat}
    (hRegular : Tick.Regular settings.period ⟨deadline, now⟩) :
    phaseAfter settings deadline now = .ticking (Tick.onward settings.period ⟨deadline, now⟩) :=
  congrArg Phase.ticking hRegular

end State

-- ---------------------------------------------------------------------------
-- Ticks that follow one another
-- ---------------------------------------------------------------------------

/-- These ticks follow one another on the grid from this deadline, none handled before its
deadline. -/
def Follows (period : Nat) : (deadline : Nat) → List Tick → Prop
  | _, [] => True
  | deadline, t :: rest =>
    t.deadline = deadline ∧ deadline ≤ t.handled ∧ Follows period (t.onward period) rest

/-- **The ticks of a run follow one another on the grid.** -/
theorem Leads.follows {script : Script W} {s s' : State W J} {ms : List (Moment W J)}
    (hLeads : Leads settings w script s ms s')
    (hInterval : ∀ t ∈ ticks ms, t.Regular settings.period) {deadline : Nat}
    (hPhase : s.phase = .ticking deadline) : Follows settings.period deadline (ticks ms) := by
  induction hLeads generalizing deadline with
  | nil s => trivial
  | @due s s' time due rest hDue _ ih =>
    obtain ⟨-, rfl | ⟨rfl, rfl⟩⟩ := State.due_ticking hPhase hDue
    -- a job that wakes leaves the deadline as it is
    · rw [ticks_cons_of_none (tick?_of_ne (by simp))] at hInterval ⊢
      exact ih hInterval (State.phase_wake (s := s.waitUntil time) hPhase w)
    · rw [ticks_cons_of_tick (State.tick?_waitUntil hPhase _)] at hInterval ⊢
      obtain ⟨hFirst, hRest⟩ := List.forall_mem_cons.mp hInterval
      have hNext := (State.phase_handle_tick (s := s.waitUntil (fires deadline)) hPhase settings
        w).trans (State.phaseAfter_of_regular hFirst)
      exact ⟨rfl, State.le_now_waitUntil s deadline, ih hRest hNext⟩
  | @outside s s' entry rest hEntry hRest ih =>
    rw [ticks_cons_of_none (tick?_of_ne (by simp))] at hInterval ⊢
    by_cases hStep : entry.2 = .shutdown
    · have hOver : ((s.waitUntil entry.1).perform settings entry.2).phase.isTicking = false := by
        rw [hStep]
        exact State.isTicking_shutdown settings _
      rw [hRest.no_ticks hOver]
      trivial
    · exact ih hInterval (State.phase_perform (s := s.waitUntil entry.1) hPhase settings hStep)

/-- No tick is handled before its deadline. -/
theorem Leads.deadline_le {script : Script W} {s s' : State W J} {ms : List (Moment W J)}
    (hLeads : Leads settings w script s ms s') : ∀ t ∈ ticks ms, t.deadline ≤ t.handled := by
  induction hLeads with
  | nil s => simp
  | @due s s' time due rest hDue _ ih =>
    by_cases hTick : due = .tick
    · subst hTick
      obtain ⟨deadline, hPhase⟩ := State.ticking_of_due hDue
      obtain ⟨-, hWake | ⟨-, rfl⟩⟩ := State.due_ticking hPhase hDue
      · contradiction
      · rw [ticks_cons_of_tick (State.tick?_waitUntil hPhase _)]
        exact List.forall_mem_cons.mpr ⟨State.le_now_waitUntil s deadline, ih⟩
    · rw [ticks_cons_of_none (tick?_of_ne (by simpa using hTick))]
      exact ih
  | outside hEntry _ ih =>
    rw [ticks_cons_of_none (tick?_of_ne (by simp))]
    exact ih

/-- **An interval of at most thirty years goes on as it is said to** from each tick of a
run. -/
theorem regular_watched (hLongest : settings.period ≤ longestWait) (script : Script W)
    (world : W) (limit : Nat) :
    ∀ t ∈ ticks (watched settings w script world limit), t.Regular settings.period := by
  intro t ht
  have hNow := (leads_future settings w script limit { world }).deadline_le t ht
  exact Tick.regular_of_reach hLongest settings.period_pos hNow

/-- **Each tick starts a job or is left out.** -/
theorem Leads.count_ticks {script : Script W} {s s' : State W J} {ms : List (Moment W J)}
    (hLeads : Leads settings w script s ms s') :
    s'.fired + s'.skipped = s.fired + s.skipped + (ticks ms).length := by
  induction hLeads with
  | nil s => rfl
  | @due s s' time due rest hDue hRest ih =>
    by_cases hTick : due = .tick
    · subst hTick
      obtain ⟨deadline, hPhase⟩ := State.ticking_of_due hDue
      rw [ticks_cons_of_tick (State.tick?_waitUntil hPhase _)]
      have hHandle := State.handle_ticking (s := s.waitUntil time) hPhase settings w
      have hCounted := State.counted_tick settings w deadline (s.waitUntil time)
      rw [hHandle] at ih
      have hFired : (s.waitUntil time).fired = s.fired := rfl
      have hSkipped : (s.waitUntil time).skipped = s.skipped := rfl
      rw [List.length_cons]
      -- a tick counts one job or one skip, whichever it is
      split at hCounted
      · have hJob : ([(s.waitUntil time).fired] : List Nat).length = 1 := rfl
        rw [ih, hCounted.fired, hCounted.skipped, hJob]
        omega
      · have hNone : ([] : List Nat).length = 0 := rfl
        rw [ih, hCounted.fired, hCounted.skipped, hNone]
        omega
    · rw [ticks_cons_of_none (tick?_of_ne (by simpa using hTick))]
      have hCounted := State.counted_handle settings w due hTick (s.waitUntil time)
      rw [ih, hCounted.fired, hCounted.skipped]
      rfl
  | @outside s s' entry rest hEntry hRest ih =>
    rw [ticks_cons_of_none (tick?_of_ne (by simp))]
    have hCounted := State.counted_perform settings (s.waitUntil entry.1) entry.2
    rw [ih, hCounted.fired, hCounted.skipped]
    rfl

namespace Follows

variable {period deadline : Nat} {ts : List Tick}

/-- No tick of those that follow has an earlier deadline. -/
theorem deadline_le (hTicks : Follows period deadline ts) : ∀ t ∈ ts, deadline ≤ t.deadline := by
  induction ts generalizing deadline with
  | nil => simp
  | cons t rest ih =>
    obtain ⟨rfl, -, hRest⟩ := hTicks
    have hNext := Tick.add_le_onward period t
    refine List.forall_mem_cons.mpr ⟨Nat.le_refl _, fun u hu => ?_⟩
    have := ih hRest u hu
    omega

/-- Each of them has a later deadline than those before it. -/
theorem pairwise (hPeriod : 0 < period) (hTicks : Follows period deadline ts) :
    (ts.map Tick.deadline).Pairwise (· < ·) := by
  induction ts generalizing deadline with
  | nil => exact List.Pairwise.nil
  | cons t rest ih =>
    obtain ⟨rfl, -, hRest⟩ := hTicks
    have hNext := Tick.add_le_onward period t
    refine List.pairwise_cons.mpr ⟨?_, ih hRest⟩
    intro later hLater
    obtain ⟨u, hu, rfl⟩ := List.mem_map.mp hLater
    have := hRest.deadline_le u hu
    omega

/-- If the first deadline is on the grid then all of them are, and no tick is early. -/
theorem dvd (hTicks : Follows period deadline ts) (hGrid : period ∣ deadline) :
    ∀ t ∈ ts, period ∣ t.deadline ∧ t.deadline ≤ t.handled := by
  induction ts generalizing deadline with
  | nil => simp
  | cons t rest ih =>
    obtain ⟨rfl, hLate, hRest⟩ := hTicks
    exact List.forall_mem_cons.mpr ⟨⟨hGrid, hLate⟩, ih hRest (Tick.dvd_onward hGrid)⟩

/-- The last tick handled by a time has a deadline by then, and each one before it an
earlier one. -/
theorem count_mul_le (hTicks : Follows period deadline ts) (time : Nat) :
    ts.countP (·.handled ≤ time) = 0 ∨
      deadline + ts.countP (·.handled ≤ time) * period ≤ time + period := by
  induction ts generalizing deadline with
  | nil => exact Or.inl rfl
  | cons t rest ih =>
    obtain ⟨rfl, hLate, hRest⟩ := hTicks
    have hNext := Tick.add_le_onward period t
    have hLater := ih hRest
    by_cases hIn : t.handled ≤ time
    · right
      rw [List.countP_cons_of_pos (by simpa using hIn), Nat.add_mul]
      rcases hLater with hNone | hLater
      · rw [hNone]
        omega
      · omega
    · rw [List.countP_cons_of_neg (by simpa using hIn)]
      exact hLater.imp_right fun hLe => by omega

/-- **By any time there have not been more ticks than periods, and one.** -/
theorem count_le (hPeriod : 0 < period) (hTicks : Follows period deadline ts) (time : Nat) :
    ts.countP (·.handled ≤ time) ≤ time / period + 1 := by
  rcases hTicks.count_mul_le time with hNone | hLe
  · rw [hNone]
    exact Nat.zero_le _
  · rw [← Nat.add_div_right time hPeriod]
    exact (Nat.le_div_iff_mul_le hPeriod).mpr (by omega)

end Follows

end DueDispatch.Schedule
