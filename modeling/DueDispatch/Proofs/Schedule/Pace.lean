import DueDispatch.Proofs.Schedule.Grid

/-!
# DueDispatch — ticks that jobs cannot hold up

While a schedule ticks it only ever waits for the next tick: a job that wakes before it
moves the clock no further than the tick does anyway, and nothing else that jobs, slots or
an abort do concerns the ticks at all. So the ticks are those of a schedule without jobs,
`pace`, which is a function of the period and of the jumps and shutdowns of the script
alone.

The clock of a run is known exactly at the outside steps that count for the ticks, and
between them up to the deadline that is waited for (`Paced`). That is all that is needed,
since a tick is handled at its deadline or where the clock already was.

## Results

* `ticks_watched` — the ticks of a run are those of a schedule without jobs.
* `paceThen_stride` — where the clock does not jump, each tick is handled at its deadline.
* `grid_of_run` — the ticks of a run stay on the grid and do not depend on the jobs.
-/

namespace DueDispatch.Schedule

open Duration (nanosPerMilli nanosPerSec)

-- ---------------------------------------------------------------------------
-- A schedule without jobs
-- ---------------------------------------------------------------------------

/-- The tick of this deadline while the clock stands at `floor`: it is handled at the
deadline, or at once if that has passed. -/
def tickAt (floor deadline : Nat) : Tick := ⟨deadline, max floor (fires deadline)⟩

/-- The deadlines of these ticks move forward. -/
theorem lt_next_tickAt {period : Nat} (hPeriod : 0 < period) (floor deadline : Nat) :
    deadline < (tickAt floor deadline).next period :=
  lt_nextDeadline .skip hPeriod (Nat.le_trans (le_fires deadline) (Nat.le_max_right ..))

/-- A tick that is handled at its deadline. -/
abbrev onTime (time : Nat) : Tick := ⟨time, time⟩

/-- The time from tick to tick where no tick is late: a period, as far as a timer reaches. -/
def stride (period : Nat) : Nat := min period longestWait

/-- The ticks before `limit` while nothing else moves the clock from `floor`, and then what
comes of the deadline that is waited for. -/
def paceThen (period : Nat) (hPeriod : 0 < period) (limit floor deadline : Nat)
    (later : Nat → List Tick) : List Tick :=
  if _hLimit : fires deadline < limit then
    tickAt floor deadline ::
      paceThen period hPeriod limit floor ((tickAt floor deadline).next period) later
  else later deadline
termination_by limit - deadline
decreasing_by
  have hLate := le_fires deadline
  have hOn := lt_next_tickAt hPeriod floor deadline
  omega

/-- The steps of a script that concern the ticks: the jumps with their spans, and the
shutdowns. -/
def turns {W : Type} (script : Script W) : List (Nat × Option Nat) :=
  script.filterMap fun entry =>
    match entry.2 with
    | .shutdown => some (entry.1, none)
    | .jump span => some (entry.1, some span)
    | _ => none

/-- The ticks of a schedule without jobs, until `limit` after the last of these steps. -/
def pace (period : Nat) (hPeriod : 0 < period) (limit : Nat) :
    List (Nat × Option Nat) → (floor deadline : Nat) → List Tick
  | [], floor, deadline => paceThen period hPeriod limit floor deadline fun _ => []
  | (time, none) :: _, floor, deadline => paceThen period hPeriod time floor deadline fun _ => []
  | (time, some span) :: rest, floor, deadline =>
    paceThen period hPeriod time floor deadline
      (pace period hPeriod limit rest (max floor time + span))

section

variable {period limit time floor deadline : Nat} {hPeriod : 0 < period} {later : Nat → List Tick}

/-- Nothing ticks before the limit if the deadline is not before it. -/
theorem paceThen_of_le (hLimit : limit ≤ fires deadline) :
    paceThen period hPeriod limit floor deadline later = later deadline := by
  rw [paceThen, dif_neg (Nat.not_lt.mpr hLimit)]

/-- A deadline before the limit is a tick, and the interval goes on from there. -/
theorem paceThen_of_lt (hLimit : fires deadline < limit) :
    paceThen period hPeriod limit floor deadline later =
      tickAt floor deadline ::
        paceThen period hPeriod limit floor ((tickAt floor deadline).next period) later := by
  rw [paceThen, dif_pos hLimit]

/-- To wait until a time on the way changes nothing. -/
theorem paceThen_split (hTime : time ≤ limit) :
    paceThen period hPeriod limit floor deadline later =
      paceThen period hPeriod time floor deadline fun next =>
        paceThen period hPeriod limit floor next later := by
  fun_induction paceThen period hPeriod time floor deadline fun next =>
    paceThen period hPeriod limit floor next later with
  | case1 deadline hLimit ih => rw [paceThen_of_lt (by omega), ih]
  | case2 deadline hLimit => rfl

/-- Ticks before the first step come first, and the step does not matter for them. -/
theorem pace_split {steps : List (Nat × Option Nat)} (hNext : ∀ step ∈ steps.head?, time ≤ step.1)
    (hLast : steps = [] → time ≤ limit) :
    pace period hPeriod limit steps floor deadline =
      paceThen period hPeriod time floor deadline (pace period hPeriod limit steps floor) := by
  match steps with
  | [] => exact paceThen_split (hLast rfl)
  | (_, none) :: _ => exact paceThen_split (hNext _ rfl)
  | (_, some _) :: _ => exact paceThen_split (hNext _ rfl)

theorem mem_paceThen (hLimit : fires deadline < limit) :
    tickAt floor deadline ∈ paceThen period hPeriod limit floor deadline later := by
  rw [paceThen_of_lt hLimit]
  exact List.mem_cons_self ..

/-- The multiples of a period before a limit, rounded up. -/
theorem lt_count_iff (hPeriod : 0 < period) {k : Nat} :
    k < (limit + (period - 1)) / period ↔ k * period < limit := by
  rw [← Nat.add_one_le_iff, Nat.le_div_iff_mul_le hPeriod, Nat.add_mul]
  omega

theorem stride_pos (hPeriod : 0 < period) : 0 < stride period :=
  Nat.lt_min.mpr ⟨hPeriod, by decide⟩

theorem dvd_stride (hWhole : nanosPerMilli ∣ period) : nanosPerMilli ∣ stride period := by
  unfold stride
  rcases Nat.le_total period longestWait with hLe | hLe
  · rwa [Nat.min_eq_left hLe]
  · rw [Nat.min_eq_right hLe]
    exact dvd_longestWait

/-- A tick handled at its deadline is followed by one a stride later. -/
theorem next_onTime (period time : Nat) :
    (onTime time).next period = time + stride period := by
  rw [Tick.next, nextDeadline, if_pos (Nat.le_add_right ..), timerDeadline, Nat.add_min_add_left]
  rfl

/-- A deadline at a whole millisecond is met exactly. -/
theorem tickAt_of_dvd (hWhole : nanosPerMilli ∣ deadline) :
    tickAt 0 deadline = onTime deadline := by
  rw [tickAt, fires_eq_of_dvd hWhole, Nat.zero_max]

/-- **Where the clock does not jump, the ticks are handled at their deadlines**, a stride apart. -/
theorem paceThen_stride (hWhole : nanosPerMilli ∣ period) (k : Nat) :
    paceThen period hPeriod limit 0 (k * stride period) (fun _ => []) =
      (List.range' k ((limit + (stride period - 1)) / stride period - k)).map
        fun j => onTime (j * stride period) := by
  generalize hLeft : (limit + (stride period - 1)) / stride period - k = left
  have hDeadline : ∀ j, nanosPerMilli ∣ j * stride period := fun j =>
    Nat.dvd_mul_left_of_dvd (dvd_stride hWhole) j
  induction left generalizing k with
  | zero =>
    have hEnd : limit ≤ k * stride period := by
      have hNot : ¬k < (limit + (stride period - 1)) / stride period := by omega
      rw [lt_count_iff (stride_pos hPeriod)] at hNot
      exact Nat.le_of_not_lt hNot
    rw [paceThen_of_le (by rwa [fires_eq_of_dvd (hDeadline k)])]
    rfl
  | succ left ih =>
    have hSoon : fires (k * stride period) < limit := by
      rw [fires_eq_of_dvd (hDeadline k)]
      exact (lt_count_iff (stride_pos hPeriod)).mp (by omega)
    have hNext : (tickAt 0 (k * stride period)).next period = (k + 1) * stride period := by
      rw [tickAt_of_dvd (hDeadline k), next_onTime, Nat.succ_mul]
    rw [paceThen_of_lt hSoon, hNext, tickAt_of_dvd (hDeadline k), ih (k + 1) (by omega)]
    rfl

/-- A timer reaches over the period of an interval that goes on as it is said to. -/
theorem Tick.Regular.period_le {time : Nat} (hRegular : (onTime time).Regular period) :
    period ≤ longestWait := by
  rw [Tick.Regular, next_onTime, Tick.onward, if_pos (Nat.le_add_right ..)] at hRegular
  have hStride : stride period = period := Nat.add_left_cancel hRegular
  rw [← hStride]
  exact Nat.min_le_right ..

/-- Where the clock does not jump, the ticks of an interval that goes on as it is said to are the
multiples of its period. -/
theorem paceThen_whole (hWhole : nanosPerMilli ∣ period) (k : Nat)
    (hInterval : ∀ t ∈ paceThen period hPeriod limit 0 (k * period) fun _ => [],
      t.Regular period) :
    paceThen period hPeriod limit 0 (k * period) (fun _ => []) =
      (List.range' k ((limit + (period - 1)) / period - k)).map
        fun j => ⟨j * period, j * period⟩ := by
  have hDeadline : nanosPerMilli ∣ k * period := Nat.dvd_mul_left_of_dvd hWhole k
  by_cases hReach : period ≤ longestWait
  · have hStride : stride period = period := Nat.min_eq_left hReach
    have hTicks : paceThen period hPeriod limit 0 (k * stride period) (fun _ => []) = _ :=
      paceThen_stride hWhole k
    rwa [hStride] at hTicks
  -- a longer period has no tick, since there is nothing regular about it
  · have hEnd : limit ≤ k * period := by
      by_contra hSoon
      have hFirst : (onTime (k * period)).Regular period := by
        rw [← tickAt_of_dvd hDeadline]
        exact hInterval _ (mem_paceThen (by rw [fires_eq_of_dvd hDeadline]; omega))
      exact hReach hFirst.period_le
    have hNone : (limit + (period - 1)) / period - k = 0 := by
      have hNot : ¬k < (limit + (period - 1)) / period := by
        rw [lt_count_iff hPeriod]
        exact Nat.not_lt.mpr hEnd
      omega
    rw [paceThen_of_le (by rwa [fires_eq_of_dvd hDeadline]), hNone]
    rfl

end

-- ---------------------------------------------------------------------------
-- The clock of a run
-- ---------------------------------------------------------------------------

variable {W J : Type} {settings : Settings} {w : Workload W J}

/-- A schedule that waits for the tick of this deadline: since the clock stood at `floor`
it has come no further than that tick, and no further than `reach`. -/
structure Paced (floor reach deadline : Nat) (s : State W J) : Prop where
  phase : s.phase = .ticking deadline
  floor_le : floor ≤ s.now
  now_le : s.now ≤ max floor (min reach (fires deadline))

namespace Paced

variable {floor reach deadline limit time : Nat} {s : State W J}

/-- A wait that ends by the tick lets it be waited for. -/
theorem waitUntil (hPaced : Paced floor reach deadline s) (hReach : time ≤ reach)
    (hTime : time ≤ fires deadline) : Paced floor reach deadline (s.waitUntil time) where
  phase := hPaced.phase
  floor_le := Nat.le_trans hPaced.floor_le (Nat.le_max_left ..)
  now_le := by
    have := hPaced.now_le
    show max s.now time ≤ _
    omega

theorem mono (hPaced : Paced floor reach deadline s) (hReach : reach ≤ limit) :
    Paced floor limit deadline s where
  phase := hPaced.phase
  floor_le := hPaced.floor_le
  now_le := by
    have := hPaced.now_le
    omega

/-- What does not concern the ticks leaves the pace as it is. -/
theorem of_same {s' : State W J} (hPaced : Paced floor reach deadline s)
    (hPhase : s'.phase = .ticking deadline) (hNow : s'.now = s.now) :
    Paced floor reach deadline s' :=
  ⟨hPhase, hNow ▸ hPaced.floor_le, hNow ▸ hPaced.now_le⟩

/-- The tick is handled where a schedule without jobs would handle it. -/
theorem now_tick (hPaced : Paced floor reach deadline s) :
    (s.waitUntil (fires deadline)).now = (tickAt floor deadline).handled := by
  have hFloor := hPaced.floor_le
  have hNow := hPaced.now_le
  show max s.now (fires deadline) = max floor (fires deadline)
  omega

theorem wake (hPaced : Paced floor reach deadline s) (w : Workload W J) :
    Paced floor reach deadline (s.wake w) :=
  hPaced.of_same (State.phase_wake hPaced.phase w) (State.requeued_wake w s).1

/-- After a tick the next one is waited for. -/
theorem tick (hPaced : Paced floor reach deadline s) (hSoon : fires deadline < reach)
    (settings : Settings) (w : Workload W J) :
    Paced floor reach ((tickAt floor deadline).next settings.period)
      ((s.waitUntil (fires deadline)).handle settings w .tick) := by
  have hNow := hPaced.now_tick
  have hSame : ((s.waitUntil (fires deadline)).handle settings w .tick).now =
      (s.waitUntil (fires deadline)).now := (State.requeued_handle w .tick _).1
  have hPhase := State.phase_handle_tick (s := s.waitUntil (fires deadline)) hPaced.phase
    settings w
  have hOn := lt_next_tickAt settings.period_pos floor deadline
  have hLate := fires_mono (Nat.le_of_lt hOn)
  refine ⟨?_, ?_, ?_⟩
  · rw [hPhase, hNow]
    rfl
  · rw [hSame, hNow]
    exact Nat.le_max_left ..
  · rw [hSame, hNow]
    show max floor (fires deadline) ≤ _
    omega

/-- Before a limit the ticks are those of a schedule without jobs. What comes after them
is known if it is known for a schedule at the same pace that has come to the limit. -/
theorem ticks_momentsUntil (hPaced : Paced floor reach deadline s) (hReach : reach ≤ limit)
    (settings : Settings) (w : Workload W J) {rest : List Tick} {later : Nat → List Tick}
    (hNext : ∀ next, Paced floor limit next (s.runUntil settings w limit) → rest = later next) :
    ticks (s.momentsUntil settings w limit) ++ rest =
      paceThen settings.period settings.period_pos limit floor deadline later := by
  replace hPaced := hPaced.mono hReach
  clear hReach
  fun_induction s.runUntil settings w limit generalizing deadline with
  | case1 s hNone =>
    rw [State.due_of_ticking hPaced.phase] at hNone
    contradiction
  | case2 s time due hDue hLimit ih =>
    rw [State.momentsUntil_of_due hDue hLimit]
    obtain ⟨hTime, rfl | ⟨rfl, rfl⟩⟩ := State.due_ticking hPaced.phase hDue
    -- a job that wakes before the tick changes nothing
    · rw [ticks_cons_of_none (tick?_of_ne (by simp))]
      exact ih hNext ((hPaced.waitUntil (Nat.le_of_lt hLimit) hTime).wake w)
    · have hTick : Moment.tick? ⟨s.waitUntil (fires deadline), .due .tick⟩ =
          some (tickAt floor deadline) := by
        rw [State.tick?_waitUntil hPaced.phase, hPaced.now_tick]
        rfl
      rw [ticks_cons_of_tick hTick, List.cons_append, paceThen_of_lt hLimit,
        ih hNext (hPaced.tick hLimit settings w)]
  | case3 s time due hDue hLimit =>
    rw [State.momentsUntil_of_le (by simpa [hDue] using hLimit)]
    have hTime := (State.due_ticking hPaced.phase hDue).1
    rw [paceThen_of_le (by omega)]
    exact hNext deadline hPaced

/-- A schedule that is left to itself ticks on. -/
theorem runUntil (hPaced : Paced floor limit deadline s) (settings : Settings)
    (w : Workload W J) : ∃ next, Paced floor limit next (s.runUntil settings w limit) := by
  fun_induction s.runUntil settings w limit generalizing deadline with
  | case1 s hNone =>
    rw [State.due_of_ticking hPaced.phase] at hNone
    contradiction
  | case2 s time due hDue hLimit ih =>
    obtain ⟨hTime, rfl | ⟨rfl, rfl⟩⟩ := State.due_ticking hPaced.phase hDue
    · exact ih ((hPaced.waitUntil (Nat.le_of_lt hLimit) hTime).wake w)
    · exact ih (hPaced.tick hLimit settings w)
  | case3 s time due hDue hLimit => exact ⟨deadline, hPaced⟩

/-- At an outside step the clock stands where that of a schedule without jobs would. -/
theorem met (hPaced : Paced floor time deadline (s.runUntil settings w time)) :
    Paced floor time deadline (s.met settings w time) ∧
      (s.met settings w time).now = max floor time := by
  have hDue := State.le_due_runUntil settings w time s _ _ (State.due_of_ticking hPaced.phase)
  have hTime : time ≤ fires deadline := Nat.le_trans hDue (State.orWake_le ..)
  refine ⟨hPaced.waitUntil (Nat.le_refl _) hTime, ?_⟩
  have hFloor := hPaced.floor_le
  have hNow := hPaced.now_le
  show max (s.runUntil settings w time).now time = max floor time
  omega

/-- A step that is neither a jump nor a shutdown leaves the pace as it is. -/
theorem perform {step : Step W} (hPaced : Paced floor reach deadline s)
    (hShutdown : step ≠ .shutdown) (hJump : ∀ span, step ≠ .jump span) (settings : Settings) :
    Paced floor reach deadline (s.perform settings step) := by
  refine hPaced.of_same (State.phase_perform hPaced.phase settings hShutdown) ?_
  rcases State.now_perform settings step s with hNow | ⟨span, hStep, -⟩
  · exact hNow
  · exact absurd hStep (hJump span)

/-- After a jump the clock is known again. -/
theorem jump (hPaced : Paced floor reach deadline s) (settings : Settings) (span : Nat) :
    Paced (s.now + span) time deadline (s.perform settings (.jump span)) where
  phase := hPaced.phase
  floor_le := Nat.le_refl _
  now_le := Nat.le_max_left ..

end Paced

-- ---------------------------------------------------------------------------
-- The ticks of a run
-- ---------------------------------------------------------------------------

/-- The steps of a script come in order of time. -/
def InOrder (script : Script W) : Prop := script.Pairwise fun entry entry' => entry.1 ≤ entry'.1

instance (script : Script W) : Decidable (InOrder script) :=
  inferInstanceAs (Decidable (List.Pairwise _ _))

/-- Who watches a run until this time sees all ticks that its script decides on: it is shut
down, or watched to the last step. -/
def SeenBy (limit : Nat) (script : Script W) : Prop :=
  (∃ time, (time, .shutdown) ∈ script) ∨ ∀ entry ∈ script, entry.1 ≤ limit

/-- A script from `reach` on is seen by `limit`: it shuts the schedule down, or all of it
comes before. -/
def SeenFrom (reach limit : Nat) (script : Script W) : Prop :=
  (∃ time, (time, .shutdown) ∈ script) ∨ reach ≤ limit ∧ ∀ entry ∈ script, entry.1 ≤ limit

section

variable {script : Script W} {floor reach deadline limit time : Nat} {step : Step W}

theorem SeenFrom.tail (hSeen : SeenFrom reach limit ((time, step) :: script))
    (hStep : step ≠ .shutdown) : SeenFrom time limit script := by
  rcases hSeen with ⟨stop, hStop⟩ | ⟨-, hAll⟩
  · rcases List.mem_cons.mp hStop with hSame | hLater
    · exact absurd (Prod.mk.inj hSame).2.symm hStep
    · exact Or.inl ⟨stop, hLater⟩
  · exact Or.inr (List.forall_mem_cons.mp hAll)

theorem mem_turns_of_shutdown (hShutdown : (time, .shutdown) ∈ script) :
    (time, none) ∈ turns script :=
  List.mem_filterMap.mpr ⟨_, hShutdown, rfl⟩

theorem exists_of_mem_turns {turn : Nat × Option Nat} (hTurn : turn ∈ turns script) :
    ∃ entry ∈ script, entry.1 = turn.1 := by
  obtain ⟨entry, hEntry, hSome⟩ := List.mem_filterMap.mp hTurn
  refine ⟨entry, hEntry, ?_⟩
  split at hSome
  · rw [← Option.some.inj hSome]
  · rw [← Option.some.inj hSome]
  · contradiction

/-- A step that does not concern the ticks only cuts the wait for the next one in two. -/
theorem pace_turns_split {period : Nat} {hPeriod : 0 < period}
    (hFirst : ∀ entry ∈ script, time ≤ entry.1) (hSeen : SeenFrom time limit script) :
    pace period hPeriod limit (turns script) floor deadline =
      paceThen period hPeriod time floor deadline
        (pace period hPeriod limit (turns script) floor) := by
  refine pace_split ?_ ?_
  · intro turn hTurn
    obtain ⟨entry, hEntry, hSame⟩ := exists_of_mem_turns (List.mem_of_mem_head? hTurn)
    rw [← hSame]
    exact hFirst entry hEntry
  · intro hNone
    rcases hSeen with ⟨stop, hStop⟩ | ⟨hLimit, -⟩
    · have hTurn := mem_turns_of_shutdown hStop
      rw [hNone] at hTurn
      contradiction
    · exact hLimit

/-- The ticks before a step come first, and then those after it. -/
theorem ticks_future_cons (script : Script W) (entry : Nat × Step W) (limit : Nat)
    (s : State W J) :
    ticks (s.future settings w (entry :: script) limit) =
      ticks (s.momentsUntil settings w entry.1) ++
        ticks ((s.advance settings w entry).future settings w script limit) := by
  simp only [State.future, State.moments, List.append_assoc, List.cons_append, ticks_append,
    List.foldl_cons]
  rw [ticks_cons_of_none (tick?_of_ne (by simp)), ticks_append]

theorem ticks_future_of_over {s : State W J} (hOver : s.phase.isTicking = false) :
    ticks (s.future settings w script limit) = [] :=
  (leads_future settings w script limit s).no_ticks hOver

theorem ticks_future_nil {s : State W J} (hPhase : s.phase = .ticking deadline) :
    ticks (s.future settings w [] limit) = ticks (s.momentsUntil settings w limit) := by
  simp only [State.future, State.moments, List.foldl_nil, State.finish, hPhase, List.nil_append]

/-- The ticks of a schedule at a known pace are those of a schedule without jobs. -/
theorem Paced.ticks_future {s : State W J} (hPaced : Paced floor reach deadline s)
    (hOrder : InOrder script) (hReach : ∀ entry ∈ script, reach ≤ entry.1)
    (hSeen : SeenFrom reach limit script) :
    ticks (s.future settings w script limit) =
      pace settings.period settings.period_pos limit (turns script) floor deadline := by
  -- the induction is on the script: each step is met at a known pace, and only a jump or a
  -- shutdown changes it
  induction script generalizing floor reach deadline s with
  | nil =>
    obtain ⟨_, hNone⟩ | ⟨hLimit, -⟩ := hSeen
    · contradiction
    · have hTicks : ticks (s.momentsUntil settings w limit) ++ [] =
          paceThen settings.period settings.period_pos limit floor deadline fun _ => [] :=
        hPaced.ticks_momentsUntil hLimit settings w fun _ _ => rfl
      rw [List.append_nil] at hTicks
      rw [ticks_future_nil hPaced.phase, hTicks]
      rfl
  | cons entry script ih =>
    obtain ⟨time, step⟩ := entry
    obtain ⟨hFirst, hInOrder⟩ := List.pairwise_cons.mp hOrder
    have hTime : reach ≤ time := hReach _ (List.mem_cons_self ..)
    rw [ticks_future_cons]
    have hOther : step ≠ .shutdown → (∀ span, step ≠ .jump span) →
        ticks (s.momentsUntil settings w time) ++
            ticks ((s.advance settings w (time, step)).future settings w script limit) =
          pace settings.period settings.period_pos limit (turns script) floor deadline := by
      intro hShutdown hJump
      have hLater := hSeen.tail hShutdown
      rw [pace_turns_split hFirst hLater]
      refine hPaced.ticks_momentsUntil hTime settings w ?_
      intro next hNext
      exact ih (hNext.met.1.perform hShutdown hJump settings) hInOrder hFirst hLater
    cases step with
    | shutdown =>
      refine hPaced.ticks_momentsUntil hTime settings w fun next _ => ?_
      exact ticks_future_of_over (State.isTicking_shutdown settings _)
    | abort => exact hOther (by simp) (by simp)
    | jump span =>
      refine hPaced.ticks_momentsUntil hTime settings w ?_
      intro next hNext
      obtain ⟨hMet, hNow⟩ := hNext.met
      -- the clock may have jumped past the deadline, and then the tick is handled at once
      have hJumped : Paced ((s.met settings w time).now + span) time next
          ((s.met settings w time).perform settings (.jump span)) := hMet.jump settings span
      rw [hNow] at hJumped
      exact ih hJumped hInOrder hFirst (hSeen.tail (by simp))
    | edit change => exact hOther (by simp) (by simp)

end

/-- **The ticks of a run are those of a schedule without jobs.** -/
theorem ticks_watched {script : Script W} (hOrder : InOrder script) {limit : Nat}
    (hSeen : SeenBy limit script) (settings : Settings) (w : Workload W J) (world : W) :
    ticks (watched settings w script world limit) =
      pace settings.period settings.period_pos limit (turns script) 0 0 := by
  have hStart : Paced 0 0 0 ({ world } : State W J) := ⟨rfl, Nat.le_refl _, Nat.zero_le _⟩
  exact hStart.ticks_future hOrder (fun _ _ => Nat.zero_le _)
    (hSeen.imp_right fun hAll => ⟨Nat.zero_le _, hAll⟩)

/-- A script whose first turn is a shutdown. -/
theorem turns_append_shutdown {before : Script W} {time : Nat} {after : Script W}
    (hBefore : ∀ entry ∈ before, entry.2 ≠ .shutdown ∧ ∀ span, entry.2 ≠ .jump span) :
    turns (before ++ (time, .shutdown) :: after) = (time, none) :: turns after := by
  have hNone : turns before = [] := by
    refine List.filterMap_eq_nil_iff.mpr fun entry hEntry => ?_
    obtain ⟨hShutdown, hJump⟩ := hBefore entry hEntry
    split
    · rename_i hStep
      exact absurd hStep hShutdown
    · rename_i span hStep
      exact absurd hStep (hJump span)
    · rfl
  rw [turns, List.filterMap_append, ← turns, hNone, List.nil_append]
  rfl

/-- **The ticks of a run stay on the grid and do not depend on the jobs.** Assume that the
interval goes on from each tick of the run as it is said to. Then

* the first deadline is the start, all deadlines are multiples of the period in increasing
  order, and no tick is handled before its deadline,
* each tick starts a job or is left out, and by any time there have not been more of them
  than periods, and one,
* in a run that is shut down without a jump before, and with a period of whole
  milliseconds, the ticks are the multiples of the period before the shutdown, each handled
  at its deadline,
* a run with the same period, jumps and shutdowns has the same ticks, handled at the same
  times, whatever the jobs, the slots, the announcements of skips and the aborts are. -/
theorem grid_of_run (settings : Settings) (w : Workload W J) (script : Script W) (world : W)
    (limit : Nat)
    (hInterval : ∀ t ∈ ticks (watched settings w script world limit),
      t.Regular settings.period) :
    let handled := ticks (watched settings w script world limit)
    let last := (run settings w script world).runUntil settings w limit
    ((∀ t ∈ handled.head?, t.deadline = 0) ∧
      (∀ t ∈ handled, settings.period ∣ t.deadline ∧ t.deadline ≤ t.handled) ∧
      (handled.map Tick.deadline).Pairwise (· < ·)) ∧
    (last.fired + last.skipped = handled.length ∧
      ∀ time, handled.countP (·.handled ≤ time) ≤ time / settings.period + 1) ∧
    (∀ before time after, script = before ++ (time, .shutdown) :: after → InOrder script →
      (∀ entry ∈ before, entry.2 ≠ .shutdown ∧ ∀ span, entry.2 ≠ .jump span) →
      nanosPerMilli ∣ settings.period →
        handled = (List.range ((time + (settings.period - 1)) / settings.period)).map
            (fun k => ⟨k * settings.period, k * settings.period⟩) ∧
          last.fired + last.skipped = (time + (settings.period - 1)) / settings.period) ∧
    (∀ {W' J' : Type} (settings' : Settings) (w' : Workload W' J') (script' : Script W')
      (world' : W'), settings'.period = settings.period → turns script' = turns script →
      InOrder script → InOrder script' → SeenBy limit script → SeenBy limit script' →
        ticks (watched settings' w' script' world' limit) = handled) := by
  intro handled last
  have hLeads := leads_future settings w script limit ({ world } : State W J)
  have hFollows : Follows settings.period 0 handled := hLeads.follows hInterval rfl
  have hCount : last.fired + last.skipped = handled.length :=
    hLeads.count_ticks.trans (Nat.zero_add _)
  refine ⟨⟨?_, hFollows.dvd (Nat.dvd_zero _), hFollows.pairwise settings.period_pos⟩,
    ⟨hCount, hFollows.count_le settings.period_pos⟩, ?_, ?_⟩
  · intro t ht
    cases hHandled : handled with
    | nil => simp [hHandled] at ht
    | cons first later =>
      rw [hHandled] at hFollows ht
      obtain rfl : first = t := by simpa using ht
      exact hFollows.1
  · intro before time after hScript hOrder hBefore hWhole
    have hSeen : SeenBy limit script :=
      Or.inl ⟨time, by rw [hScript]; exact List.mem_append_right _ (List.mem_cons_self ..)⟩
    -- a script whose only turn is the shutdown is one stretch of ticks
    have hPace : handled = paceThen settings.period settings.period_pos time 0
        (0 * settings.period) fun _ => [] := by
      show ticks _ = _
      rw [ticks_watched hOrder hSeen, hScript, turns_append_shutdown hBefore, Nat.zero_mul]
      rfl
    have hAll : handled = (List.range ((time + (settings.period - 1)) / settings.period)).map
        fun k => ⟨k * settings.period, k * settings.period⟩ := by
      rw [List.range_eq_range', hPace]
      refine paceThen_whole hWhole 0 fun t ht => hInterval t ?_
      show t ∈ handled
      rwa [hPace]
    refine ⟨hAll, ?_⟩
    rw [hCount, hAll, List.length_map, List.length_range]
  · intro W' J' settings' w' script' world' hPeriod hTurns hOrder hOrder' hSeen hSeen'
    show _ = ticks (watched settings w script world limit)
    rw [ticks_watched hOrder hSeen, ticks_watched hOrder' hSeen', hTurns]
    simp only [hPeriod]

/-- Jobs of 2.5 s. -/
def slow : Workload Unit Ending := sleepers fun _ => { span := 2500 * nanosPerMilli }

/-- A jump from 1.3 s to 3.8 s, and a shutdown at 5.5 s. -/
def suspended : Script Unit :=
  [(1300 * nanosPerMilli, .jump (2500 * nanosPerMilli)), (5500 * nanosPerMilli, .shutdown)]

/-- The tick of 2 s is handled late and the one of 3 s is left out, also with more slots,
other jobs and an abort. Without the jump no tick is late. -/
theorem grid_of_run_suspended :
    let handled := ticks (watched overlong slow suspended () 0)
    (∀ t ∈ handled, t.Regular overlong.period) ∧
      handled = [⟨0, 0⟩, ⟨1000 * nanosPerMilli, 1000 * nanosPerMilli⟩,
        ⟨2000 * nanosPerMilli, 3800 * nanosPerMilli⟩,
        ⟨4000 * nanosPerMilli, 4000 * nanosPerMilli⟩,
        ⟨5000 * nanosPerMilli, 5000 * nanosPerMilli⟩] ∧
      (handled.map Tick.deadline).Pairwise (· < ·) ∧
      handled.countP (·.handled ≤ 3900 * nanosPerMilli) ≤
        3900 * nanosPerMilli / overlong.period + 1 ∧
      ticks (watched { overlong with slots := 3, announcesSkips := false }
        (sleepers fun _ => { span := 0, ending := .crashed })
        ((700 * nanosPerMilli, .abort) :: suspended) () 0) = handled ∧
      ticks (watched overlong slow [(5500 * nanosPerMilli, .shutdown)] () 0) =
        (List.range 6).map fun k => ⟨k * overlong.period, k * overlong.period⟩ := by
  intro handled
  have hHandled : handled = [⟨0, 0⟩, ⟨1000 * nanosPerMilli, 1000 * nanosPerMilli⟩,
      ⟨2000 * nanosPerMilli, 3800 * nanosPerMilli⟩,
      ⟨4000 * nanosPerMilli, 4000 * nanosPerMilli⟩,
      ⟨5000 * nanosPerMilli, 5000 * nanosPerMilli⟩] := by
    show ticks (watched overlong slow suspended () 0) = _
    cbv
  have hShort : overlong.period ≤ longestWait := by decide
  have hInterval : ∀ t ∈ handled, t.Regular overlong.period :=
    regular_watched hShort suspended () 0
  obtain ⟨⟨-, -, hOrder⟩, ⟨-, hCount⟩, -, hSame⟩ :=
    grid_of_run overlong slow suspended () 0 hInterval
  have hShutdown : SeenBy 0 suspended :=
    Or.inl ⟨5500 * nanosPerMilli, List.mem_cons_of_mem _ (List.mem_cons_self ..)⟩
  refine ⟨hInterval, hHandled, hOrder, hCount _, ?_, ?_⟩
  · exact hSame _ _ _ () rfl rfl (by decide) (by decide) hShutdown
      (Or.inl ⟨5500 * nanosPerMilli,
        List.mem_cons_of_mem _ (List.mem_cons_of_mem _ (List.mem_cons_self ..))⟩)
  · obtain ⟨-, -, hWhole, -⟩ := grid_of_run overlong slow [(5500 * nanosPerMilli, .shutdown)] () 0
      (regular_watched hShort _ () 0)
    exact (hWhole [] _ [] rfl (by decide) (by simp) (by decide)).1

end DueDispatch.Schedule
