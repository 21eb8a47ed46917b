import DueDispatch.Proofs.Schedule.CountEvents

/-!
# DueDispatch — the cadence of count reports

Counts never overlap, they keep apart, and each one that succeeds is reported, once. None of
this depends on what is counted: without its world a reporter ticks alike (`State.bare`). A
shutdown that meets no count under way ends the reports at once, and else they are over with
that count. Where the clock does not jump and each count is over by the next tick, the counts
begin at the multiples of the period.

## Results

* `counts_alike` — when counts begin and end does not depend on what they find.
* `closes_of_shutdown` — how a shutdown ends the reports.
* `Leads.on_grid` — the counts of a reporter that nothing holds up.
* `cadence_of_run` — whole runs of count reports.
-/

namespace DueDispatch.Schedule

open Duration (nanosPerMilli)

-- ---------------------------------------------------------------------------
-- A reporter without its world
-- ---------------------------------------------------------------------------

/-- A step from outside, the change of the world left out. -/
def Step.bare {W : Type} : Step W → Step Unit
  | .shutdown => .shutdown
  | .abort => .abort
  | .jump span => .jump span
  | .edit _ => .edit id

/-- A script, the changes of the world left out. -/
def bareScript {W : Type} (script : Script W) : Script Unit :=
  script.map fun entry => (entry.1, entry.2.bare)

namespace CountReports

variable {W : Type} {c : Counter W} {period : Nat} {hPeriod : 0 < period}

/-- Counts that take as long, and fail. -/
def Counter.bare (c : Counter W) : Counter Unit where
  latency := c.latency
  total world := (.error (.storage ""), world)

/-- A reporter without its world and its reports. -/
def State.bare (s : State W) : State Unit where
  now := s.now
  phase := s.phase
  shuttingDown := s.shuttingDown
  counts := s.counts
  world := ()

/-- An event, the outcome left out. -/
def Event.bare {α : Type} : Event α → Event Unit
  | .begun tick => .begun tick
  | .ended time _ => .ended time ()

/-- A count, the outcome left out. -/
def Count.bare {α : Type} (a : Count α) : Count Unit := ⟨a.tick, a.ended?.map fun e => (e.1, ())⟩

/-- The counts among bare events are the bare counts. -/
theorem counts_bare {α : Type} (es : List (Event α)) :
    counts (es.map Event.bare) = (counts es).map Count.bare := by
  induction es with
  | nil => rfl
  | cons e rest ih =>
    cases e with
    | begun tick =>
      have hEnd : endedBy (rest.map Event.bare) = (endedBy rest).map fun e => (e.1, ()) := by
        cases rest with
        | nil => rfl
        | cons e _ => cases e <;> rfl
      rw [List.map_cons, Event.bare, counts, counts, hEnd, ih]
      rfl
    | ended time outcome => exact ih

namespace State

variable {s : State W}

theorem bare_handle (c : Counter W) (period : Nat) (s : State W) :
    (s.handle c period).bare = s.bare.handle c.bare period := by
  obtain ⟨now, phase, shuttingDown, count, reports, world⟩ := s
  cases phase <;> rfl

theorem bare_perform (s : State W) (step : Step W) :
    (s.perform step).bare = s.bare.perform step.bare := by
  obtain ⟨now, phase, shuttingDown, count, reports, world⟩ := s
  cases step with
  | shutdown => cases phase <;> rfl
  | _ => rfl

theorem bare_event (c : Counter W) (s : State W) :
    (s.event? c).toList.map Event.bare = (s.bare.event? c.bare).toList.map Event.bare := by
  obtain ⟨now, phase, shuttingDown, count, reports, world⟩ := s
  cases phase <;> rfl

/-- Until the same limit, a bare reporter goes through the bare states and has the bare
events. -/
theorem bare_runUntil (c : Counter W) (hPeriod : 0 < period) (limit : Nat) (s : State W) :
    (s.runUntil c period hPeriod limit).bare =
        s.bare.runUntil c.bare period hPeriod limit ∧
      (s.eventsUntil c period hPeriod limit).map Event.bare =
        (s.bare.eventsUntil c.bare period hPeriod limit).map Event.bare := by
  fun_induction s.runUntil c period hPeriod limit with
  | case1 s hNone =>
    have hLimit : ∀ time, s.due? = some time → limit ≤ time := by simp [hNone]
    rw [eventsUntil_of_le hLimit, eventsUntil_of_le (s := s.bare) hLimit,
      runUntil_of_le (s := s.bare) hLimit]
    exact ⟨rfl, rfl⟩
  | case2 s time hDue hLimit ih =>
    have hHandle : ((s.waitUntil time).handle c period).bare =
        (s.bare.waitUntil time).handle c.bare period := bare_handle c period _
    have hEvent : ((s.waitUntil time).event? c).toList.map Event.bare =
        ((s.bare.waitUntil time).event? c.bare).toList.map Event.bare := bare_event c _
    rw [hHandle] at ih
    rw [eventsUntil_of_due hDue hLimit, eventsUntil_of_due (s := s.bare) hDue hLimit,
      runUntil_of_due (s := s.bare) hDue hLimit, List.map_append, List.map_append, ih.2, hEvent]
    exact ⟨ih.1, rfl⟩
  | case3 s time hDue hLimit =>
    have hLimit : ∀ time, s.due? = some time → limit ≤ time := by simpa [hDue] using hLimit
    rw [eventsUntil_of_le hLimit, eventsUntil_of_le (s := s.bare) hLimit,
      runUntil_of_le (s := s.bare) hLimit]
    exact ⟨rfl, rfl⟩

theorem bare_advance (c : Counter W) (hPeriod : 0 < period) (s : State W)
    (entry : Nat × Step W) :
    (s.advance c period hPeriod entry).bare =
      s.bare.advance c.bare period hPeriod (entry.1, entry.2.bare) := by
  rw [advance, bare_perform, advance, ← (bare_runUntil c hPeriod entry.1 s).1]
  rfl

/-- A script does to a bare reporter what it does to the reporter, its changes of the world
left out. -/
theorem bare_foldl (c : Counter W) (hPeriod : 0 < period) (script : Script W) (s : State W) :
    (script.foldl (advance c period hPeriod) s).bare =
      (bareScript script).foldl (advance c.bare period hPeriod) s.bare := by
  induction script generalizing s with
  | nil => rfl
  | cons entry rest ih =>
    rw [List.foldl_cons, ih, bare_advance]
    rfl

theorem bare_finish (c : Counter W) (period : Nat) (s : State W) :
    (s.finish c period).bare = s.bare.finish c.bare period := by
  unfold finish
  cases hPhase : s.phase with
  | counting ends next =>
    have hBare : s.bare.phase = .counting ends next := hPhase
    rw [hBare]
    exact bare_handle c period (s.waitUntil ends)
  | _ =>
    have hBare : s.bare.phase = _ := hPhase
    rw [hBare]

/-- The events of a bare run are those of the run, their outcomes left out. -/
theorem bare_events (c : Counter W) (hPeriod : 0 < period) (script : Script W) (s : State W) :
    (s.events c period hPeriod script).map Event.bare =
      (s.bare.events c.bare period hPeriod (bareScript script)).map Event.bare := by
  induction script generalizing s with
  | nil =>
    show List.map _ (State.events c period hPeriod [] s) =
      List.map _ (State.events c.bare period hPeriod [] s.bare)
    unfold events
    cases hPhase : s.phase with
    | counting ends next =>
      have hBare : s.bare.phase = .counting ends next := hPhase
      rw [hBare]
      exact bare_event c (s.waitUntil ends)
    | _ =>
      have hBare : s.bare.phase = _ := hPhase
      rw [hBare]
  | cons entry rest ih =>
    show List.map _ (_ ++ _) =
      List.map _ (eventsUntil c.bare period hPeriod entry.1 s.bare ++ _)
    rw [List.map_append, List.map_append, (bare_runUntil c hPeriod entry.1 s).2, ih, bare_advance]
    rfl

end State

/-- **When counts begin and end, and when a reporter is over, does not depend on what is
counted.** -/
theorem counts_alike {W' : Type} {c' : Counter W'} (hLatency : c'.latency = c.latency)
    {script : Script W} {script' : Script W'} (hScript : bareScript script' = bareScript script)
    (hPeriod : 0 < period) (world : W) (world' : W') :
    (counts (events c' period hPeriod script' world')).map Count.bare =
        (counts (events c period hPeriod script world)).map Count.bare ∧
      ((script'.foldl (State.advance c' period hPeriod) { world := world' }).finish c'
          period).phase =
        ((script.foldl (State.advance c period hPeriod) { world }).finish c period).phase := by
  have hBare : c'.bare = c.bare := by rw [Counter.bare, Counter.bare, hLatency]
  constructor
  · have hEvents := State.bare_events c' hPeriod script' { world := world' }
    rw [hBare, hScript] at hEvents
    have hEvents' := State.bare_events c hPeriod script { world }
    rw [← counts_bare, ← counts_bare]
    exact congrArg counts (hEvents.trans hEvents'.symm)
  · have hEnd := State.bare_finish c' period
      (script'.foldl (State.advance c' period hPeriod) { world := world' })
    rw [State.bare_foldl, hBare, hScript] at hEnd
    have hEnd' := State.bare_finish c period
      (script.foldl (State.advance c period hPeriod) { world })
    rw [State.bare_foldl] at hEnd'
    exact congrArg State.phase (hEnd.trans hEnd'.symm)

-- ---------------------------------------------------------------------------
-- The shutdown
-- ---------------------------------------------------------------------------

variable {script : Script W} {s s' : State W} {es : List (Event (Except Error Nat))}

namespace State

theorem now_tick (c : Counter W) (period deadline : Nat) (s : State W) :
    (s.tick c period deadline).now = s.now := rfl

theorem reports_tick (c : Counter W) (period deadline : Nat) (s : State W) :
    (s.tick c period deadline).reports = s.reports := rfl

theorem mem_reported {time : Nat} {outcome : Except Error Nat} {report : Nat × Nat}
    (hReport : report ∈ (reported time outcome).toList) : report.1 = time := by
  cases outcome with
  | ok total =>
    obtain rfl : (time, total) = report := by simpa [reported, eq_comm] using hReport
    rfl
  | error cause => simp [reported] at hReport

/-- A reporter that was not shut down, and that is not over. -/
def Going (s : State W) : Prop :=
  s.shuttingDown = false ∧
    ((∃ deadline, s.phase = .waiting deadline) ∨ ∃ ends next, s.phase = .counting ends next)

/-- A step that is no shutdown leaves the phase and the counts alone. -/
theorem perform_of_ne {step : Step W} (hStep : step ≠ .shutdown) (s : State W) :
    (s.perform step).phase = s.phase ∧ (s.perform step).shuttingDown = s.shuttingDown ∧
      (s.perform step).counts = s.counts := by
  cases step with
  | shutdown => contradiction
  | abort => exact ⟨rfl, rfl, rfl⟩
  | jump span => exact ⟨rfl, rfl, rfl⟩
  | edit change => exact ⟨rfl, rfl, rfl⟩

theorem shuttingDown_perform (hShutdown : s.shuttingDown = true) (step : Step W) :
    (s.perform step).shuttingDown = true := by
  cases step with
  | shutdown =>
    show s.shutdown.shuttingDown = true
    unfold shutdown
    split <;> rfl
  | abort => exact hShutdown
  | jump span => exact hShutdown
  | edit change => exact hShutdown

/-- At the end of a run no count is under way. -/
theorem finish_ne_counting (c : Counter W) (period : Nat) (s : State W) (ends next : Nat) :
    (s.finish c period).phase ≠ .counting ends next := by
  unfold finish
  split
  · rename_i ends' next' hPhase
    simp only [handle, waitUntil, hPhase, endCount]
    cases s.shuttingDown <;> simp
  · rename_i hNot
    exact hNot ends next

end State

/-- The clock only goes forward: no event and no report comes later than it shows. -/
theorem Leads.past (hLeads : Leads c period script s es s') :
    s.now ≤ s'.now ∧ (∀ e ∈ es, e.time ≤ s'.now) ∧
      ((∀ report ∈ s.reports, report.1 ≤ s.now) → ∀ report ∈ s'.reports, report.1 ≤ s'.now) := by
  -- the induction is from the front, so what comes later bounds what is added now
  induction hLeads with
  | nil s => exact ⟨Nat.le_refl _, by simp, id⟩
  | @begun s s' deadline es hPhase _ ih =>
    obtain ⟨hNow, hTimes, hReports⟩ := ih
    rw [State.now_tick] at hNow hReports
    rw [State.reports_tick] at hReports
    have hWait : s.now ≤ (s.waitUntil (fires deadline)).now := Nat.le_max_left ..
    refine ⟨Nat.le_trans hWait hNow, List.forall_mem_cons.mpr ⟨hNow, hTimes⟩, fun hPast => ?_⟩
    exact hReports fun report hReport => Nat.le_trans (hPast report hReport) hWait
  | @ended s s' ends next es hPhase _ ih =>
    obtain ⟨hNow, hTimes, hReports⟩ := ih
    have hWait : s.now ≤ (s.waitUntil ends).now := Nat.le_max_left ..
    refine ⟨Nat.le_trans hWait hNow, List.forall_mem_cons.mpr ⟨hNow, hTimes⟩, fun hPast => ?_⟩
    refine hReports fun report hReport => ?_
    rw [State.reports_endCount] at hReport
    rcases List.mem_append.mp hReport with hNew | hOld
    · exact Nat.le_of_eq (State.mem_reported hNew)
    · exact Nat.le_trans (hPast report hOld) hWait
  | @outside s s' entry es hEntry hFirst _ ih =>
    obtain ⟨hNow, hTimes, hReports⟩ := ih
    obtain ⟨hSame, hStep, -⟩ := State.perform_cases (s.waitUntil entry.1) entry.2
    have hWait : s.now ≤ ((s.waitUntil entry.1).perform entry.2).now :=
      Nat.le_trans (Nat.le_max_left ..) hStep
    refine ⟨Nat.le_trans hWait hNow, hTimes, fun hPast => ?_⟩
    refine hReports fun report hReport => ?_
    rw [hSame] at hReport
    exact Nat.le_trans (hPast report hReport) hWait

/-- Until a shutdown the reporter ticks on. -/
theorem Leads.going (hLeads : Leads c period script s es s')
    (hFirst : ∀ entry ∈ script, entry.2 ≠ .shutdown) (hGoing : s.Going) : s'.Going := by
  induction hLeads with
  | nil s => exact hGoing
  | begun hPhase _ ih => exact ih ⟨hGoing.1, Or.inr ⟨_, _, rfl⟩⟩
  | @ended s s' ends next es hPhase _ ih =>
    have hWaiting : ((s.waitUntil ends).endCount c next).phase = .waiting next := by
      simp only [State.endCount, State.waitUntil, hGoing.1, Bool.false_eq_true, if_false]
    exact ih ⟨hGoing.1, Or.inl ⟨next, hWaiting⟩⟩
  | @outside s s' entry es hEntry _ _ ih =>
    obtain ⟨hPhase, hShutdown, -⟩ :=
      State.perform_of_ne (hFirst entry hEntry) (s.waitUntil entry.1)
    refine ih ⟨hShutdown.trans hGoing.1, ?_⟩
    rw [hPhase]
    exact hGoing.2

/-- A count that is under way has begun with the last event. -/
theorem Leads.begun_of_counting (hLeads : Leads c period script s es s') {ends next : Nat}
    (hPhase : s'.phase = .counting ends next) :
    (∃ earlier tick, es = earlier ++ [.begun tick]) ∨
      es = [] ∧ ∃ ends next, s.phase = .counting ends next := by
  -- only a count that ends or a shutdown could come between, and both leave the phase
  induction hLeads with
  | nil s => exact Or.inr ⟨rfl, _, _, hPhase⟩
  | @begun s s' deadline es _ _ ih =>
    left
    rcases ih hPhase with ⟨earlier, tick, rfl⟩ | ⟨rfl, -⟩
    · exact ⟨_ :: earlier, tick, rfl⟩
    · exact ⟨[], _, rfl⟩
  | @ended s s' ends next es _ _ ih =>
    left
    rcases ih hPhase with ⟨earlier, tick, rfl⟩ | ⟨rfl, _, _, hCounting⟩
    · exact ⟨_ :: earlier, tick, rfl⟩
    · simp only [State.endCount] at hCounting
      split at hCounting <;> contradiction
  | @outside s s' entry es hEntry _ _ ih =>
    refine (ih hPhase).imp_right ?_
    rintro ⟨hNone, ends, next, hCounting⟩
    refine ⟨hNone, ?_⟩
    obtain ⟨-, -, hSame | ⟨-, -, hStopped⟩⟩ :=
      State.perform_cases (s.waitUntil entry.1) entry.2
    · exact ⟨ends, next, hSame.symm.trans hCounting⟩
    · rw [hStopped] at hCounting
      contradiction

/-- Nothing comes of a reporter that is over. -/
theorem Leads.none_of_stopped (hLeads : Leads c period script s es s') {time : Nat}
    (hPhase : s.phase = .stopped time) :
    es = [] ∧ s'.phase = .stopped time ∧ s'.reports = s.reports := by
  induction hLeads with
  | nil s => exact ⟨rfl, hPhase, rfl⟩
  | begun hWaiting _ _ =>
    rw [hPhase] at hWaiting
    contradiction
  | ended hCounting _ _ =>
    rw [hPhase] at hCounting
    contradiction
  | @outside s s' entry es hEntry _ _ ih =>
    obtain ⟨hReports, -, -⟩ := State.perform_cases (s.waitUntil entry.1) entry.2
    obtain ⟨hNone, hEnd, hKept⟩ :=
      ih (State.phase_perform (s := s.waitUntil entry.1) hPhase (by simp) entry.2)
    exact ⟨hNone, hEnd, hKept.trans hReports⟩

/-- **After a shutdown the count under way is the last one.** -/
theorem Leads.closes (hLeads : Leads c period script s es s') {ends next : Nat}
    (hPhase : s.phase = .counting ends next) (hShutdown : s.shuttingDown = true) :
    s'.phase = .counting ends next ∨
      ∃ time outcome, es = [.ended time outcome] ∧ s.now ≤ time ∧ s'.phase = .stopped time ∧
        s'.reports = (reported time outcome).toList ++ s.reports := by
  induction hLeads with
  | nil s => exact Or.inl hPhase
  | begun hWaiting _ _ =>
    rw [hPhase] at hWaiting
    contradiction
  | @ended s s' ends' next' es hCounting hRest _ =>
    -- the end of the count stops the reporter, and then nothing comes of it
    have hStopped : ((s.waitUntil ends').endCount c next').phase =
        .stopped (s.waitUntil ends').now := by
      simp only [State.endCount, State.waitUntil, hShutdown, if_true]
    obtain ⟨rfl, hEnd, hReports⟩ := hRest.none_of_stopped hStopped
    refine Or.inr ⟨_, _, rfl, Nat.le_max_left .., hEnd, ?_⟩
    rw [hReports, State.reports_endCount]
    rfl
  | @outside s s' entry es hEntry _ _ ih =>
    obtain ⟨hReports, hNow, -⟩ := State.perform_cases (s.waitUntil entry.1) entry.2
    have hLater : s.now ≤ ((s.waitUntil entry.1).perform entry.2).now :=
      Nat.le_trans (Nat.le_max_left ..) hNow
    refine (ih (State.phase_perform (s := s.waitUntil entry.1) hPhase (by simp) entry.2)
      (State.shuttingDown_perform (s := s.waitUntil entry.1) hShutdown entry.2)).imp_right ?_
    rintro ⟨time, outcome, hEnd, hTime, hStopped, hKept⟩
    exact ⟨time, outcome, hEnd, Nat.le_trans hLater hTime, hStopped,
      hKept.trans (congrArg (_ ++ ·) hReports)⟩

/-- How a run ends that is shut down in this state, these being its counts: at once if no count
is under way, and else with that count, which is the last one. -/
def Closes (s : State W) (as : List (Count (Except Error Nat))) (r : State W) : Prop :=
  ((∃ deadline, s.phase = .waiting deadline) ∧ r.phase = .stopped s.now ∧
      r.reports = s.reports) ∨
    (∃ ends next, s.phase = .counting ends next) ∧
      ∃ a ∈ as.getLast?, ∃ time outcome, a.ended? = some (time, outcome) ∧ s.now ≤ time ∧
        r.phase = .stopped time ∧ r.reports = (reported time outcome).toList ++ s.reports

/-- No count begins after a shutdown, which ends the run or leaves it the count under way. -/
theorem closes_of_shutdown {before after : Script W} {world : W}
    {earlier : List (Event (Except Error Nat))} {u r : State W}
    (hBefore : Leads c period before { world } earlier u) (hGoing : u.Going) (time : Nat)
    (hAfter : Leads c period after (u.waitUntil time).shutdown es r)
    (hEnd : ∀ ends next, r.phase ≠ .counting ends next) :
    ticks es = [] ∧ Closes (u.waitUntil time) (counts (earlier ++ es)) r := by
  rcases hGoing.2 with ⟨deadline, hPhase⟩ | ⟨ends, next, hPhase⟩
  · have hShutdown : (u.waitUntil time).shutdown =
        { u.waitUntil time with
          shuttingDown := true
          phase := .stopped (u.waitUntil time).now } := by
      simp only [State.shutdown, State.waitUntil, hPhase]
    rw [hShutdown] at hAfter
    obtain ⟨rfl, hStopped, hReports⟩ := hAfter.none_of_stopped rfl
    exact ⟨rfl, Or.inl ⟨⟨deadline, hPhase⟩, hStopped, hReports⟩⟩
  · have hShutdown : (u.waitUntil time).shutdown =
        { u.waitUntil time with shuttingDown := true } := by
      simp only [State.shutdown, State.waitUntil, hPhase]
    rw [hShutdown] at hAfter
    rcases hAfter.closes hPhase rfl with hCounting | ⟨stop, outcome, rfl, hTime, hStopped, hReports⟩
    · exact absurd hCounting (hEnd ends next)
    -- the count under way is the one that began last
    · obtain ⟨first, tick, rfl⟩ | ⟨-, _, _, hCounting⟩ := hBefore.begun_of_counting hPhase
      · rw [List.append_assoc, List.singleton_append, counts_append_begun]
        exact ⟨rfl, Or.inr ⟨⟨ends, next, hPhase⟩, ⟨tick, some (stop, outcome)⟩,
          List.getLast?_concat, stop, outcome, rfl, hTime, hStopped, hReports⟩⟩
      · contradiction

/-- At most one report comes after the shutdown. -/
theorem Closes.late_le_one {r : State W} {as : List (Count (Except Error Nat))}
    (hCloses : Closes s as r) (hPast : ∀ report ∈ s.reports, report.1 ≤ s.now) :
    r.reports.countP (fun report => decide (s.now < report.1)) ≤ 1 := by
  have hNone : s.reports.countP (fun report => decide (s.now < report.1)) = 0 :=
    List.countP_eq_zero.mpr fun report hReport => by
      simpa using hPast report hReport
  rcases hCloses with ⟨-, -, hReports⟩ | ⟨-, a, -, time, outcome, -, -, -, hReports⟩
  · rw [hReports, hNone]
    exact Nat.zero_le _
  · rw [hReports, List.countP_append, hNone, Nat.add_zero]
    refine Nat.le_trans List.countP_le_length ?_
    cases reported time outcome with
    | none => exact Nat.zero_le _
    | some report => exact Nat.le_refl _

-- ---------------------------------------------------------------------------
-- Nothing holds the counts up
-- ---------------------------------------------------------------------------

section

variable {period k : Nat}

/-- A timer at a whole millisecond less than one after a moment is not behind that moment's. -/
theorem le_fires_of_lt {time moment : Nat} (hWhole : nanosPerMilli ∣ time)
    (hTime : time < moment + nanosPerMilli) : time ≤ fires moment := by
  obtain ⟨n, rfl⟩ := hWhole
  simp only [fires, nanosPerMilli] at hTime ⊢
  omega

/-- A count that takes less than the period is over by the next tick. -/
theorem over_of_elapsed {span : Nat}
    (hElapsed : wakeTime (fires (k * period)) span < fires (k * period) + period) :
    wakeTime (fires (k * period)) span ≤ fires ((k + 1) * period) := by
  have hSoon := fires_lt_add (k * period)
  refine le_fires_of_lt (dvd_fires _) ?_
  rw [Nat.succ_mul]
  omega

/-- With a period of whole milliseconds it may also be just over. -/
theorem over_of_span {span : Nat} (hWhole : nanosPerMilli ∣ period) (hSpan : span < period) :
    wakeTime (fires (k * period)) span ≤ fires ((k + 1) * period) := by
  rw [fires_eq_of_dvd (Nat.dvd_mul_left_of_dvd hWhole k), Nat.succ_mul]
  refine fires_mono (Nat.le_trans (timerDeadline_le ..) ?_)
  omega

end

/-- A reporter that has begun `k` counts and is not late: it waits for the next one, or is busy
with the last one and will be done by then. -/
structure Prompt (period k : Nat) (s : State W) : Prop where
  waiting : ∀ deadline, s.phase = .waiting deadline →
    deadline = k * period ∧ s.counts = k ∧ s.now ≤ fires deadline
  counting : ∀ ends next, s.phase = .counting ends next →
    next = k * period ∧ s.counts = k ∧ s.now ≤ ends ∧ ends ≤ fires next

namespace Prompt

variable {k time : Nat}

theorem of_stopped (hPhase : s.phase = .stopped time) : Prompt period k s :=
  ⟨by simp [hPhase], by simp [hPhase]⟩

/-- A wait that ends before anything is due makes no reporter late. -/
theorem waitUntil (hPrompt : Prompt period k s) (hTime : ∀ due, s.due? = some due → time ≤ due) :
    Prompt period k (s.waitUntil time) where
  waiting deadline hPhase := by
    have hWaiting : s.phase = .waiting deadline := hPhase
    obtain ⟨hDeadline, hCounts, hNow⟩ := hPrompt.waiting deadline hWaiting
    exact ⟨hDeadline, hCounts, Nat.max_le.mpr ⟨hNow, hTime _ (by rw [State.due?, hWaiting])⟩⟩
  counting ends next hPhase := by
    have hCounting : s.phase = .counting ends next := hPhase
    obtain ⟨hNext, hCounts, hNow, hEnds⟩ := hPrompt.counting ends next hCounting
    exact ⟨hNext, hCounts, Nat.max_le.mpr ⟨hNow, hTime _ (by rw [State.due?, hCounting])⟩, hEnds⟩

/-- A step from outside does not hold a reporter up, unless it is a jump. -/
theorem perform (hPrompt : Prompt period k s) {step : Step W}
    (hStill : ∀ span, step ≠ .jump span) : Prompt period k (s.perform step) := by
  cases step with
  | shutdown =>
    obtain ⟨-, -, hSame | ⟨-, -, hStopped⟩⟩ := State.perform_cases s .shutdown
    · obtain ⟨hNow, hCounts⟩ : (s.perform .shutdown).now = s.now ∧
          (s.perform .shutdown).counts = s.counts := by
        simp only [State.perform, State.shutdown]
        split <;> exact ⟨rfl, rfl⟩
      refine ⟨?_, ?_⟩
      · rw [hSame, hNow, hCounts]
        exact hPrompt.waiting
      · rw [hSame, hNow, hCounts]
        exact hPrompt.counting
    · exact of_stopped hStopped
  | abort => exact hPrompt
  | jump span => exact absurd rfl (hStill span)
  | edit change => exact ⟨hPrompt.waiting, hPrompt.counting⟩

/-- A tick that is not late begins the next count. -/
theorem begun (hPrompt : Prompt period k s) {deadline : Nat} (hPhase : s.phase = .waiting deadline)
    (hDelays : Tick.Delays period ⟨deadline, (s.waitUntil (fires deadline)).now⟩)
    (hOver : wakeTime (fires (k * period)) (c.latency k) ≤ fires ((k + 1) * period)) :
    (Tick.mk deadline (s.waitUntil (fires deadline)).now) = ⟨k * period, fires (k * period)⟩ ∧
      Prompt period (k + 1) ((s.waitUntil (fires deadline)).tick c period deadline) := by
  obtain ⟨rfl, hCounts, hNow⟩ := hPrompt.waiting deadline hPhase
  have hHandled : (s.waitUntil (fires (k * period))).now = fires (k * period) :=
    Nat.max_eq_right hNow
  refine ⟨by rw [hHandled], ?_⟩
  rw [State.tick_of_delays hDelays, hHandled, Tick.delayed_fires]
  refine ⟨by simp, ?_⟩
  rintro ends next hCounting
  obtain ⟨rfl, rfl⟩ := Phase.counting.inj hCounting
  have hBegun : (s.waitUntil (fires (k * period))).counts = k := hCounts
  rw [hBegun, ← Nat.succ_mul]
  exact ⟨rfl, rfl, le_wakeTime .., hOver⟩

/-- A count that is over in time leaves the next tick where it is. -/
theorem ended (hPrompt : Prompt period k s) {ends next : Nat}
    (hPhase : s.phase = .counting ends next) (c : Counter W) :
    Prompt period k ((s.waitUntil ends).endCount c next) := by
  obtain ⟨hNext, hCounts, hNow, hEnds⟩ := hPrompt.counting ends next hPhase
  cases hShutdown : s.shuttingDown with
  | true =>
    have hStopped : ((s.waitUntil ends).endCount c next).phase =
        .stopped (s.waitUntil ends).now := by
      simp only [State.endCount, State.waitUntil, hShutdown, if_true]
    exact of_stopped hStopped
  | false =>
    have hWaiting : ((s.waitUntil ends).endCount c next).phase = .waiting next := by
      simp only [State.endCount, State.waitUntil, hShutdown, Bool.false_eq_true, if_false]
    refine ⟨fun deadline hDeadline => ?_, by simp [hWaiting]⟩
    obtain rfl : next = deadline := by simpa [hWaiting] using hDeadline
    exact ⟨hNext, hCounts, Nat.le_trans (Nat.le_of_eq (Nat.max_eq_right hNow)) hEnds⟩

end Prompt

/-- A reporter that is not late has begun all counts that were due. -/
theorem Prompt.now_le {k : Nat} (hPrompt : Prompt period k s) (hGoing : s.Going) :
    s.now ≤ fires (k * period) := by
  rcases hGoing.2 with ⟨deadline, hPhase⟩ | ⟨ends, next, hPhase⟩
  · obtain ⟨rfl, -, hNow⟩ := hPrompt.waiting deadline hPhase
    exact hNow
  · obtain ⟨rfl, -, hNow, hEnds⟩ := hPrompt.counting ends next hPhase
    exact Nat.le_trans hNow hEnds

/-- **Where the clock does not jump and each count is over by the next tick, counts begin on the
grid.** -/
theorem Leads.on_grid (hLeads : Leads c period script s es s')
    (hStill : ∀ entry ∈ script, ∀ span, entry.2 ≠ .jump span)
    (hInterval : ∀ t ∈ ticks es, t.Delays period)
    (hOver : ∀ k, wakeTime (fires (k * period)) (c.latency k) ≤ fires ((k + 1) * period)) {k : Nat}
    (hPrompt : Prompt period k s) :
    ∃ n, ticks es = (List.range' k n).map (fun j => ⟨j * period, fires (j * period)⟩) ∧
      Prompt period (k + n) s' := by
  induction hLeads generalizing k with
  | nil s => exact ⟨0, rfl, hPrompt⟩
  | @begun s s' deadline es hPhase _ ih =>
    obtain ⟨hTick, hLater⟩ := List.forall_mem_cons.mp hInterval
    obtain ⟨hSame, hNext⟩ := hPrompt.begun hPhase hTick (hOver k)
    obtain ⟨n, hTicks, hEnd⟩ := ih hLater hNext
    refine ⟨n + 1, ?_, ?_⟩
    · rw [ticks_begun, hSame, hTicks]
      rfl
    · rwa [Nat.add_right_comm] at hEnd
  | ended hPhase _ ih => exact ih hInterval (hPrompt.ended hPhase c)
  | @outside s s' entry es hEntry hFirst _ ih =>
    exact ih hInterval ((hPrompt.waitUntil hFirst).perform (hStill entry hEntry))

/-- The counts that such a reporter begins before a step from outside. -/
theorem Leads.begun_before {world : W} (hLeads : Leads c period script { world } es s)
    (hGoing : s.Going) {time : Nat} (hTime : ∀ due, s.due? = some due → time ≤ due)
    (hStill : ∀ entry ∈ script, ∀ span, entry.2 ≠ .jump span)
    (hInterval : ∀ t ∈ ticks es, t.Delays period)
    (hOver : ∀ k, wakeTime (fires (k * period)) (c.latency k) ≤ fires ((k + 1) * period)) :
    ∃ n, (s.waitUntil time).now ≤ fires (n * period) ∧
      ticks es = (List.range n).map fun k => ⟨k * period, fires (k * period)⟩ := by
  have hStart : Prompt period 0 ({ world } : State W) := by
    refine ⟨?_, by simp⟩
    rintro deadline ⟨⟩
    exact ⟨(Nat.zero_mul _).symm, rfl, Nat.zero_le _⟩
  obtain ⟨n, hTicks, hPrompt⟩ := hLeads.on_grid hStill hInterval hOver hStart
  rw [Nat.zero_add] at hPrompt
  refine ⟨n, (hPrompt.waitUntil hTime).now_le hGoing, ?_⟩
  rw [hTicks, List.range_eq_range']

-- ---------------------------------------------------------------------------
-- Whole runs
-- ---------------------------------------------------------------------------

/-- The state that a step from outside at this time meets after a script. -/
def stateAt (c : Counter W) (period : Nat) (hPeriod : 0 < period) (before : Script W) (time : Nat)
    (world : W) : State W :=
  (before.foldl (State.advance c period hPeriod) { world }).met c period hPeriod time

/-- A run up to its shutdown: all its ticks, and the state that the shutdown meets. -/
theorem split_at_shutdown (c : Counter W) (hPeriod : 0 < period) {before : Script W}
    (hFirst : ∀ entry ∈ before, entry.2 ≠ .shutdown) (time : Nat) (after : Script W)
    (world : W) :
    let s := stateAt c period hPeriod before time world
    let es := events c period hPeriod (before ++ (time, .shutdown) :: after) world
    ∃ earlier u, ticks es = ticks earlier ∧ Leads c period before { world } earlier u ∧ u.Going ∧
      s = u.waitUntil time ∧ (∀ due, u.due? = some due → time ≤ due) ∧
      Closes s (counts es) (((before ++ (time, .shutdown) :: after).foldl
        (State.advance c period hPeriod) { world }).finish c period) := by
  intro s es
  obtain ⟨earlier, hEvents, hLeads⟩ := State.events_append c hPeriod (List.Subset.refl before)
    (time, .shutdown) after { world }
  have hAfter := leads_events c hPeriod (List.Subset.refl after)
    ((before.foldl (State.advance c period hPeriod) { world }).advance c period hPeriod
      (time, .shutdown))
  have hAll : es = earlier ++ _ := hEvents
  have hGoing := hLeads.going hFirst ⟨rfl, Or.inl ⟨0, rfl⟩⟩
  obtain ⟨hNone, hCloses⟩ := closes_of_shutdown hLeads hGoing time hAfter
    (State.finish_ne_counting c period _)
  refine ⟨earlier, _, ?_, hLeads, hGoing, rfl, State.le_due_runUntil c hPeriod time _, ?_⟩
  · rw [hAll, ticks_append, hNone, List.append_nil]
  · rw [hAll, List.foldl_append, List.foldl_cons]
    exact hCloses

/-- **Whole runs of count reports.** Assume that the interval goes on from each tick of the run
as it is said to. Then

* counts never overlap, and any two of them begin a period apart, but for the tolerance,
* each count that succeeds is reported once, in order and with its total, and nothing else is,
* what the counts find, the world and its changes have no influence on when counts begin and end
  and on how the reporter ends,
* no count begins after a shutdown, and at most one report comes after it: if it meets no count
  under way the reporter is over at once, and else with the end of that count, which is the last,
* where in addition the clock does not jump and each count takes less than the period, counts
  begin at the multiples of the period, rounded up to whole milliseconds, and all do that are
  due before the shutdown. -/
theorem cadence_of_run (c : Counter W) (period : Duration) (hPeriod : 0 < period.toNanos)
    (script : Script W) (world : W)
    (hInterval : ∀ t ∈ ticks (events c period.toNanos hPeriod script world),
      t.Delays period.toNanos) :
    let as := counts (events c period.toNanos hPeriod script world)
    ∃ r, run c period script world = .ok r ∧
      (as.Pairwise (Apart period.toNanos) ∧
        ∀ a ∈ as, ∀ e ∈ a.ended?, a.tick.handled ≤ e.1) ∧
      r.reports.reverse = as.filterMap Count.report? ∧
      (∀ {W' : Type} (c' : Counter W') (script' : Script W') (world' : W'),
        c'.latency = c.latency → bareScript script' = bareScript script →
          ∃ r', run c' period script' world' = .ok r' ∧ r'.phase = r.phase ∧
            (counts (events c' period.toNanos hPeriod script' world')).map Count.bare =
              as.map Count.bare) ∧
      ∀ before time after, script = before ++ (time, .shutdown) :: after →
        (∀ entry ∈ before, entry.2 ≠ .shutdown) →
          let s := stateAt c period.toNanos hPeriod before time world
          (∀ a ∈ as, a.tick.handled ≤ s.now) ∧
          r.reports.countP (fun report => decide (s.now < report.1)) ≤ 1 ∧
          Closes s as r ∧
          ((∀ entry ∈ before, ∀ span, entry.2 ≠ .jump span) →
            ((∀ k, wakeTime (fires (k * period.toNanos)) (c.latency k) <
                fires (k * period.toNanos) + period.toNanos) →
              ∃ n, s.now ≤ fires (n * period.toNanos) ∧
                as.map Count.tick = (List.range n).map fun k =>
                  ⟨k * period.toNanos, fires (k * period.toNanos)⟩) ∧
            (nanosPerMilli ∣ period.toNanos → (∀ k, c.latency k < period.toNanos) →
              ∃ n, s.now ≤ n * period.toNanos ∧
                as.map Count.tick = (List.range n).map fun k =>
                  ⟨k * period.toNanos, k * period.toNanos⟩)) := by
  intro as
  obtain ⟨r, hRun, hLeads⟩ := leads_run c hPeriod script world
  obtain ⟨reports, hReports, hFollows, rfl⟩ := hLeads.unfolds hInterval
  refine ⟨r, hRun, ⟨hFollows.pairwise, hFollows.handled_le_end⟩, ?_, ?_, ?_⟩
  · rw [hReports, List.reverse_append, List.reverse_reverse]
    exact List.nil_append _
  -- two runs that look alike from outside have the same bare run
  · intro W' c' script' world' hLatency hScript
    obtain ⟨hCounts, hPhase⟩ := counts_alike hLatency hScript hPeriod world world'
    have hRun' : run c period script world = .ok _ := dif_pos hPeriod
    obtain rfl := Except.ok.inj (hRun.symm.trans hRun')
    exact ⟨_, dif_pos hPeriod, hPhase, hCounts⟩
  · rintro before time after rfl hFirst s
    obtain ⟨earlier, u, hTicks, hBefore, hGoing, hMet, hDue, hCloses⟩ :=
      split_at_shutdown c hPeriod hFirst time after world
    have hRun' : run c period (before ++ (time, .shutdown) :: after) world = .ok _ :=
      dif_pos hPeriod
    obtain rfl := Except.ok.inj (hRun.symm.trans hRun')
    obtain ⟨-, hTimes, hPast⟩ := hBefore.past
    rw [hMet] at hCloses
    have hState : s = u.waitUntil time := hMet
    have hWait : u.now ≤ (u.waitUntil time).now := Nat.le_max_left ..
    rw [hState]
    -- what happens before the shutdown is not later than it, and after it no count begins
    refine ⟨fun a ha => ?_, hCloses.late_le_one fun report hReport => ?_, hCloses, ?_⟩
    · have hTick : a.tick ∈ ticks earlier := by
        rw [← hTicks, ← map_tick_counts]
        exact List.mem_map.mpr ⟨a, ha, rfl⟩
      exact Nat.le_trans (hTimes _ (begun_of_mem_ticks hTick)) hWait
    · exact Nat.le_trans (hPast (by simp) report hReport) hWait
    · intro hStill
      have hGrid (hOver : ∀ k, wakeTime (fires (k * period.toNanos)) (c.latency k) ≤
            fires ((k + 1) * period.toNanos)) :
          ∃ n, (u.waitUntil time).now ≤ fires (n * period.toNanos) ∧
            as.map Count.tick = (List.range n).map fun k =>
              ⟨k * period.toNanos, fires (k * period.toNanos)⟩ := by
        rw [map_tick_counts, hTicks]
        rw [hTicks] at hInterval
        exact hBefore.begun_before hGoing hDue hStill hInterval hOver
      refine ⟨fun hElapsed => hGrid fun k => over_of_elapsed (hElapsed k), fun hWhole hBrief => ?_⟩
      obtain ⟨n, hNow, hList⟩ := hGrid fun k => over_of_span hWhole (hBrief k)
      have hFires : ∀ k, fires (k * period.toNanos) = k * period.toNanos := fun k =>
        fires_eq_of_dvd (Nat.dvd_mul_left_of_dvd hWhole k)
      rw [hFires] at hNow
      simp only [hFires] at hList
      exact ⟨n, hNow, hList⟩

/-- Counts of a table that is known by its number of rows, or that cannot be read. -/
def tally (latency : Nat → Nat) : Counter (Except Error Nat) where
  latency
  total world := (world, world)

/-- Counts the second of which takes longer than ten seconds. -/
def sluggish : Counter (Except Error Nat) :=
  tally fun number => (if number = 1 then 14000 else 3000) * nanosPerMilli

/-- The table cannot be read from 12 s to 24.5 s, and the clock jumps from 33 s to 53 s. -/
def interruptions : Script (Except Error Nat) :=
  [(12000 * nanosPerMilli, .edit fun _ => .error (.storage "count query failed")),
    (24500 * nanosPerMilli, .edit fun _ => .ok 5),
    (33000 * nanosPerMilli, .jump (20000 * nanosPerMilli))]

/-- At 55 s the reporter is shut down. -/
def interrupted : Script (Except Error Nat) :=
  interruptions ++ [(55000 * nanosPerMilli, .shutdown)]

/-- Of four counts the second one fails; the third begins with its end, the fourth after the jump,
and it is waited for. -/
theorem cadence_of_run_interrupted :
    let es := events sluggish (Duration.ofSecs 10).toNanos (by decide) interrupted (.ok 3)
    (∀ t ∈ ticks es, t.Delays (Duration.ofSecs 10).toNanos) ∧
      ∃ r, run sluggish (.ofSecs 10) interrupted (.ok 3) = .ok r ∧
        (counts es).map (fun a => a.tick.handled) =
          [0, 10000 * nanosPerMilli, 24000 * nanosPerMilli, 53000 * nanosPerMilli] ∧
        (counts es).Pairwise (Apart (Duration.ofSecs 10).toNanos) ∧
        r.reports.reverse =
          [(3000 * nanosPerMilli, 3), (27000 * nanosPerMilli, 5), (56000 * nanosPerMilli, 5)] ∧
        r.phase = .stopped (56000 * nanosPerMilli) := by
  intro es
  have hEvents : es =
      [.begun ⟨0, 0⟩, .ended (3000 * nanosPerMilli) (.ok 3),
        .begun ⟨10000 * nanosPerMilli, 10000 * nanosPerMilli⟩,
        .ended (24000 * nanosPerMilli) (.error (.storage "count query failed")),
        .begun ⟨20000 * nanosPerMilli, 24000 * nanosPerMilli⟩,
        .ended (27000 * nanosPerMilli) (.ok 5),
        .begun ⟨34000 * nanosPerMilli, 53000 * nanosPerMilli⟩,
        .ended (56000 * nanosPerMilli) (.ok 5)] := by
    show events sluggish (Duration.ofSecs 10).toNanos (by decide) interrupted (.ok 3) = _
    cbv
  have hInterval : ∀ t ∈ ticks es, t.Delays (Duration.ofSecs 10).toNanos :=
    delays_of_run sluggish _ (by decide) interrupted (.ok 3)
  obtain ⟨r, hRun, ⟨hApart, -⟩, hReports, -, hShutdown⟩ :=
    cadence_of_run sluggish (.ofSecs 10) (by decide) interrupted (.ok 3) hInterval
  refine ⟨hInterval, r, hRun, ?_, hApart, ?_, ?_⟩
  · rw [hEvents]
    rfl
  · refine hReports.trans ?_
    show (counts es).filterMap Count.report? = _
    rw [hEvents]
    rfl
  · have hBefore : ∀ entry ∈ interruptions, entry.2 ≠ .shutdown := by simp [interruptions]
    have hSplit : interrupted = interruptions ++ [(55000 * nanosPerMilli, .shutdown)] := rfl
    have hCloses := (hShutdown interruptions (55000 * nanosPerMilli) [] hSplit hBefore).2.2.1
    have hMet : (stateAt sluggish (Duration.ofSecs 10).toNanos (by decide) interruptions
        (55000 * nanosPerMilli) (.ok 3)).phase =
        .counting (56000 * nanosPerMilli) (63000 * nanosPerMilli) := by
      cbv
    rcases hCloses with ⟨⟨deadline, hWaiting⟩, -⟩ | ⟨-, a, hLast, time, outcome, hEnd, -, hPhase, -⟩
    · rw [hMet] at hWaiting
      contradiction
    · change a ∈ (counts es).getLast? at hLast
      rw [hEvents] at hLast
      obtain rfl := Option.some.inj hLast
      obtain ⟨rfl, -⟩ := Prod.mk.inj (Option.some.inj hEnd)
      exact hPhase

/-- Counts that take no time. -/
def instant : Counter (Except Error Nat) := tally fun _ => 0

/-- A period of 1.5 ms. -/
def fractional : Duration := ⟨0, 1500000⟩

/-- A shutdown after 7 ms. -/
def early : Script (Except Error Nat) := [(7 * nanosPerMilli, .shutdown)]

/-- **A period of fractions of a millisecond is not kept to.** Of counts that take no time, without
a jump, the second one begins half a millisecond after the first multiple of a period of 1.5 ms. -/
theorem cadence_of_run_fractional :
    let es := events instant fractional.toNanos (by decide) early (.ok 3)
    (∀ t ∈ ticks es, t.Delays fractional.toNanos) ∧
      (∀ k, instant.latency k < fractional.toNanos) ∧
      (∀ entry ∈ early, ∀ span, entry.2 ≠ .jump span) ∧
      (counts es).map (fun a => a.tick.handled) =
        [0, 2 * nanosPerMilli, 3 * nanosPerMilli, 5 * nanosPerMilli, 6 * nanosPerMilli] ∧
      ¬∀ k a, (counts es)[k]? = some a → a.tick.handled = k * fractional.toNanos := by
  intro es
  have hEvents : es =
      [.begun ⟨0, 0⟩, .ended 0 (.ok 3),
        .begun ⟨1500000, 2000000⟩, .ended 2000000 (.ok 3),
        .begun ⟨3000000, 3000000⟩, .ended 3000000 (.ok 3),
        .begun ⟨4500000, 5000000⟩, .ended 5000000 (.ok 3),
        .begun ⟨6000000, 6000000⟩, .ended 6000000 (.ok 3)] := by
    show events instant fractional.toNanos (by decide) early (.ok 3) = _
    cbv
  refine ⟨delays_of_run instant _ (by decide) early (.ok 3), fun k => ?_, by simp [early], ?_,
    fun hExact => ?_⟩
  · show 0 < fractional.toNanos
    decide
  · rw [hEvents]
    rfl
  · rw [hEvents] at hExact
    have hSecond := hExact 1 _ rfl
    exact absurd hSecond (by decide)

end CountReports

end DueDispatch.Schedule
