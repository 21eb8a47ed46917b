import DueDispatch.Proofs.Schedule.Pace
import DueDispatch.Proofs.Schedule.Return
import Mathlib.Data.List.Pairwise

/-!
# DueDispatch — the log of a run as a record of its jobs

A log only grows, and under the clock: what a state has logged by now is a part of what the
run has logged at its end, and the rest comes later. So the log of a whole run tells which
jobs are live at each of its moments, if it is known how long each job is busy. What the
jobs work on, and in how many turns, does not matter.

## Results

* `Leads.extends` — the log grows under the clock.
* `Leads.log_firings` — the ticks that fire are the starts in the log.
* `length_live_le`, `length_live_eq` — the live jobs are those whose time is not up.
-/

namespace DueDispatch.Schedule

variable {W J : Type} {settings : Settings} {w : Workload W J}

-- ---------------------------------------------------------------------------
-- The log grows under the clock
-- ---------------------------------------------------------------------------

/-- From the first state to the second the log was added to, while the clock went from the
one to the other. -/
structure Extends (s s' : State W J) : Prop where
  now_le : s.now ≤ s'.now
  log : ∃ later, s'.log = later ++ s.log ∧ ∀ e ∈ later, s.now ≤ e.1 ∧ e.1 ≤ s'.now

namespace Extends

variable {s s' s'' : State W J}

theorem of_same (hNow : s.now ≤ s'.now) (hLog : s'.log = s.log) : Extends s s' :=
  ⟨hNow, [], hLog, by simp⟩

theorem of_record {e : Event} (hNow : s'.now = s.now) (hLog : s'.log = (s.now, e) :: s.log) :
    Extends s s' :=
  ⟨Nat.le_of_eq hNow.symm, [(s.now, e)], hLog, by simp [hNow]⟩

theorem trans (hFirst : Extends s s') (hSecond : Extends s' s'') : Extends s s'' := by
  obtain ⟨hNow, earlier, hLog, hEarlier⟩ := hFirst
  obtain ⟨hNow', later, hLog', hLater⟩ := hSecond
  refine ⟨Nat.le_trans hNow hNow', later ++ earlier, ?_, ?_⟩
  · rw [hLog', hLog, List.append_assoc]
  · intro e he
    rcases List.mem_append.mp he with he | he
    · have := hLater e he
      omega
    · have := hEarlier e he
      omega

theorem subset (hExt : Extends s s') : s.log ⊆ s'.log := by
  obtain ⟨-, later, hLog, -⟩ := hExt
  rw [hLog]
  exact List.subset_append_right ..

end Extends

namespace State

theorem extends_waitUntil (s : State W J) (time : Nat) : Extends s (s.waitUntil time) :=
  .of_same (Nat.le_max_left ..) rfl

theorem extends_stopIfDrained (s : State W J) : Extends s s.stopIfDrained :=
  .of_same (Nat.le_of_eq (now_stopIfDrained s).symm) (log_stopIfDrained s)

theorem extends_place (s : State W J) (n : Nat) (t : Turn J) : Extends s (s.place n t) := by
  rcases s.place_cases n t with ⟨e, -, -, -, -, hPlace⟩ | ⟨-, hPlace⟩ | ⟨-, wakes, job, hPlace⟩
  · rw [hPlace]
    exact .of_record rfl rfl
  · rw [hPlace]
    exact .of_record rfl rfl
  · rw [hPlace]
    exact .of_same (Nat.le_refl _) rfl

theorem extends_dropLive (s : State W J) : Extends s s.dropLive := by
  refine ⟨Nat.le_refl _, drops s.now s.live, rfl, fun e he => ?_⟩
  simp only [drops, List.mem_reverse, List.mem_map] at he
  obtain ⟨l, -, rfl⟩ := he
  exact ⟨Nat.le_refl _, Nat.le_refl _⟩

theorem extends_wake (w : Workload W J) (s : State W J) : Extends s (s.wake w) := by
  unfold wake
  split
  · exact .of_same (Nat.le_refl _) rfl
  · rename_i l rest _
    have hTurn : Extends s { s with live := rest, world := (w.resume l.job s.now s.world).2 } :=
      .of_same (Nat.le_refl _) rfl
    exact (hTurn.trans (extends_place _ _ _)).trans (extends_stopIfDrained _)

/-- A tick adds to the log what happens now. -/
theorem extends_tick (settings : Settings) (w : Workload W J) (deadline : Nat) (s : State W J) :
    Extends s (s.tick settings w deadline) := by
  rcases tick_cases settings w deadline s with ⟨-, hTick⟩ | ⟨-, hTick⟩
  · rw [hTick]
    have hStart : Extends s (State.record
        { s with
          phase := phaseAfter settings deadline s.now
          fired := s.fired + 1
          world := (w.start s.fired s.now s.world).2 }
        (.started s.fired)) := .of_record rfl rfl
    exact hStart.trans (extends_place _ _ _)
  · rw [hTick]
    unfold skipTick
    split
    · exact .of_record rfl rfl
    · exact .of_same (Nat.le_refl _) rfl

theorem extends_handle (settings : Settings) (w : Workload W J) (due : Due) (s : State W J) :
    Extends s (s.handle settings w due) := by
  unfold handle
  split
  · exact extends_wake w s
  · exact extends_tick settings w _ s
  · exact (extends_dropLive s).trans (.of_same (Nat.le_refl _) rfl)
  · exact .of_same (Nat.le_refl _) rfl

theorem extends_perform (settings : Settings) (step : Step W) (s : State W J) :
    Extends s (s.perform settings step) := by
  cases step with
  | shutdown =>
    show Extends s (s.shutdown settings)
    unfold shutdown
    split
    · have hPhase : Extends s
          { s with phase := .draining (timerDeadline s.now (s.now + settings.drain)) } :=
        .of_same (Nat.le_refl _) rfl
      exact hPhase.trans (extends_stopIfDrained _)
    · exact .of_same (Nat.le_refl _) rfl
  | abort =>
    show Extends s (s.abort settings)
    have hAsked : Extends s { s with abortAsked := true } := .of_same (Nat.le_refl _) rfl
    unfold abort
    split
    · have hDropped : Extends s
          { State.dropLive { s with abortAsked := true } with aborted := true } :=
        (hAsked.trans (extends_dropLive _)).trans (.of_same (Nat.le_refl _) rfl)
      exact hDropped.trans (extends_stopIfDrained _)
    · exact hAsked
  | jump span => exact .of_same (Nat.le_add_right ..) rfl
  | edit change => exact .of_same (Nat.le_refl _) rfl

end State

/-- **The log grows under the clock**, from each moment of a run to its end. -/
theorem Leads.extends {script : Script W} {s s' : State W J} {ms : List (Moment W J)}
    (hLeads : Leads settings w script s ms s') :
    Extends s s' ∧ ∀ m ∈ ms, Extends s m.state ∧ Extends m.state (m.next settings w) ∧
      Extends (m.next settings w) s' := by
  induction hLeads with
  | nil s => exact ⟨.of_same (Nat.le_refl _) rfl, by simp⟩
  | @due s s' time due rest hDue _ ih =>
    obtain ⟨hEnd, hRest⟩ := ih
    have hWait := State.extends_waitUntil s time
    have hHandle := State.extends_handle settings w due (s.waitUntil time)
    refine ⟨(hWait.trans hHandle).trans hEnd, List.forall_mem_cons.mpr ⟨⟨hWait, hHandle, hEnd⟩, ?_⟩⟩
    intro m hm
    obtain ⟨hBefore, hAfter⟩ := hRest m hm
    exact ⟨(hWait.trans hHandle).trans hBefore, hAfter⟩
  | @outside s s' entry rest hEntry _ ih =>
    obtain ⟨hEnd, hRest⟩ := ih
    have hWait := State.extends_waitUntil s entry.1
    have hStep := State.extends_perform settings entry.2 (s.waitUntil entry.1)
    refine ⟨(hWait.trans hStep).trans hEnd, List.forall_mem_cons.mpr ⟨⟨hWait, hStep, hEnd⟩, ?_⟩⟩
    intro m hm
    obtain ⟨hBefore, hAfter⟩ := hRest m hm
    exact ⟨(hWait.trans hStep).trans hBefore, hAfter⟩

-- ---------------------------------------------------------------------------
-- The starts in a log
-- ---------------------------------------------------------------------------

/-- The jobs that a log sees started, with the times of their starts. -/
def starts (log : List (Nat × Event)) : List (Nat × Nat) :=
  log.filterMap fun e => e.2.startedJob?.map fun number => (e.1, number)

section

variable {log later : List (Nat × Event)} {time number : Nat}

@[simp] theorem starts_append (later log : List (Nat × Event)) :
    starts (later ++ log) = starts later ++ starts log := List.filterMap_append

theorem map_snd_starts (log : List (Nat × Event)) :
    (starts log).map Prod.snd = startedJobs log := by
  rw [starts, startedJobs, List.map_filterMap]
  congr 1
  funext e
  cases e.2.startedJob? <;> rfl

/-- The starts of a log are its entries of that kind. -/
theorem mem_starts : (time, number) ∈ starts log ↔ (time, .started number) ∈ log := by
  constructor
  · intro hStart
    obtain ⟨⟨time', e⟩, he, hSome⟩ := List.mem_filterMap.mp hStart
    cases e with
    | started number' =>
      obtain ⟨rfl, rfl⟩ : time' = time ∧ number' = number := by
        simpa [Event.startedJob?] using hSome
      exact he
    | _ => simp [Event.startedJob?] at hSome
  · intro hStart
    exact List.mem_filterMap.mpr ⟨_, hStart, rfl⟩

end

namespace Extends

variable {s s' : State W J} {skips calls number : Nat}

/-- Where no job is started no start is logged. -/
theorem starts_eq (hExt : Extends s s') (hCounted : State.Counted s s' [] skips calls) :
    starts s'.log = starts s.log := by
  obtain ⟨-, later, hLog, -⟩ := hExt
  have hJobs := hCounted.started
  rw [hLog, startedJobs_append, List.append_left_inj, ← map_snd_starts] at hJobs
  rw [hLog, starts_append, List.map_eq_nil_iff.mp hJobs, List.nil_append]

/-- The start of a job is logged with the time. -/
theorem starts_eq_cons (hExt : Extends s s') (hNow : s'.now = s.now)
    (hCounted : State.Counted s s' [number] skips calls) :
    starts s'.log = (s.now, number) :: starts s.log := by
  obtain ⟨-, later, hLog, hTimes⟩ := hExt
  have hJobs := hCounted.started
  rw [hLog, startedJobs_append, List.append_left_inj, ← map_snd_starts] at hJobs
  obtain ⟨⟨time, number'⟩, hOne, rfl⟩ := List.map_eq_singleton_iff.mp hJobs
  have hMem : (time, number') ∈ starts later := by
    rw [hOne]
    exact List.mem_singleton.mpr rfl
  obtain ⟨hFirst, hLast⟩ := hTimes _ (mem_starts.mp hMem)
  obtain rfl : time = s.now := by
    have : s'.now = s.now := hNow
    simp only at hFirst hLast
    omega
  rw [hLog, starts_append, hOne]
  rfl

end Extends

-- ---------------------------------------------------------------------------
-- The ticks that fire
-- ---------------------------------------------------------------------------

/-- The tick that is handled at a moment, if one is, and whether it starts a job. -/
def Moment.firing? (settings : Settings) (w : Workload W J) (m : Moment W J) :
    Option (Tick × Bool) :=
  m.tick?.map fun t => (t, decide (m.state.fired < (m.next settings w).fired))

/-- The ticks among moments with whether they start a job, in order. -/
def firings (settings : Settings) (w : Workload W J) (ms : List (Moment W J)) :
    List (Tick × Bool) :=
  ms.filterMap (Moment.firing? settings w)

/-- The firings are the ticks, with what comes of them. -/
theorem map_fst_firings (ms : List (Moment W J)) :
    (firings settings w ms).map Prod.fst = ticks ms := by
  rw [firings, ticks, List.map_filterMap]
  congr 1
  funext m
  rw [Moment.firing?]
  cases m.tick? <;> rfl

theorem firings_append (ms ms' : List (Moment W J)) :
    firings settings w (ms ++ ms') = firings settings w ms ++ firings settings w ms' :=
  List.filterMap_append

theorem firings_cons_of_none {m : Moment W J} (hNone : m.tick? = none) (ms : List (Moment W J)) :
    firings settings w (m :: ms) = firings settings w ms :=
  List.filterMap_cons_none (by rw [Moment.firing?, hNone]; rfl)

theorem firings_cons_of_tick {m : Moment W J} {t : Tick} {fires : Bool}
    (hTick : m.tick? = some t)
    (hFires : decide (m.state.fired < (m.next settings w).fired) = fires)
    (ms : List (Moment W J)) :
    firings settings w (m :: ms) = (t, fires) :: firings settings w ms :=
  List.filterMap_cons_some (by rw [Moment.firing?, hTick, hFires]; rfl)

/-- What a tick makes of a state: it starts a job if a slot is free. -/
structure Fires (settings : Settings) (s s' : State W J) (fires : Bool) : Prop where
  slot : fires = true ↔ s.live.length < settings.slots
  fired : s'.fired = s.fired + fires.toNat
  skipped : s'.skipped = s.skipped + (!fires).toNat
  starts : starts s'.log = (if fires then [(s.now, s.fired)] else []) ++ starts s.log

/-- A tick fires if it raises the count of started jobs. -/
theorem State.fires_tick {s : State W J} {deadline : Nat} (hPhase : s.phase = .ticking deadline)
    (settings : Settings) (w : Workload W J) :
    Fires settings s (s.handle settings w .tick)
      (decide (s.fired < (s.handle settings w .tick).fired)) := by
  rw [State.handle_ticking hPhase]
  have hExt := State.extends_tick settings w deadline s
  have hNow : (s.tick settings w deadline).now = s.now := (State.requeued_tick w deadline s).1
  have hCounted := State.counted_tick settings w deadline s
  by_cases hFree : s.live.length < settings.slots
  · rw [if_pos hFree] at hCounted
    have hMore : s.fired < (s.tick settings w deadline).fired := by
      rw [hCounted.fired]
      exact Nat.lt_succ_self _
    rw [decide_eq_true hMore]
    exact ⟨iff_of_true rfl hFree, hCounted.fired, hCounted.skipped,
      hExt.starts_eq_cons hNow hCounted⟩
  · rw [if_neg hFree] at hCounted
    have hSame : ¬s.fired < (s.tick settings w deadline).fired := by
      rw [hCounted.fired]
      exact Nat.lt_irrefl _
    rw [decide_eq_false hSame]
    exact ⟨iff_of_false Bool.false_ne_true hFree, hCounted.fired, hCounted.skipped,
      hExt.starts_eq hCounted⟩

/-- No job is started and no tick is counted on the way from the first state to the second. -/
structure Quiet (s s' : State W J) : Prop where
  starts : starts s'.log = starts s.log
  fired : s'.fired = s.fired
  skipped : s'.skipped = s.skipped

/-- What is due starts no job, ticks apart. -/
theorem State.quiet_handle (settings : Settings) (w : Workload W J) {due : Due}
    (hDue : due ≠ .tick) (s : State W J) : Quiet s (s.handle settings w due) :=
  have hCounted := counted_handle settings w due hDue s
  ⟨(extends_handle settings w due s).starts_eq hCounted, hCounted.fired, hCounted.skipped⟩

/-- No step from outside starts a job. -/
theorem State.quiet_perform (settings : Settings) (step : Step W) (s : State W J) :
    Quiet s (s.perform settings step) :=
  have hCounted := counted_perform settings s step
  ⟨(extends_perform settings step s).starts_eq hCounted, hCounted.fired, hCounted.skipped⟩

/-- **The ticks that fire are the starts in the log**, and they are counted, as are those that
do not. -/
theorem Leads.log_firings {script : Script W} {s s' : State W J} {ms : List (Moment W J)}
    (hLeads : Leads settings w script s ms s') :
    (starts s'.log).map Prod.fst =
        (((firings settings w ms).filter Prod.snd).map fun f => f.1.handled).reverse ++
          (starts s.log).map Prod.fst ∧
      s'.fired = s.fired + (firings settings w ms).countP Prod.snd ∧
      s'.fired + s'.skipped = s.fired + s.skipped + (ticks ms).length := by
  -- the log is read backwards, so each moment puts its start in front of the earlier ones
  induction hLeads with
  | nil s => exact ⟨rfl, rfl, rfl⟩
  | @due s s' time due rest hDue hRest ih =>
    by_cases hTick : due = .tick
    · subst hTick
      obtain ⟨deadline, hPhase⟩ := State.ticking_of_due hDue
      have hMoment := State.tick?_waitUntil hPhase time
      have hFires := State.fires_tick (s := s.waitUntil time) hPhase settings w
      obtain ⟨hStarts, hFired, hAll⟩ := ih
      obtain ⟨fires, hFlag⟩ : ∃ fires, decide ((s.waitUntil time).fired <
          ((s.waitUntil time).handle settings w .tick).fired) = fires := ⟨_, rfl⟩
      rw [hFlag] at hFires
      obtain ⟨-, hFiredNow, hSkippedNow, hStartsNow⟩ := hFires
      have hBefore : (s.waitUntil time).fired = s.fired := rfl
      have hSkips : (s.waitUntil time).skipped = s.skipped := rfl
      rw [ticks_cons_of_tick hMoment, firings_cons_of_tick hMoment hFlag, hStarts, hStartsNow,
        hFired, List.length_cons]
      -- a tick that fires adds one start, and one that does not adds one skip
      cases fires with
      | true =>
        rw [Bool.toNat_true] at hFiredNow
        rw [Bool.not_true, Bool.toNat_false] at hSkippedNow
        refine ⟨?_, ?_, by omega⟩
        · rw [List.filter_cons_of_pos rfl, List.map_cons, List.reverse_cons, List.append_assoc]
          rfl
        · rw [List.countP_cons_of_pos rfl]
          omega
      | false =>
        rw [Bool.toNat_false] at hFiredNow
        rw [Bool.not_false, Bool.toNat_true] at hSkippedNow
        refine ⟨?_, ?_, by omega⟩
        · rw [List.filter_cons_of_neg (by simp)]
          rfl
        · rw [List.countP_cons_of_neg (by simp)]
          omega
    -- nothing else starts a job or counts a tick
    · have hNone := tick?_of_ne (m := ⟨s.waitUntil time, .due due⟩) (by simpa using hTick)
      have hQuiet := State.quiet_handle settings w hTick (s.waitUntil time)
      rw [hQuiet.starts, hQuiet.fired, hQuiet.skipped] at ih
      rw [ticks_cons_of_none hNone, firings_cons_of_none hNone]
      exact ih
  | @outside s s' entry rest hEntry hRest ih =>
    have hNone := tick?_of_ne (m := ⟨s.waitUntil entry.1, .outside entry.2⟩) (by simp)
    have hQuiet := State.quiet_perform settings entry.2 (s.waitUntil entry.1)
    rw [hQuiet.starts, hQuiet.fired, hQuiet.skipped] at ih
    rw [ticks_cons_of_none hNone, firings_cons_of_none hNone]
    exact ih

-- ---------------------------------------------------------------------------
-- Jobs of a known length
-- ---------------------------------------------------------------------------

/-- Each job that a log sees started ends by itself when it has been busy for this long, if it
was not dropped by then. -/
def Lasts (busy : Nat) (log : List (Nat × Event)) : Prop :=
  ∀ start number, (start, .started number) ∈ log →
    (start + busy, .finished number) ∈ log ∨ (start + busy, .crashed number) ∈ log ∨
      ∃ time ≤ start + busy, (time, .dropped number) ∈ log

/-- That all jobs last so long can be read off the log, start by start. -/
theorem lasts_iff {busy : Nat} {log : List (Nat × Event)} :
    Lasts busy log ↔ ∀ p ∈ starts log,
      (p.1 + busy, .finished p.2) ∈ log ∨ (p.1 + busy, .crashed p.2) ∈ log ∨
        ∃ e ∈ log, e.1 ≤ p.1 + busy ∧ e.2 = .dropped p.2 := by
  constructor
  · rintro hLasts ⟨start, number⟩ hStart
    refine (hLasts start number (mem_starts.mp hStart)).imp_right (Or.imp_right ?_)
    rintro ⟨time, hTime, hDropped⟩
    exact ⟨_, hDropped, hTime, rfl⟩
  · intro hAll start number hStart
    refine (hAll _ (mem_starts.mpr hStart)).imp_right (Or.imp_right ?_)
    rintro ⟨⟨time, _⟩, hDropped, hTime, rfl⟩
    exact ⟨time, hTime, hDropped⟩

instance (busy : Nat) (log : List (Nat × Event)) : Decidable (Lasts busy log) :=
  decidable_of_iff _ lasts_iff.symm

section

variable {s r : State W J} {busy start number : Nat}

theorem mem_endedJobs {log : List (Nat × Event)} :
    number ∈ endedJobs log ↔ ∃ e ∈ log, e.2.endedJob? = some number := List.mem_filterMap

/-- A job ends once. -/
theorem eq_of_endedJob {log : List (Nat × Event)} (hOnce : (endedJobs log).Nodup)
    {e e' : Nat × Event} (he : e ∈ log) (he' : e' ∈ log)
    (hEnded : e.2.endedJob? = some number) (hEnded' : e'.2.endedJob? = some number) : e = e' := by
  by_contra hNe
  rw [endedJobs, List.Nodup, List.pairwise_filterMap] at hOnce
  have hSymm : Std.Symm fun a b : Nat × Event =>
      ∀ n, a.2.endedJob? = some n → ∀ n', b.2.endedJob? = some n' → n ≠ n' :=
    ⟨fun a b hab n hn n' hn' hEq => hab n' hn' n hn hEq.symm⟩
  exact hOnce.forall he he' hNe number hEnded number hEnded' rfl

/-- The end of a job that lasts, whichever it is. -/
theorem Lasts.ended {log : List (Nat × Event)} (hLasts : Lasts busy log)
    (hStart : (start, .started number) ∈ log) :
    ∃ e ∈ log, e.2.endedJob? = some number ∧ e.1 ≤ start + busy ∧
      (e.2.isDropped = false → e.1 = start + busy) := by
  rcases hLasts start number hStart with hEnd | hEnd | ⟨time, hTime, hEnd⟩
  · exact ⟨_, hEnd, rfl, Nat.le_refl _, fun _ => rfl⟩
  · exact ⟨_, hEnd, rfl, Nat.le_refl _, fun _ => rfl⟩
  · exact ⟨_, hEnd, rfl, hTime, by simp [Event.isDropped]⟩

/-- A job that has not ended is not past its time. -/
theorem le_of_unended (hExt : Extends s r) (hLasts : Lasts busy r.log)
    (hStart : (start, .started number) ∈ s.log) (hLive : number ∉ endedJobs s.log) :
    s.now ≤ start + busy := by
  obtain ⟨e, he, hEnded, hTime, -⟩ := hLasts.ended (hExt.subset hStart)
  obtain ⟨-, later, hLog, hLater⟩ := hExt
  rw [hLog] at he
  rcases List.mem_append.mp he with he | he
  · exact Nat.le_trans (hLater e he).1 hTime
  · exact absurd (mem_endedJobs.mpr ⟨e, he, hEnded⟩) hLive

/-- A job whose time is not up has not ended, if no job was dropped yet. -/
theorem unended_of_lt (hExt : Extends s r) (hLasts : Lasts busy r.log)
    (hOnce : (endedJobs r.log).Nodup) (hPast : ∀ e ∈ s.log, e.1 ≤ s.now)
    (hKept : ∀ e ∈ s.log, e.2.isDropped = false) (hStart : (start, .started number) ∈ s.log)
    (hTime : s.now < start + busy) : number ∉ endedJobs s.log := by
  intro hEnded
  obtain ⟨e, he, hSome⟩ := mem_endedJobs.mp hEnded
  obtain ⟨e', he', hSome', -, hAt⟩ := hLasts.ended (hExt.subset hStart)
  obtain rfl : e = e' := eq_of_endedJob hOnce (hExt.subset he) he' hSome hSome'
  have hNow := hPast e he
  rw [hAt (hKept e he)] at hNow
  omega

theorem nodup_ended (hCons : State.Conserved settings [] s) : (endedJobs s.log).Nodup :=
  (List.nodup_append.mp (hCons.ended.nodup_iff.mpr List.nodup_range)).1

/-- The live jobs are those that have not ended. -/
theorem length_live (hCons : State.Conserved settings [] s) :
    s.live.length = (starts s.log).countP fun p => p.2 ∉ endedJobs s.log := by
  have hNodup := List.nodup_append.mp (hCons.ended.nodup_iff.mpr List.nodup_range)
  have hCount := hCons.ended.countP_eq fun n => decide (n ∉ endedJobs s.log)
  have hOld : (endedJobs s.log).countP (fun n => decide (n ∉ endedJobs s.log)) = 0 :=
    List.countP_eq_zero.mpr fun n hn => by simpa using hn
  have hNew : (s.live.map Live.number).countP (fun n => decide (n ∉ endedJobs s.log)) =
      (s.live.map Live.number).length := by
    refine List.countP_eq_length.mpr fun n hn => decide_eq_true fun hEnded => ?_
    exact hNodup.2.2 n hEnded n hn rfl
  rw [List.nil_append, List.countP_append, hOld, hNew, List.length_map, Nat.zero_add] at hCount
  rw [hCount, ← List.countP_reverse, ← hCons.started, ← map_snd_starts, List.countP_map]
  rfl

/-- The starts that have not come to their end by a time. -/
def pending (busy now : Nat) (times : List Nat) : Nat :=
  times.countP fun start => decide (start ≤ now ∧ now ≤ start + busy)

/-- A log that is added to has as many pending starts at least. -/
theorem Extends.pending_le (hExt : Extends s r) (busy now : Nat) :
    pending busy now ((starts s.log).map Prod.fst) ≤
      pending busy now ((starts r.log).map Prod.fst) := by
  obtain ⟨-, later, hLog, -⟩ := hExt
  rw [hLog, starts_append, List.map_append, pending, pending, List.countP_append]
  exact Nat.le_add_left ..

/-- **The live jobs were started before, and their time is not over.** -/
theorem length_live_le (hCons : State.Conserved settings [] s) (hExt : Extends s r)
    (hPast : ∀ e ∈ s.log, e.1 ≤ s.now) (hLasts : Lasts busy r.log) :
    s.live.length ≤ pending busy s.now ((starts s.log).map Prod.fst) := by
  rw [length_live hCons, pending, List.countP_map]
  refine List.countP_mono_left fun ⟨start, number⟩ hStart hLive => ?_
  replace hStart := mem_starts.mp hStart
  exact decide_eq_true
    ⟨hPast _ hStart, le_of_unended hExt hLasts hStart (of_decide_eq_true hLive)⟩

/-- **The live jobs are those whose time is not up**, if no job was dropped yet and none is just
coming to its end. -/
theorem length_live_eq (hCons : State.Conserved settings [] s) (hExt : Extends s r)
    (hPast : ∀ e ∈ s.log, e.1 ≤ s.now) (hLasts : Lasts busy r.log)
    (hOnce : (endedJobs r.log).Nodup) (hKept : ∀ e ∈ s.log, e.2.isDropped = false)
    (hOff : ∀ start ∈ (starts s.log).map Prod.fst, s.now ≠ start + busy) :
    s.live.length =
      ((starts s.log).map Prod.fst).countP fun start => decide (s.now < start + busy) := by
  rw [length_live hCons, List.countP_map]
  refine List.countP_congr fun ⟨start, number⟩ hStart => ?_
  have hNot := hOff start (List.mem_map.mpr ⟨_, hStart, rfl⟩)
  replace hStart := mem_starts.mp hStart
  simp only [decide_eq_true_eq, Function.comp_apply]
  constructor
  · intro hLive
    have := le_of_unended hExt hLasts hStart hLive
    omega
  · exact unended_of_lt hExt hLasts hOnce hPast hKept hStart

end

end DueDispatch.Schedule
