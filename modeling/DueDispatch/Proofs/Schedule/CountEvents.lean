import DueDispatch.Proofs.Schedule.Counts
import DueDispatch.Proofs.Schedule.Grid

/-!
# DueDispatch — the events of count reports

What can be told of a reporter from outside is when its counts begin, when they end and what
comes of them. These are the events of a run, and its counts are read off them: one that has
ended has done so with the next event.

`Leads` says how states follow one another, a step from outside only coming when nothing is
due before it. Everything about whole runs is proved by induction on it.

## Results

* `leads_run` — the events of a run lead to the state that it ends in.
* `delays_of_run` — an interval of at most thirty years goes on as it is said to.
* `Leads.unfolds` — the counts of a run follow one another, and those that succeed are
  reported.
* `Follows.pairwise` — counts that follow one another do not overlap and keep apart.
-/

namespace DueDispatch.Schedule

-- ---------------------------------------------------------------------------
-- One tick
-- ---------------------------------------------------------------------------

/-- The deadline that follows a tick that is not made up for: a period later, or a period after
its handling if the tick was missed. -/
def Tick.delayed (period : Nat) (t : Tick) : Nat :=
  if t.handled ≤ t.deadline + tolerance then t.deadline + period else t.handled + period

/-- The interval goes on after a tick, and from its handling if it was missed. -/
def Tick.Delays (period : Nat) (t : Tick) : Prop :=
  nextDeadline .delay period t.deadline t.handled = t.delayed period

instance (period : Nat) : DecidablePred (Tick.Delays period) := fun _ =>
  inferInstanceAs (Decidable (_ = _))

namespace Tick

variable {period : Nat} {t : Tick}

/-- An interval of at most thirty years goes on as it is said to. -/
theorem delays_of_reach (hLongest : period ≤ longestWait) (hNow : t.deadline ≤ t.handled) :
    t.Delays period := by
  refine timerDeadline_eq ?_
  show (if t.handled ≤ t.deadline + tolerance then t.deadline + period
    else t.handled + period) ≤ t.handled + longestWait
  split <;> omega

/-- From the handling of a tick to the deadline after it there is a period, but for the
tolerance. -/
theorem handled_add_le_delayed (period : Nat) (t : Tick) :
    t.handled + period ≤ t.delayed period + tolerance := by
  unfold delayed
  split <;> omega

/-- A tick that waits for nothing but its timer is not missed. -/
theorem delayed_fires (period deadline : Nat) :
    Tick.delayed period ⟨deadline, fires deadline⟩ = deadline + period := by
  have hTolerance : Duration.nanosPerMilli ≤ tolerance := by decide
  have hSoon := fires_lt_add deadline
  exact if_pos (by simp only; omega)

end Tick

namespace CountReports

-- ---------------------------------------------------------------------------
-- Events and counts
-- ---------------------------------------------------------------------------

/-- What can be told of a count from outside, its outcome being of any kind. -/
inductive Event (α : Type)
  | begun (tick : Tick)
  | ended (time : Nat) (outcome : α)
deriving DecidableEq

/-- A count, as it is read off the events. -/
structure Count (α : Type) where
  /-- The tick with which it began. -/
  tick : Tick
  /-- When it ended and what came of it, if it has ended. -/
  ended? : Option (Nat × α)
deriving DecidableEq

section

variable {α : Type}

/-- The end that comes next, if one does. -/
def endedBy : List (Event α) → Option (Nat × α)
  | .ended time outcome :: _ => some (time, outcome)
  | _ => none

/-- The counts among events, in order. -/
def counts : List (Event α) → List (Count α)
  | [] => []
  | .begun tick :: rest => ⟨tick, endedBy rest⟩ :: counts rest
  | .ended _ _ :: rest => counts rest

def Event.tick? : Event α → Option Tick
  | .begun tick => some tick
  | .ended _ _ => none

/-- When an event happens. -/
def Event.time : Event α → Nat
  | .begun tick => tick.handled
  | .ended time _ => time

/-- The ticks among events, in order. -/
def ticks (es : List (Event α)) : List Tick := es.filterMap Event.tick?

@[simp] theorem ticks_begun (tick : Tick) (es : List (Event α)) :
    ticks (.begun tick :: es) = tick :: ticks es := rfl

@[simp] theorem ticks_append (es es' : List (Event α)) :
    ticks (es ++ es') = ticks es ++ ticks es' := List.filterMap_append

theorem begun_of_mem_ticks {es : List (Event α)} {tick : Tick} (hTick : tick ∈ ticks es) :
    .begun tick ∈ es := by
  obtain ⟨e, he, hSome⟩ := List.mem_filterMap.mp hTick
  cases e with
  | begun tick' =>
    obtain rfl : tick' = tick := Option.some.inj hSome
    exact he
  | ended time outcome => contradiction

/-- Each count begins with a tick. -/
theorem map_tick_counts (es : List (Event α)) : (counts es).map Count.tick = ticks es := by
  induction es with
  | nil => rfl
  | cons e rest ih =>
    cases e with
    | begun tick => exact congrArg (tick :: ·) ih
    | ended time outcome => exact ih

/-- A count that begins does not concern those before it. -/
theorem counts_append_begun (es : List (Event α)) (tick : Tick) (rest : List (Event α)) :
    counts (es ++ .begun tick :: rest) = counts es ++ ⟨tick, endedBy rest⟩ :: counts rest := by
  induction es with
  | nil => rfl
  | cons e es ih =>
    cases e with
    | begun tick' =>
      have hSame : endedBy (es ++ .begun tick :: rest) = endedBy es := by
        cases es with
        | nil => rfl
        | cons e _ => cases e <;> rfl
      rw [List.cons_append, counts, counts, hSame, ih]
      rfl
    | ended time outcome => exact ih

end

/-- What is reported of a count that ends. -/
def reported (time : Nat) : Except Error Nat → Option (Nat × Nat)
  | .ok total => some (time, total)
  | .error _ => none

/-- What is reported of a count: its total, if it succeeds. -/
def Count.report? (a : Count (Except Error Nat)) : Option (Nat × Nat) :=
  a.ended?.bind fun e => reported e.1 e.2

theorem reports_cons (tick : Tick) (time : Nat) (outcome : Except Error Nat)
    (as : List (Count (Except Error Nat))) :
    List.filterMap Count.report? (⟨tick, some (time, outcome)⟩ :: as) =
      (reported time outcome).toList ++ as.filterMap Count.report? := by
  cases outcome <;> rfl

-- ---------------------------------------------------------------------------
-- The events of a run
-- ---------------------------------------------------------------------------

variable {W : Type} {c : Counter W} {period : Nat} {hPeriod : 0 < period}

namespace State

/-- The event that comes of what is due now. -/
def event? (c : Counter W) (s : State W) : Option (Event (Except Error Nat)) :=
  match s.phase with
  | .waiting deadline => some (.begun ⟨deadline, s.now⟩)
  | .counting _ _ => some (.ended s.now (c.total s.world).1)
  | .stopped _ => none

/-- The events before `limit`, in order. -/
def eventsUntil (c : Counter W) (period : Nat) (hPeriod : 0 < period) (limit : Nat)
    (s : State W) : List (Event (Except Error Nat)) :=
  match _hDue : s.due? with
  | none => []
  | some time =>
    if _hLimit : time < limit then
      ((s.waitUntil time).event? c).toList ++
        eventsUntil c period hPeriod limit ((s.waitUntil time).handle c period)
    else []
termination_by s.left limit
decreasing_by exact left_handle_lt c hPeriod s _hDue _hLimit

/-- The state that a step from outside at this time meets. -/
def met (c : Counter W) (period : Nat) (hPeriod : 0 < period) (time : Nat) (s : State W) :
    State W :=
  (s.runUntil c period hPeriod time).waitUntil time

/-- The events under a script, and the end of the count under way after it. -/
def events (c : Counter W) (period : Nat) (hPeriod : 0 < period) :
    Script W → State W → List (Event (Except Error Nat))
  | [], s =>
    match s.phase with
    | .counting ends _ => ((s.waitUntil ends).event? c).toList
    | _ => []
  | entry :: rest, s =>
    s.eventsUntil c period hPeriod entry.1 ++
      events c period hPeriod rest (s.advance c period hPeriod entry)

variable {s : State W} {limit time : Nat}

/-- What is due before the limit happens first. -/
theorem eventsUntil_of_due (hDue : s.due? = some time) (hLimit : time < limit) :
    s.eventsUntil c period hPeriod limit =
      ((s.waitUntil time).event? c).toList ++
        ((s.waitUntil time).handle c period).eventsUntil c period hPeriod limit := by
  rw [eventsUntil]
  split
  · rename_i hNone
    rw [hDue] at hNone
    contradiction
  · rename_i time' hSome
    obtain rfl : time = time' := Option.some.inj (hDue.symm.trans hSome)
    rw [dif_pos hLimit]

/-- Nothing happens if nothing is due before the limit. -/
theorem eventsUntil_of_le (hLimit : ∀ time, s.due? = some time → limit ≤ time) :
    s.eventsUntil c period hPeriod limit = [] := by
  rw [eventsUntil]
  split
  · rfl
  · rename_i time hSome
    rw [dif_neg (Nat.not_lt.mpr (hLimit time hSome))]

theorem runUntil_of_due (hDue : s.due? = some time) (hLimit : time < limit) :
    s.runUntil c period hPeriod limit =
      ((s.waitUntil time).handle c period).runUntil c period hPeriod limit := by
  rw [runUntil]
  split
  · rename_i hNone
    rw [hDue] at hNone
    contradiction
  · rename_i time' hSome
    obtain rfl : time = time' := Option.some.inj (hDue.symm.trans hSome)
    rw [dif_pos hLimit]

theorem runUntil_of_le (hLimit : ∀ time, s.due? = some time → limit ≤ time) :
    s.runUntil c period hPeriod limit = s := by
  rw [runUntil]
  split
  · rfl
  · rename_i time hSome
    rw [dif_neg (Nat.not_lt.mpr (hLimit time hSome))]

end State

/-- The events of a run, in order. -/
def events (c : Counter W) (period : Nat) (hPeriod : 0 < period) (script : Script W)
    (world : W) : List (Event (Except Error Nat)) :=
  State.events c period hPeriod script { world }

/-- These events lead from the first state to the second. Steps from outside are taken from the
script, and nothing is due before them. -/
inductive Leads (c : Counter W) (period : Nat) (script : Script W) :
    State W → List (Event (Except Error Nat)) → State W → Prop
  | nil (s : State W) : Leads c period script s [] s
  | begun {s s' : State W} {deadline : Nat} {es : List (Event (Except Error Nat))}
      (hPhase : s.phase = .waiting deadline)
      (hRest : Leads c period script ((s.waitUntil (fires deadline)).tick c period deadline) es
        s') :
      Leads c period script s (.begun ⟨deadline, (s.waitUntil (fires deadline)).now⟩ :: es) s'
  | ended {s s' : State W} {ends next : Nat} {es : List (Event (Except Error Nat))}
      (hPhase : s.phase = .counting ends next)
      (hRest : Leads c period script ((s.waitUntil ends).endCount c next) es s') :
      Leads c period script s (.ended (s.waitUntil ends).now (c.total s.world).1 :: es) s'
  | outside {s s' : State W} {entry : Nat × Step W} {es : List (Event (Except Error Nat))}
      (hEntry : entry ∈ script) (hFirst : ∀ time, s.due? = some time → entry.1 ≤ time)
      (hRest : Leads c period script ((s.waitUntil entry.1).perform entry.2) es s') :
      Leads c period script s es s'

variable {script : Script W} {s s' s'' : State W} {es es' : List (Event (Except Error Nat))}

/-- Events that lead on may be put together. -/
theorem Leads.append (hFirst : Leads c period script s es s')
    (hSecond : Leads c period script s' es' s'') :
    Leads c period script s (es ++ es') s'' := by
  induction hFirst with
  | nil s => exact hSecond
  | begun hPhase _ ih => exact .begun hPhase (ih hSecond)
  | ended hPhase _ ih => exact .ended hPhase (ih hSecond)
  | outside hEntry hFirst _ ih => exact .outside hEntry hFirst (ih hSecond)

/-- What is due is a tick, or the end of the count under way. -/
theorem Leads.due {time : Nat} (hDue : s.due? = some time)
    (hRest : Leads c period script ((s.waitUntil time).handle c period) es s') :
    Leads c period script s (((s.waitUntil time).event? c).toList ++ es) s' := by
  cases hPhase : s.phase with
  | waiting deadline =>
    obtain rfl : fires deadline = time := by simpa [State.due?, hPhase] using hDue
    have hEvent : (s.waitUntil (fires deadline)).event? c =
        some (.begun ⟨deadline, (s.waitUntil (fires deadline)).now⟩) := by
      simp only [State.event?, State.waitUntil, hPhase]
    have hHandle : (s.waitUntil (fires deadline)).handle c period =
        (s.waitUntil (fires deadline)).tick c period deadline := by
      simp only [State.handle, State.waitUntil, hPhase]
    rw [hHandle] at hRest
    rw [hEvent]
    exact .begun hPhase hRest
  | counting ends next =>
    obtain rfl : ends = time := by simpa [State.due?, hPhase] using hDue
    have hEvent : (s.waitUntil ends).event? c =
        some (.ended (s.waitUntil ends).now (c.total s.world).1) := by
      simp only [State.event?, State.waitUntil, hPhase]
    have hHandle : (s.waitUntil ends).handle c period = (s.waitUntil ends).endCount c next := by
      simp only [State.handle, State.waitUntil, hPhase]
    rw [hHandle] at hRest
    rw [hEvent]
    exact .ended hPhase hRest
  | stopped time => simp [State.due?, hPhase] at hDue

/-- The events until a limit lead to the state that is reached by then. -/
theorem leads_eventsUntil (c : Counter W) (hPeriod : 0 < period) (script : Script W)
    (limit : Nat) (s : State W) :
    Leads c period script s (s.eventsUntil c period hPeriod limit)
      (s.runUntil c period hPeriod limit) := by
  fun_induction s.runUntil c period hPeriod limit with
  | case1 s hNone =>
    rw [State.eventsUntil_of_le (by simp [hNone])]
    exact .nil s
  | case2 s time hDue hLimit ih =>
    rw [State.eventsUntil_of_due hDue hLimit]
    exact .due hDue ih
  | case3 s time hDue hLimit =>
    rw [State.eventsUntil_of_le (by simpa [hDue] using hLimit)]
    exact .nil s

/-- The events under a script lead to the state in which it ends. -/
theorem leads_events (c : Counter W) (hPeriod : 0 < period) {script entries : Script W}
    (hScript : entries ⊆ script) (s : State W) :
    Leads c period script s (s.events c period hPeriod entries)
      ((entries.foldl (State.advance c period hPeriod) s).finish c period) := by
  induction entries generalizing s with
  | nil =>
    simp only [State.events, List.foldl_nil, State.finish]
    cases hPhase : s.phase with
    | counting ends next =>
      have hDue : s.due? = some ends := by rw [State.due?, hPhase]
      have hLast : Leads c period script s _ _ :=
        .due hDue (.nil ((s.waitUntil ends).handle c period))
      rwa [List.append_nil] at hLast
    | _ => exact .nil s
  | cons entry rest ih =>
    obtain ⟨hEntry, hRest⟩ := List.cons_subset.mp hScript
    exact (leads_eventsUntil c hPeriod script entry.1 s).append
      (.outside hEntry (State.le_due_runUntil c hPeriod entry.1 s) (ih hRest _))

/-- **The events of a run lead to the state that it ends in.** -/
theorem leads_run (c : Counter W) {period : Duration} (hPeriod : 0 < period.toNanos)
    (script : Script W) (world : W) :
    ∃ r, run c period script world = .ok r ∧
      Leads c period.toNanos script { world } (events c period.toNanos hPeriod script world) r :=
  ⟨_, dif_pos hPeriod, leads_events c hPeriod (List.Subset.refl script) _⟩

/-- No tick is handled before its deadline. -/
theorem Leads.deadline_le (hLeads : Leads c period script s es s') :
    ∀ t ∈ ticks es, t.deadline ≤ t.handled := by
  induction hLeads with
  | nil s => simp [ticks]
  | @begun s s' deadline es hPhase _ ih =>
    exact List.forall_mem_cons.mpr
      ⟨Nat.le_trans (le_fires deadline) (Nat.le_max_right ..), ih⟩
  | ended _ _ ih => exact ih
  | outside _ _ _ ih => exact ih

/-- **An interval of at most thirty years goes on as it is said to** from each tick of a
run. -/
theorem delays_of_run (c : Counter W) (hPeriod : 0 < period) (hLongest : period ≤ longestWait)
    (script : Script W) (world : W) :
    ∀ t ∈ ticks (events c period hPeriod script world), t.Delays period := by
  intro t ht
  have hNow := (leads_events c hPeriod (List.Subset.refl script) { world }).deadline_le t ht
  exact Tick.delays_of_reach hLongest hNow

/-- The events before a step from outside, and those from it on. -/
theorem State.events_append (c : Counter W) (hPeriod : 0 < period) {script before : Script W}
    (hBefore : before ⊆ script) (entry : Nat × Step W) (after : Script W) (s : State W) :
    ∃ earlier,
      s.events c period hPeriod (before ++ entry :: after) =
        earlier ++ State.events c period hPeriod after
          ((before.foldl (State.advance c period hPeriod) s).advance c period hPeriod entry) ∧
      Leads c period script s earlier
        ((before.foldl (State.advance c period hPeriod) s).runUntil c period hPeriod
          entry.1) := by
  induction before generalizing s with
  | nil => exact ⟨_, rfl, leads_eventsUntil c hPeriod script entry.1 s⟩
  | cons first rest ih =>
    obtain ⟨hFirst, hRest⟩ := List.cons_subset.mp hBefore
    obtain ⟨earlier, hEvents, hLeads⟩ := ih hRest (s.advance c period hPeriod first)
    refine ⟨s.eventsUntil c period hPeriod first.1 ++ earlier, ?_, ?_⟩
    · rw [List.cons_append, State.events, hEvents, List.append_assoc]
      rfl
    · exact (leads_eventsUntil c hPeriod script first.1 s).append
        (.outside hFirst (State.le_due_runUntil c hPeriod first.1 s) hLeads)

-- ---------------------------------------------------------------------------
-- Counts that follow one another
-- ---------------------------------------------------------------------------

/-- These counts follow one another. The first one waits for this deadline, and for the end of
what was before; each one ends before the next, which waits for the deadline that follows. -/
def Follows {α : Type} (period : Nat) : (deadline earliest : Nat) → List (Count α) → Prop
  | _, _, [] => True
  | deadline, earliest, a :: rest =>
    a.tick.deadline = deadline ∧ deadline ≤ a.tick.handled ∧ earliest ≤ a.tick.handled ∧
      match a.ended? with
      | none => rest = []
      | some (time, _) => a.tick.handled ≤ time ∧ Follows period (a.tick.delayed period) time rest

/-- The first of two counts is over when the second one begins, and a period has passed since it
began, but for the tolerance. -/
structure Apart {α : Type} (period : Nat) (a b : Count α) : Prop where
  ended : ∃ time outcome, a.ended? = some (time, outcome) ∧ time ≤ b.tick.handled
  apart : a.tick.handled + period ≤ b.tick.handled + tolerance

namespace Follows

variable {α : Type} {deadline earliest : Nat} {as : List (Count α)}

theorem mono {before : Nat} (hFollows : Follows period deadline earliest as)
    (hBefore : before ≤ earliest) : Follows period deadline before as := by
  cases as with
  | nil => trivial
  | cons a rest =>
    obtain ⟨hSame, hLate, hEarliest, hRest⟩ := hFollows
    exact ⟨hSame, hLate, Nat.le_trans hBefore hEarliest, hRest⟩

/-- No count that follows begins before the deadline, or before the end of what was before. -/
theorem le_handled (hFollows : Follows period deadline earliest as) :
    ∀ a ∈ as, deadline ≤ a.tick.handled ∧ earliest ≤ a.tick.handled := by
  induction as generalizing deadline earliest with
  | nil => simp
  | cons a rest ih =>
    obtain ⟨-, hLate, hEarliest, hRest⟩ := hFollows
    refine List.forall_mem_cons.mpr ⟨⟨hLate, hEarliest⟩, fun b hb => ?_⟩
    split at hRest
    · rw [hRest] at hb
      contradiction
    · have := (ih hRest.2 b hb).2
      omega

/-- No count ends before it begins. -/
theorem handled_le_end (hFollows : Follows period deadline earliest as) :
    ∀ a ∈ as, ∀ e ∈ a.ended?, a.tick.handled ≤ e.1 := by
  induction as generalizing deadline earliest with
  | nil => simp
  | cons a rest ih =>
    obtain ⟨-, -, -, hRest⟩ := hFollows
    split at hRest
    · rename_i hNone
      rw [hRest]
      simp [hNone]
    · rename_i time outcome hSome
      refine List.forall_mem_cons.mpr ⟨?_, ih hRest.2⟩
      intro e he
      obtain rfl : (time, outcome) = e := by simpa [hSome] using he
      exact hRest.1

/-- **Counts that follow one another do not overlap and keep apart.** -/
theorem pairwise (hFollows : Follows period deadline earliest as) :
    as.Pairwise (Apart period) := by
  induction as generalizing deadline earliest with
  | nil => exact List.Pairwise.nil
  | cons a rest ih =>
    obtain ⟨-, -, -, hRest⟩ := hFollows
    split at hRest
    · rw [hRest]
      exact List.pairwise_singleton _ _
    · rename_i time outcome hSome
      refine List.pairwise_cons.mpr ⟨fun b hb => ?_, ih hRest.2⟩
      obtain ⟨hDeadline, hOver⟩ := hRest.2.le_handled b hb
      have hDelayed := a.tick.handled_add_le_delayed period
      exact ⟨⟨time, outcome, hSome, hOver⟩, by omega⟩

end Follows

-- ---------------------------------------------------------------------------
-- What comes of a reporter
-- ---------------------------------------------------------------------------

namespace State

/-- A tick begins a count. -/
theorem tick_of_delays {deadline : Nat} (hDelays : Tick.Delays period ⟨deadline, s.now⟩)
    (c : Counter W) :
    s.tick c period deadline =
      { s with
        counts := s.counts + 1
        phase := .counting (wakeTime s.now (c.latency s.counts))
          (Tick.delayed period ⟨deadline, s.now⟩) } := by
  rw [← hDelays]
  rfl

theorem reports_endCount (c : Counter W) (next : Nat) (s : State W) :
    (s.endCount c next).reports =
      (reported s.now (c.total s.world).1).toList ++ s.reports := by
  rw [endCount]
  cases (c.total s.world).1 <;> rfl

/-- A step from outside reports nothing; a phase is only left by a shutdown. -/
theorem perform_cases (s : State W) (step : Step W) :
    (s.perform step).reports = s.reports ∧ s.now ≤ (s.perform step).now ∧
      ((s.perform step).phase = s.phase ∨
        step = .shutdown ∧ (∃ deadline, s.phase = .waiting deadline) ∧
          (s.perform step).phase = .stopped s.now) := by
  cases step with
  | shutdown =>
    simp only [perform, shutdown]
    cases hPhase : s.phase with
    | waiting deadline => exact ⟨rfl, Nat.le_refl _, Or.inr ⟨trivial, ⟨deadline, rfl⟩, rfl⟩⟩
    | _ => exact ⟨rfl, Nat.le_refl _, Or.inl rfl⟩
  | abort => exact ⟨rfl, Nat.le_refl _, Or.inl rfl⟩
  | jump span => exact ⟨rfl, Nat.le_add_right .., Or.inl rfl⟩
  | edit change => exact ⟨rfl, Nat.le_refl _, Or.inl rfl⟩

/-- A step from outside leaves every phase but a wait as it is. -/
theorem phase_perform {phase : Phase} (hPhase : s.phase = phase)
    (hNot : ∀ deadline, phase ≠ .waiting deadline) (step : Step W) :
    (s.perform step).phase = phase := by
  obtain ⟨-, -, hSame | ⟨-, ⟨deadline, hWaiting⟩, -⟩⟩ := perform_cases s step
  · exact hSame.trans hPhase
  · exact absurd (hPhase.symm.trans hWaiting) (hNot deadline)

end State

/-- What comes of a reporter in this phase: its events, and what they add to the reports. -/
def Unfolds (period now : Nat) (phase : Phase) (es : List (Event (Except Error Nat)))
    (reports : List (Nat × Nat)) : Prop :=
  match phase with
  | .waiting deadline =>
    Follows period deadline now (counts es) ∧ reports = (counts es).filterMap Count.report?
  | .counting _ next =>
    (es = [] ∧ reports = []) ∨
      ∃ time outcome later, es = .ended time outcome :: later ∧ now ≤ time ∧
        Follows period next time (counts later) ∧
        reports = (reported time outcome).toList ++ (counts later).filterMap Count.report?
  | .stopped _ => es = [] ∧ reports = []

theorem unfolds_nil (period now : Nat) (phase : Phase) : Unfolds period now phase [] [] := by
  cases phase with
  | waiting deadline => exact ⟨trivial, rfl⟩
  | counting ends next => exact Or.inl ⟨rfl, rfl⟩
  | stopped time => exact ⟨rfl, rfl⟩

/-- What comes of a reporter from a later time on comes of it from an earlier one on. -/
theorem Unfolds.mono {now later : Nat} {phase : Phase} {reports : List (Nat × Nat)}
    (hUnfolds : Unfolds period later phase es reports) (hNow : now ≤ later) :
    Unfolds period now phase es reports := by
  cases phase with
  | waiting deadline => exact ⟨hUnfolds.1.mono hNow, hUnfolds.2⟩
  | counting ends next =>
    refine hUnfolds.imp_right ?_
    rintro ⟨time, outcome, rest, hEnd, hTime, hRest⟩
    exact ⟨time, outcome, rest, hEnd, Nat.le_trans hNow hTime, hRest⟩
  | stopped time => exact hUnfolds

/-- **The counts of a run follow one another, and those that succeed are reported.** -/
theorem Leads.unfolds (hLeads : Leads c period script s es s')
    (hInterval : ∀ t ∈ ticks es, t.Delays period) :
    ∃ reports, s'.reports = reports.reverse ++ s.reports ∧
      Unfolds period s.now s.phase es reports := by
  induction hLeads with
  | nil s => exact ⟨[], rfl, unfolds_nil ..⟩
  | @begun s s' deadline es hPhase _ ih =>
    obtain ⟨hTick, hLater⟩ := List.forall_mem_cons.mp hInterval
    have hLate : deadline ≤ (s.waitUntil (fires deadline)).now :=
      Nat.le_trans (le_fires deadline) (Nat.le_max_right ..)
    obtain ⟨reports, hReports, hUnfolds⟩ := ih hLater
    rw [State.tick_of_delays hTick] at hReports hUnfolds
    refine ⟨reports, hReports, ?_⟩
    rw [hPhase]
    rcases hUnfolds with ⟨rfl, rfl⟩ | ⟨ends, outcome, later, rfl, hTime, hFollows, rfl⟩
    · exact ⟨⟨rfl, hLate, Nat.le_max_left .., rfl⟩, rfl⟩
    · exact ⟨⟨rfl, hLate, Nat.le_max_left .., hTime, hFollows⟩, (reports_cons ..).symm⟩
  | @ended s s' ends next es hPhase _ ih =>
    obtain ⟨reports, hReports, hUnfolds⟩ := ih hInterval
    rw [State.reports_endCount, ← List.append_assoc] at hReports
    rw [hPhase]
    refine ⟨(reported (s.waitUntil ends).now (c.total s.world).1).toList ++ reports, ?_,
      Or.inr ⟨_, _, _, rfl, Nat.le_max_left .., ?_⟩⟩
    · rw [hReports, List.reverse_append]
      show _ ++ (reported _ (c.total s.world).1).toList ++ _ = _
      cases reported (s.waitUntil ends).now (c.total s.world).1 <;> rfl
    · change Unfolds period (s.waitUntil ends).now
        (if s.shuttingDown then .stopped (s.waitUntil ends).now else .waiting next) _ _ at hUnfolds
      split at hUnfolds
      · obtain ⟨rfl, rfl⟩ := hUnfolds
        exact ⟨trivial, rfl⟩
      · exact ⟨hUnfolds.1, congrArg (_ ++ ·) hUnfolds.2⟩
  | @outside s s' entry es hEntry hFirst _ ih =>
    obtain ⟨reports, hReports, hUnfolds⟩ := ih hInterval
    obtain ⟨hSame, hNow, hPhase⟩ := State.perform_cases (s.waitUntil entry.1) entry.2
    have hLater : s.now ≤ ((s.waitUntil entry.1).perform entry.2).now :=
      Nat.le_trans (Nat.le_max_left ..) hNow
    refine ⟨reports, hReports.trans (congrArg (reports.reverse ++ ·) hSame), ?_⟩
    rcases hPhase with hPhase | ⟨-, -, hStopped⟩
    · rw [hPhase] at hUnfolds
      exact hUnfolds.mono hLater
    -- a shutdown that meets no count under way ends the reports
    · rw [hStopped] at hUnfolds
      rw [hUnfolds.1, hUnfolds.2]
      exact unfolds_nil ..

end CountReports

end DueDispatch.Schedule
