import DueDispatch.Schedule.Basic

/-!
# DueDispatch — the course of a schedule

`run` only gives the last state of a schedule. Its `course` lists everything that
happened on the way, in order: each `Moment` is something due or a step from outside,
together with the state that it met. What has to hold at every moment of a run is said
of the course, and proved by `course_induction` for the whole of it at once.

## Results

* `le_due_runUntil` — after everything before a limit nothing is due before it.
* `stops_of_shutdown` — a run that is shut down stops.
* `leads_course` — each moment meets the state that the one before it left, and the
  last one leaves the state that the run ends in.
* `course_induction` — what each moment preserves holds throughout a run.
-/

namespace DueDispatch.Schedule

/-- What makes a schedule go on. -/
inductive Cause (W : Type)
  | due (d : Due)
  | outside (step : Step W)

/-- Something that happens to a schedule, and the state that it meets. -/
structure Moment (W J : Type) where
  state : State W J
  cause : Cause W

variable {W J : Type} {settings : Settings} {w : Workload W J}

/-- The state that a moment leaves. -/
def Moment.next (settings : Settings) (w : Workload W J) (m : Moment W J) : State W J :=
  match m.cause with
  | .due d => m.state.handle settings w d
  | .outside step => m.state.perform settings step

namespace State

/-- Everything due before `limit`, in order. -/
def momentsUntil (settings : Settings) (w : Workload W J) (limit : Nat) (s : State W J) :
    List (Moment W J) :=
  match _hDue : s.due? with
  | none => []
  | some (time, due) =>
    if _hLimit : time < limit then
      ⟨s.waitUntil time, .due due⟩ ::
        momentsUntil settings w limit ((s.waitUntil time).handle settings w due)
    else []
termination_by s.left limit
decreasing_by exact left_handle_lt settings w s _hDue _hLimit

/-- The state that a step from outside at this time meets. -/
def met (settings : Settings) (w : Workload W J) (time : Nat) (s : State W J) : State W J :=
  (s.runUntil settings w time).waitUntil time

/-- Everything that happens under a script and in the drain after it, in order. -/
def moments (settings : Settings) (w : Workload W J) : Script W → State W J → List (Moment W J)
  | [], s =>
    match s.phase with
    | .draining deadline => s.momentsUntil settings w (fires deadline + 1)
    | _ => []
  | entry :: rest, s =>
    s.momentsUntil settings w entry.1 ++
      ⟨s.met settings w entry.1, .outside entry.2⟩ ::
        moments settings w rest (s.advance settings w entry)

-- ---------------------------------------------------------------------------
-- Handling what is due
-- ---------------------------------------------------------------------------

variable {s : State W J} {limit time : Nat} {due : Due}

/-- What is due before the limit is the first moment. -/
theorem momentsUntil_of_due (hDue : s.due? = some (time, due)) (hLimit : time < limit) :
    s.momentsUntil settings w limit =
      ⟨s.waitUntil time, .due due⟩ ::
        ((s.waitUntil time).handle settings w due).momentsUntil settings w limit := by
  rw [momentsUntil]
  split
  · rename_i hNone
    rw [hDue] at hNone
    contradiction
  · rename_i time' due' hSome
    rw [hDue] at hSome
    obtain ⟨rfl, rfl⟩ : time = time' ∧ due = due' := by simpa using hSome
    rw [dif_pos hLimit]

theorem momentsUntil_of_le (hLimit : ∀ time due, s.due? = some (time, due) → limit ≤ time) :
    s.momentsUntil settings w limit = [] := by
  rw [momentsUntil]
  split
  · rfl
  · rename_i time due hSome
    rw [dif_neg (Nat.not_lt.mpr (hLimit time due hSome))]

/-- After everything before a limit nothing is due before it. -/
theorem le_due_runUntil (settings : Settings) (w : Workload W J) (limit : Nat) (s : State W J) :
    ∀ time due, (s.runUntil settings w limit).due? = some (time, due) → limit ≤ time := by
  fun_induction s.runUntil settings w limit with
  | case1 s hNone =>
    intro time due hDue
    rw [hNone] at hDue
    contradiction
  | case2 s time due hDue hLimit ih => exact ih
  | case3 s time due hDue hLimit =>
    intro time' due' hDue'
    rw [hDue] at hDue'
    obtain ⟨rfl, rfl⟩ : time = time' ∧ due = due' := by simpa using hDue'
    omega

end State

-- ---------------------------------------------------------------------------
-- The course of a run
-- ---------------------------------------------------------------------------

/-- These moments follow one another from the first state to the second. Steps from
outside are taken from the script. -/
inductive Leads (settings : Settings) (w : Workload W J) (script : Script W) :
    State W J → List (Moment W J) → State W J → Prop
  | nil (s : State W J) : Leads settings w script s [] s
  | due {s s' : State W J} {time : Nat} {due : Due} {rest : List (Moment W J)}
      (hDue : s.due? = some (time, due))
      (hRest : Leads settings w script ((s.waitUntil time).handle settings w due) rest s') :
      Leads settings w script s (⟨s.waitUntil time, .due due⟩ :: rest) s'
  | outside {s s' : State W J} {entry : Nat × Step W} {rest : List (Moment W J)}
      (hEntry : entry ∈ script)
      (hRest : Leads settings w script ((s.waitUntil entry.1).perform settings entry.2) rest s') :
      Leads settings w script s (⟨s.waitUntil entry.1, .outside entry.2⟩ :: rest) s'

variable {script : Script W} {s s' s'' : State W J} {first second : List (Moment W J)}

/-- Moments that lead on may be put together. -/
theorem Leads.append (hFirst : Leads settings w script s first s')
    (hSecond : Leads settings w script s' second s'') :
    Leads settings w script s (first ++ second) s'' := by
  induction hFirst with
  | nil s => exact hSecond
  | due hDue _ ih => exact .due hDue (ih hSecond)
  | outside hEntry _ ih => exact .outside hEntry (ih hSecond)

/-- The moments until a limit lead to the state that is reached by then. -/
theorem leads_momentsUntil (settings : Settings) (w : Workload W J) (script : Script W)
    (limit : Nat) (s : State W J) :
    Leads settings w script s (s.momentsUntil settings w limit) (s.runUntil settings w limit) := by
  fun_induction s.runUntil settings w limit with
  | case1 s hNone =>
    rw [State.momentsUntil_of_le (by simp [hNone])]
    exact .nil s
  | case2 s time due hDue hLimit ih =>
    rw [State.momentsUntil_of_due hDue hLimit]
    exact .due hDue ih
  | case3 s time due hDue hLimit =>
    rw [State.momentsUntil_of_le (by simpa [hDue] using hLimit)]
    exact .nil s

/-- The moments under a script lead to the state in which it ends. -/
theorem leads_moments (settings : Settings) (w : Workload W J) {script entries : Script W}
    (hScript : entries ⊆ script) (s : State W J) :
    Leads settings w script s (s.moments settings w entries)
      ((entries.foldl (State.advance settings w) s).finish settings w) := by
  induction entries generalizing s with
  | nil =>
    simp only [State.moments, List.foldl_nil, State.finish]
    cases s.phase with
    | draining deadline => exact leads_momentsUntil settings w script _ s
    | _ => exact .nil s
  | cons entry rest ih =>
    obtain ⟨hEntry, hRest⟩ := List.cons_subset.mp hScript
    exact (leads_momentsUntil settings w script entry.1 s).append (.outside hEntry (ih hRest _))

/-- Everything that happens in a run, in order. -/
def course (settings : Settings) (w : Workload W J) (script : Script W) (world : W) :
    List (Moment W J) :=
  State.moments settings w script { world }

/-- The course leads to the state that the run ends in. -/
theorem leads_course (settings : Settings) (w : Workload W J) (script : Script W) (world : W) :
    Leads settings w script { world } (course settings w script world)
      (run settings w script world) :=
  leads_moments settings w (List.Subset.refl script) _

/-- A property of states that waiting, what is due and the steps of the script keep holds
before and after every moment. -/
theorem Leads.induction {ms : List (Moment W J)} (hLeads : Leads settings w script s ms s')
    {P : State W J → Prop} (hStart : P s)
    (hDue : ∀ s time due, P s → s.due? = some (time, due) →
      P (s.waitUntil time) ∧ P ((s.waitUntil time).handle settings w due))
    (hStep : ∀ s, P s → ∀ entry ∈ script,
      P (s.waitUntil entry.1) ∧ P ((s.waitUntil entry.1).perform settings entry.2)) :
    (∀ m ∈ ms, P m.state ∧ P (m.next settings w)) ∧ P s' := by
  induction hLeads with
  | nil s => exact ⟨by simp, hStart⟩
  | due hSome _ ih =>
    have hMoment := hDue _ _ _ hStart hSome
    obtain ⟨hRest, hEnd⟩ := ih hMoment.2
    exact ⟨List.forall_mem_cons.mpr ⟨hMoment, hRest⟩, hEnd⟩
  | outside hEntry _ ih =>
    have hMoment := hStep _ hStart _ hEntry
    obtain ⟨hRest, hEnd⟩ := ih hMoment.2
    exact ⟨List.forall_mem_cons.mpr ⟨hMoment, hRest⟩, hEnd⟩

/-- **What each moment preserves holds throughout a run.** -/
theorem course_induction {P : State W J → Prop} (script : Script W) (world : W)
    (hStart : P { world })
    (hDue : ∀ s time due, P s → s.due? = some (time, due) →
      P (s.waitUntil time) ∧ P ((s.waitUntil time).handle settings w due))
    (hStep : ∀ s, P s → ∀ entry ∈ script,
      P (s.waitUntil entry.1) ∧ P ((s.waitUntil entry.1).perform settings entry.2)) :
    (∀ m ∈ course settings w script world, P m.state ∧ P (m.next settings w)) ∧
      P (run settings w script world) :=
  (leads_course settings w script world).induction hStart hDue hStep

-- ---------------------------------------------------------------------------
-- What is due, and what comes after the ticks
-- ---------------------------------------------------------------------------

namespace State

variable {s : State W J} {time deadline : Nat}

/-- What comes first, a deadline or the first live job. -/
def orWake (live : List (Live J)) (deadline : Nat) (d : Due) : Nat × Due :=
  match live with
  | [] => (deadline, d)
  | l :: _ => if l.wakes ≤ deadline then (l.wakes, .wake) else (deadline, d)

/-- What comes first is the first live job, if it wakes by the deadline, and else the
deadline. -/
theorem orWake_cases {live : List (Live J)} {d due : Due}
    (hDue : orWake live deadline d = (time, due)) :
    (due = .wake ∧ ∃ l rest, live = l :: rest ∧ time = l.wakes ∧ l.wakes ≤ deadline) ∨
      (due = d ∧ time = deadline ∧ ∀ l ∈ live.head?, time < l.wakes) := by
  cases live with
  | nil =>
    obtain ⟨rfl, rfl⟩ : deadline = time ∧ d = due := by simpa [orWake] using hDue
    exact Or.inr ⟨rfl, rfl, by simp⟩
  | cons l rest =>
    by_cases hWake : l.wakes ≤ deadline
    · obtain ⟨rfl, rfl⟩ : l.wakes = time ∧ Due.wake = due := by simpa [orWake, hWake] using hDue
      exact Or.inl ⟨rfl, l, rest, rfl, rfl, hWake⟩
    · obtain ⟨rfl, rfl⟩ : deadline = time ∧ d = due := by simpa [orWake, hWake] using hDue
      exact Or.inr ⟨rfl, rfl, by simpa using hWake⟩

theorem orWake_le (live : List (Live J)) (deadline : Nat) (d : Due) :
    (orWake live deadline d).1 ≤ deadline := by
  cases live with
  | nil => exact Nat.le_refl _
  | cons l rest =>
    by_cases hWake : l.wakes ≤ deadline
    · rwa [orWake, if_pos hWake]
    · exact Nat.le_of_eq (congrArg Prod.fst (if_neg hWake))

/-- While a schedule ticks, nothing is due later than the next tick. -/
theorem due_of_ticking (hPhase : s.phase = .ticking deadline) :
    s.due? = some (orWake s.live (fires deadline) .tick) := by
  unfold due?
  rw [hPhase]
  cases s.live <;> rfl

/-- While a schedule drains, nothing is due later than the drain time allows. -/
theorem due_of_draining (hPhase : s.phase = .draining deadline) :
    s.due? = some (orWake s.live (fires deadline) .drainEnd) := by
  unfold due?
  rw [hPhase]
  cases s.live <;> rfl

/-- What is due is the first live job, or the deadline of the phase if that comes first. -/
theorem due_cases {due : Due} (hDue : s.due? = some (time, due)) :
    (due = .wake ∧ ∃ l rest, s.live = l :: rest ∧ time = l.wakes ∧
        ∀ deadline, s.phase = .draining deadline → l.wakes ≤ fires deadline) ∨
      ((∀ l ∈ s.live.head?, time < l.wakes) ∧
        ((due = .tick ∧ ∃ deadline, s.phase = .ticking deadline ∧ time = fires deadline) ∨
          (due = .drainEnd ∧
            ∃ deadline, s.phase = .draining deadline ∧ time = fires deadline))) := by
  cases hPhase : s.phase with
  | ticking deadline =>
    rw [due_of_ticking hPhase] at hDue
    rcases orWake_cases (Option.some.inj hDue) with
      ⟨rfl, l, rest, hLive, hTime, -⟩ | ⟨rfl, hTime, hFirst⟩
    · exact Or.inl ⟨rfl, l, rest, hLive, hTime, by simp⟩
    · exact Or.inr ⟨hFirst, Or.inl ⟨rfl, deadline, rfl, hTime⟩⟩
  | draining deadline =>
    rw [due_of_draining hPhase] at hDue
    rcases orWake_cases (Option.some.inj hDue) with
      ⟨rfl, l, rest, hLive, hTime, hWake⟩ | ⟨rfl, hTime, hFirst⟩
    · exact Or.inl ⟨rfl, l, rest, hLive, hTime, by simpa using hWake⟩
    · exact Or.inr ⟨hFirst, Or.inr ⟨rfl, deadline, rfl, hTime⟩⟩
  | stopped time => simp [due?, hPhase] at hDue

/-- A tick is only due while the schedule ticks. -/
theorem ticking_of_due (hDue : s.due? = some (time, .tick)) :
    ∃ deadline, s.phase = .ticking deadline := by
  rcases due_cases hDue with ⟨hWake, -⟩ | ⟨-, ⟨-, deadline, hPhase, -⟩ | ⟨hEnd, -⟩⟩
  · contradiction
  · exact ⟨deadline, hPhase⟩
  · contradiction

end State

/-- After the ticks a phase is only left at the end of a drain. -/
def Phase.Onward (p q : Phase) : Prop :=
  q = p ∨ ∃ deadline time, p = .draining deadline ∧ q = .stopped time

/-- Whether the schedule may tick again. -/
def Phase.isTicking : Phase → Bool
  | .ticking _ => true
  | _ => false

namespace Phase.Onward

variable {p q r : Phase}

theorem trans (hFirst : p.Onward q) (hSecond : q.Onward r) : p.Onward r := by
  rcases hFirst with rfl | ⟨deadline, time, hDrain, rfl⟩
  · exact hSecond
  · rcases hSecond with rfl | ⟨_, _, hDrain', -⟩
    · exact Or.inr ⟨deadline, time, hDrain, rfl⟩
    · exact absurd hDrain' (by simp)

theorem isTicking_eq (hOnward : p.Onward q) (hPhase : p.isTicking = false) :
    q.isTicking = false := by
  rcases hOnward with rfl | ⟨_, _, -, rfl⟩
  · exact hPhase
  · rfl

end Phase.Onward

namespace State

variable {s : State W J}

/-- The check for the end of a drain leaves the phase only there. -/
theorem onward_stopIfDrained (s : State W J) : s.phase.Onward s.stopIfDrained.phase := by
  unfold stopIfDrained
  split
  · rename_i deadline hPhase hLive
    exact Or.inr ⟨deadline, s.now, hPhase, rfl⟩
  · exact Or.inl rfl

/-- A job that wakes leaves the phase only at the end of a drain. -/
theorem onward_wake (w : Workload W J) (s : State W J) : s.phase.Onward (s.wake w).phase := by
  unfold wake
  split
  · exact Or.inl rfl
  · rename_i l rest hLive
    have hStop := onward_stopIfDrained
      (({ s with live := rest, world := (w.resume l.job s.now s.world).2 } : State W J).place
        l.number (w.resume l.job s.now s.world).1)
    rw [phase_place] at hStop
    exact hStop

theorem onward_handle (hPhase : s.phase.isTicking = false) (settings : Settings)
    (w : Workload W J) (due : Due) : s.phase.Onward (s.handle settings w due).phase := by
  unfold handle
  split
  · exact onward_wake w s
  · rename_i deadline hTicking
    rw [hTicking] at hPhase
    contradiction
  · rename_i deadline hDraining
    exact Or.inr ⟨deadline, s.now, hDraining, rfl⟩
  · exact Or.inl rfl

theorem onward_abort (settings : Settings) (s : State W J) :
    s.phase.Onward (s.abort settings).phase := by
  unfold abort
  split
  · exact onward_stopIfDrained
      { dropLive { s with abortAsked := true } with aborted := true }
  · exact Or.inl rfl

theorem onward_perform (hPhase : s.phase.isTicking = false) (settings : Settings) (step : Step W) :
    s.phase.Onward (s.perform settings step).phase := by
  cases step with
  | shutdown =>
    show s.phase.Onward (s.shutdown settings).phase
    unfold shutdown
    split
    · rename_i deadline hTicking
      rw [hTicking] at hPhase
      contradiction
    · exact Or.inl rfl
  | abort => exact onward_abort settings s
  | jump span => exact Or.inl rfl
  | edit change => exact Or.inl rfl

theorem isTicking_shutdown (settings : Settings) (s : State W J) :
    (s.shutdown settings).phase.isTicking = false := by
  unfold shutdown
  cases hPhase : s.phase with
  | ticking deadline =>
    refine (onward_stopIfDrained _).isTicking_eq ?_
    rfl
  | draining deadline => simp [hPhase, Phase.isTicking]
  | stopped time => simp [hPhase, Phase.isTicking]

end State

/-- The moments after the ticks only lead onward. -/
theorem Leads.onward {script : Script W} {s s' : State W J} {ms : List (Moment W J)}
    (hLeads : Leads settings w script s ms s') (hPhase : s.phase.isTicking = false) :
    s.phase.Onward s'.phase := by
  refine (hLeads.induction (P := fun u => s.phase.Onward u.phase) (Or.inl rfl) ?_ ?_).2
  · intro u time due hOnward _
    refine ⟨hOnward, hOnward.trans ?_⟩
    exact State.onward_handle (s := u.waitUntil time) (hOnward.isTicking_eq hPhase) settings w due
  · intro u hOnward entry _
    refine ⟨hOnward, hOnward.trans ?_⟩
    exact State.onward_perform (s := u.waitUntil entry.1) (hOnward.isTicking_eq hPhase) settings
      entry.2

/-- What is waited for at the end of a script includes the end of a drain. -/
theorem phase_finish_ne_draining (settings : Settings) (w : Workload W J) (s : State W J)
    (deadline : Nat) : (s.finish settings w).phase ≠ .draining deadline := by
  intro hEnd
  unfold State.finish at hEnd
  split at hEnd
  · rename_i deadline' hDraining
    have hOnward := (leads_momentsUntil settings w [] (fires deadline' + 1) s).onward
      (by rw [hDraining]; rfl)
    -- the drain would still wait for the same deadline, but that is already handled
    rcases hOnward with hSame | ⟨_, _, -, hStopped⟩
    · have hDue := State.due_of_draining (hSame.trans hDraining)
      have hLate := State.le_due_runUntil settings w _ s _ _ hDue
      have hSoon := Nat.le_trans hLate (State.orWake_le ..)
      omega
    · rw [hEnd] at hStopped
      contradiction
  · rename_i hNot
    exact hNot deadline hEnd

/-- **A run that is shut down stops.** -/
theorem stops_of_shutdown (settings : Settings) (w : Workload W J) {script : Script W}
    (world : W) {time : Nat} (hShutdown : (time, .shutdown) ∈ script) :
    ∃ time, (run settings w script world).phase = .stopped time := by
  obtain ⟨before, after, rfl⟩ := List.append_of_mem hShutdown
  -- after the shutdown the schedule never ticks again
  have hLeads := leads_moments settings w (List.Subset.refl after)
    (((before.foldl (State.advance settings w) { world }).met settings w time).shutdown settings)
  have hNotTicking := (hLeads.onward (State.isTicking_shutdown settings _)).isTicking_eq
    (State.isTicking_shutdown settings _)
  have hRun : run settings w (before ++ (time, .shutdown) :: after) world =
      (after.foldl (State.advance settings w)
        (((before.foldl (State.advance settings w) { world }).met settings w time).shutdown
          settings)).finish settings w := by
    rw [run, List.foldl_append, List.foldl_cons]
    rfl
  rw [hRun]
  have hNotDraining := phase_finish_ne_draining settings w (after.foldl (State.advance settings w)
    (((before.foldl (State.advance settings w) { world }).met settings w time).shutdown settings))
  generalize State.finish settings w _ = s at hNotTicking hNotDraining ⊢
  cases hPhase : s.phase with
  | ticking deadline => simp [hPhase, Phase.isTicking] at hNotTicking
  | draining deadline => exact absurd hPhase (hNotDraining deadline)
  | stopped time => exact ⟨time, rfl⟩

end DueDispatch.Schedule
