import DueDispatch.Proofs.Schedule.Course
import DueDispatch.Schedule.Sleepers
import Mathlib.Data.List.Permutation

/-!
# DueDispatch — no job is lost

Jobs leave a schedule on four ways: they finish, they crash, they are dropped at an
abort or at the end of the drain, or they are dropped because they would sleep after
an abort. On each of them the slot has to be given back and the job counted once.

`Conserved` is the invariant. It accounts for every job that was started by the log
and the live jobs. While a job takes its turn it is in neither; such jobs are named
separately.

## Results

* `tick_cases` — what a tick can do.
* `conserved_course` — at every moment of a run the live jobs fit into the slots, and
  every started job is live or has ended once.
* `counted_tick` — a tick starts one job or is left out, and is counted once.
* `jobs_of_run` — slots, ticks and jobs over whole runs.
-/

namespace DueDispatch.Schedule

open Duration (nanosPerMilli)

namespace Event

/-- The job that an event starts. -/
def startedJob? : Event → Option Nat
  | started n => some n
  | _ => none

/-- The job that an event ends, in whichever way. -/
def endedJob? : Event → Option Nat
  | finished n => some n
  | crashed n => some n
  | dropped n => some n
  | started _ => none
  | skipped => none

def isFinished : Event → Bool
  | finished _ => true
  | _ => false

def isCrashed : Event → Bool
  | crashed _ => true
  | _ => false

def isDropped : Event → Bool
  | dropped _ => true
  | _ => false

def isSkip : Event → Bool
  | skipped => true
  | _ => false

end Event

variable {W J : Type} {settings : Settings} {w : Workload W J}

theorem perm_enqueue (l : Live J) (ls : List (Live J)) : (enqueue l ls).Perm (l :: ls) := by
  induction ls with
  | nil => exact List.Perm.refl _
  | cons m rest ih =>
    rw [enqueue]
    split
    · exact (ih.cons m).trans (List.Perm.swap l m rest)
    · exact List.Perm.refl _

-- ---------------------------------------------------------------------------
-- What the log says of the jobs
-- ---------------------------------------------------------------------------

/-- The jobs that a log sees started. -/
def startedJobs (log : List (Nat × Event)) : List Nat := log.filterMap fun e => e.2.startedJob?

/-- The jobs that a log sees end. -/
def endedJobs (log : List (Nat × Event)) : List Nat := log.filterMap fun e => e.2.endedJob?

/-- How many events of a kind a log has. -/
def seen (kind : Event → Bool) (log : List (Nat × Event)) : Nat := log.countP fun e => kind e.2

section

variable (time : Nat) (e : Event) (log later : List (Nat × Event)) (kind : Event → Bool)

@[simp] theorem startedJobs_nil : startedJobs [] = [] := rfl

@[simp] theorem endedJobs_nil : endedJobs [] = [] := rfl

@[simp] theorem seen_nil : seen kind [] = 0 := rfl

@[simp] theorem startedJobs_cons :
    startedJobs ((time, e) :: log) = e.startedJob?.toList ++ startedJobs log := by
  cases h : e.startedJob? <;> simp [startedJobs, h]

@[simp] theorem endedJobs_cons :
    endedJobs ((time, e) :: log) = e.endedJob?.toList ++ endedJobs log := by
  cases h : e.endedJob? <;> simp [endedJobs, h]

@[simp] theorem seen_cons : seen kind ((time, e) :: log) = seen kind log + (kind e).toNat := by
  cases h : kind e <;> simp [seen, h]

@[simp] theorem startedJobs_append :
    startedJobs (later ++ log) = startedJobs later ++ startedJobs log := by
  simp [startedJobs]

@[simp] theorem endedJobs_append :
    endedJobs (later ++ log) = endedJobs later ++ endedJobs log := by
  simp [endedJobs]

@[simp] theorem seen_append : seen kind (later ++ log) = seen kind later + seen kind log := by
  simp [seen]

end

/-- A job that ends does so in one of three ways. -/
theorem length_endedJobs (log : List (Nat × Event)) :
    (endedJobs log).length =
      seen Event.isFinished log + seen Event.isCrashed log + seen Event.isDropped log := by
  induction log with
  | nil => rfl
  | cons e rest ih =>
    obtain ⟨time, e⟩ := e
    have hOne : e.endedJob?.toList.length =
        e.isFinished.toNat + e.isCrashed.toNat + e.isDropped.toNat := by cases e <;> rfl
    simp only [endedJobs_cons, seen_cons, List.length_append, ih, hOne]
    omega

/-- The entries of a log that say that these jobs were dropped. -/
def drops (now : Nat) (ls : List (Live J)) : List (Nat × Event) :=
  (ls.map fun l => (now, Event.dropped l.number)).reverse

theorem startedJobs_drops (now : Nat) (ls : List (Live J)) : startedJobs (drops now ls) = [] := by
  induction ls with
  | nil => rfl
  | cons l rest ih => simpa [drops, Event.startedJob?] using ih

theorem endedJobs_drops (now : Nat) (ls : List (Live J)) :
    endedJobs (drops now ls) = (ls.map Live.number).reverse := by
  induction ls with
  | nil => rfl
  | cons l rest ih =>
    rw [drops] at ih
    rw [drops, List.map_cons, List.reverse_cons, endedJobs_append, ih, List.map_cons,
      List.reverse_cons]
    rfl

theorem seen_drops (kind : Event → Bool) (now : Nat) (ls : List (Live J)) {b : Bool}
    (hKind : ∀ n, kind (.dropped n) = b) : seen kind (drops now ls) = b.toNat * ls.length := by
  induction ls with
  | nil => rfl
  | cons l rest ih =>
    rw [drops] at ih
    rw [drops, List.map_cons, List.reverse_cons, seen_append, ih, seen_cons, hKind, seen_nil,
      List.length_cons, Nat.mul_succ, Nat.zero_add]

namespace State

-- ---------------------------------------------------------------------------
-- What a tick can do
-- ---------------------------------------------------------------------------

/-- A tick starts a job, or it is left out. -/
theorem tick_cases (settings : Settings) (w : Workload W J) (deadline : Nat) (s : State W J) :
    (s.live.length < settings.slots ∧ s.tick settings w deadline =
        { s with phase := phaseAfter settings deadline s.now }.startJob w) ∨
      (settings.slots ≤ s.live.length ∧ s.tick settings w deadline =
        { s with phase := phaseAfter settings deadline s.now }.skipTick settings) := by
  by_cases hFree : s.live.length < settings.slots
  · exact Or.inl ⟨hFree, if_pos hFree⟩
  · exact Or.inr ⟨Nat.not_lt.mp hFree, if_neg hFree⟩

/-- What a job does at the end of its turn: it ends, or it is put to sleep. -/
theorem place_cases (s : State W J) (n : Nat) (t : Turn J) :
    (∃ e, e.endedJob? = some n ∧ e.isDropped = false ∧ e.isSkip = false ∧ e.startedJob? = none ∧
        s.place n t = s.record e) ∨
      (s.aborted = true ∧
        s.place n t = { s with abandoned := s.abandoned + 1 }.record (.dropped n)) ∨
      (s.aborted = false ∧ ∃ wakes job, s.place n t =
        { s with live := enqueue ⟨n, wakes, job⟩ s.live }) := by
  cases t with
  | done ending =>
    left
    cases ending with
    | finished => exact ⟨.finished n, rfl, rfl, rfl, rfl, rfl⟩
    | crashed => exact ⟨.crashed n, rfl, rfl, rfl, rfl, rfl⟩
  | sleep span job hSpan =>
    right
    rw [place]
    cases hAborted : s.aborted with
    | true => exact Or.inl ⟨rfl, if_pos rfl⟩
    | false => exact Or.inr ⟨rfl, _, _, if_neg (by simp)⟩

-- ---------------------------------------------------------------------------
-- The invariant
-- ---------------------------------------------------------------------------

/-- Every started job is live, has ended once, or is one of those that are taking
their turn. The counters agree with the log. -/
structure Conserved (settings : Settings) (turning : List Nat) (s : State W J) : Prop where
  within : s.live.length + turning.length ≤ settings.slots
  started : startedJobs s.log = (List.range s.fired).reverse
  ended : (endedJobs s.log ++ (turning ++ s.live.map Live.number)).Perm (List.range s.fired)
  abandoned : s.abandoned = seen Event.isDropped s.log
  skips : seen Event.isSkip s.log = if settings.announcesSkips then s.skipped else 0
  aborted : s.aborted = true → s.live = []
  stopped : ∀ time, s.phase = .stopped time → s.live = []

variable {s : State W J} {n : Nat}

theorem conserved_initial (world : W) : Conserved settings [] ({ world } : State W J) where
  within := Nat.zero_le _
  started := rfl
  ended := List.Perm.refl _
  abandoned := rfl
  skips := by simp [seen]
  aborted := by simp
  stopped := by simp

/-- The clock, the world and whether an abort was asked for do not matter, and the
phase only if it is the end. -/
theorem Conserved.of_same (hCons : Conserved settings [] s) {s' : State W J}
    (hLive : s'.live = s.live) (hLog : s'.log = s.log) (hFired : s'.fired = s.fired)
    (hSkipped : s'.skipped = s.skipped) (hAbandoned : s'.abandoned = s.abandoned)
    (hAborted : s'.aborted = s.aborted)
    (hStopped : ∀ time, s'.phase = .stopped time → s.live = []) : Conserved settings [] s' where
  within := by rw [hLive]; exact hCons.within
  started := by rw [hLog, hFired]; exact hCons.started
  ended := by rw [hLog, hLive, hFired]; exact hCons.ended
  abandoned := by rw [hAbandoned, hLog]; exact hCons.abandoned
  skips := by rw [hLog, hSkipped]; exact hCons.skips
  aborted := by rw [hAborted, hLive]; exact hCons.aborted
  stopped := by rw [hLive]; exact hStopped

/-- The account goes on in any other phase, but no job is live in a schedule that is over. -/
theorem Conserved.withPhase (hCons : Conserved settings [] s) (phase : Phase)
    (hStop : ∀ time, phase = .stopped time → s.live = []) :
    Conserved settings [] { s with phase } :=
  hCons.of_same rfl rfl rfl rfl rfl rfl hStop

/-- A job that ends by itself gives its slot back. -/
theorem Conserved.record_ended (hCons : Conserved settings [n] s) {e : Event}
    (hEnded : e.endedJob? = some n) (hDropped : e.isDropped = false) (hSkip : e.isSkip = false)
    (hStarted : e.startedJob? = none) : Conserved settings [] (s.record e) := by
  obtain ⟨hWithin, hStartedJobs, hEndedJobs, hAbandoned, hSkips, hAborted, hStopped⟩ := hCons
  refine ⟨?_, ?_, ?_, ?_, ?_, hAborted, hStopped⟩
  · exact Nat.le_trans (Nat.le_add_right _ _) hWithin
  · simpa [record, hStarted] using hStartedJobs
  · simp only [record, endedJobs_cons, hEnded, Option.toList_some, List.nil_append]
    exact List.perm_middle.symm.trans hEndedJobs
  · simpa [record, hDropped] using hAbandoned
  · simpa [record, hSkip] using hSkips

/-- A job that is dropped at the end of its turn gives its slot back. -/
theorem Conserved.record_dropped (hCons : Conserved settings [n] s) :
    Conserved settings [] ({ s with abandoned := s.abandoned + 1 }.record (.dropped n)) := by
  obtain ⟨hWithin, hStartedJobs, hEndedJobs, hAbandoned, hSkips, hAborted, hStopped⟩ := hCons
  refine ⟨?_, ?_, ?_, ?_, ?_, hAborted, hStopped⟩
  · exact Nat.le_trans (Nat.le_add_right _ _) hWithin
  · simpa [record, Event.startedJob?] using hStartedJobs
  · simp only [record, endedJobs_cons, Event.endedJob?, Option.toList_some, List.nil_append]
    exact List.perm_middle.symm.trans hEndedJobs
  · simpa [record, Event.isDropped] using hAbandoned
  · simpa [record, Event.isSkip] using hSkips

/-- A job that sleeps keeps its slot. -/
theorem Conserved.enqueue (hCons : Conserved settings [n] s) (hAborted : s.aborted = false)
    (hPhase : ∀ time, s.phase ≠ .stopped time) (wakes : Nat) (job : J) :
    Conserved settings [] { s with live := enqueue ⟨n, wakes, job⟩ s.live } := by
  have hPerm := perm_enqueue ⟨n, wakes, job⟩ s.live
  refine ⟨?_, hCons.started, ?_, hCons.abandoned, hCons.skips, ?_, ?_⟩
  · have hWithin := hCons.within
    rw [List.length_singleton] at hWithin
    simp only [hPerm.length_eq, List.length_cons, List.length_nil]
    omega
  · exact ((hPerm.map Live.number).append_left _).trans hCons.ended
  · intro hTrue
    rw [hAborted] at hTrue
    contradiction
  · intro time hStopped
    exact absurd hStopped (hPhase time)

/-- A turn ends with the job asleep in the queue or with its end in the log. -/
theorem Conserved.place (hCons : Conserved settings [n] s)
    (hPhase : ∀ time, s.phase ≠ .stopped time) (t : Turn J) :
    Conserved settings [] (s.place n t) := by
  rcases s.place_cases n t with
    ⟨e, hEnded, hDropped, hSkip, hStarted, hPlace⟩ | ⟨hAborted, hPlace⟩ |
      ⟨hAborted, wakes, job, hPlace⟩
  · rw [hPlace]
    exact hCons.record_ended hEnded hDropped hSkip hStarted
  · rw [hPlace]
    exact hCons.record_dropped
  · rw [hPlace]
    exact hCons.enqueue hAborted hPhase wakes job

theorem Conserved.stopIfDrained (hCons : Conserved settings [] s) :
    Conserved settings [] s.stopIfDrained := by
  unfold State.stopIfDrained
  split
  · rename_i hPhase hLive
    exact hCons.withPhase _ fun _ _ => hLive
  · exact hCons

/-- The first live job takes its turn. -/
theorem Conserved.wake (hCons : Conserved settings [] s) (w : Workload W J) :
    Conserved settings [] (s.wake w) := by
  unfold State.wake
  split
  · exact hCons
  · rename_i l rest hLive
    obtain ⟨hWithin, hStarted, hEnded, hAbandoned, hSkips, hAborted, hStopped⟩ := hCons
    -- a job is live, so the schedule has neither stopped nor been aborted
    have hPhase : ∀ time, s.phase ≠ .stopped time := by
      intro time hPhase
      rw [hStopped time hPhase] at hLive
      contradiction
    have hTurning : Conserved settings [l.number]
        { s with live := rest, world := (w.resume l.job s.now s.world).2 } := by
      refine ⟨?_, hStarted, ?_, hAbandoned, hSkips, ?_, ?_⟩
      · rw [hLive] at hWithin
        simpa using hWithin
      · rw [hLive] at hEnded
        simpa using hEnded
      · intro hTrue
        rw [hAborted hTrue] at hLive
        contradiction
      · intro time hStop
        exact absurd hStop (hPhase time)
    exact (hTurning.place hPhase _).stopIfDrained

/-- A job that is started takes one of the free slots. -/
theorem Conserved.startJob (hCons : Conserved settings [] s)
    (hFree : s.live.length < settings.slots) (hPhase : ∀ time, s.phase ≠ .stopped time)
    (w : Workload W J) : Conserved settings [] (s.startJob w) := by
  obtain ⟨hWithin, hStarted, hEnded, hAbandoned, hSkips, hAborted, hStopped⟩ := hCons
  have hTurning : Conserved settings [s.fired]
      (State.record { s with fired := s.fired + 1, world := (w.start s.fired s.now s.world).2 }
        (.started s.fired)) := by
    refine ⟨hFree, ?_, ?_, ?_, ?_, hAborted, hStopped⟩
    · simp [record, Event.startedJob?, hStarted, List.range_succ]
    -- the new job has the next number
    · simp only [record, endedJobs_cons, Event.endedJob?, Option.toList_none, List.nil_append,
        List.range_succ]
      refine List.perm_middle.trans (List.Perm.trans ?_ (List.perm_append_singleton _ _).symm)
      exact List.Perm.cons _ hEnded
    · simpa [record, Event.isDropped] using hAbandoned
    · simpa [record, Event.isSkip] using hSkips
  exact hTurning.place hPhase _

theorem Conserved.skipTick (hCons : Conserved settings [] s) :
    Conserved settings [] (s.skipTick settings) := by
  obtain ⟨hWithin, hStarted, hEnded, hAbandoned, hSkips, hAborted, hStopped⟩ := hCons
  unfold State.skipTick
  cases hAnnounces : settings.announcesSkips with
  | true =>
    rw [hAnnounces] at hSkips
    refine ⟨hWithin, ?_, ?_, ?_, ?_, hAborted, hStopped⟩
    · simpa [record, Event.startedJob?] using hStarted
    · simpa [record, Event.endedJob?] using hEnded
    · simpa [record, Event.isDropped] using hAbandoned
    · simpa [record, Event.isSkip, hAnnounces] using hSkips
  | false =>
    rw [hAnnounces] at hSkips
    refine ⟨hWithin, hStarted, hEnded, hAbandoned, ?_, hAborted, hStopped⟩
    simpa [hAnnounces] using hSkips

/-- A tick accounts for the job that it starts, or for the skip. -/
theorem Conserved.tick (hCons : Conserved settings [] s) (w : Workload W J) (deadline : Nat) :
    Conserved settings [] (s.tick settings w deadline) := by
  have hTicks : ∀ time, phaseAfter settings deadline s.now ≠ .stopped time := by simp [phaseAfter]
  have hNext := hCons.withPhase (phaseAfter settings deadline s.now)
    fun time hStopped => absurd hStopped (hTicks time)
  rcases tick_cases settings w deadline s with ⟨hFree, hTick⟩ | ⟨-, hTick⟩
  · rw [hTick]
    exact hNext.startJob hFree hTicks w
  · rw [hTick]
    exact hNext.skipTick

/-- All live jobs give their slots back, each counted once. -/
theorem Conserved.dropLive (hCons : Conserved settings [] s) :
    Conserved settings [] s.dropLive := by
  obtain ⟨hWithin, hStarted, hEnded, hAbandoned, hSkips, hAborted, hStopped⟩ := hCons
  have hLog : s.dropLive.log = drops s.now s.live ++ s.log := rfl
  refine ⟨Nat.zero_le _, ?_, ?_, ?_, ?_, fun _ => rfl, fun _ _ => rfl⟩
  · rw [hLog, startedJobs_append, startedJobs_drops]
    exact hStarted
  · rw [hLog, endedJobs_append, endedJobs_drops]
    refine List.Perm.trans ?_ hEnded
    simp only [State.dropLive, List.map_nil, List.append_nil, List.nil_append]
    exact ((List.reverse_perm _).append_right _).trans List.perm_append_comm
  · rw [hLog, seen_append, seen_drops _ _ _ fun _ => rfl, ← hAbandoned]
    simp only [State.dropLive, Bool.toNat_true]
    omega
  · rw [hLog, seen_append, seen_drops _ _ _ fun _ => rfl, hSkips]
    simp [State.dropLive]

/-- The jobs that are dropped at the end of a drain have ended. -/
theorem Conserved.endDrain (hCons : Conserved settings [] s) :
    Conserved settings [] s.endDrain := by
  obtain ⟨hWithin, hStarted, hEnded, hAbandoned, hSkips, -, -⟩ := hCons.dropLive
  exact ⟨hWithin, hStarted, hEnded, hAbandoned, hSkips, fun _ => rfl, fun _ _ => rfl⟩

/-- Whatever is due keeps the account. -/
theorem Conserved.handle (hCons : Conserved settings [] s) (w : Workload W J) (due : Due) :
    Conserved settings [] (s.handle settings w due) := by
  unfold State.handle
  split
  · exact hCons.wake w
  · exact hCons.tick w _
  · exact hCons.endDrain
  · exact hCons

theorem Conserved.waitUntil (hCons : Conserved settings [] s) (time : Nat) :
    Conserved settings [] (s.waitUntil time) :=
  hCons.of_same rfl rfl rfl rfl rfl rfl hCons.stopped

theorem Conserved.shutdown (hCons : Conserved settings [] s) :
    Conserved settings [] (s.shutdown settings) := by
  unfold State.shutdown
  split
  · exact (hCons.withPhase _ (by simp)).stopIfDrained
  · exact hCons

theorem Conserved.abort (hCons : Conserved settings [] s) :
    Conserved settings [] (s.abort settings) := by
  have hAsked : Conserved settings [] { s with abortAsked := true } :=
    hCons.of_same rfl rfl rfl rfl rfl rfl hCons.stopped
  unfold State.abort
  cases settings.abortable with
  | false => exact hAsked
  | true =>
    obtain ⟨hWithin, hStarted, hEnded, hAbandoned, hSkips, -, hStopped⟩ := hAsked.dropLive
    exact Conserved.stopIfDrained
      ⟨hWithin, hStarted, hEnded, hAbandoned, hSkips, fun _ => rfl, hStopped⟩

/-- Every step from outside keeps the account. -/
theorem Conserved.perform (hCons : Conserved settings [] s) (step : Step W) :
    Conserved settings [] (s.perform settings step) := by
  cases step with
  | shutdown => exact hCons.shutdown
  | abort => exact hCons.abort
  | jump span => exact hCons.of_same rfl rfl rfl rfl rfl rfl hCons.stopped
  | edit change => exact hCons.of_same rfl rfl rfl rfl rfl rfl hCons.stopped

end State

/-- **No job is lost**: at every moment of a run the jobs are conserved, and at its end. -/
theorem conserved_course (settings : Settings) (w : Workload W J) (script : Script W) (world : W) :
    (∀ m ∈ course settings w script world,
      State.Conserved settings [] m.state ∧ State.Conserved settings [] (m.next settings w)) ∧
      State.Conserved settings [] (run settings w script world) :=
  course_induction script world (State.conserved_initial world)
    (fun _ time due hCons _ => ⟨hCons.waitUntil time, (hCons.waitUntil time).handle w due⟩)
    (fun _ hCons entry _ => ⟨hCons.waitUntil entry.1, (hCons.waitUntil entry.1).perform entry.2⟩)

-- ---------------------------------------------------------------------------
-- What a moment counts
-- ---------------------------------------------------------------------------

namespace State

/-- From the first state to the second these jobs were started, the latest first, so
many ticks were left out and so many of those were announced. -/
structure Counted (s s' : State W J) (jobs : List Nat) (skips calls : Nat) : Prop where
  fired : s'.fired = s.fired + jobs.length
  started : startedJobs s'.log = jobs ++ startedJobs s.log
  skipped : s'.skipped = s.skipped + skips
  announced : seen Event.isSkip s'.log = seen Event.isSkip s.log + calls

variable {s s' s'' : State W J}

/-- Nothing is counted where neither the counters nor the log change. -/
theorem Counted.of_same (hFired : s'.fired = s.fired) (hSkipped : s'.skipped = s.skipped)
    (hLog : s'.log = s.log) : Counted s s' [] 0 0 :=
  ⟨hFired, by rw [hLog]; rfl, hSkipped, by rw [hLog]; rfl⟩

theorem Counted.trans {jobs : List Nat} {skips calls : Nat} (hFirst : Counted s s' jobs skips calls)
    (hSecond : Counted s' s'' [] 0 0) : Counted s s'' jobs skips calls where
  fired := hSecond.fired.trans hFirst.fired
  started := hSecond.started.trans hFirst.started
  skipped := hSecond.skipped.trans hFirst.skipped
  announced := hSecond.announced.trans hFirst.announced

theorem counted_record {e : Event} (hStarted : e.startedJob? = none) (hSkip : e.isSkip = false) :
    Counted s (s.record e) [] 0 0 where
  fired := rfl
  started := by simp [record, hStarted]
  skipped := rfl
  announced := by simp [record, hSkip]

theorem counted_place (s : State W J) (n : Nat) (t : Turn J) : Counted s (s.place n t) [] 0 0 := by
  rcases s.place_cases n t with ⟨e, -, -, hSkip, hStarted, hPlace⟩ | ⟨-, hPlace⟩ |
    ⟨-, wakes, job, hPlace⟩
  · rw [hPlace]
    exact counted_record hStarted hSkip
  · rw [hPlace]
    have hSame : Counted s { s with abandoned := s.abandoned + 1 } [] 0 0 := .of_same rfl rfl rfl
    exact hSame.trans (counted_record rfl rfl)
  · rw [hPlace]
    exact .of_same rfl rfl rfl

theorem counted_stopIfDrained (s : State W J) : Counted s s.stopIfDrained [] 0 0 := by
  unfold stopIfDrained
  split <;> exact .of_same rfl rfl rfl

theorem counted_wake (w : Workload W J) (s : State W J) : Counted s (s.wake w) [] 0 0 := by
  unfold wake
  split
  · exact .of_same rfl rfl rfl
  · rename_i l rest _
    have hTurn : Counted s { s with live := rest, world := (w.resume l.job s.now s.world).2 }
        [] 0 0 := .of_same rfl rfl rfl
    exact (hTurn.trans (counted_place _ _ _)).trans (counted_stopIfDrained _)

theorem counted_dropLive (s : State W J) : Counted s s.dropLive [] 0 0 where
  fired := rfl
  started := by
    show startedJobs (drops s.now s.live ++ s.log) = _
    rw [startedJobs_append, startedJobs_drops]
  skipped := rfl
  announced := by
    show seen Event.isSkip (drops s.now s.live ++ s.log) = _
    rw [seen_append, seen_drops _ _ _ fun _ => rfl]
    simp

/-- A start is counted once, under the number of the job. -/
theorem counted_startJob (w : Workload W J) (s : State W J) :
    Counted s (s.startJob w) [s.fired] 0 0 := by
  have hStart : Counted s
      (State.record { s with fired := s.fired + 1, world := (w.start s.fired s.now s.world).2 }
        (.started s.fired)) [s.fired] 0 0 :=
    ⟨rfl, rfl, rfl, by simp [record, Event.isSkip]⟩
  exact hStart.trans (counted_place _ _ _)

/-- A skip is counted once, and announced if skips are. -/
theorem counted_skipTick (settings : Settings) (s : State W J) :
    Counted s (s.skipTick settings) [] 1 settings.announcesSkips.toNat := by
  unfold skipTick
  cases settings.announcesSkips with
  | true => exact ⟨rfl, rfl, rfl, by simp [record, Event.isSkip]⟩
  | false => exact ⟨rfl, rfl, rfl, rfl⟩

/-- **A tick is counted once**, as a job that is started or as a tick left out. -/
theorem counted_tick (settings : Settings) (w : Workload W J) (deadline : Nat) (s : State W J) :
    if s.live.length < settings.slots then Counted s (s.tick settings w deadline) [s.fired] 0 0
    else Counted s (s.tick settings w deadline) [] 1 settings.announcesSkips.toNat := by
  rcases tick_cases settings w deadline s with ⟨hFree, hTick⟩ | ⟨hFull, hTick⟩
  · rw [if_pos hFree, hTick]
    obtain ⟨hFired, hStarted, hSkipped, hAnnounced⟩ :=
      counted_startJob w { s with phase := phaseAfter settings deadline s.now }
    exact ⟨hFired, hStarted, hSkipped, hAnnounced⟩
  · rw [if_neg (Nat.not_lt.mpr hFull), hTick]
    obtain ⟨hFired, hStarted, hSkipped, hAnnounced⟩ :=
      counted_skipTick settings { s with phase := phaseAfter settings deadline s.now }
    exact ⟨hFired, hStarted, hSkipped, hAnnounced⟩

/-- Nothing but a tick starts a job or is counted as left out. -/
theorem counted_handle (settings : Settings) (w : Workload W J) (due : Due) (hDue : due ≠ .tick)
    (s : State W J) : Counted s (s.handle settings w due) [] 0 0 := by
  unfold handle
  split
  · exact counted_wake w s
  · contradiction
  · exact (counted_dropLive s).trans (.of_same rfl rfl rfl)
  · exact .of_same rfl rfl rfl

/-- No step from outside is counted. -/
theorem counted_perform (settings : Settings) (s : State W J) (step : Step W) :
    Counted s (s.perform settings step) [] 0 0 := by
  cases step with
  | shutdown =>
    show Counted s (s.shutdown settings) [] 0 0
    unfold shutdown
    split
    · have hPhase : Counted s
          { s with phase := .draining (timerDeadline s.now (s.now + settings.drain)) } [] 0 0 :=
        .of_same rfl rfl rfl
      exact hPhase.trans (counted_stopIfDrained _)
    · exact .of_same rfl rfl rfl
  | abort =>
    show Counted s (s.abort settings) [] 0 0
    have hAsked : Counted s { s with abortAsked := true } [] 0 0 := .of_same rfl rfl rfl
    unfold abort
    split
    · have hDropped : Counted s
          { State.dropLive { s with abortAsked := true } with aborted := true } [] 0 0 :=
        (hAsked.trans (counted_dropLive _)).trans (.of_same rfl rfl rfl)
      exact hDropped.trans (counted_stopIfDrained _)
    · exact hAsked
  | jump span => exact .of_same rfl rfl rfl
  | edit change => exact .of_same rfl rfl rfl

/-- A tick is only due while the schedule ticks. -/
theorem handle_tick {time : Nat} (hDue : s.due? = some (time, .tick)) (settings : Settings)
    (w : Workload W J) : ∃ deadline, (s.waitUntil time).handle settings w .tick =
      (s.waitUntil time).tick settings w deadline := by
  obtain ⟨deadline, hPhase⟩ := ticking_of_due hDue
  refine ⟨deadline, ?_⟩
  simp only [handle, waitUntil, hPhase]

end State

/-- What a moment counts: a tick one job if a slot is free and else one skip, anything
else nothing. -/
def Moment.Counts (settings : Settings) (w : Workload W J) (m : Moment W J) : Prop :=
  match m.cause with
  | .due .tick =>
    if m.state.live.length < settings.slots then
      State.Counted m.state (m.next settings w) [m.state.fired] 0 0
    else State.Counted m.state (m.next settings w) [] 1 settings.announcesSkips.toNat
  | _ => State.Counted m.state (m.next settings w) [] 0 0

/-- Every moment counts what it should. -/
theorem Leads.counts {script : Script W} {s s' : State W J} {ms : List (Moment W J)}
    (hLeads : Leads settings w script s ms s') : ∀ m ∈ ms, m.Counts settings w := by
  induction hLeads with
  | nil s => simp
  | @due s s' time due rest hDue _ ih =>
    refine List.forall_mem_cons.mpr ⟨?_, ih⟩
    cases due with
    | tick =>
      obtain ⟨deadline, hHandle⟩ := State.handle_tick hDue settings w
      simp only [Moment.Counts, Moment.next, hHandle]
      exact State.counted_tick settings w deadline _
    | wake => exact State.counted_handle settings w .wake (by simp) _
    | drainEnd => exact State.counted_handle settings w .drainEnd (by simp) _
  | @outside s s' entry rest hEntry _ ih =>
    refine List.forall_mem_cons.mpr ⟨?_, ih⟩
    exact State.counted_perform settings _ entry.2

/-- Settings are accepted if the period is positive and there are not too many slots. -/
theorem Settings.check_eq_ok {period drain : Duration} {maxInFlight : Nat}
    (announcesSkips abortable : Bool) (hPeriod : 0 < period.toNanos)
    (hSlots : maxInFlight ≤ maxSlots) :
    Settings.check period maxInFlight drain announcesSkips abortable =
      .ok {
        period := period.toNanos
        period_pos := hPeriod
        slots := max maxInFlight 1
        drain := drain.toNanos
        announcesSkips
        abortable } := by
  have hMost : ¬maxSlots < max maxInFlight 1 := by
    have hOne : 1 ≤ maxSlots := by decide
    omega
  rw [check, if_neg hMost, dif_pos hPeriod]

/-- **Slots and jobs of a schedule.** Settings with a period that is not zero and no
more slots than there can be are accepted. Under any workload and any script

* there are never more live jobs than slots,
* each tick starts one job if a slot is free, and else is left out and announced once
  if skips are announced; nothing else starts jobs or counts ticks,
* every job that was started is live or has ended once,
* a run that is shut down stops,
* after a run that stopped no job is live, all jobs have ended in one way each and the
  counters say how many there were and how many were dropped. -/
theorem jobs_of_run (period : Duration) (maxInFlight : Nat) (drain : Duration)
    (announcesSkips abortable : Bool) (hPeriod : 0 < period.toNanos)
    (hSlots : maxInFlight ≤ maxSlots) :
    ∃ settings, Settings.check period maxInFlight drain announcesSkips abortable = .ok settings ∧
      settings.slots = max maxInFlight 1 ∧ settings.announcesSkips = announcesSkips ∧
      ∀ {W J : Type} (w : Workload W J) (script : Script W) (world : W),
        (∀ m ∈ course settings w script world,
          m.state.live.length ≤ max maxInFlight 1 ∧
            (m.next settings w).live.length ≤ max maxInFlight 1) ∧
        (∀ m ∈ course settings w script world, m.Counts settings w) ∧
        (∀ m ∈ course settings w script world,
          (endedJobs (m.next settings w).log ++ (m.next settings w).live.map Live.number).Perm
            (startedJobs (m.next settings w).log)) ∧
        ((∃ time, (time, .shutdown) ∈ script) →
          ∃ time, (run settings w script world).phase = .stopped time) ∧
        (∀ time, (run settings w script world).phase = .stopped time →
          let s := run settings w script world
          s.live = [] ∧
            startedJobs s.log = (List.range s.fired).reverse ∧
            (endedJobs s.log).Perm (List.range s.fired) ∧
            s.fired =
              seen Event.isFinished s.log + seen Event.isCrashed s.log +
                seen Event.isDropped s.log ∧
            s.abandoned = seen Event.isDropped s.log) := by
  obtain ⟨settings, hCheck, hBound, hAnnounces⟩ : ∃ settings,
      Settings.check period maxInFlight drain announcesSkips abortable = .ok settings ∧
        settings.slots = max maxInFlight 1 ∧ settings.announcesSkips = announcesSkips :=
    ⟨_, Settings.check_eq_ok announcesSkips abortable hPeriod hSlots, rfl, rfl⟩
  refine ⟨settings, hCheck, hBound, hAnnounces, ?_⟩
  intro W J w script world
  obtain ⟨hCourse, hEnd⟩ := conserved_course settings w script world
  -- every state of the course keeps the account, and the last one settles it
  refine ⟨?_, (leads_course settings w script world).counts, ?_, ?_, ?_⟩
  · intro m hm
    obtain ⟨hBefore, hAfter⟩ := hCourse m hm
    rw [← hBound]
    exact ⟨hBefore.within, hAfter.within⟩
  · intro m hm
    have hAfter := (hCourse m hm).2
    rw [hAfter.started]
    exact hAfter.ended.trans (List.reverse_perm _).symm
  · rintro ⟨time, hShutdown⟩
    exact stops_of_shutdown settings w world hShutdown
  · intro time hStopped
    have hLive := hEnd.stopped time hStopped
    have hEnded := hEnd.ended
    rw [hLive, List.map_nil, List.nil_append, List.append_nil] at hEnded
    refine ⟨hLive, hEnd.started, hEnded, ?_, hEnd.abandoned⟩
    rw [← length_endedJobs, hEnded.length_eq, List.length_range]

/-- Settings with a tick per second, one slot and half a second to drain. -/
def overlong : Settings where
  period := (Duration.ofSecs 1).toNanos
  period_pos := by decide
  slots := 1
  drain := (Duration.ofMillis 500).toNanos
  announcesSkips := true
  abortable := true

/-- Of two jobs of 2.5 s one has ended 0.5 s after the shutdown; the other is dropped. -/
theorem jobs_of_run_overlong :
    0 < (Duration.ofSecs 1).toNanos ∧ 0 ≤ maxSlots ∧
      Settings.check (.ofSecs 1) 0 (.ofMillis 500) true true = .ok overlong ∧
        let s := run overlong (sleepers fun _ => { span := 2500 * nanosPerMilli })
          [(4500 * nanosPerMilli, .shutdown)] ()
        s.phase = .stopped (5000 * nanosPerMilli) ∧ s.skipped = 3 ∧ s.live = [] ∧
          startedJobs s.log = [1, 0] ∧
          s.fired = 2 ∧ seen Event.isFinished s.log = 1 ∧ s.abandoned = 1 := by
  have hOk : Settings.check (.ofSecs 1) 0 (.ofMillis 500) true true = .ok overlong :=
    Settings.check_eq_ok true true (by decide) (by decide)
  refine ⟨by decide, by decide, hOk, ?_⟩
  obtain ⟨settings, hCheck, -, -, hRun⟩ :=
    jobs_of_run (.ofSecs 1) 0 (.ofMillis 500) true true (by decide) (by decide)
  obtain rfl : settings = overlong := by
    rw [hOk] at hCheck
    exact (Except.ok.inj hCheck).symm
  obtain ⟨-, -, -, hReturns, hReturned⟩ := hRun (sleepers fun _ => { span := 2500 * nanosPerMilli })
    [(4500 * nanosPerMilli, .shutdown)] ()
  obtain ⟨time, hStopped⟩ := hReturns ⟨_, List.mem_singleton.mpr rfl⟩
  obtain ⟨hLive, hStarted, -, -, hAbandoned⟩ := hReturned time hStopped
  refine ⟨by cbv, by cbv, hLive, ?_, by cbv, by cbv, ?_⟩
  · rw [hStarted]
    cbv
  · rw [hAbandoned]
    cbv

end DueDispatch.Schedule
