import DueDispatch.Proofs.Schedule.Record
import Mathlib.Data.List.Nodup

/-!
# DueDispatch — a schedule under constant load

If every job is busy for the same time, the ticks of a schedule fire in blocks: with a time
that reaches over the next `block` ticks, the first ticks of each block fire until all slots
are taken, and by the end of the block they are free again.

A tick fires if fewer jobs are live than there are slots, and the live jobs are those that
the ticks before it started within the last block (`length_live_eq`). So whether a tick fires
is decided by the ticks before it, and counted by `countP_window_lt`.

## Results

* `countP_mod`, `countP_window_lt` — how many ticks of a pattern there are, and how many of
  them lie within the last block.
* `Leads.firings_eq` — the firing of each tick is decided by those before it.
* `firings_of_load` — which ticks fire under constant load.
-/

namespace DueDispatch.Schedule

open Duration (nanosPerMilli nanosPerSec)

-- ---------------------------------------------------------------------------
-- The first ones of each block
-- ---------------------------------------------------------------------------

section

variable {block slots : Nat}

/-- The numbers that are among the first `slots` of their block. -/
abbrev leading (block slots : Nat) (j : Nat) : Bool := decide (j % block < slots)

/-- Of the numbers of one block the first `slots` count. -/
theorem countP_range_le {n : Nat} (hBlock : n ≤ block) :
    (List.range n).countP (leading block slots) = min slots n := by
  induction n with
  | zero => rw [Nat.min_zero]; rfl
  | succ n ih =>
    rw [List.range_succ, List.countP_append, ih (by omega), List.countP_singleton,
      leading, Nat.mod_eq_of_lt (by omega)]
    split <;> simp only [decide_eq_true_eq] at * <;> omega

/-- A block more has as many leading numbers more as fit into a block. -/
theorem countP_range_add (n : Nat) :
    (List.range (n + block)).countP (leading block slots) =
      (List.range n).countP (leading block slots) + min slots block := by
  have hSame : leading block slots ∘ (block + ·) = leading block slots := by
    funext j
    simp only [Function.comp_apply, leading, Nat.add_mod_left]
  rw [Nat.add_comm n, List.range_add, List.countP_append, List.countP_map, hSame,
    countP_range_le (Nat.le_refl _), Nat.add_comm]

/-- **How many of the first numbers lead their block**: whole blocks, and what there is of the
last one. -/
theorem countP_mod (hBlock : 0 < block) (n : Nat) :
    (List.range n).countP (leading block slots) =
      n / block * min slots block + min slots (n % block) := by
  have hWhole : ∀ k, (List.range (n % block + k * block)).countP (leading block slots) =
      k * min slots block + min slots (n % block) := by
    intro k
    induction k with
    | zero =>
      rw [Nat.zero_mul, Nat.zero_mul, Nat.zero_add]
      exact countP_range_le (Nat.le_of_lt (Nat.mod_lt n hBlock))
    | succ k ih =>
      rw [Nat.succ_mul, ← Nat.add_assoc, countP_range_add, ih, Nat.succ_mul]
      omega
  have hDiv := hWhole (n / block)
  rwa [Nat.mul_comm, Nat.mod_add_div] at hDiv

theorem countP_range_from (p : Nat → Bool) (n k : Nat) :
    (List.range (n + k)).countP (fun j => decide (n ≤ j) && p j) + (List.range n).countP p =
      (List.range (n + k)).countP p := by
  have hOld : (List.range n).countP (fun j => decide (n ≤ j) && p j) = 0 := by
    refine List.countP_eq_zero.mpr fun j hj => ?_
    have := List.mem_range.mp hj
    simp [Nat.not_le.mpr this]
  have hNew : ((List.range k).map (n + ·)).countP (fun j => decide (n ≤ j) && p j) =
      ((List.range k).map (n + ·)).countP p := by
    refine List.countP_congr fun j hj => ?_
    obtain ⟨i, -, rfl⟩ := List.mem_map.mp hj
    simp
  rw [List.range_add, List.countP_append, List.countP_append, hOld, hNew]
  omega

/-- **A number leads its block if there are fewer leading numbers than slots among those that
lie less than a block before it.** -/
theorem countP_window_lt (hBlock : 0 < block) (j : Nat) :
    (List.range j).countP (fun i => decide (j < i + block) && leading block slots i) < slots ↔
      j % block < slots := by
  rcases Nat.lt_or_ge j block with hFirst | hLater
  -- in the first block all numbers so far count
  · have hAll : (List.range j).countP (fun i => decide (j < i + block) && leading block slots i) =
        (List.range j).countP (leading block slots) := by
      refine List.countP_congr fun i _ => ?_
      simp [show j < i + block by omega]
    rw [hAll, countP_range_le (Nat.le_of_lt hFirst), Nat.mod_eq_of_lt hFirst]
    omega
  -- later a block that ends with this number holds as many leading numbers as any other
  · obtain ⟨n, k, hj, hBlockEnd⟩ : ∃ n k, j = n + k ∧ j + 1 = n + block :=
      ⟨j + 1 - block, block - 1, by omega, by omega⟩
    have hWindow : (List.range j).countP
          (fun i => decide (j < i + block) && leading block slots i) =
        (List.range j).countP (fun i => decide (n ≤ i) && leading block slots i) := by
      refine List.countP_congr fun i _ => ?_
      rw [show decide (j < i + block) = decide (n ≤ i) from decide_eq_decide.mpr (by omega)]
    have hFrom := countP_range_from (leading block slots) n k
    have hEnd : (List.range (j + 1)).countP (leading block slots) =
        (List.range j).countP (leading block slots) + (leading block slots j).toNat := by
      rw [List.range_succ, List.countP_append, List.countP_singleton]
      cases leading block slots j <;> rfl
    rw [hBlockEnd, countP_range_add] at hEnd
    have hMod := Nat.mod_lt j hBlock
    rw [← hj] at hFrom
    rw [hWindow]
    by_cases hLead : j % block < slots
    · rw [leading, decide_eq_true hLead, Bool.toNat_true] at hEnd
      omega
    · rw [leading, decide_eq_false hLead, Bool.toNat_false] at hEnd
      omega

end

-- ---------------------------------------------------------------------------
-- Before the shutdown
-- ---------------------------------------------------------------------------

variable {W J : Type} {settings : Settings} {w : Workload W J}

/-- These steps only change the world. -/
def OnlyEdits (script : Script W) : Prop := ∀ entry ∈ script, ∃ change, entry.2 = .edit change

/-- The ticks of a run that is shut down, and before that only sees its world changed. -/
theorem ticks_course {before : Script W} (hEdits : OnlyEdits before) {time : Nat} {after : Script W}
    (hOrder : InOrder (before ++ (time, .shutdown) :: after))
    (hWhole : nanosPerMilli ∣ settings.period) (w : Workload W J) (world : W) :
    ticks (course settings w (before ++ (time, .shutdown) :: after) world) =
      (List.range ((time + (stride settings.period - 1)) / stride settings.period)).map
        fun j => onTime (j * stride settings.period) := by
  have hSeen : SeenBy 0 (before ++ (time, .shutdown) :: after) :=
    Or.inl ⟨time, List.mem_append_right _ (List.mem_cons_self ..)⟩
  have hBefore : ∀ entry ∈ before, entry.2 ≠ .shutdown ∧ ∀ span, entry.2 ≠ .jump span := by
    intro entry hEntry
    obtain ⟨change, hChange⟩ := hEdits entry hEntry
    simp [hChange]
  have hWatched := ticks_watched hOrder hSeen settings w world
  have hNothing : ((run settings w (before ++ (time, .shutdown) :: after) world).momentsUntil
      settings w 0) = [] := State.momentsUntil_of_le fun _ _ _ => Nat.zero_le _
  have hCourse : watched settings w (before ++ (time, .shutdown) :: after) world 0 =
      course settings w (before ++ (time, .shutdown) :: after) world :=
    (congrArg (course settings w (before ++ (time, .shutdown) :: after) world ++ ·) hNothing).trans
      (List.append_nil _)
  rw [hCourse, turns_append_shutdown hBefore] at hWatched
  have hPace : paceThen settings.period settings.period_pos time 0 (0 * stride settings.period)
      (fun _ => []) = _ := paceThen_stride hWhole 0
  rw [Nat.zero_mul, Nat.sub_zero, ← List.range_eq_range'] at hPace
  rw [hWatched, ← hPace]
  rfl

/-- No job was dropped, and none will be at the end of its turn. -/
structure Intact (s : State W J) : Prop where
  aborted : s.aborted = false
  abandoned : s.abandoned = 0

namespace Intact

variable {s : State W J}

theorem place (hIntact : Intact s) (n : Nat) (t : Turn J) : Intact (s.place n t) := by
  rcases s.place_cases n t with
    ⟨e, -, -, -, -, hPlace⟩ | ⟨hAborted, -⟩ | ⟨-, wakes, job, hPlace⟩
  · rw [hPlace]
    exact ⟨hIntact.aborted, hIntact.abandoned⟩
  · rw [hIntact.aborted] at hAborted
    contradiction
  · rw [hPlace]
    exact ⟨hIntact.aborted, hIntact.abandoned⟩

theorem wake (hIntact : Intact s) (hTicking : s.phase.isTicking) (w : Workload W J) :
    Intact (s.wake w) := by
  unfold State.wake
  split
  · exact hIntact
  · rename_i l rest _
    have hTurn : Intact { s with live := rest, world := (w.resume l.job s.now s.world).2 } :=
      ⟨hIntact.aborted, hIntact.abandoned⟩
    rw [State.stopIfDrained_of_ticking (by rwa [State.phase_place])]
    exact hTurn.place _ _

/-- A tick starts a job or skips, and drops none. -/
theorem tick (hIntact : Intact s) (settings : Settings) (w : Workload W J) (deadline : Nat) :
    Intact (s.tick settings w deadline) := by
  rcases State.tick_cases settings w deadline s with ⟨-, hTick⟩ | ⟨-, hTick⟩
  · rw [hTick]
    have hStart : Intact (State.record
        { s with
          phase := State.phaseAfter settings deadline s.now
          fired := s.fired + 1
          world := (w.start s.fired s.now s.world).2 }
        (.started s.fired)) := ⟨hIntact.aborted, hIntact.abandoned⟩
    exact hStart.place _ _
  · rw [hTick]
    unfold State.skipTick
    split <;> exact ⟨hIntact.aborted, hIntact.abandoned⟩

/-- While the schedule ticks, nothing that is due drops a job. -/
theorem handle (hIntact : Intact s) (hTicking : s.phase.isTicking) (settings : Settings)
    (w : Workload W J) (due : Due) : Intact (s.handle settings w due) := by
  unfold State.handle
  split
  · exact hIntact.wake hTicking w
  · exact hIntact.tick settings w _
  · rename_i deadline hPhase
    rw [hPhase] at hTicking
    contradiction
  · exact hIntact

end Intact

/-- Where only the world is changed from outside no job is dropped before the shutdown. -/
theorem Leads.intact {script : Script W} {s s' : State W J} {ms : List (Moment W J)}
    (hLeads : Leads settings w script s ms s') (hEdits : OnlyEdits script)
    (hTicking : s.phase.isTicking) (hIntact : Intact s) : ∀ m ∈ ms, Intact m.state := by
  obtain ⟨hAll, -⟩ := hLeads.induction (P := fun u => u.phase.isTicking ∧ Intact u)
    ⟨hTicking, hIntact⟩
    (by
      rintro u time due ⟨hTicking, hIntact⟩ -
      have hWait : Intact (u.waitUntil time) := ⟨hIntact.aborted, hIntact.abandoned⟩
      exact ⟨⟨hTicking, hWait⟩,
        (State.isTicking_handle (s := u.waitUntil time) hTicking settings w due).1,
        hWait.handle hTicking settings w due⟩)
    (by
      rintro u ⟨hTicking, hIntact⟩ entry hEntry
      obtain ⟨change, hChange⟩ := hEdits entry hEntry
      rw [hChange]
      exact ⟨⟨hTicking, hIntact.aborted, hIntact.abandoned⟩, hTicking, hIntact.aborted,
        hIntact.abandoned⟩)
  exact fun m hm => (hAll m hm).1.2

/-- The log of such a schedule has no job dropped. -/
theorem Intact.kept {s : State W J} (hIntact : Intact s)
    (hCons : State.Conserved settings [] s) : ∀ e ∈ s.log, e.2.isDropped = false := by
  have hNone : seen Event.isDropped s.log = 0 := by rw [← hCons.abandoned, hIntact.abandoned]
  intro e he
  simpa using List.countP_eq_zero.mp hNone e he

/-- The course up to an outside step, and from it on. -/
theorem State.moments_append (settings : Settings) (w : Workload W J) {script before : Script W}
    (hBefore : before ⊆ script) (entry : Nat × Step W) (after : Script W) (s : State W J) :
    ∃ earlier,
      s.moments settings w (before ++ entry :: after) =
        earlier ++
          ⟨(before.foldl (State.advance settings w) s).met settings w entry.1,
              .outside entry.2⟩ ::
            State.moments settings w after
              ((before.foldl (State.advance settings w) s).advance settings w entry) ∧
      Leads settings w script s earlier
        ((before.foldl (State.advance settings w) s).runUntil settings w entry.1) := by
  induction before generalizing s with
  | nil => exact ⟨_, rfl, leads_momentsUntil settings w script entry.1 s⟩
  | cons first rest ih =>
    obtain ⟨hFirst, hRest⟩ := List.cons_subset.mp hBefore
    obtain ⟨earlier, hMoments, hLeads⟩ := ih hRest (s.advance settings w first)
    refine ⟨s.momentsUntil settings w first.1 ++
      ⟨s.met settings w first.1, .outside first.2⟩ :: earlier, ?_, ?_⟩
    · rw [List.cons_append, State.moments, hMoments, List.append_assoc]
      rfl
    · exact (leads_momentsUntil settings w script first.1 s).append (.outside hFirst hLeads)

-- ---------------------------------------------------------------------------
-- The pattern
-- ---------------------------------------------------------------------------

section

variable {period busy : Nat}

/-- A start reaches to all ticks less than a block after it. -/
theorem lt_add_block_iff (hPeriod : 0 < period) {i j : Nat} (hBefore : i ≤ j) :
    j * period < i * period + busy ↔ j < i + (busy + (period - 1)) / period := by
  obtain ⟨k, rfl⟩ := Nat.exists_eq_add_of_le hBefore
  rw [Nat.add_mul, Nat.add_lt_add_iff_left, Nat.add_lt_add_iff_left]
  exact (lt_count_iff hPeriod).symm

/-- Of the ticks that fired so far, those less than a block ago. -/
theorem countP_reaching (hPeriod : 0 < period) (p : Nat → Bool) (j : Nat) :
    ((((List.range j).filter p).map (· * period)).reverse.countP fun start =>
        decide (j * period < start + busy)) =
      (List.range j).countP fun i =>
        decide (j < i + (busy + (period - 1)) / period) && p i := by
  rw [List.countP_reverse, List.countP_map, List.countP_filter]
  refine List.countP_congr fun i hi => ?_
  have hBefore := Nat.le_of_lt (List.mem_range.mp hi)
  simp only [Function.comp_apply]
  rw [decide_eq_decide.mpr (lt_add_block_iff hPeriod hBefore)]

/-- At no time there are more starts on the grid that have not come to their end than fit into a
block. -/
theorem pending_le (hPeriod : 0 < period) (hOff : ¬period ∣ busy) (p : Nat → Bool) (n now : Nat) :
    pending busy now ((((List.range n).filter p).map (· * period)).reverse) ≤
      (busy + (period - 1)) / period := by
  rw [pending, List.countP_reverse, List.countP_map, List.countP_eq_length_filter]
  generalize hBlock : (busy + (period - 1)) / period = block
  have hBusy : busy < block * period := by
    have hNot : ¬block * period < busy := by
      rw [← lt_count_iff hPeriod, hBlock]
      exact Nat.lt_irrefl _
    have hNe : busy ≠ block * period := fun hSame => hOff ⟨block, by rw [hSame, Nat.mul_comm]⟩
    omega
  have hNodup : (((List.range n).filter p).filter
      ((fun start => decide (start ≤ now ∧ now ≤ start + busy)) ∘ (· * period))).Nodup :=
    (List.nodup_range.filter _).filter _
  -- they lie in the block that ends with the last tick by now
  have hWithin : ((List.range n).filter p).filter
      ((fun start => decide (start ≤ now ∧ now ≤ start + busy)) ∘ (· * period)) ⊆
        List.range' (now / period + 1 - block) block := by
    intro i hi
    obtain ⟨hStart, hEnd⟩ : i * period ≤ now ∧ now ≤ i * period + busy := by
      simpa using (List.mem_filter.mp hi).2
    have hLe : i ≤ now / period := (Nat.le_div_iff_mul_le hPeriod).mpr hStart
    have hLt : now / period < i + block :=
      (Nat.div_lt_iff_lt_mul hPeriod).mpr (by rw [Nat.add_mul]; omega)
    rw [List.mem_range'_1]
    omega
  have hLength := (List.subperm_of_subset hNodup hWithin).length_le
  rwa [List.length_range'] at hLength

end

/-- What has to be known of the state that a tick meets, all jobs being busy for this long: which
jobs are live is decided by the starts so far. -/
def Countable (busy : Nat) (s : State W J) : Prop :=
  (∀ start ∈ (starts s.log).map Prod.fst, s.now ≠ start + busy) →
    s.live.length =
      ((starts s.log).map Prod.fst).countP fun start => decide (s.now < start + busy)

/-- A tick fires if it leads its block, all those before it having done so. -/
theorem Countable.slot_iff {s : State W J} {period busy j : Nat} (hCountable : Countable busy s)
    (hPeriod : 0 < period) (hOff : ¬period ∣ busy) (hNow : s.now = j * period)
    (hStarts : (starts s.log).map Prod.fst =
      (((List.range j).filter (leading ((busy + (period - 1)) / period) settings.slots)).map
        (· * period)).reverse) :
    s.live.length < settings.slots ↔
      leading ((busy + (period - 1)) / period) settings.slots j = true := by
  have hReach : ∀ start ∈ (starts s.log).map Prod.fst, s.now ≠ start + busy := by
    rw [hStarts, hNow]
    intro start hStart hSame
    obtain ⟨i, -, rfl⟩ := List.mem_map.mp (List.mem_reverse.mp hStart)
    exact hOff ((Nat.dvd_add_right (Nat.dvd_mul_left ..)).mp ⟨j, by rw [← hSame, Nat.mul_comm]⟩)
  have hBusy : busy ≠ 0 := fun hZero => hOff (hZero ▸ Nat.dvd_zero period)
  have hBlock : 0 < (busy + (period - 1)) / period := Nat.div_pos (by omega) hPeriod
  rw [hCountable hReach, hStarts, hNow, countP_reaching hPeriod, countP_window_lt hBlock]
  exact decide_eq_true_iff.symm

/-- **The firing of each tick is decided by those before it.** -/
theorem Leads.firings_eq {script : Script W} {s s' : State W J} {ms : List (Moment W J)}
    (hLeads : Leads settings w script s ms s') {period busy : Nat} (hPeriod : 0 < period)
    (hOff : ¬period ∣ busy) (hCountable : ∀ m ∈ ms, Countable busy m.state) {j n : Nat}
    (hTicks : ticks ms = (List.range' j n).map fun j => onTime (j * period))
    (hStarts : (starts s.log).map Prod.fst =
      (((List.range j).filter (leading ((busy + (period - 1)) / period) settings.slots)).map
        (· * period)).reverse) :
    firings settings w ms = (List.range' j n).map fun j =>
      (onTime (j * period), leading ((busy + (period - 1)) / period) settings.slots j) := by
  -- `hStarts` says which of the ticks before `j` fired; a tick carries it on to `j + 1`,
  -- and nothing else touches it
  induction hLeads generalizing j n with
  | nil s =>
    obtain rfl : n = 0 := by simpa using (congrArg List.length hTicks).symm
    rfl
  | @due s s' time due rest hDue _ ih =>
    obtain ⟨hFirst, hRest⟩ := List.forall_mem_cons.mp hCountable
    by_cases hTick : due = .tick
    · subst hTick
      obtain ⟨deadline, hPhase⟩ := State.ticking_of_due hDue
      have hMoment := State.tick?_waitUntil hPhase time
      rw [ticks_cons_of_tick hMoment] at hTicks
      cases n with
      | zero => simp at hTicks
      | succ n =>
        obtain ⟨hSame, hLater⟩ := List.cons.inj hTicks
        obtain ⟨rfl, hNow⟩ := Tick.mk.inj hSame
        obtain ⟨fires, hFlag⟩ : ∃ fires, decide ((s.waitUntil time).fired <
            ((s.waitUntil time).handle settings w .tick).fired) = fires := ⟨_, rfl⟩
        have hFires := State.fires_tick (s := s.waitUntil time) hPhase settings w
        rw [hFlag] at hFires
        -- a slot is free exactly if the number is among the first of its block
        have hLead : fires = leading ((busy + (period - 1)) / period) settings.slots j :=
          Bool.eq_iff_iff.mpr (hFires.slot.trans (hFirst.slot_iff hPeriod hOff hNow hStarts))
        rw [firings_cons_of_tick hMoment hFlag, hNow, hLead, ih hRest hLater ?_]
        · rfl
        · rw [hFires.starts, List.map_append, hNow, hLead, List.range_succ, List.filter_append,
            List.map_append, List.reverse_append]
          refine congrArg₂ (· ++ ·) ?_ hStarts
          cases hValue : leading ((busy + (period - 1)) / period) settings.slots j with
          | true => rw [List.filter_cons_of_pos hValue]; rfl
          | false => rw [List.filter_cons_of_neg (by simp [hValue])]; rfl
    · have hNone := tick?_of_ne (m := ⟨s.waitUntil time, .due due⟩) (by simpa using hTick)
      rw [ticks_cons_of_none hNone] at hTicks
      rw [firings_cons_of_none hNone]
      refine ih hRest hTicks ?_
      rw [(State.quiet_handle settings w hTick (s.waitUntil time)).starts]
      exact hStarts
  | @outside s s' entry rest hEntry _ ih =>
    have hNone := tick?_of_ne (m := ⟨s.waitUntil entry.1, .outside entry.2⟩) (by simp)
    rw [ticks_cons_of_none hNone] at hTicks
    rw [firings_cons_of_none hNone]
    refine ih (List.forall_mem_cons.mp hCountable).2 hTicks ?_
    rw [(State.quiet_perform settings entry.2 (s.waitUntil entry.1)).starts]
    exact hStarts

-- ---------------------------------------------------------------------------
-- Whole runs
-- ---------------------------------------------------------------------------

theorem Extends.past {s : State W J} {world : W} (hExt : Extends { world } s) :
    ∀ e ∈ s.log, e.1 ≤ s.now := by
  obtain ⟨-, later, hLog, hTimes⟩ := hExt
  rw [List.append_nil] at hLog
  rw [hLog]
  exact fun e he => (hTimes e he).2

/-- Jobs that start on the grid and are busy for less than a block are not more than a block has
ticks. -/
theorem length_live_le_block {s r : State W J} (hCons : State.Conserved settings [] s)
    {world : W} (hPast : Extends { world } s) (hExt : Extends s r) {period busy n : Nat}
    (hLasts : Lasts busy r.log) (hPeriod : 0 < period) (hOff : ¬period ∣ busy) {p : Nat → Bool}
    (hGrid : (starts r.log).map Prod.fst =
      (((List.range n).filter p).map (· * period)).reverse) :
    s.live.length ≤ (busy + (period - 1)) / period := by
  have hLive := length_live_le hCons hExt hPast.past hLasts
  have hMore := hExt.pending_le busy s.now
  rw [hGrid] at hMore
  exact Nat.le_trans hLive (Nat.le_trans hMore (pending_le hPeriod hOff p n s.now))

/-- The part of a course up to the shutdown has all the ticks. -/
theorem course_split (settings : Settings) (w : Workload W J) (before : Script W) (time : Nat)
    (after : Script W) (world : W) :
    ∃ earlier later s,
      course settings w (before ++ (time, .shutdown) :: after) world = earlier ++ later ∧
        Leads settings w before { world } earlier s ∧ ticks later = [] := by
  obtain ⟨earlier, hCourse, hLeads⟩ := State.moments_append settings w
    (List.Subset.refl before) (time, .shutdown) after { world }
  refine ⟨earlier, _, _, hCourse, hLeads, ?_⟩
  rw [ticks_cons_of_none (tick?_of_ne (by simp))]
  exact (leads_moments settings w (List.Subset.refl after) _).no_ticks
    (State.isTicking_shutdown settings _)

/-- Which ticks of a run fire. -/
theorem firings_course {before : Script W} (hEdits : OnlyEdits before) {time : Nat}
    {after : Script W} (hOrder : InOrder (before ++ (time, .shutdown) :: after))
    (hWhole : nanosPerMilli ∣ settings.period) {busy : Nat} (hOff : ¬stride settings.period ∣ busy)
    {world : W}
    (hLasts : Lasts busy (run settings w (before ++ (time, .shutdown) :: after) world).log) :
    firings settings w (course settings w (before ++ (time, .shutdown) :: after) world) =
      (List.range ((time + (stride settings.period - 1)) / stride settings.period)).map fun j =>
        (onTime (j * stride settings.period),
          leading ((busy + (stride settings.period - 1)) / stride settings.period)
            settings.slots j) := by
  have hTicks := ticks_course hEdits hOrder hWhole w world
  obtain ⟨hConserved, hEnd⟩ :=
    conserved_course settings w (before ++ (time, .shutdown) :: after) world
  obtain ⟨-, hExtends⟩ :=
    (leads_course settings w (before ++ (time, .shutdown) :: after) world).extends
  obtain ⟨earlier, later, s, hCourse, hLeads, hNone⟩ :=
    course_split settings w before time after world
  have hIntact := hLeads.intact hEdits rfl ⟨rfl, rfl⟩
  -- what is live before the shutdown is counted in the log of the whole run
  have hCountable : ∀ m ∈ earlier, Countable busy m.state := by
    intro m hm
    have hMem : m ∈ course settings w (before ++ (time, .shutdown) :: after) world := by
      rw [hCourse]
      exact List.mem_append_left _ hm
    obtain ⟨hFrom, hNext, hTo⟩ := hExtends m hMem
    have hCons := (hConserved m hMem).1
    exact length_live_eq hCons (hNext.trans hTo) hFrom.past hLasts (nodup_ended hEnd)
      ((hIntact m hm).kept hCons)
  rw [hCourse, ticks_append, hNone, List.append_nil, List.range_eq_range'] at hTicks
  -- after the shutdown there are no ticks, so the part before it decides
  have hLater : firings settings w later = [] := by
    rw [← List.map_eq_nil_iff (f := Prod.fst), map_fst_firings, hNone]
  rw [hCourse, firings_append, hLater, List.append_nil, List.range_eq_range']
  exact hLeads.firings_eq (stride_pos settings.period_pos) hOff hCountable hTicks rfl

/-- **Which ticks fire under constant load.** Settings with a period of whole milliseconds that
is not zero, and with no more slots than there can be, are accepted. In a run whose jobs are all
busy for the same time and that is shut down between two ticks, its world only being changed
before,

* a tick starts a job if it is among the first ticks of its block, as many as there are slots;
  a block is the time that a job is busy, in ticks and rounded up,
* so many ticks fire, and the others are left out,
* there are never more live jobs than slots, nor more than a block has ticks.

The ticks come a period apart, or thirty years where the period is longer. -/
theorem firings_of_load (period : Duration) (maxInFlight : Nat) (drain : Duration)
    (announcesSkips abortable : Bool) (hPeriod : 0 < period.toNanos)
    (hWhole : nanosPerMilli ∣ period.toNanos) (hSlots : maxInFlight ≤ maxSlots) :
    ∃ settings, Settings.check period maxInFlight drain announcesSkips abortable = .ok settings ∧
      ∀ {W J : Type} (w : Workload W J) (world : W) (before after : Script W)
        (time busy count : Nat),
        let script := before ++ (time, .shutdown) :: after
        let apart := stride period.toNanos
        let block := (busy + (apart - 1)) / apart
        let slots := max maxInFlight 1
        InOrder script → OnlyEdits before → ¬apart ∣ busy →
        Lasts busy (run settings w script world).log →
        time < count * apart → count * apart < time + apart →
          firings settings w (course settings w script world) =
            (List.range count).map
              (fun j => (⟨j * apart, j * apart⟩, decide (j % block < slots))) ∧
          (run settings w script world).fired =
            count / block * min slots block + min slots (count % block) ∧
          (run settings w script world).fired + (run settings w script world).skipped = count ∧
          ∀ m ∈ course settings w script world,
            m.state.live.length ≤ min slots block ∧
              (m.next settings w).live.length ≤ min slots block := by
  obtain ⟨settings, hCheck, hPeriodEq, hSlotsEq⟩ : ∃ settings,
      Settings.check period maxInFlight drain announcesSkips abortable = .ok settings ∧
        settings.period = period.toNanos ∧ settings.slots = max maxInFlight 1 :=
    ⟨_, Settings.check_eq_ok announcesSkips abortable hPeriod hSlots, rfl, rfl⟩
  refine ⟨settings, hCheck, ?_⟩
  rw [← hPeriodEq] at hWhole ⊢
  rw [← hSlotsEq]
  intro W J w world before after time busy count script apart block slots hOrder hEdits hOff hLasts
    hFrom hTo
  have hApart : 0 < apart := stride_pos settings.period_pos
  -- the shutdown comes between two ticks, which gives their number
  have hCount : (time + (apart - 1)) / apart = count := by
    refine Nat.div_eq_of_lt_le (by omega) ?_
    rw [Nat.succ_mul]
    omega
  have hBlock : 0 < block := by
    have hBusy : busy ≠ 0 := fun hZero => hOff (hZero ▸ Nat.dvd_zero apart)
    exact Nat.div_pos (by omega) hApart
  have hTicks : ticks (course settings w script world) =
      (List.range count).map fun j => onTime (j * apart) :=
    hCount ▸ ticks_course hEdits hOrder hWhole w world
  have hFirings : firings settings w (course settings w script world) =
      (List.range count).map fun j => (onTime (j * apart), leading block settings.slots j) :=
    hCount ▸ firings_course hEdits hOrder hWhole hOff hLasts
  obtain ⟨hStarts, hFired, hAll⟩ := (leads_course settings w script world).log_firings
  refine ⟨hFirings, ?_, ?_, fun m hm => ?_⟩
  · rw [hFired, hFirings, List.countP_map, ← countP_mod hBlock]
    exact Nat.zero_add _
  · rw [hAll, hTicks, List.length_map, List.length_range]
    exact Nat.zero_add _
  · obtain ⟨hConserved, -⟩ := conserved_course settings w script world
    obtain ⟨hFromStart, hNext, hToEnd⟩ :=
      (leads_course settings w script world).extends.2 m hm
    have hGrid : (starts (run settings w script world).log).map Prod.fst =
        (((List.range count).filter (leading block settings.slots)).map (· * apart)).reverse := by
      rw [hStarts, hFirings, List.filter_map, List.map_map]
      exact List.append_nil _
    have hBound {u : State W J} (hCons : State.Conserved settings [] u)
        (hPast : Extends { world } u) (hExt : Extends u (run settings w script world)) :
        u.live.length ≤ min settings.slots block :=
      Nat.le_min.mpr ⟨hCons.within, length_live_le_block hCons hPast hExt hLasts hApart hOff hGrid⟩
    exact ⟨hBound (hConserved m hm).1 hFromStart (hNext.trans hToEnd),
      hBound (hConserved m hm).2 (hFromStart.trans hNext) hToEnd⟩

/-- Two slots, and a tick per second. -/
def paired : Settings := { overlong with slots := 2 }

/-- Jobs of 2.5 s, every other of which crashes. -/
def flaky : Workload Unit Ending :=
  sleepers fun n =>
    { span := 2500 * nanosPerMilli, ending := if n % 2 = 0 then .finished else .crashed }

/-- A shutdown at 7.5 s. -/
def halted : Script Unit := [(1200 * nanosPerMilli, .edit id), (7500 * nanosPerMilli, .shutdown)]

/-- With two slots two of three ticks start a job of 2.5 s. -/
theorem firings_of_load_paired :
    0 < (Duration.ofSecs 1).toNanos ∧ nanosPerMilli ∣ (Duration.ofSecs 1).toNanos ∧ 2 ≤ maxSlots ∧
      Settings.check (.ofSecs 1) 2 (.ofMillis 500) true true = .ok paired ∧
      Lasts (2500 * nanosPerMilli) (run paired flaky halted ()).log ∧
      (firings paired flaky (course paired flaky halted ())).map Prod.snd =
        [true, true, false, true, true, false, true, true] ∧
      (run paired flaky halted ()).fired = 6 ∧ (run paired flaky halted ()).skipped = 2 ∧
      ∀ m ∈ course paired flaky halted (), m.state.live.length ≤ 2 := by
  have hOk : Settings.check (.ofSecs 1) 2 (.ofMillis 500) true true = .ok paired :=
    Settings.check_eq_ok true true (by decide) (by decide)
  have hLog : (run paired flaky halted ()).log =
      [(8000 * nanosPerMilli, .dropped 5), (8000 * nanosPerMilli, .dropped 4),
        (7000 * nanosPerMilli, .started 5), (6500 * nanosPerMilli, .crashed 3),
        (6000 * nanosPerMilli, .started 4), (5500 * nanosPerMilli, .finished 2),
        (5000 * nanosPerMilli, .skipped), (4000 * nanosPerMilli, .started 3),
        (3500 * nanosPerMilli, .crashed 1), (3000 * nanosPerMilli, .started 2),
        (2500 * nanosPerMilli, .finished 0), (2000 * nanosPerMilli, .skipped),
        (1000 * nanosPerMilli, .started 1), (0, .started 0)] := by cbv
  have hLasts : Lasts (2500 * nanosPerMilli) (run paired flaky halted ()).log := by
    rw [hLog]
    decide
  refine ⟨by decide, by decide, by decide, hOk, hLasts, ?_⟩
  obtain ⟨settings, hCheck, hRun⟩ :=
    firings_of_load (.ofSecs 1) 2 (.ofMillis 500) true true (by decide) (by decide) (by decide)
  obtain rfl : settings = paired := by
    rw [hOk] at hCheck
    exact (Except.ok.inj hCheck).symm
  have hEdit : OnlyEdits [(1200 * nanosPerMilli, Step.edit (id : Unit → Unit))] := by
    intro entry hEntry
    obtain rfl := List.mem_singleton.mp hEntry
    exact ⟨id, rfl⟩
  obtain ⟨hFirings, hFired, hAll, hLive⟩ :=
    hRun flaky () [(1200 * nanosPerMilli, .edit id)] [] (7500 * nanosPerMilli)
      (2500 * nanosPerMilli) 8 (by decide) hEdit (by decide) hLasts (by decide) (by decide)
  have hSix : (run paired flaky halted ()).fired = 6 := hFired
  have hEight : (run paired flaky halted ()).fired + (run paired flaky halted ()).skipped = 8 :=
    hAll
  refine ⟨?_, hSix, by omega, fun m hm => Nat.le_trans (hLive m hm).1 (Nat.min_le_left ..)⟩
  have hCourse : firings paired flaky (course paired flaky halted ()) = _ := hFirings
  rw [hCourse]
  cbv

/-- What a job does that has to sleep through these spans. -/
def nap : List Nat → Turn (List Nat)
  | [] => .done .finished
  | span :: rest => if h : 0 < span then .sleep span rest h else nap rest

/-- Jobs that each sleep through these spans. -/
def naps (spans : List Nat) : Workload Unit (List Nat) where
  start _ _ world := (nap spans, world)
  resume rest _ world := (nap rest, world)

/-- A year of 365 days. -/
def year : Nat := 365 * 86400 * nanosPerSec

/-- Jobs of 45 years. -/
def drowsy : Workload Unit (List Nat) := naps [20 * year, 20 * year, 5 * year]

/-- A schedule that is to tick every fifty years. -/
def jubilee : Settings where
  period := (Duration.ofSecs 1576800000).toNanos
  period_pos := by decide

/-- A shutdown after 55 years. -/
def adjourned : Script Unit := [(55 * year, .shutdown)]

/-- Not every number of slots is accepted, and no tick is further than thirty years from the one
before: with jobs of 45 years and a shutdown after 55, the second tick comes too early to find a
free slot, whereas two ticks that are fifty years apart would both start a job. -/
theorem firings_of_load_decades :
    let block := (45 * year + (jubilee.period - 1)) / jubilee.period
    Settings.check (.ofSecs 1) (maxSlots + 1) defaultDrain false false = .error .tooManySlots ∧
      Settings.check (.ofSecs 1576800000) 1 defaultDrain false false = .ok jubilee ∧
      nanosPerMilli ∣ jubilee.period ∧ nanosPerMilli ∣ 45 * year ∧
      ¬jubilee.period ∣ 45 * year ∧ Lasts (45 * year) (run jubilee drowsy adjourned ()).log ∧
      1 * jubilee.period < 55 * year ∧ 55 * year < 2 * jubilee.period ∧
      2 / block * min 1 block + min 1 (2 % block) = 2 ∧
      (run jubilee drowsy adjourned ()).fired = 1 ∧
      (run jubilee drowsy adjourned ()).skipped = 1 := by
  have hLog : (run jubilee drowsy adjourned ()).log =
      [(45 * year, .finished 0), (0, .started 0)] := by cbv
  have hLasts : Lasts (45 * year) (run jubilee drowsy adjourned ()).log := by
    rw [hLog]
    decide
  exact ⟨rfl, Settings.check_eq_ok false false (by decide) (by decide), by decide, by decide,
    by decide, hLasts, by decide, by decide, by decide, by cbv, by cbv⟩

end DueDispatch.Schedule
