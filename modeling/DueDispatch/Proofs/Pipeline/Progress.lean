import DueDispatch.Pipeline
import DueDispatch.Proofs.Memory.Effect

/-!
# DueDispatch — when a cycle makes progress

A claim takes the first due accounts up to the cap, and does not look at leases. An
account whose check has expired stays due while it is leased. So leased accounts can
fill the whole claim, and those behind them wait, although nothing else keeps them from
being dispatched.

## Results

* `exists_free_iff` — a free row is among the first ones of a sorted list exactly if few
  enough held ones stand before some free row.
* `progress_of_runCycle` — a cycle grants something exactly if some due account that is
  free has fewer leased due accounts before it than the cap.
* `runCycle_starved` — a free account that is due can be passed over.
-/

namespace DueDispatch

-- ---------------------------------------------------------------------------
-- Rows in order, some of which are held
-- ---------------------------------------------------------------------------

section

variable {isHeld : AccountId → Bool} {rows front back : List Account} {a : Account}

/-- The held rows before a free one are those that stand in front of it. -/
theorem countP_held_before (hSorted : (front ++ a :: back).Pairwise Account.Precedes)
    (hFree : isHeld a.id = false) :
    ((front ++ a :: back).countP fun b => isHeld b.id && b.before a) =
      front.countP fun b => isHeld b.id := by
  obtain ⟨-, hRest, hAcross⟩ := List.pairwise_append.mp hSorted
  have hFront : (front.countP fun b => isHeld b.id && b.before a) =
      front.countP fun b => isHeld b.id :=
    List.countP_congr fun b hMem => by simp [(hAcross b hMem a List.mem_cons_self).before]
  have hBack : (back.countP fun b => isHeld b.id && b.before a) = 0 :=
    List.countP_eq_zero.mpr fun b hMem => by
      simp [((List.pairwise_cons.mp hRest).1 b hMem).not_before]
  rw [List.countP_append, hFront, List.countP_cons_of_neg (by simp [hFree]), hBack, Nat.add_zero]

/-- If fewer rows are held than there are first ones, one of these is free. -/
theorem exists_free_of_countP_lt {cap : Nat} (hLong : cap ≤ rows.length)
    (hFew : (rows.countP fun b => isHeld b.id) < cap) :
    ∃ a ∈ rows.take cap, isHeld a.id = false := by
  by_contra hNone
  have hHeld : ∀ a ∈ rows.take cap, isHeld a.id = true := by
    intro a hMem
    by_contra hFree
    exact hNone ⟨a, hMem, by simpa using hFree⟩
  have hAll : (rows.take cap).countP (fun b => isHeld b.id) = cap := by
    rw [List.countP_eq_length.mpr hHeld, List.length_take, Nat.min_eq_left hLong]
  have hPart : (rows.take cap).countP (fun b => isHeld b.id) ≤
      rows.countP fun b => isHeld b.id := (List.take_sublist cap rows).countP_le
  omega

/-- A free row is among the first ones exactly if few enough held ones stand before
some free row. -/
theorem exists_free_iff (hSorted : rows.Pairwise Account.Precedes) (cap : Nat) :
    (∃ a ∈ rows.take cap, isHeld a.id = false) ↔
      ∃ a ∈ rows, isHeld a.id = false ∧
        (rows.countP fun b => isHeld b.id && b.before a) < cap := by
  constructor
  · rintro ⟨a, hMem, hFree⟩
    obtain ⟨front, back, hTake⟩ := List.append_of_mem hMem
    have hRows : rows = front ++ a :: (back ++ rows.drop cap) := by
      rw [← List.cons_append, ← List.append_assoc, ← hTake, List.take_append_drop]
    have hLength : front.length < cap := by
      have hAll := congrArg List.length hTake
      rw [List.length_take, List.length_append, List.length_cons] at hAll
      omega
    refine ⟨a, List.mem_of_mem_take hMem, hFree, ?_⟩
    rw [hRows] at hSorted ⊢
    rw [countP_held_before hSorted hFree]
    exact Nat.lt_of_le_of_lt List.countP_le_length hLength
  · rintro ⟨a, hMem, hFree, hFew⟩
    obtain ⟨front, back, rfl⟩ := List.append_of_mem hMem
    rw [countP_held_before hSorted hFree] at hFew
    -- either this row is among the first ones, or they all stand in front of it
    by_cases hNear : front.length < cap
    · refine ⟨a, ?_, hFree⟩
      rw [List.take_append, List.take_cons (by omega)]
      exact List.mem_append_right _ List.mem_cons_self
    · have hLong : cap ≤ front.length := Nat.not_lt.mp hNear
      obtain ⟨b, hFirst, hOther⟩ := exists_free_of_countP_lt hLong hFew
      refine ⟨b, ?_, hOther⟩
      rw [List.take_append_of_le_length hLong]
      exact hFirst

end

-- ---------------------------------------------------------------------------
-- Cycles
-- ---------------------------------------------------------------------------

/-- No store fails, and the queue refuses no call to come. -/
structure Memory.Working (m : Memory) : Prop where
  accounts : m.accounts.failing = false
  leases : m.leases.failing = false
  queue : ∀ n, m.queue.calls ≤ n → m.queue.accepts n = true

namespace Dispatcher

/-- **When a cycle makes progress.** While nothing fails, a cycle grants something
exactly if some account is due and not leased, and fewer leased accounts than the cap
are due and come before it. All that it grants is published, and was free. -/
theorem progress_of_runCycle (d : Dispatcher) {m : Memory} (hWorking : m.Working)
    (hCap : 1 ≤ d.policy.cap) :
    let report := (d.runCycle Memory.backends m.clock m).1
    let after := (d.runCycle Memory.backends m.clock m).2
    let due := m.accounts.table.rows.filter (d.policy.isDue m.clock)
    (1 ≤ report.granted ↔
      ∃ a ∈ due, m.isLeased a.id = false ∧
        (due.countP fun b => m.isLeased b.id && b.before a) < d.policy.cap) ∧
    report.enqueued = report.granted ∧
    ∃ ids, ids.length = report.granted ∧
      after.queue.publishedIds = m.queue.publishedIds ++ ids ∧
      ∀ id ∈ ids, id ∈ due.map Account.id ∧ m.isLeased id = false := by
  intro report after due
  have hRun := runCycle_of_leases_working (by omega : d.policy.cap ≠ 0) hWorking.accounts
    hWorking.leases m.clock
  have hPerm := m.accounts.table.due_perm m.clock d.policy
  have hSorted := m.accounts.table.pairwise_due m.clock d.policy
  let free := ((m.accounts.table.claimable m.clock d.policy).map Account.id).filter
    fun id => !m.isLeased id
  -- a queue that works takes everything that is granted
  have hTaken : m.queue.taken (chunks d.chunkSize free) = chunks d.chunkSize free :=
    Queue.taken_of_accepts hWorking.queue _
  have hGranted : report.granted = free.length := congrArg (fun run => run.1.granted) hRun
  have hEnqueued : report.enqueued = (m.queue.taken (chunks d.chunkSize free)).flatten.length :=
    congrArg (fun run => run.1.enqueued) hRun
  have hQueue : after.queue = m.queue.offered d.channel (chunks d.chunkSize free) :=
    congrArg (fun run => run.2.queue) hRun
  rw [hTaken, flatten_chunks] at hEnqueued
  refine ⟨?_, hEnqueued.trans hGranted.symm, free, hGranted.symm, ?_, fun id hMem => ?_⟩
  -- something is granted if something that is claimed is free
  · have hSome : 1 ≤ free.length ↔
        ∃ a ∈ (m.accounts.table.due m.clock d.policy).take d.policy.cap,
          m.isLeased a.id = false := by
      rw [Nat.succ_le_iff, List.length_pos_iff_exists_mem]
      simp only [free, AccountTable.claimable, List.mem_filter, List.mem_map, Bool.not_eq_true']
      constructor
      · rintro ⟨_, ⟨a, hMem, rfl⟩, hFree⟩
        exact ⟨a, hMem, hFree⟩
      · rintro ⟨a, hMem, hFree⟩
        exact ⟨a.id, ⟨a, hMem, rfl⟩, hFree⟩
    rw [hGranted, hSome, exists_free_iff hSorted]
    simp only [hPerm.mem_iff, hPerm.countP_eq, due]
  · rw [hQueue, Queue.publishedIds_offered, hTaken, flatten_chunks]
  · obtain ⟨hClaimed, hFree⟩ := List.mem_filter.mp hMem
    obtain ⟨a, hRow, rfl⟩ := List.mem_map.mp hClaimed
    exact ⟨List.mem_map_of_mem (hPerm.mem_iff.mp (List.mem_of_mem_take hRow)), by simpa using hFree⟩

/-- Accounts that are due again after a minute, or if their check is five minutes old. -/
def fiveMinutes (cap : Nat) : Dispatcher :=
  ⟨⟨.ofSecs 60, .ofSecs 300, cap⟩, .ofSecs 300, defaultChannel, 10⟩

/-- Two accounts whose checks have expired, the first one earlier. -/
def twoExpired : Memory :=
  let start : Timestamp := ⟨0⟩
  { clock := start + Duration.ofSecs 1000
    accounts := { table := .ofList [⟨1, start, start⟩, ⟨2, start + Duration.ofSecs 500, start⟩] } }

/-- The first account is claimed and leased, and the second is not. -/
def oneLeased : Memory := (Action.performAll [fiveMinutes 1] [.cycle 0] twoExpired).2

/-- The first cycle has room for one of the two accounts. -/
theorem claimed_twoExpired :
    (twoExpired.accounts.table.claimable twoExpired.clock (fiveMinutes 1).policy).map Account.id =
      [1] := by
  have hDue : twoExpired.accounts.table.rows.filter
      ((fiveMinutes 1).policy.isDue twoExpired.clock) =
        [⟨1, ⟨0⟩, ⟨0⟩⟩, ⟨2, (⟨0⟩ : Timestamp) + Duration.ofSecs 500, ⟨0⟩⟩] := by decide +kernel
  rw [AccountTable.claimable_of_sorted _ _ _ hDue (by decide +kernel)]
  rfl

/-- The memory after that cycle. -/
theorem oneLeased_eq :
    oneLeased =
      { (fiveMinutes 1).afterClaim twoExpired.clock twoExpired with
        leases := ⟨(twoExpired.pass (.ofSecs 300) [1]).2, false⟩
        queue := twoExpired.queue.offered defaultChannel (chunks 10 [1]) } := by
  have hFree : [1].filter (fun id => !twoExpired.isLeased id) = [1] := by decide +kernel
  have hCap : (fiveMinutes 1).policy.cap ≠ 0 := by decide
  have hRun := runCycle_of_leases_working (m := twoExpired) hCap rfl rfl twoExpired.clock
  simp only [claimed_twoExpired, hFree] at hRun
  exact congrArg Prod.snd hRun

theorem working_oneLeased : oneLeased.Working := by
  rw [oneLeased_eq]
  exact ⟨rfl, rfl, fun _ _ => rfl⟩

theorem clock_oneLeased : oneLeased.clock = twoExpired.clock := by
  rw [oneLeased_eq]
  rfl

/-- The claim time of the first account has been written, and its check time has not. -/
theorem rows_oneLeased :
    oneLeased.accounts.table.rows =
      [⟨1, ⟨0⟩, twoExpired.clock⟩, ⟨2, (⟨0⟩ : Timestamp) + Duration.ofSecs 500, ⟨0⟩⟩] := by
  rw [oneLeased_eq]
  simp only [afterClaim, AccountTable.claim, claimed_twoExpired]
  decide +kernel

/-- The first account is leased and the second one is not. -/
theorem isLeased_oneLeased : oneLeased.isLeased 1 = true ∧ oneLeased.isLeased 2 = false := by
  rw [oneLeased_eq]
  decide +kernel

/-- Both accounts are due, the leased one because its check has expired. -/
theorem due_oneLeased (cap : Nat) :
    oneLeased.accounts.table.rows.filter ((fiveMinutes cap).policy.isDue oneLeased.clock) =
      oneLeased.accounts.table.rows := by
  have hPolicy : (fiveMinutes cap).policy.isDue = (fiveMinutes 1).policy.isDue := rfl
  rw [rows_oneLeased, clock_oneLeased, hPolicy]
  decide +kernel

/-- A cycle of the same replica grants nothing then: its claim takes the first account
again, and the second one waits, free as it is. -/
theorem runCycle_starved :
    let d := fiveMinutes 1
    let m := (Action.performAll [d] [.cycle 0] twoExpired).2
    m.Working ∧
    1 ≤ d.policy.cap ∧
    (∃ a ∈ m.accounts.table.rows, d.policy.isDue m.clock a = true ∧ m.isLeased a.id = false) ∧
    (d.runCycle Memory.backends m.clock m).1.granted = 0 := by
  intro d m
  have hRows := due_oneLeased 1
  have hSecond : ⟨2, (⟨0⟩ : Timestamp) + Duration.ofSecs 500, ⟨0⟩⟩ ∈
      oneLeased.accounts.table.rows := by
    rw [rows_oneLeased]
    exact List.mem_cons_of_mem _ List.mem_cons_self
  have hDue := (List.mem_filter.mp (hRows.symm ▸ hSecond)).2
  have hSorted : oneLeased.accounts.table.rows.Pairwise fun a b => a.before b = true := by
    rw [rows_oneLeased]
    decide +kernel
  have hClaimed : (oneLeased.accounts.table.claimable oneLeased.clock d.policy).map Account.id =
      [1] := by
    rw [AccountTable.claimable_of_sorted _ _ _ hRows hSorted, rows_oneLeased]
    rfl
  have hGranted := congrArg (fun run => run.1.granted)
    (runCycle_of_leases_working (by decide : d.policy.cap ≠ 0) working_oneLeased.accounts
      working_oneLeased.leases oneLeased.clock)
  simp only [hClaimed] at hGranted
  refine ⟨working_oneLeased, by decide, ⟨_, hSecond, hDue, isLeased_oneLeased.2⟩, ?_⟩
  exact hGranted.trans (by simp [isLeased_oneLeased.1])

/-- With room for two the second account is granted. -/
theorem progress_of_runCycle_roomy :
    let d := fiveMinutes 2
    oneLeased.Working ∧
    1 ≤ d.policy.cap ∧
    1 ≤ (d.runCycle Memory.backends oneLeased.clock oneLeased).1.granted := by
  intro d
  have hCap : 1 ≤ d.policy.cap := by decide
  obtain ⟨hGranted, -⟩ := d.progress_of_runCycle working_oneLeased hCap
  refine ⟨working_oneLeased, hCap, hGranted.mpr ?_⟩
  rw [due_oneLeased 2, rows_oneLeased]
  refine ⟨_, List.mem_cons_of_mem _ List.mem_cons_self, isLeased_oneLeased.2, ?_⟩
  -- there is at most one leased account before it, and room for two
  rw [List.countP_cons, List.countP_cons_of_neg (by simp [isLeased_oneLeased.2]), List.countP_nil]
  split <;> decide

end Dispatcher

end DueDispatch
