import DueDispatch.Proofs.Pipeline.Progress

/-!
# DueDispatch — how a backlog drains

While the clock stands, a claim stamps the accounts it takes with a reading after the
ready cut-off. As long as no check has expired they are not due any more, and what is
due then is the rest of the backlog in the same order. So cycles of any replicas work
it off from the front, a cap at a time, and none of them meets a lease of another.

## Results

* `due_claim` — a claim takes its accounts off the front of what is due.
* `drain_runCycle` — one cycle dispatches the front of the backlog.
* `backlog_drains` — what any number of cycles dispatch, and in which order.
-/

namespace DueDispatch

-- ---------------------------------------------------------------------------
-- What a claim leaves due
-- ---------------------------------------------------------------------------

namespace AccountTable

variable {t : AccountTable} {now : Timestamp} {p : Policy} {a : Account}

/-- A stamped row waits for the ready time, unless its check has expired. -/
theorem not_isDue_stamped (hReady : p.readyCutoff now < now)
    (hFresh : ¬ a.checkedAt < p.expiredCutoff now) :
    p.isDue now { a with enqueuedAt := a.enqueuedAt.max now } = false := by
  rw [← Bool.not_eq_true, Policy.isDue_iff]
  rintro (hOld | hExpired)
  · have hStamp : now ≤ a.enqueuedAt.max now := Timestamp.le_max_right hReady.2.1
    exact Timestamp.not_lt_of_le (Timestamp.le_trans hStamp hOld) hReady
  · exact hFresh hExpired

/-- The rows that are due after a claim are those it passed over. -/
theorem filter_isDue_claim (hReady : p.readyCutoff now < now)
    (hFresh : ∀ a ∈ t.due now p, ¬ a.checkedAt < p.expiredCutoff now) :
    (t.claim now p).2.rows.filter (p.isDue now) =
      (t.rows.filter (p.isDue now)).filter fun a => a.id ∉ (t.claim now p).1 := by
  have hRow : ∀ a ∈ t.rows, p.isDue now (enqueued now (t.claim now p).1 a) =
      (decide (a.id ∉ (t.claim now p).1) && p.isDue now a) := by
    intro a hMem
    unfold enqueued
    by_cases hClaimed : a.id ∈ (t.claim now p).1
    · have hDue := List.mem_of_mem_take ((t.id_mem_claimed_iff now p hMem).mp hClaimed)
      rw [if_pos hClaimed, not_isDue_stamped hReady (hFresh a hDue)]
      simp [hClaimed]
    · rw [if_neg hClaimed]
      simp [hClaimed]
  rw [rows_claim, List.filter_map, List.filter_congr (p := _ ∘ _) hRow, ← List.filter_filter]
  -- what is left was not claimed, so it was not stamped either
  refine (List.map_congr_left ?_).trans (List.map_id _)
  intro a hMem
  have hPassed : a.id ∉ (t.claim now p).1 := by simpa using (List.mem_filter.mp hMem).2
  exact if_neg hPassed

/-- A due account after the front was not claimed. -/
theorem id_notMem_claim (hLater : a ∈ (t.due now p).drop p.cap) : a.id ∉ (t.claim now p).1 := by
  have hNodup := t.nodup_ids_due now p
  rw [← List.take_append_drop p.cap (t.due now p), List.map_append, List.nodup_append] at hNodup
  exact fun hClaimed => hNodup.2.2 _ hClaimed _ (List.mem_map_of_mem hLater) rfl

/-- **A claim takes its accounts off the front of what is due**, and leaves the order of
the others. -/
theorem due_claim (hReady : p.readyCutoff now < now)
    (hFresh : ∀ a ∈ t.due now p, ¬ a.checkedAt < p.expiredCutoff now) :
    (t.claim now p).2.due now p = (t.due now p).drop p.cap := by
  have hSplit := List.take_append_drop p.cap (t.due now p)
  have hTaken : ((t.due now p).take p.cap).filter (fun a => a.id ∉ (t.claim now p).1) = [] := by
    refine List.filter_eq_nil_iff.mpr ?_
    intro a hMem
    have hClaimed : a.id ∈ (t.claim now p).1 := List.mem_map_of_mem hMem
    simpa using hClaimed
  have hLeft : ((t.due now p).drop p.cap).filter (fun a => a.id ∉ (t.claim now p).1) =
      (t.due now p).drop p.cap := by
    refine List.filter_eq_self.mpr ?_
    intro a hMem
    simpa using id_notMem_claim hMem
  have hPerm : ((t.claim now p).2.due now p).Perm ((t.due now p).drop p.cap) := by
    refine (due_perm _ now p).trans ?_
    rw [filter_isDue_claim hReady hFresh]
    refine ((t.due_perm now p).symm.filter _).trans (List.Perm.of_eq ?_)
    conv_lhs => rw [← hSplit]
    rw [List.filter_append, hTaken, hLeft, List.nil_append]
  -- two sorted lists of the same rows are the same list
  refine hPerm.eq_of_pairwise ?_ (pairwise_due _ now p)
    ((t.pairwise_due now p).sublist (List.drop_sublist _ _))
  intro a b _ _ hForth hBack
  have hNot := hForth.not_before
  rw [hBack.before] at hNot
  contradiction

end AccountTable

-- ---------------------------------------------------------------------------
-- Cycles while the clock stands
-- ---------------------------------------------------------------------------

/-- Nothing fails, and what is due is free, to be dispatched now, and then out of the
way until the clock moves. -/
structure Memory.Ripe (p : Policy) (m : Memory) : Prop where
  working : m.Working
  ready : p.readyCutoff m.clock < m.clock
  fresh : ∀ a ∈ m.accounts.table.due m.clock p, ¬ a.checkedAt < p.expiredCutoff m.clock
  free : ∀ a ∈ m.accounts.table.due m.clock p, m.isLeased a.id = false

/-- The report of a cycle that dispatches `n` accounts and meets no obstacle. -/
def Report.dispatching (n : Nat) : Report := { selected := n, granted := n, enqueued := n }

namespace Dispatcher

variable {d : Dispatcher} {m : Memory}

/-- The stores after a cycle that meets no obstacle. -/
def afterCycle (d : Dispatcher) (m : Memory) : Memory :=
  let ids := (m.accounts.table.claim m.clock d.policy).1
  { d.afterClaim m.clock m with
    leases := ⟨(m.pass d.ttl ids).2, false⟩
    queue := m.queue.offered d.channel (chunks d.chunkSize ids) }

/-- No account of a ripe backlog is leased. -/
theorem filter_free_of_ripe (hRipe : m.Ripe d.policy) :
    (m.accounts.table.claim m.clock d.policy).1.filter (fun id => !m.isLeased id) =
      (m.accounts.table.claim m.clock d.policy).1 := by
  refine List.filter_eq_self.mpr ?_
  intro id hMem
  obtain ⟨a, hClaimed, rfl⟩ := List.mem_map.mp hMem
  simpa using hRipe.free a (List.mem_of_mem_take hClaimed)

/-- Nothing that is claimed is leased, and no message is refused. -/
theorem runCycle_of_ripe (hRipe : m.Ripe d.policy) (hCap : 1 ≤ d.policy.cap) :
    d.runCycle Memory.backends m.clock m =
      (.dispatching (m.accounts.table.claim m.clock d.policy).1.length, d.afterCycle m) := by
  have hFree := filter_free_of_ripe hRipe
  have hTaken := Queue.taken_of_accepts hRipe.working.queue
    (chunks d.chunkSize (m.accounts.table.claim m.clock d.policy).1)
  rw [runCycle_of_leases_working (by omega) hRipe.working.accounts hRipe.working.leases]
  unfold AccountTable.claim at hFree hTaken ⊢
  simp only [hFree, hTaken, flatten_chunks, Nat.sub_self, afterCycle, AccountTable.claim,
    Report.dispatching]

/-- The rest of the backlog is still free: what was leased was claimed. -/
theorem ripe_afterCycle (hRipe : m.Ripe d.policy) : (d.afterCycle m).Ripe d.policy := by
  obtain ⟨hWorking, hReady, hFresh, hFree⟩ := hRipe
  have hDue : (d.afterCycle m).accounts.table.due m.clock d.policy =
      (m.accounts.table.due m.clock d.policy).drop d.policy.cap :=
    AccountTable.due_claim hReady hFresh
  refine ⟨⟨hWorking.accounts, rfl, ?_⟩, hReady, ?_, ?_⟩
  · intro n hLe
    exact hWorking.queue n (Nat.le_trans (Nat.le_add_right ..) hLe)
  · intro a hMem
    exact hFresh a (List.mem_of_mem_drop (hDue ▸ hMem))
  · intro a hMem
    have hLater : a ∈ (m.accounts.table.due m.clock d.policy).drop d.policy.cap := hDue ▸ hMem
    have hNodup : (m.accounts.table.claim m.clock d.policy).1.Nodup :=
      m.accounts.table.nodup_claimed m.clock d.policy
    have hSame : (d.afterCycle m).isLeased a.id = m.isLeased a.id := by
      show (m.pass d.ttl _).2.isLive m.clock a.id = m.leases.table.isLive m.clock a.id
      rw [LeaseTable.isLive, Memory.expiry?_pass_of_nodup hNodup,
        filter_free_of_ripe ⟨hWorking, hReady, hFresh, hFree⟩,
        if_neg (AccountTable.id_notMem_claim hLater), LeaseTable.isLive]
    rw [hSame]
    exact hFree a (List.mem_of_mem_drop hLater)

/-- **One cycle dispatches the front of the backlog** and leaves the rest as it was. -/
theorem drain_runCycle (hRipe : m.Ripe d.policy) (hCap : 1 ≤ d.policy.cap) :
    let backlog := m.accounts.table.due m.clock d.policy
    let out := d.runCycle Memory.backends m.clock m
    out.1 = .dispatching (min d.policy.cap backlog.length) ∧
      out.2.clock = m.clock ∧
      out.2.accounts.table.due m.clock d.policy = backlog.drop d.policy.cap ∧
      out.2.queue.publishedIds =
        m.queue.publishedIds ++ (backlog.map Account.id).take d.policy.cap ∧
      out.2.Ripe d.policy := by
  intro backlog out
  have hOut : out = (.dispatching _, d.afterCycle m) := runCycle_of_ripe hRipe hCap
  have hIds : (m.accounts.table.claim m.clock d.policy).1 =
      (backlog.map Account.id).take d.policy.cap := List.map_take
  rw [hOut]
  refine ⟨?_, rfl, AccountTable.due_claim hRipe.ready hRipe.fresh, ?_, ripe_afterCycle hRipe⟩
  · rw [hIds, List.length_take, List.length_map]
  · show (m.queue.offered d.channel (chunks d.chunkSize _)).publishedIds = _
    rw [Queue.publishedIds_offered, Queue.taken_of_accepts hRipe.working.queue, flatten_chunks,
      hIds]

end Dispatcher

namespace Action

variable {replicas : List Dispatcher} {p : Policy} {m : Memory}

/-- What a run of cycles dispatches, the first thing first. -/
theorem drain_performAll (hPolicy : ∀ d ∈ replicas, d.policy = p) (hCap : 1 ≤ p.cap)
    (hRipe : m.Ripe p) {turns : List Nat} (hTurns : ∀ r ∈ turns, r < replicas.length) :
    let backlog := m.accounts.table.due m.clock p
    let out := performAll replicas (turns.map .cycle) m
    out.1 = (List.range turns.length).map (fun j =>
        .report (.dispatching (min p.cap (backlog.length - j * p.cap)))) ∧
      out.2.clock = m.clock ∧
      out.2.queue.publishedIds =
        m.queue.publishedIds ++ (backlog.map Account.id).take (turns.length * p.cap) := by
  -- the induction is on the cycles still to come; each of them finds what the one before
  -- it left of the backlog
  induction turns generalizing m with
  | nil => simp [performAll]
  | cons r rest ih =>
    obtain ⟨hReplica, hRest⟩ := List.forall_mem_cons.mp hTurns
    intro backlog out
    obtain rfl : (replicas[r]).policy = p := hPolicy _ (List.getElem_mem hReplica)
    obtain ⟨hReport, hClock, hDue, hPublished, hNext⟩ := Dispatcher.drain_runCycle hRipe hCap
    have hOut : out = performAll replicas (.cycle r :: rest.map .cycle) m := rfl
    rw [performAll_cons, perform_cycle (List.getElem?_eq_getElem hReplica)] at hOut
    obtain ⟨hReports, hClocks, hAll⟩ := ih hNext hRest
    rw [hClock, hDue] at hReports
    rw [hClock] at hClocks
    rw [hClock, hDue, hPublished] at hAll
    rw [hOut]
    refine ⟨?_, hClocks, ?_⟩
    · rw [hReports, List.length_cons, List.range_succ_eq_map, List.map_cons, List.map_map, hReport]
      refine List.cons_eq_cons.mpr ⟨by rw [Nat.zero_mul, Nat.sub_zero], ?_⟩
      refine List.map_congr_left ?_
      intro j _
      rw [Function.comp_apply, List.length_drop, Nat.succ_mul, Nat.add_comm, Nat.sub_sub]
    · rw [hAll, List.append_assoc, List.map_drop, ← List.take_add, List.length_cons, Nat.succ_mul,
        Nat.add_comm]

/-- **A backlog drains in order.** Replicas of one policy run cycles while the clock
stands, nothing fails, no lease is live and no due account has an expired check. Then

* each cycle dispatches the next accounts in the order of the claim, as many as the cap
  allows, and reports no obstacle,
* after `k` cycles the first `k * cap` ids have been published, in order and once each,
* once there were enough cycles all of them have, and the later cycles do nothing. -/
theorem backlog_drains (hPolicy : ∀ d ∈ replicas, d.policy = p) (hCap : 1 ≤ p.cap)
    (hReady : p.readyCutoff m.clock < m.clock) (hWorking : m.Working)
    (hFree : ∀ id, m.isLeased id = false)
    (hFresh : ∀ a ∈ m.accounts.table.due m.clock p, ¬ a.checkedAt < p.expiredCutoff m.clock)
    {turns : List Nat} (hTurns : ∀ r ∈ turns, r < replicas.length) :
    let backlog := m.accounts.table.due m.clock p
    let n := backlog.length
    let enough := (n + (p.cap - 1)) / p.cap
    let out := performAll replicas (turns.map .cycle) m
    backlog.Perm (m.accounts.table.rows.filter (p.isDue m.clock)) ∧
      backlog.Pairwise Account.Precedes ∧ (backlog.map Account.id).Nodup ∧
      out.2.clock = m.clock ∧
      out.1 = (List.range turns.length).map (fun j =>
        .report (.dispatching (min p.cap (n - j * p.cap)))) ∧
      out.2.queue.publishedIds =
        m.queue.publishedIds ++ (backlog.map Account.id).take (min (turns.length * p.cap) n) ∧
      (enough ≤ turns.length →
        out.2.queue.publishedIds = m.queue.publishedIds ++ backlog.map Account.id) ∧
      ∀ j, enough ≤ j → j < turns.length → out.1[j]? = some (.report {}) := by
  intro backlog n enough out
  have hRipe : m.Ripe p := ⟨hWorking, hReady, hFresh, fun a _ => hFree a.id⟩
  obtain ⟨hReports, hClock, hPublished⟩ := drain_performAll hPolicy hCap hRipe hTurns
  -- enough cycles reach over the whole backlog
  have hEnough : ∀ j, enough ≤ j → n ≤ j * p.cap := by
    intro j hj
    have hLe : n + (p.cap - 1) < (j + 1) * p.cap :=
      (Nat.div_lt_iff_lt_mul hCap).mp (Nat.lt_succ_of_le hj)
    rw [Nat.succ_mul] at hLe
    omega
  have hTake : (backlog.map Account.id).take (turns.length * p.cap) =
      (backlog.map Account.id).take (min (turns.length * p.cap) n) := by
    rw [List.take_eq_take_min, List.length_map]
  refine ⟨m.accounts.table.due_perm m.clock p, m.accounts.table.pairwise_due m.clock p,
    m.accounts.table.nodup_ids_due m.clock p, hClock, hReports, ?_, ?_, ?_⟩
  · rw [← hTake]
    exact hPublished
  · intro hLong
    rw [hPublished, List.take_of_length_le]
    rw [List.length_map]
    exact hEnough _ hLong
  · intro j hj hLater
    have hNone : n - j * p.cap = 0 := Nat.sub_eq_zero_of_le (hEnough j hj)
    rw [hReports, List.getElem?_map, List.getElem?_range hLater, Option.map_some]
    show some (Outcome.report (.dispatching (min p.cap (n - j * p.cap)))) = _
    rw [hNone, Nat.min_zero]
    rfl

/-- Two replicas that claim two accounts at a time and cut them differently. -/
def inPairs : List Dispatcher :=
  [⟨⟨.ofSecs 60, .ofSecs 300, 2⟩, .ofSecs 300, defaultChannel, 1⟩,
    ⟨⟨.ofSecs 60, .ofSecs 300, 2⟩, .ofSecs 300, defaultChannel, 0⟩]

/-- A reading of a clock that started at zero. -/
def afterSecs (secs : UInt64) : Timestamp := (⟨0⟩ : Timestamp) + Duration.ofSecs secs

/-- Four accounts, the third of which was claimed ten seconds ago. -/
def threeDue : Memory :=
  let rows : List Account := [⟨4, afterSecs 800, afterSecs 0⟩, ⟨1, afterSecs 900, afterSecs 940⟩,
    ⟨2, afterSecs 850, afterSecs 990⟩, ⟨3, afterSecs 950, afterSecs 7⟩]
  { clock := afterSecs 1000, accounts := { table := .ofList rows } }

/-- Two cycles dispatch the three due accounts, and the third cycle finds none. -/
theorem backlog_drains_in_pairs :
    let p : Policy := ⟨.ofSecs 60, .ofSecs 300, 2⟩
    let backlog := threeDue.accounts.table.due threeDue.clock p
    let out := performAll inPairs [.cycle 1, .cycle 0, .cycle 1] threeDue
    (∀ d ∈ inPairs, d.policy = p) ∧ 1 ≤ p.cap ∧ p.readyCutoff threeDue.clock < threeDue.clock ∧
      threeDue.Working ∧ (∀ id, threeDue.isLeased id = false) ∧
      (∀ a ∈ backlog, ¬ a.checkedAt < p.expiredCutoff threeDue.clock) ∧
      (∀ r ∈ [1, 0, 1], r < inPairs.length) ∧
      backlog.map Account.id = [4, 1, 3] ∧
      out.2.queue.publishedIds = [4, 1, 3] ∧
      out.1 = [.report (.dispatching 2), .report (.dispatching 1), .report {}] := by
  intro p backlog out
  have hDue : threeDue.accounts.table.rows.filter (p.isDue threeDue.clock) =
      [⟨4, afterSecs 800, afterSecs 0⟩, ⟨1, afterSecs 900, afterSecs 940⟩,
        ⟨3, afterSecs 950, afterSecs 7⟩] := by decide +kernel
  have hBacklog : backlog = [⟨4, afterSecs 800, afterSecs 0⟩, ⟨1, afterSecs 900, afterSecs 940⟩,
      ⟨3, afterSecs 950, afterSecs 7⟩] := by
    show (threeDue.accounts.table.rows.filter _).mergeSort _ = _
    rw [hDue]
    exact List.mergeSort_of_pairwise (by decide +kernel)
  have hIds : backlog.map Account.id = [4, 1, 3] := by rw [hBacklog]; rfl
  have hPolicy : ∀ d ∈ inPairs, d.policy = p := by decide
  have hReady : p.readyCutoff threeDue.clock < threeDue.clock := by decide +kernel
  have hWorking : threeDue.Working := ⟨rfl, rfl, fun _ _ => rfl⟩
  have hFresh : ∀ a ∈ backlog, ¬ a.checkedAt < p.expiredCutoff threeDue.clock := by
    rw [hBacklog]
    decide +kernel
  have hTurns : ∀ r ∈ [1, 0, 1], r < inPairs.length := by decide
  have hDrains := backlog_drains hPolicy (by decide) hReady hWorking (fun _ => rfl) hFresh hTurns
  obtain ⟨-, -, -, -, hReports, -, hPublished, -⟩ := hDrains
  have hLength : (threeDue.accounts.table.due threeDue.clock p).length = 3 := by
    show backlog.length = 3
    rw [hBacklog]
    rfl
  rw [hLength] at hReports hPublished
  refine ⟨hPolicy, by decide, hReady, hWorking, fun _ => rfl, hFresh, hTurns, hIds, ?_, hReports⟩
  exact (hPublished (by decide)).trans hIds

end Action

end DueDispatch
