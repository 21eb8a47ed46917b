import DueDispatch.Proofs.Chunks
import DueDispatch.Proofs.Cycle.Calls
import DueDispatch.Proofs.Memory.Accounts
import DueDispatch.Proofs.Memory.Backends
import DueDispatch.Proofs.Memory.Queue

/-!
# DueDispatch — what a cycle does to the stores

A cycle in memory runs through its chunks one call at a time. Here each of its
stages is said in one line: the claim takes the first due rows, the lease
requests together are one request, and the messages are offered to the queue one
after another, which refuses single ones by their number.

## Results

* `run_leaseNext` — leasing chunk by chunk is leasing all of them at once.
* `run_publishNext` — what the queue holds after the messages of a cycle.
* `effect_of_runCycle` — the stores and the report after a whole cycle.
-/

namespace DueDispatch

namespace Dispatcher

/-- A publish call offers its chunk. -/
theorem step_publishing (d : Dispatcher) (chunk : List AccountId) (later : List (List AccountId))
    (r : Report) (m : Memory) :
    d.step Memory.backends (.publishing chunk later r) m =
      (publishNext later
          { r with
            enqueued := r.enqueued + (m.queue.taken [chunk]).flatten.length
            failed := r.failed + (chunk.length - (m.queue.taken [chunk]).flatten.length)
            publishFailures := r.publishFailures + (1 - (m.queue.taken [chunk]).length) },
        { m with queue := m.queue.offered d.channel [chunk] }) := by
  by_cases hAccepts : m.queue.accepts m.queue.calls = true <;>
    simp [step, Memory.backends, Queue.publish, Queue.refusesNext_eq, Queue.taken_singleton,
      Queue.offered, hAccepts, published]

/-- What the queue holds after the messages of a cycle, and what they add to the
report. -/
theorem run_publishNext (d : Dispatcher) (cs : List (List AccountId)) (r : Report) (m : Memory) :
    d.run Memory.backends (publishNext cs r) m =
      ({ r with
          enqueued := r.enqueued + (m.queue.taken cs).flatten.length
          failed := r.failed + (cs.flatten.length - (m.queue.taken cs).flatten.length)
          publishFailures := r.publishFailures + (cs.length - (m.queue.taken cs).length) },
        { m with queue := m.queue.offered d.channel cs }) := by
  -- the induction is on the chunks still to be offered; what comes before is in the report
  -- and in the queue
  induction cs generalizing r m with
  | nil => simp [publishNext, run_finished, Queue.taken, Queue.offered]
  | cons chunk later ih =>
    -- neither part of the split can take more than it is offered
    have hFirst := m.queue.taken_sublist [chunk]
    have hRest := (m.queue.offered d.channel [chunk]).taken_sublist later
    have hFirstIds := hFirst.flatten.length_le
    have hRestIds := hRest.flatten.length_le
    have hFirstChunks := hFirst.length_le
    have hRestChunks := hRest.length_le
    rw [List.flatten_singleton] at hFirstIds
    rw [List.length_singleton] at hFirstChunks
    rw [publishNext, run_eq_run_step d _ _ rfl, step_publishing, ih, Queue.offered_cons,
      Queue.taken_cons m.queue d.channel chunk later, List.flatten_append, List.flatten_cons]
    simp only [List.length_append, List.length_cons, Prod.mk.injEq, Report.mk.injEq, true_and,
      and_true]
    omega

/-- The leases after the requests of a cycle, none of which fails: one request for
everything would have done the same. -/
theorem run_leaseNext (d : Dispatcher) (cs : List (List AccountId)) (granted : List AccountId)
    (r : Report) (m : Memory) (hLeases : m.leases.failing = false) :
    d.run Memory.backends (d.leaseNext cs granted r) m =
      let pass := m.pass d.ttl cs.flatten
      d.run Memory.backends
        (publishNext (chunks d.chunkSize (granted ++ pass.1))
          { r with
            granted := (granted ++ pass.1).length
            skipped := r.skipped + (cs.flatten.length - pass.1.length) })
        { m with leases := ⟨pass.2, false⟩ } := by
  -- the induction is on the chunks still to be leased, with the stores as they are by then
  induction cs generalizing granted r m with
  | nil =>
    obtain ⟨clock, accounts, ⟨table, failing⟩, queue⟩ := m
    obtain rfl : failing = false := hLeases
    simp [Memory.pass, LeaseTable.acquire, leaseNext]
  | cons chunk later ih =>
    have hStep : d.step Memory.backends (.leasing chunk later granted r) m =
        (d.leaseNext later (granted ++ (m.pass d.ttl chunk).1)
          { r with skipped := r.skipped + (chunk.length - (m.pass d.ttl chunk).1.length) },
          { m with leases := ⟨(m.pass d.ttl chunk).2, false⟩ }) := by
      rw [step, Memory.backends_lease_of_working hLeases]
      simp [leased, LeaseOutcome.ofResult]
    have hFirst := (m.pass_sublist d.ttl chunk).length_le
    have hRest := (Memory.pass_sublist { m with leases := ⟨(m.pass d.ttl chunk).2, false⟩ } d.ttl
      later.flatten).length_le
    have hSkipped : ∀ x a y b : Nat, a ≤ x → b ≤ y → x - a + (y - b) = x + y - (a + b) := by omega
    rw [leaseNext, run_eq_run_step d _ _ rfl, hStep, ih _ _ _ rfl]
    simp only [List.flatten_cons, Memory.pass_append, List.append_assoc, List.length_append,
      Nat.add_assoc]
    rw [hSkipped _ _ _ _ hFirst hRest]

/-- A lease table that fails is asked for every chunk all the same, and nothing is
granted. -/
theorem run_leaseNext_of_failing (d : Dispatcher) (cs : List (List AccountId))
    (granted : List AccountId) (r : Report) (m : Memory) (hLeases : m.leases.failing = true) :
    d.run Memory.backends (d.leaseNext cs granted r) m =
      d.run Memory.backends
        (publishNext (chunks d.chunkSize granted)
          { r with
            granted := granted.length
            skipped := r.skipped + cs.flatten.length
            leaseFailures := r.leaseFailures + cs.length })
        m := by
  induction cs generalizing r with
  | nil => rfl
  | cons chunk later ih =>
    have hStep : d.step Memory.backends (.leasing chunk later granted r) m =
        (d.leaseNext later granted
          { r with
            skipped := r.skipped + chunk.length
            leaseFailures := r.leaseFailures + 1 }, m) := by
      rw [step, Memory.backends_lease_of_failing hLeases]
      simp [leased, LeaseOutcome.ofResult]
    rw [leaseNext, run_eq_run_step d _ _ rfl, hStep, ih]
    simp only [List.flatten_cons, List.length_append, List.length_cons, Nat.add_assoc,
      Nat.add_comm later.length]

-- ---------------------------------------------------------------------------
-- Whole cycles
-- ---------------------------------------------------------------------------

variable {d : Dispatcher} {m : Memory}

/-- The stores after the claim of a cycle. -/
def afterClaim (d : Dispatcher) (now : Timestamp) (m : Memory) : Memory :=
  { m with accounts := { m.accounts with table := (m.accounts.table.claim now d.policy).2 } }

/-- With a cap of zero a cycle does nothing. -/
theorem runCycle_of_cap_zero (hCap : d.policy.cap = 0) (now : Timestamp) :
    d.runCycle Memory.backends now m = ({}, m) := by
  rw [runCycle, begin, if_pos hCap, run_finished]

/-- A cycle that cannot read the accounts ends with its claim. -/
theorem runCycle_of_accounts_failing (hCap : d.policy.cap ≠ 0)
    (hAccounts : m.accounts.failing = true) (now : Timestamp) :
    d.runCycle Memory.backends now m = ({ selectionFailed := true }, m) := by
  have hStep : d.step Memory.backends (.claiming now) m =
      (.finished { selectionFailed := true }, m) := by
    simp [step, Memory.backends, AccountStore.claim, hAccounts, claimed, capped, Except.map]
  rw [runCycle, begin, if_neg hCap, run_eq_run_step d _ _ rfl, hStep, run_finished]

/-- A claim that succeeds leaves the leases of its ids to be asked for. -/
theorem runCycle_eq_run_leaseNext (hCap : d.policy.cap ≠ 0)
    (hAccounts : m.accounts.failing = false) (now : Timestamp) :
    d.runCycle Memory.backends now m =
      let ids := (m.accounts.table.claimable now d.policy).map Account.id
      d.run Memory.backends (d.leaseNext (chunks d.chunkSize ids) [] { selected := ids.length })
        (d.afterClaim now m) := by
  -- a table never returns more than the cap, so nothing is cut off
  have hCapped : ((m.accounts.table.claimable now d.policy).map Account.id).take d.policy.cap =
      (m.accounts.table.claimable now d.policy).map Account.id := by
    rw [← List.map_take, AccountTable.claimable, List.take_take, Nat.min_self]
  have hStep : d.step Memory.backends (.claiming now) m =
      (d.leaseNext
        (chunks d.chunkSize ((m.accounts.table.claimable now d.policy).map Account.id)) []
        { selected := ((m.accounts.table.claimable now d.policy).map Account.id).length },
        d.afterClaim now m) := by
    simp only [step, Memory.backends, AccountStore.claim, hAccounts, claimed, capped, Except.map,
      AccountTable.claim, Bool.false_eq_true, if_false, hCapped]
    simp [afterClaim, hAccounts, AccountTable.claim]
  rw [runCycle, begin, if_neg hCap, run_eq_run_step d _ _ rfl, hStep]

/-- Nothing is published if no lease can be had. -/
theorem runCycle_of_leases_failing (hCap : d.policy.cap ≠ 0)
    (hAccounts : m.accounts.failing = false) (hLeases : m.leases.failing = true)
    (now : Timestamp) :
    d.runCycle Memory.backends now m =
      let ids := (m.accounts.table.claimable now d.policy).map Account.id
      ({ selected := ids.length
         skipped := ids.length
         leaseFailures := (chunks d.chunkSize ids).length },
        d.afterClaim now m) := by
  rw [runCycle_eq_run_leaseNext hCap hAccounts]
  simp only [run_leaseNext_of_failing d _ _ _ (d.afterClaim now m) hLeases, flatten_chunks,
    chunks_nil, publishNext, run_finished, List.length_nil, Nat.zero_add]

/-- A cycle none of whose lease requests fails: the claimed ids without a live
lease are leased at once and offered to the queue chunk by chunk. -/
theorem runCycle_of_leases_working (hCap : d.policy.cap ≠ 0)
    (hAccounts : m.accounts.failing = false) (hLeases : m.leases.failing = false)
    (now : Timestamp) :
    d.runCycle Memory.backends now m =
      let ids := (m.accounts.table.claimable now d.policy).map Account.id
      let free := ids.filter fun id => !m.isLeased id
      let cs := chunks d.chunkSize free
      let taken := m.queue.taken cs
      ({ selected := ids.length
         granted := free.length
         skipped := ids.length - free.length
         enqueued := taken.flatten.length
         failed := free.length - taken.flatten.length
         publishFailures := cs.length - taken.length },
        { d.afterClaim now m with
          leases := ⟨(m.pass d.ttl ids).2, false⟩
          queue := m.queue.offered d.channel cs }) := by
  -- no id is claimed twice, so one look at the table decides on all of them
  have hFree := Memory.pass_of_nodup (m.accounts.table.nodup_claimed now d.policy) m d.ttl
  have hPass : ∀ ids, (d.afterClaim now m).pass d.ttl ids = m.pass d.ttl ids := fun _ => rfl
  rw [runCycle_eq_run_leaseNext hCap hAccounts]
  simp only [run_leaseNext d _ _ _ (d.afterClaim now m) hLeases, flatten_chunks, List.nil_append,
    hPass, hFree]
  rw [run_publishNext]
  simp only [afterClaim, flatten_chunks, Nat.zero_add]

/-- A claim changes the claim time of the rows it takes, and nothing else. -/
theorem rows_afterClaim (d : Dispatcher) (now : Timestamp) (m : Memory) :
    (d.afterClaim now m).accounts.table.rows =
      m.accounts.table.rows.map fun a =>
        if a ∈ m.accounts.table.claimable now d.policy then
          { a with enqueuedAt := a.enqueuedAt.max now }
        else a := by
  rw [afterClaim, AccountTable.rows_claim]
  refine List.map_congr_left fun a hRow => ?_
  have hClaimed := m.accounts.table.id_mem_claimed_iff now d.policy hRow
  simp only [AccountTable.enqueued, AccountTable.claim, hClaimed]

/-- **What a cycle does to the stores**, whatever is in them and whichever of them
fail. The rows it claims are the first due ones in strict order. Those without a
live lease are leased, and offered to the queue chunk by chunk; a message that is
refused is dropped, and the others go through. -/
theorem effect_of_runCycle (d : Dispatcher) (m : Memory) :
    let report := (d.runCycle Memory.backends m.clock m).1
    let after := (d.runCycle Memory.backends m.clock m).2
    let size := max d.chunkSize 1
    let due := m.accounts.table.due m.clock d.policy
    let claimed := due.take d.policy.cap
    let free := (claimed.map Account.id).filter fun id => !m.isLeased id
    let cs := chunks d.chunkSize free
    let taken :=
      ((cs.zipIdx m.queue.calls).filter fun p =>
        !(m.queue.failing || m.queue.failingCalls.contains p.2)).map Prod.fst
    due.Perm (m.accounts.table.rows.filter (d.policy.isDue m.clock)) ∧
    due.Pairwise Account.Precedes ∧
    if d.policy.cap = 0 then report = {} ∧ after = m
    else if m.accounts.failing then report = { selectionFailed := true } ∧ after = m
    else
      after.clock = m.clock ∧
      after.accounts.failing = false ∧
      after.accounts.table.rows =
        m.accounts.table.rows.map (fun a =>
          if a ∈ claimed then { a with enqueuedAt := a.enqueuedAt.max m.clock } else a) ∧
      if m.leases.failing then
        after.leases = m.leases ∧
        after.queue = m.queue ∧
        report =
          { selected := claimed.length
            skipped := claimed.length
            leaseFailures := (claimed.length + (size - 1)) / size }
      else
        after.leases.failing = false ∧
        (∀ id, after.leases.table.expiry? id =
          if id ∈ free then some (m.clock + d.ttl) else m.leases.table.expiry? id) ∧
        after.queue =
          { m.queue with
            calls := m.queue.calls + (free.length + (size - 1)) / size
            messages := m.queue.messages ++ taken.map fun ids => ⟨d.channel, payloads ids⟩ } ∧
        after.queue.publishedIds = m.queue.publishedIds ++ taken.flatten ∧
        report =
          { selected := claimed.length
            granted := free.length
            skipped := claimed.length - free.length
            enqueued := taken.flatten.length
            failed := free.length - taken.flatten.length
            publishFailures := cs.length - taken.length } := by
  intro report after size due claimed free cs taken
  have hDue := m.accounts.table.due_perm m.clock d.policy
  have hOrder := m.accounts.table.pairwise_due m.clock d.policy
  refine ⟨hDue, hOrder, ?_⟩
  -- the four kinds of a cycle: none at all, a failed claim, no leases, and a full one
  by_cases hCap : d.policy.cap = 0
  · have hRun := runCycle_of_cap_zero (m := m) hCap m.clock
    rw [if_pos hCap]
    exact ⟨congrArg Prod.fst hRun, congrArg Prod.snd hRun⟩
  rw [if_neg hCap]
  cases hAccounts : m.accounts.failing with
  | true =>
    have hRun := runCycle_of_accounts_failing hCap hAccounts m.clock
    exact ⟨congrArg Prod.fst hRun, congrArg Prod.snd hRun⟩
  | false =>
    have hRows := d.rows_afterClaim m.clock m
    cases hLeases : m.leases.failing with
    | true =>
      have hRun := runCycle_of_leases_failing hCap hAccounts hLeases m.clock
      have hAfter : after = d.afterClaim m.clock m := congrArg Prod.snd hRun
      rw [hAfter]
      refine ⟨rfl, hAccounts, hRows, rfl, rfl, (congrArg Prod.fst hRun).trans ?_⟩
      simp only [length_chunks, List.length_map]
      rfl
    | false =>
      have hRun := runCycle_of_leases_working hCap hAccounts hLeases m.clock
      have hAfter : after =
          { d.afterClaim m.clock m with
            leases := ⟨(m.pass d.ttl (claimed.map Account.id)).2, false⟩
            queue := m.queue.offered d.channel cs } := congrArg Prod.snd hRun
      have hNodup := m.accounts.table.nodup_claimed m.clock d.policy
      rw [hAfter]
      refine ⟨rfl, hAccounts, hRows, rfl, ?_, ?_, ?_, ?_⟩
      · exact Memory.expiry?_pass_of_nodup hNodup m d.ttl
      · rw [Queue.offered, length_chunks]
        rfl
      · exact m.queue.publishedIds_offered d.channel cs
      · refine (congrArg Prod.fst hRun).trans ?_
        simp only [List.length_map]
        rfl

end Dispatcher

end DueDispatch
