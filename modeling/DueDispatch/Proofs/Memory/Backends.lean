import DueDispatch.Memory.Basic
import DueDispatch.Proofs.Cycle.History
import DueDispatch.Proofs.Memory.Leases

/-!
# DueDispatch — what the stores in memory answer

One lemma for what each call does to a `Memory`. A lease request that does not fail
is one pass over the lease table at the reading of its clock, `Memory.pass`.

## Results

* `backends_lease_of_working`, `backends_lease_of_failing` — the two outcomes of a
  lease request.
* `bounded_backends` — no claim exceeds the cap, and no reply its request.
* `publishedIds_backends` — the queue grows by what a call got accepted.
-/

namespace DueDispatch

/-- Answers that stores in memory can give: a claim stays within the cap, and a
lease request is not granted more than it asks for. -/
def Exchange.Bounded : Exchange → Prop
  | ⟨.claim _ p, a⟩ => a.ids.length ≤ p.cap
  | ⟨.lease ids _, a⟩ => a.ids.length ≤ ids.length
  | ⟨.publish .., _⟩ => True

namespace Memory

/-- The pass of a lease request over the lease table: the granted ids and the table
after it. -/
def pass (m : Memory) (ttl : Duration) (ids : List AccountId) : List AccountId × LeaseTable :=
  LeaseTable.acquire m.clock (m.clock + ttl) ids m.leases.table

variable {m : Memory} {ttl : Duration} {ids : List AccountId} {id : AccountId}

-- ---------------------------------------------------------------------------
-- Lease requests
-- ---------------------------------------------------------------------------

/-- What a lease request comes to if the store works. -/
theorem backends_lease_of_working (hLeases : m.leases.failing = false) (ids : List AccountId)
    (ttl : Duration) :
    backends (.lease ids ttl) m =
      (⟨.ok (m.pass ttl ids).1, 0⟩, { m with leases := ⟨(m.pass ttl ids).2, false⟩ }) := by
  simp [backends, LeaseStore.acquire, hLeases, pass]

/-- A lease store that fails grants nothing and stays as it is. -/
theorem backends_lease_of_failing (hLeases : m.leases.failing = true) (ids : List AccountId)
    (ttl : Duration) :
    backends (.lease ids ttl) m = (⟨.error (.cache "lease backend unavailable"), 0⟩, m) := by
  simp [backends, LeaseStore.acquire, hLeases]

/-- What is granted was asked for, and in this order. -/
theorem pass_sublist (m : Memory) (ttl : Duration) (ids : List AccountId) :
    (m.pass ttl ids).1.Sublist ids :=
  LeaseTable.acquire_sublist _ _ _ _

/-- Two requests one after another are one request. -/
theorem pass_append (m : Memory) (ttl : Duration) (first second : List AccountId) :
    m.pass ttl (first ++ second) =
      ((m.pass ttl first).1 ++
          (pass { m with leases := ⟨(m.pass ttl first).2, false⟩ } ttl second).1,
        (pass { m with leases := ⟨(m.pass ttl first).2, false⟩ } ttl second).2) :=
  LeaseTable.acquire_append _ _ _

/-- An id is granted exactly when it was asked for and is not leased. -/
theorem mem_pass_iff : id ∈ (m.pass ttl ids).1 ↔ id ∈ ids ∧ m.isLeased id = false :=
  LeaseTable.mem_acquire_iff

/-- Without repetitions the granted ids are those without a live lease. -/
theorem pass_of_nodup (hNodup : ids.Nodup) (m : Memory) (ttl : Duration) :
    (m.pass ttl ids).1 = ids.filter fun id => !m.isLeased id :=
  LeaseTable.acquire_of_nodup hNodup _

/-- The granted ids get a new expiry, the others keep theirs. -/
theorem expiry?_pass_of_nodup (hNodup : ids.Nodup) (m : Memory) (ttl : Duration)
    (id : AccountId) :
    (m.pass ttl ids).2.expiry? id =
      if id ∈ ids.filter (fun id => !m.isLeased id) then some (m.clock + ttl)
      else m.leases.table.expiry? id := by
  rw [← pass_of_nodup hNodup m ttl]
  exact LeaseTable.expiry?_acquire ids m.leases.table id

/-- If the new leases are live, what is live after a pass is what was live before and
what was granted. -/
theorem isLive_pass (hTerm : m.clock < m.clock + ttl) :
    (m.pass ttl ids).2.isLive m.clock id = true ↔
      m.isLeased id = true ∨ id ∈ (m.pass ttl ids).1 := by
  rw [pass, LeaseTable.isLive_acquire, isLeased]
  by_cases hMem : id ∈ (LeaseTable.acquire m.clock (m.clock + ttl) ids m.leases.table).1
  · simp [hMem, hTerm]
  · simp [hMem]

-- ---------------------------------------------------------------------------
-- All calls
-- ---------------------------------------------------------------------------

/-- No call is answered with more than it asked for. -/
theorem bounded_backends (call : Call) (m : Memory) :
    Exchange.Bounded ⟨call, (backends call m).1⟩ := by
  cases call with
  | publish channel payloads => trivial
  | claim now p =>
    simp only [Exchange.Bounded, backends, AccountStore.claim]
    cases m.accounts.failing with
    | true => exact Nat.zero_le _
    | false =>
      simp only [Answer.ids, AccountTable.claim, AccountTable.claimable, List.length_map,
        Bool.false_eq_true, if_false]
      exact List.length_take_le _ _
  | lease ids ttl =>
    cases hLeases : m.leases.failing with
    | true =>
      rw [backends_lease_of_failing hLeases]
      exact Nat.zero_le _
    | false =>
      rw [backends_lease_of_working hLeases]
      exact (m.pass_sublist ttl ids).length_le

/-- What a publish call adds to the queue is what it got accepted. -/
theorem publishedIds_backends (channel : String) (texts : List String) (m : Memory) :
    (backends (.publish channel texts) m).2.queue.publishedIds =
      m.queue.publishedIds ++
        (Exchange.accepted ⟨.publish channel texts,
          (backends (.publish channel texts) m).1⟩).filterMap AccountId.read? := by
  simp only [backends, Queue.publish]
  cases m.queue.refusesNext with
  | true => simp [Exchange.accepted, Exchange.failed, Queue.publishedIds]
  | false => simp [Exchange.accepted, Exchange.failed, Exchange.sent?, Queue.publishedIds]

end Memory

end DueDispatch
