import DueDispatch.Proofs.Fleet.Basic
import DueDispatch.Proofs.Memory.Backends
import Mathlib.Data.List.Nodup

/-!
# DueDispatch — cycles side by side in memory

The cycles of a fleet share the stores of a `Memory`. Between their calls rows may
come in or be checked, and the accounts table and the queue may fail and recover;
such an `Incident` leaves the clock and the leases as they are.

`Steady` is the invariant of runs at one reading of the clock at which the lease
table works and every new lease is live: what is granted and what is on the queue
follow from what was asked for and what was leased before.

## Results

* `Steady.lease` — a request grants what nobody holds, and each of it once.
* `steady_run` — the invariant holds of every run whose leases are live.
-/

namespace DueDispatch

/-- What may happen to the stores between two calls. -/
inductive Incident
  | insert (row : Account)
  | markChecked (id : AccountId) (time : Timestamp)
  | failAccounts (failing : Bool)
  | failQueue (failing : Bool)
  | failCall (n : Nat)

/-- A memory that cycles share. -/
def Memory.world : World Memory Incident where
  backends := Memory.backends
  clock := Memory.clock
  change
    | .insert row, m => m.insert row
    | .markChecked id time, m => m.markChecked id time
    | .failAccounts failing, m => m.failAccounts failing
    | .failQueue failing, m => m.failQueue failing
    | .failCall n, m => m.failCall n

-- ---------------------------------------------------------------------------
-- The invariant
-- ---------------------------------------------------------------------------

/-- The calls of `h` led from `m` to `s`, at one reading of the clock, with a lease
table that works and leases that are all live. -/
structure Steady (m : Memory) (h : History) (s : Memory) : Prop where
  clock : s.clock = m.clock
  working : s.leases.failing = false
  nodup : h.granted.Nodup
  mem_granted_iff : ∀ id, id ∈ h.granted ↔ id ∈ h.requests.flatten ∧ m.isLeased id = false
  isLeased_iff : ∀ id, s.isLeased id = true ↔ m.isLeased id = true ∨ id ∈ h.granted
  bounded : ∀ e ∈ h, e.Bounded
  published : s.queue.publishedIds = m.queue.publishedIds ++ h.acceptedIds

variable {m s : Memory} {h : History}

/-- Before any call a working memory is steady. -/
theorem steady_nil (hLeases : m.leases.failing = false) : Steady m [] m where
  clock := rfl
  working := hLeases
  nodup := List.nodup_nil
  mem_granted_iff := by simp [History.granted, History.requests]
  isLeased_iff := by simp [History.granted]
  bounded := by simp
  published := by simp [History.acceptedIds, History.accepted]

/-- A memory grants no more than it is asked for, now as before. -/
theorem Steady.bounded_concat (hSteady : Steady m h s) (call : Call) :
    ∀ e ∈ h ++ [⟨call, (Memory.backends call s).1⟩], e.Bounded := by
  intro e he
  rcases List.mem_append.mp he with hOld | hNew
  · exact hSteady.bounded e hOld
  · rw [List.mem_singleton.mp hNew]
    exact Memory.bounded_backends call s

/-- A call other than a lease request leaves the leases alone. -/
theorem Steady.concat_of_no_request (hSteady : Steady m h s) {call : Call} {s' : Memory}
    (hClock : s'.clock = s.clock) (hLeases : s'.leases = s.leases)
    (hRequest : Exchange.requested? ⟨call, (Memory.backends call s).1⟩ = none)
    (hGranted : Exchange.granted ⟨call, (Memory.backends call s).1⟩ = [])
    (hQueue : s'.queue.publishedIds = s.queue.publishedIds ++
      (Exchange.accepted ⟨call, (Memory.backends call s).1⟩).filterMap AccountId.read?) :
    Steady m (h ++ [⟨call, (Memory.backends call s).1⟩]) s' where
  clock := hClock.trans hSteady.clock
  working := by rw [hLeases, hSteady.working]
  nodup := by
    rw [History.granted_concat, hGranted, List.append_nil]
    exact hSteady.nodup
  mem_granted_iff := by
    rw [History.granted_concat, History.requests_concat, hGranted, hRequest, Option.toList_none,
      List.append_nil, List.append_nil]
    exact hSteady.mem_granted_iff
  isLeased_iff := by
    intro id
    rw [History.granted_concat, hGranted, List.append_nil, Memory.isLeased, hClock, hLeases]
    exact hSteady.isLeased_iff id
  bounded := hSteady.bounded_concat call
  published := by
    rw [hQueue, hSteady.published, History.acceptedIds, History.acceptedIds,
      History.accepted_concat, List.filterMap_append, List.append_assoc]

/-- **A lease request grants what it asks for and nobody holds**: not what was
leased before the run, nor what was granted in it. -/
theorem Steady.lease (hSteady : Steady m h s) (ids : List AccountId) {ttl : Duration}
    (hTerm : m.clock < m.clock + ttl) :
    Steady m (h ++ [⟨.lease ids ttl, (Memory.backends (.lease ids ttl) s).1⟩])
      (Memory.backends (.lease ids ttl) s).2 := by
  have hBounded := hSteady.bounded_concat (.lease ids ttl)
  obtain ⟨hClock, hWorking, hNodup, hGranted, hLeased, -, hPublished⟩ := hSteady
  -- what is free now is what was free at the start and has not been granted since
  have hFree : ∀ id, s.isLeased id = false ↔ m.isLeased id = false ∧ id ∉ h.granted := by
    intro id
    rw [← Bool.not_eq_true, hLeased, not_or, Bool.not_eq_true]
  have hNew : ∀ id, id ∈ (s.pass ttl ids).1 ↔
      id ∈ ids ∧ m.isLeased id = false ∧ id ∉ h.granted := by
    intro id
    rw [Memory.mem_pass_iff, hFree]
  have hLive : s.clock < s.clock + ttl := by rwa [hClock]
  -- so the pass grants nothing twice, and it leaves live exactly what it grants and what was
  rw [Memory.backends_lease_of_working hWorking] at hBounded ⊢
  refine ⟨hClock, rfl, ?_, ?_, ?_, hBounded, ?_⟩
  · rw [History.granted_concat, List.nodup_append]
    refine ⟨hNodup, LeaseTable.nodup_acquire hLive _ _, ?_⟩
    rintro id hOld _ hMem rfl
    exact ((hNew id).mp hMem).2.2 hOld
  · intro id
    simp only [History.granted_concat, History.requests_concat, Exchange.granted, Answer.ids,
      Exchange.requested?, Option.toList_some, List.flatten_concat, List.mem_append, hNew,
      hGranted id]
    tauto
  · intro id
    rw [History.granted_concat, List.mem_append, ← or_assoc, ← hLeased id]
    exact Memory.isLive_pass hLive
  · rw [hPublished, History.acceptedIds, History.acceptedIds, History.accepted_concat]
    simp [Exchange.accepted, Exchange.failed, Exchange.sent?]

/-- A call whose lease, if it asks for one, would be live. -/
theorem Steady.call (hSteady : Steady m h s) (call : Call)
    (hTerm : ∀ ids ttl, call = .lease ids ttl → m.clock < m.clock + ttl) :
    Steady m (h ++ [⟨call, (Memory.backends call s).1⟩]) (Memory.backends call s).2 := by
  cases call with
  | claim now p =>
    refine hSteady.concat_of_no_request rfl rfl rfl rfl ?_
    have hNone : Exchange.accepted ⟨.claim now p, (Memory.backends (.claim now p) s).1⟩ = [] := by
      simp [Exchange.accepted, Exchange.sent?]
    rw [hNone, List.filterMap_nil, List.append_nil]
    rfl
  | lease ids ttl => exact hSteady.lease ids (hTerm ids ttl rfl)
  | publish channel texts =>
    exact hSteady.concat_of_no_request rfl rfl rfl rfl
      (Memory.publishedIds_backends channel texts s)

/-- No incident touches the clock, the leases or the messages. -/
theorem Steady.change (hSteady : Steady m h s) (e : Incident) :
    Steady m h (Memory.world.change e s) := by
  obtain ⟨hClock, hWorking, hNodup, hGranted, hLeased, hBounded, hPublished⟩ := hSteady
  cases e <;> exact ⟨hClock, hWorking, hNodup, hGranted, hLeased, hBounded, hPublished⟩

-- ---------------------------------------------------------------------------
-- Runs
-- ---------------------------------------------------------------------------

namespace Fleet

/-- A cycle that goes on keeps its dispatcher. -/
theorem mem_cycles_set {cycles : List (Dispatcher × Cycle)} {i : Nat} {d : Dispatcher}
    {c c' : Cycle} {P : Dispatcher → Prop} (hCycle : cycles[i]? = some (d, c))
    (hAll : ∀ p ∈ cycles, P p.1) : ∀ p ∈ cycles.set i (d, c'), P p.1 := by
  intro p hMem
  rcases List.mem_or_eq_of_mem_set hMem with hOld | rfl
  · exact hAll p hOld
  · exact hAll (d, c) (List.mem_of_getElem? hCycle)

/-- **Runs at one reading of the clock are steady**, as long as the lease table works
and the leases of every replica are live at that reading. -/
theorem steady_run (hLeases : m.leases.failing = false) (moves : List (Move Incident))
    (hTerm : ∀ d, Move.start d ∈ moves → m.clock < m.clock + d.ttl) :
    Steady m (Fleet.run Memory.world { shared := m } moves).exchanges
      (Fleet.run Memory.world { shared := m } moves).shared := by
  -- the settings of the cycles are carried along: it is they that ask for leases
  have hAll := run_induction (w := Memory.world) (f := { shared := m })
    (P := fun f => Steady m f.exchanges f.shared ∧ ∀ p ∈ f.cycles, m.clock < m.clock + p.1.ttl)
    moves ⟨steady_nil hLeases, by simp⟩ ?_
  · exact hAll.1
  rintro f ⟨hSteady, hLive⟩ move hMove
  cases move with
  | start d =>
    refine ⟨hSteady, fun p hp => ?_⟩
    rcases List.mem_append.mp hp with hOld | hNew
    · exact hLive p hOld
    · rw [List.mem_singleton.mp hNew]
      exact hTerm d hMove
  | change e => exact ⟨hSteady.change e, hLive⟩
  | call i =>
    rcases f.call_cases Memory.world i with hSame | ⟨d, c, call, hCycle, hCall, hEq⟩
    · rw [step, hSame]
      exact ⟨hSteady, hLive⟩
    · rw [step, hEq]
      refine ⟨?_, mem_cycles_set (P := fun d => m.clock < m.clock + d.ttl) hCycle hLive⟩
      rw [exchanges, List.map_append]
      refine hSteady.call call ?_
      rintro ids ttl rfl
      -- a cycle asks for leases of the length its replica is set to
      have hTtl : ttl = d.ttl := by
        cases c <;> simp_all [Dispatcher.call?]
      rw [hTtl]
      exact hLive (d, c) (List.mem_of_getElem? hCycle)

end Fleet

end DueDispatch
