import DueDispatch.Cycle.Basic
import DueDispatch.Memory.Accounts
import DueDispatch.Memory.Leases
import DueDispatch.Memory.Queue

/-!
# DueDispatch — backends in memory

`Memory` is an accounts table, a lease table and a queue on one clock. It is
what several replicas share in a rehearsal: every backend call is one
indivisible change of it.
-/

namespace DueDispatch

/-- The three stores and the clock that the leases are measured by. -/
structure Memory where
  clock : Timestamp
  accounts : AccountStore := {}
  leases : LeaseStore := {}
  queue : Queue := {}

namespace Memory

/-- The stores as backends that answer at once. -/
def backends : Backends Memory
  | .claim now policy, m =>
    let (result, accounts) := m.accounts.claim now policy
    (⟨result, 0⟩, { m with accounts })
  | .lease ids ttl, m =>
    let (result, leases) := m.leases.acquire m.clock ids ttl
    (⟨result, 0⟩, { m with leases })
  | .publish channel payloads, m =>
    let (result, queue) := m.queue.publish channel payloads
    (⟨result, 0⟩, { m with queue })

/-- Whether an account holds a live lease at the clock's reading. -/
def isLeased (m : Memory) (id : AccountId) : Bool := m.leases.table.isLive m.clock id

/-- Puts a row into the table. -/
def insert (m : Memory) (a : Account) : Memory :=
  { m with accounts := { m.accounts with table := m.accounts.table.insert a } }

/-- Records a completed check. -/
def markChecked (m : Memory) (id : AccountId) (time : Timestamp) : Memory :=
  { m with accounts := { m.accounts with table := m.accounts.table.markChecked id time } }

/-- Switches the accounts table into failing, or back. -/
def failAccounts (m : Memory) (failing : Bool) : Memory :=
  { m with accounts := { m.accounts with failing } }

/-- Switches the lease table into failing, or back. -/
def failLeases (m : Memory) (failing : Bool) : Memory :=
  { m with leases := { m.leases with failing } }

/-- Switches the queue into failing, or back. -/
def failQueue (m : Memory) (failing : Bool) : Memory :=
  { m with queue := { m.queue with failing } }

/-- Makes the queue refuse its `n`-th call. -/
def failCall (m : Memory) (n : Nat) : Memory := { m with queue := m.queue.failCall n }

/-- The row of an account. -/
def row? (m : Memory) (id : AccountId) : Option Account := m.accounts.table.row? id

end Memory

end DueDispatch
