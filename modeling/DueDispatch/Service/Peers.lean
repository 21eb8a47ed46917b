import DueDispatch.Cycle.Basic
import DueDispatch.Postgres.Store
import DueDispatch.Redis.Client

/-!
# DueDispatch — peers as backends

The running program claims accounts in Postgres, leases them in one Redis server
and publishes them to one, which may be the same. Nothing is assumed of what
these peers answer.
-/

namespace DueDispatch

/-- The servers that a running program speaks to, over a state `σ`. -/
structure Peers (σ : Type) where
  postgres : Postgres.Server σ
  leases : Redis.Server σ
  queue : Redis.Server σ

/-- The peers as backends. The time that a call takes is not their matter. -/
def Peers.backends {σ : Type} (peers : Peers σ) (table : Postgres.Table) (keyspace : String) :
    Backends σ
  | .claim now policy, s =>
    let (result, s) := peers.postgres.claim table now policy s
    (⟨result, 0⟩, s)
  | .lease ids ttl, s =>
    let (result, s) := peers.leases.acquire keyspace ids ttl s
    (⟨result, 0⟩, s)
  | .publish channel payloads, s =>
    let (result, s) := peers.queue.publish channel payloads s
    (⟨result, 0⟩, s)

end DueDispatch
