import DueDispatch.Memory.Basic

/-!
# DueDispatch — replicas over shared stores

A rehearsal of several replicas on one `Memory`: an `Action` is one thing that
happens, `perform` does it, and `Outcome` is what is seen of it. Besides whole
cycles the stages of a cycle and the stores can be driven on their own, the
clock can be moved either way, and every store can be made to fail.
-/

namespace DueDispatch

/-- One thing that happens in a rehearsal. Replicas are named by their place in
the list of dispatchers. -/
inductive Action
  /-- A replica runs a whole cycle. -/
  | cycle (replica : Nat)
  /-- A replica claims, at a reading of its own. -/
  | select (replica : Nat) (now : Timestamp)
  /-- A replica asks for leases on one chunk. -/
  | grant (replica : Nat) (ids : List AccountId)
  /-- A replica publishes ids. -/
  | publish (replica : Nat) (ids : List AccountId)
  /-- Leases are requested from the store. -/
  | acquire (ids : List AccountId) (ttl : Duration)
  /-- Accounts are claimed from the store. -/
  | claim (now : Timestamp) (policy : Policy)
  /-- A message is offered to the queue. -/
  | send (channel : String) (payloads : List String)
  /-- The accounts are counted. -/
  | count
  /-- The clock is set. -/
  | setClock (time : Timestamp)
  /-- The clock is moved forward. -/
  | advance (span : Duration)
  | insert (row : Account)
  | markChecked (id : AccountId) (time : Timestamp)
  | failAccounts (failing : Bool)
  | failLeases (failing : Bool)
  | failQueue (failing : Bool)
  | failCall (n : Nat)

/-- What is seen of an action. -/
inductive Outcome
  | report (r : Report)
  | ids (result : Except Error (List AccountId))
  | leases (outcome : LeaseOutcome)
  /-- The counters of the publish stage. -/
  | publishing (r : Report)
  | sent (result : Except Error Unit)
  | counted (result : Except Error Nat)
  /-- Nothing but the changed stores. -/
  | done

namespace Action

/-- Runs a replica's part of an action; an unknown replica does nothing. -/
def onReplica (replicas : List Dispatcher) (replica : Nat) (m : Memory)
    (part : Dispatcher → Outcome × Memory) : Outcome × Memory :=
  match replicas[replica]? with
  | some d => part d
  | none => (.done, m)

/-- Performs one action on the shared stores. -/
def perform (replicas : List Dispatcher) (m : Memory) : Action → Outcome × Memory
  | .cycle replica => onReplica replicas replica m fun d =>
    let (report, m) := d.runCycle Memory.backends m.clock m
    (.report report, m)
  | .select replica now => onReplica replicas replica m fun d =>
    let (result, m) := d.select Memory.backends now m
    (.ids result, m)
  | .grant replica ids => onReplica replicas replica m fun d =>
    let (outcome, m) := d.grant Memory.backends ids m
    (.leases outcome, m)
  | .publish replica ids => onReplica replicas replica m fun d =>
    let (report, m) := d.publishAll Memory.backends ids m
    (.publishing report, m)
  | .acquire ids ttl =>
    let (result, leases) := m.leases.acquire m.clock ids ttl
    (.ids result, { m with leases })
  | .claim now policy =>
    let (result, accounts) := m.accounts.claim now policy
    (.ids result, { m with accounts })
  | .send channel payloads =>
    let (result, queue) := m.queue.publish channel payloads
    (.sent result, { m with queue })
  | .count => (.counted m.accounts.count, m)
  | .setClock time => (.done, { m with clock := time })
  | .advance d => (.done, { m with clock := m.clock + d })
  | .insert row => (.done, m.insert row)
  | .markChecked id time => (.done, m.markChecked id time)
  | .failAccounts failing => (.done, m.failAccounts failing)
  | .failLeases failing => (.done, m.failLeases failing)
  | .failQueue failing => (.done, m.failQueue failing)
  | .failCall n => (.done, m.failCall n)

/-- Performs actions one after another. -/
def performAll (replicas : List Dispatcher) :
    List Action → Memory → List Outcome × Memory
  | [], m => ([], m)
  | a :: rest, m =>
    let (outcome, m) := a.perform replicas m
    let (outcomes, m) := performAll replicas rest m
    (outcome :: outcomes, m)

theorem performAll_cons (replicas : List Dispatcher) (a : Action) (rest : List Action)
    (m : Memory) :
    performAll replicas (a :: rest) m =
      ((a.perform replicas m).1 :: (performAll replicas rest (a.perform replicas m).2).1,
        (performAll replicas rest (a.perform replicas m).2).2) := rfl

theorem perform_cycle {replicas : List Dispatcher} {replica : Nat} {d : Dispatcher}
    (hReplica : replicas[replica]? = some d) (m : Memory) :
    (cycle replica).perform replicas m =
      (.report (d.runCycle Memory.backends m.clock m).1,
        (d.runCycle Memory.backends m.clock m).2) := by
  simp only [perform, onReplica, hReplica]

end Action

end DueDispatch
