import DueDispatch.Proofs.Schedule.World
import DueDispatch.Proofs.Service.Traffic
import DueDispatch.Service.Launch
import DueDispatch.Service.Run

/-!
# DueDispatch — everything that passes, with the servers it passes with

A network can be noted: each of its servers then writes down what is asked of it, and at
which endpoint it was found. This is again a network, over states with the notices so far.
So the whole program can be launched over it, and what it does to the notices is what it
does to the servers.

A cycle that waits for an answer has already asked. So the backends of a noted service
also write down a call when it is sent, and not only what passes for it afterwards.

All that a service does is to add notices, and of these only some are about the database:
statements that name the table of the service. What such notices cannot undo is `Lasting`,
and a service keeps it however long it runs.

## Results

* `backends_noted`, `count_noted` — what a cycle or a count adds.
* `runCycles_keeps`, `runCounts_keeps` — a service keeps what is lasting.
* `runCycles_noted`, `runCounts_noted` — nothing that a service does takes a notice back.
-/

namespace DueDispatch

/-- Something that the program does with a server, or a cycle with its backends. -/
inductive Notice
  /-- A connection to a database. -/
  | opened (endpoint : Postgres.Endpoint) (result : Except Postgres.Failure Unit)
  | asked (endpoint : Postgres.Endpoint) (c : Postgres.Contact)
  | redis (endpoint : Redis.Endpoint) (c : Redis.Contact)
  /-- A call that a cycle sends. -/
  | sent (call : Call)

/-- Whether something is asked for that is more than a sign of life: a part of a claim, a
count, a lease script or a message. -/
def Notice.isDispatch : Notice → Bool
  | opened .. => false
  | asked _ ⟨.probe, _⟩ => false
  | asked .. => true
  | redis _ (.connection _) => false
  | redis _ (.command .ping _) => false
  | redis .. => true
  | sent _ => true

variable {σ : Type}

/-- The server, everything that passes being noted. -/
def Postgres.Server.noted (server : Postgres.Server σ) (endpoint : Postgres.Endpoint) :
    Postgres.Server (σ × List Notice) where
  connect p :=
    let (result, s) := server.connect p.1
    (result, (s, p.2 ++ [.opened endpoint result]))
  ask := (server.watched (Notice.asked endpoint)).ask

/-- The server, everything that passes being noted. -/
def Redis.Server.noted (server : Redis.Server σ) (endpoint : Redis.Endpoint) :
    Redis.Server (σ × List Notice) :=
  server.watched (Notice.redis endpoint)

/-- The network, its servers being noted. -/
def Network.noted (network : Network σ) : Network (σ × List Notice) where
  postgres endpoint := (network.postgres endpoint).noted endpoint
  redis endpoint := (network.redis endpoint).noted endpoint

namespace Service

/-- The service, its peers being noted at these endpoints. -/
def noted (v : Service σ) (database : Postgres.Endpoint) (leases queue : Redis.Endpoint) :
    Service (σ × List Notice) where
  config := v.config
  table := v.table
  peers := {
    postgres := v.peers.postgres.noted database
    leases := v.peers.leases.noted leases
    queue := v.peers.queue.noted queue }

/-- The backends of a service, calls being noted when they are sent. A call is waited for
as long as `delay` says, and `meanwhile` is what happens to the servers until then. -/
def notedRemote (v : Service (σ × List Notice)) (delay : Call → σ → Nat × σ)
    (meanwhile : Nat → σ → σ) : Schedule.Remote (σ × List Notice) where
  send call p := ((delay call p.1).1, ((delay call p.1).2, p.2 ++ [.sent call]))
  answer time call p := v.backends call (meanwhile time p.1, p.2)

end Service

-- ---------------------------------------------------------------------------
-- What the database is asked for
-- ---------------------------------------------------------------------------

/-- No statement names a table other than this one. -/
def Asks (name : String) (notices : List Notice) : Prop :=
  ∀ endpoint c, .asked endpoint c ∈ notices → c.statement.sql ∈ Postgres.sqlTexts name

theorem Asks.append {name : String} {first second : List Notice} (hFirst : Asks name first)
    (hSecond : Asks name second) : Asks name (first ++ second) := fun endpoint c hMem =>
  (List.mem_append.mp hMem).elim (hFirst endpoint c) (hSecond endpoint c)

/-- Contacts whose statements are those of a table name no other. -/
theorem asks_asked {name : String} {cs : List Postgres.Contact}
    (hTexts : ∀ c ∈ cs, c.statement.sql ∈ Postgres.sqlTexts name) (endpoint : Postgres.Endpoint) :
    Asks name (cs.map (Notice.asked endpoint)) := by
  intro endpoint' c hMem
  obtain ⟨c', hContact, hSame⟩ := List.mem_map.mp hMem
  obtain ⟨-, rfl⟩ := Notice.asked.inj hSame
  exact hTexts c' hContact

/-- What is asked of a Redis server is no statement. -/
theorem asks_redis (name : String) (endpoint : Redis.Endpoint) (cs : List Redis.Contact) :
    Asks name (cs.map (Notice.redis endpoint)) := by
  simp [Asks]

/-- What still holds when more is noted, if no statement of that names another table. -/
def Lasting (name : String) (R : List Notice → Prop) : Prop :=
  ∀ notices more, R notices → Asks name more → R (notices ++ more)

theorem lasting_begins (name : String) (t : List Notice) : Lasting name (t <+: ·) :=
  fun _ _ hNoted _ => hNoted.trans (List.prefix_append _ _)

theorem lasting_asks (name : String) : Lasting name (Asks name) := fun _ _ => Asks.append

-- ---------------------------------------------------------------------------
-- What was noted stays noted
-- ---------------------------------------------------------------------------

variable {v : Service σ} {database : Postgres.Endpoint} {leases queue : Redis.Endpoint}
  {t : List Notice} {R : List Notice → Prop}

/-- What a cycle adds. -/
theorem backends_noted (v : Service σ) (database : Postgres.Endpoint)
    (leases queue : Redis.Endpoint) (call : Call) (s : σ) (t : List Notice) :
    ∃ seg, (v.noted database leases queue).backends call (s, t) =
      ((v.backends call s).1, ((v.backends call s).2, t ++ seg)) ∧ Asks v.table.name seg := by
  cases call with
  | claim now p =>
    obtain ⟨seg, hRun, hClaim⟩ :=
      v.peers.postgres.claim_watched (Notice.asked database) v.table now p s t
    have hNoted : (v.peers.postgres.noted database).claim v.table now p (s, t) = _ := hRun
    refine ⟨seg.map (Notice.asked database), ?_, asks_asked hClaim.sql_mem database⟩
    simp only [Service.backends, Service.noted, Peers.backends, hNoted]
  | lease ids ttl =>
    obtain ⟨seg, hRun, -⟩ := v.peers.leases.acquire_watched (Notice.redis leases)
      v.config.leaseNamespace ids ttl s t
    refine ⟨seg.map (Notice.redis leases), ?_, asks_redis _ _ seg⟩
    simp only [Service.backends, Service.noted, Peers.backends, Redis.Server.noted, hRun]
  | publish channel payloads =>
    obtain ⟨seg, hRun, -⟩ :=
      v.peers.queue.publish_watched (Notice.redis queue) channel payloads s t
    refine ⟨seg.map (Notice.redis queue), ?_, asks_redis _ _ seg⟩
    simp only [Service.backends, Service.noted, Peers.backends, Redis.Server.noted, hRun]

/-- What a count adds. -/
theorem count_noted (server : Postgres.Server σ) (endpoint : Postgres.Endpoint)
    (table : Postgres.Table) (s : σ) (t : List Notice) :
    (server.noted endpoint).count table (s, t) =
      ((server.count table s).1, ((server.count table s).2,
        t ++ [.asked endpoint ⟨.count table, (server.ask (.count table) s).1⟩])) := by
  rcases hAsk : server.ask (.count table) s with ⟨f | _ | ⟨n, rest⟩, s'⟩ <;>
    simp [Postgres.Server.count, Postgres.Server.noted, Postgres.Server.watched, hAsk]

theorem asks_count (endpoint : Postgres.Endpoint) (table : Postgres.Table)
    (result : Except Postgres.Failure (List Int64)) :
    Asks table.name [.asked endpoint ⟨.count table, result⟩] := by
  have hTexts : ∀ c ∈ [(⟨.count table, result⟩ : Postgres.Contact)],
      c.statement.sql ∈ Postgres.sqlTexts table.name :=
    List.forall_mem_singleton.mpr (Postgres.sql_count_mem table)
  exact asks_asked hTexts endpoint

/-- A lasting property is kept, whatever a cycle asks for. -/
theorem keeps_notedRemote (v : Service σ) (database : Postgres.Endpoint)
    (leases queue : Redis.Endpoint) (delay : Call → σ → Nat × σ) (meanwhile : Nat → σ → σ)
    (hLasting : Lasting v.table.name R) :
    ((v.noted database leases queue).notedRemote delay meanwhile).Keeps fun p => R p.2 where
  send call _ hNoted := hLasting _ [.sent call] hNoted (by simp [Asks])
  answer time call p hNoted := by
    obtain ⟨seg, hRun, hAsks⟩ :=
      backends_noted v database leases queue call (meanwhile time p.1) p.2
    show R ((v.noted database leases queue).backends call (meanwhile time p.1, p.2)).2.2
    rw [hRun]
    exact hLasting _ seg hNoted hAsks

theorem isSignal_signalScript {W : Type} (signals : List Nat) :
    ∀ entry ∈ signalScript (W := W) signals, entry.2.IsSignal := by
  match signals with
  | [] => simp [signalScript]
  | [first] => simp [signalScript, Schedule.Step.IsSignal]
  | first :: second :: rest => simp [signalScript, Schedule.Step.IsSignal]

/-- **Cycles keep a lasting property.** -/
theorem runCycles_keeps {clock : Nat → Timestamp} {signals : List Nat} {s : σ}
    {delay : Call → σ → Nat × σ} {meanwhile : Nat → σ → σ}
    {cycles : Schedule.State (Schedule.Site (σ × List Notice)) Schedule.Waiting}
    (hLasting : Lasting v.table.name R) (hNoted : R t)
    (hRun : (v.noted database leases queue).runCycles
      ((v.noted database leases queue).notedRemote delay meanwhile) clock signals (s, t) =
        .ok cycles) : R cycles.world.state.2 := by
  unfold Service.runCycles at hRun
  cases hSchedule : (v.noted database leases queue).config.schedule with
  | error fault =>
    rw [hSchedule] at hRun
    contradiction
  | ok settings =>
    rw [hSchedule] at hRun
    obtain rfl := Except.ok.inj hRun
    have hKeeps := (keeps_notedRemote v database leases queue delay meanwhile hLasting).cycles
      v.config.dispatcher clock
    exact Schedule.world_run hKeeps settings (isSignal_signalScript signals) hNoted

/-- **Counts keep a lasting property.** -/
theorem runCounts_keeps {latency : Nat → Nat} {signals : List Nat} {s : σ}
    {counts : Schedule.CountReports.State (σ × List Notice)}
    (hLasting : Lasting v.table.name R) (hNoted : R t)
    (hRun : (v.noted database leases queue).runCounts latency signals (s, t) =
      .ok (some counts)) : R counts.world.2 := by
  unfold Service.runCounts at hRun
  split at hRun
  · simp at hRun
  · rename_i period hInterval
    have hTotal : ∀ p : σ × List Notice, R p.2 →
        R (((v.noted database leases queue).counter latency).total p).2.2 := by
      intro p hBefore
      show R ((v.peers.postgres.noted database).count v.table (p.1, p.2)).2.2
      rw [count_noted]
      exact hLasting _ _ hBefore (asks_count database v.table _)
    cases hCounts : Schedule.CountReports.run ((v.noted database leases queue).counter latency)
        period (signalScript signals) (s, t) with
    | error fault =>
      rw [hCounts] at hRun
      contradiction
    | ok r =>
      rw [hCounts] at hRun
      obtain rfl := Option.some.inj (Except.ok.inj hRun)
      exact Schedule.CountReports.world_run hTotal (isSignal_signalScript signals) hNoted hCounts

/-- No cycle takes a notice back. -/
theorem runCycles_noted {clock : Nat → Timestamp} {signals : List Nat} {s : σ}
    {delay : Call → σ → Nat × σ} {meanwhile : Nat → σ → σ}
    {cycles : Schedule.State (Schedule.Site (σ × List Notice)) Schedule.Waiting}
    (hRun : (v.noted database leases queue).runCycles
      ((v.noted database leases queue).notedRemote delay meanwhile) clock signals (s, t) =
        .ok cycles) : t <+: cycles.world.state.2 :=
  runCycles_keeps (lasting_begins _ t) (List.prefix_refl t) hRun

/-- No count takes a notice back. -/
theorem runCounts_noted {latency : Nat → Nat} {signals : List Nat} {s : σ}
    {counts : Schedule.CountReports.State (σ × List Notice)}
    (hRun : (v.noted database leases queue).runCounts latency signals (s, t) =
      .ok (some counts)) : t <+: counts.world.2 :=
  runCounts_keeps (lasting_begins _ t) (List.prefix_refl t) hRun

end DueDispatch
