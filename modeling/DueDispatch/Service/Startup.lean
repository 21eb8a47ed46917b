import DueDispatch.Redis.Endpoint
import DueDispatch.Service.Peers
import DueDispatch.Settings.Config
import DueDispatch.Text.Lines

/-!
# DueDispatch — startup

Before the first tick every peer has to answer, in a fixed order: the database
is connected and asked for a sign of life, then the Redis server of the leases,
then the one of the queue. The first stage that fails ends the startup.

If leases and queue have the same URL, one server serves both. It is then asked
for a sign of life twice.
-/

namespace DueDispatch

/-- The servers that can be reached, over a state `σ`. -/
structure Network (σ : Type) where
  postgres : Postgres.Endpoint → Postgres.Server σ
  redis : Redis.Endpoint → Redis.Server σ

namespace Network

variable {σ : Type}

/-- The Postgres server at an endpoint. -/
def postgresAt (network : Network σ) (endpoint : Postgres.Endpoint) : Postgres.Server σ :=
  match endpoint.fault? with
  | some fault => .unreachable (.disconnected fault.message)
  | none => network.postgres endpoint

/-- The Redis server at an endpoint. -/
def redisAt (network : Network σ) (endpoint : Redis.Endpoint) : Redis.Server σ :=
  match endpoint.fault? with
  | some fault => .unreachable fault.message
  | none => network.redis endpoint

end Network

/-- A stage of the startup. -/
inductive Stage
  | connectPostgres
  | checkTable
  | pingPostgres
  | findLeases
  | pingLeases
  | findQueue
  | pingQueue
deriving DecidableEq

/-- What a failed stage means to the operator. Of the stages that only check a
setting nothing is said. -/
def Stage.heading? : Stage → Option String
  | connectPostgres => some "failed to connect to Postgres"
  | checkTable => none
  | pingPostgres => some "Postgres is not reachable"
  | findLeases => none
  | pingLeases => some "lease Redis is not reachable"
  | findQueue => none
  | pingQueue => some "queue Redis is not reachable"

/-- A startup that ended at a stage. -/
structure StartFault where
  stage : Stage
  cause : Error
deriving DecidableEq

/-- The wording of a failed startup: its meaning, if there is one, and its
cause. -/
def StartFault.message (f : StartFault) : String :=
  match f.stage.heading? with
  | none => f.cause.message
  | some heading => heading ++ "\n\nCaused by:\n    " ++ Text.indentRest 4 f.cause.message

/-- A program that has started: its settings and its peers. -/
structure Service (σ : Type) where
  config : Config
  table : Postgres.Table
  peers : Peers σ

namespace Startup

variable {σ α : Type}

/-- Does what does not concern any peer. -/
def check (stage : Stage) (result : Except Error α) (s : σ) : Except StartFault α × σ :=
  (result.mapError (⟨stage, ·⟩), s)

/-- Does what a peer takes part in. -/
def reach (stage : Stage) (step : σ → Except Error α × σ) (s : σ) : Except StartFault α × σ :=
  let (result, s) := step s
  (result.mapError (⟨stage, ·⟩), s)

/-- Goes on after a stage that did not fail. -/
def andThen {β : Type} (out : Except StartFault α × σ) (next : α → σ → Except StartFault β × σ) :
    Except StartFault β × σ :=
  match out with
  | (.error fault, s) => (.error fault, s)
  | (.ok a, s) => next a s

@[simp] theorem andThen_error {β : Type} (fault : StartFault) (s : σ)
    (next : α → σ → Except StartFault β × σ) :
    andThen (.error fault, s) next = (.error fault, s) := rfl

@[simp] theorem andThen_ok {β : Type} (a : α) (s : σ)
    (next : α → σ → Except StartFault β × σ) : andThen (.ok a, s) next = next a s := rfl

/-- Opens the database that a URL names in an environment. -/
def openPostgres (network : Network σ) (env : Environment) (url : String) (s : σ) :
    Except StartFault (Postgres.Server σ) × σ :=
  andThen (check .connectPostgres (Postgres.checkUrl env url) s) fun endpoint s =>
    andThen (reach .connectPostgres (network.postgresAt endpoint).openConnection s) fun _ s =>
      (.ok (network.postgresAt endpoint), s)

/-- Checks the table and asks the database for a sign of life. -/
def checkPostgres (c : Config) (server : Postgres.Server σ) (s : σ) :
    Except StartFault Postgres.Table × σ :=
  andThen (check .checkTable (Postgres.checkTable c.accountsTable) s) fun table s =>
    andThen (reach .pingPostgres server.ping s) fun _ s => (.ok table, s)

/-- Finds the server of the leases and asks it for a sign of life. -/
def reachLeases (network : Network σ) (c : Config) (s : σ) :
    Except StartFault (Redis.Server σ) × σ :=
  andThen (check .findLeases (Redis.checkUrl c.redisUrl) s) fun endpoint s =>
    andThen (reach .pingLeases (network.redisAt endpoint).ping s) fun _ s =>
      (.ok (network.redisAt endpoint), s)

/-- Finds the server of the queue, which is the one of the leases if the URLs
are equal, and asks it for a sign of life. -/
def reachQueue (network : Network σ) (c : Config) (leases : Redis.Server σ) (s : σ) :
    Except StartFault (Redis.Server σ) × σ :=
  let found :=
    if c.queueRedisUrl = c.redisUrl then (.ok leases, s)
    else check .findQueue ((Redis.checkUrl c.queueRedisUrl).map network.redisAt) s
  andThen found fun queue s => andThen (reach .pingQueue queue.ping s) fun _ s => (.ok queue, s)

end Startup

open Startup in
/-- Starts the program in an environment. -/
def Service.start {σ : Type} (network : Network σ) (env : Environment) (config : Config) (s : σ) :
    Except StartFault (Service σ) × σ :=
  andThen (openPostgres network env config.databaseUrl s) fun postgres s =>
    andThen (checkPostgres config postgres s) fun table s =>
      andThen (reachLeases network config s) fun leases s =>
        andThen (reachQueue network config leases s) fun queue s =>
          (.ok { config, table, peers := { postgres, leases, queue } }, s)

end DueDispatch
