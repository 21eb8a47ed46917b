import DueDispatch.Error
import DueDispatch.Postgres.Endpoint
import DueDispatch.Postgres.Statement

/-!
# DueDispatch — the accounts in Postgres

The server is a peer that may answer anything: `Server` takes a state and
either brings back rows or reports a failure.

A claim is one transaction. Its ids are handed out only after the commit was
acknowledged, in the order of check times, whatever order the rows came in. A
transaction that was begun and not committed is rolled back.
-/

namespace DueDispatch.Postgres

/-- Why the server did not do what it was asked. -/
inductive Failure
  /-- It reports an error. -/
  | reported (text : String)
  /-- The connection settings cannot be used. -/
  | configuration (text : String)
  /-- The connection broke or could not be opened. -/
  | disconnected (text : String)
  /-- The connection has to be encrypted, and the server does not do that. -/
  | plainOnly
  /-- No connection became available in time. -/
  | timedOut
  /-- A row was wanted and there was none. -/
  | noRow
deriving DecidableEq

/-- The wording of a failure. -/
def Failure.message : Failure → String
  | .reported text => "error returned from database: " ++ text
  | .configuration text => "error with configuration: " ++ text
  | .disconnected text => "error communicating with database: " ++ text
  | .plainOnly =>
    "error occurred while attempting to establish a TLS connection: server does not support TLS"
  | .timedOut => "pool timed out while waiting for an open connection"
  | .noRow => "no rows returned by a query that expected to return at least one row"

/-- A Postgres server over a state `σ`. -/
structure Server (σ : Type) where
  connect : σ → Except Failure Unit × σ
  ask : (statement : Statement) → σ → Except Failure statement.Rows × σ

/-- A server that no connection reaches. -/
def Server.unreachable {σ : Type} (f : Failure) : Server σ where
  connect s := (.error f, s)
  ask _ s := (.error f, s)

/-- A failure of the store, with what was being done. -/
def failed (activity : String) (f : Failure) : Error := .storage (activity ++ ": " ++ f.message)

/-- The server that a configured URL names in an environment. -/
def checkUrl (env : Environment) (url : String) : Except Error Endpoint :=
  (Endpoint.ofUrl env url).mapError fun fault =>
    failed "postgres connect" (.configuration fault.message)

/-- The order in which claimed rows are handed out. -/
def rowBefore (a b : AccountId × Timestamp) : Bool :=
  a.2.rank < b.2.rank || (a.2.rank == b.2.rank && decide (a.1 ≤ b.1))

/-- The ids of claimed rows, by check time and then by id. -/
def claimedIds (rows : List (AccountId × Timestamp)) : List AccountId :=
  (rows.mergeSort rowBefore).map Prod.fst

/-- The table of this name as a setting. -/
def checkTable (name : String) : Except Error Table :=
  match Table.of? name with
  | some table => .ok table
  | none => .error (.invalidConfig ("invalid accounts table name: " ++ Text.quoted name))

variable {σ : Type}

namespace Server

/-- Opens the connection. -/
def openConnection (server : Server σ) (s : σ) : Except Error Unit × σ :=
  let (result, s) := server.connect s
  (result.mapError (failed "postgres connect"), s)

/-- Asks for a sign of life. -/
def ping (server : Server σ) (s : σ) : Except Error Unit × σ :=
  let (result, s) := server.ask .probe s
  (result.mapError (failed "postgres ping"), s)

/-- Gives up the transaction. Whatever comes of it, `error` is reported. -/
def giveUp {α : Type} (server : Server σ) (error : Error) (s : σ) : Except Error α × σ :=
  (.error error, (server.ask .rollback s).2)

/-- Commits the transaction and hands out its ids. -/
def commitClaim (server : Server σ) (rows : List (AccountId × Timestamp)) (s : σ) :
    Except Error (List AccountId) × σ :=
  match server.ask .commit s with
  | (.error f, s) => server.giveUp (failed "commit claim" f) s
  | (.ok _, s) => (.ok (claimedIds rows), s)

/-- Claims due accounts in one transaction. -/
def claim (server : Server σ) (table : Table) (now : Timestamp) (p : Policy) (s : σ) :
    Except Error (List AccountId) × σ :=
  match server.ask .begin s with
  | (.error f, s) => (.error (failed "begin claim" f), s)
  | (.ok _, s) =>
    match server.ask (.claim table (.of now p)) s with
    | (.error f, s) => server.giveUp (failed "claim due accounts" f) s
    | (.ok rows, s) => server.commitClaim rows s

/-- The number of accounts; a negative answer counts as none. -/
def count (server : Server σ) (table : Table) (s : σ) : Except Error Nat × σ :=
  match server.ask (.count table) s with
  | (.error f, s) => (.error (failed "count accounts" f), s)
  | (.ok [], s) => (.error (failed "count accounts" .noRow), s)
  | (.ok (n :: _), s) => (.ok n.toInt.toNat, s)

end Server

end DueDispatch.Postgres
