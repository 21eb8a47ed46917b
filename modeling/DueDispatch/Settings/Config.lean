import DueDispatch.Policy
import DueDispatch.Postgres.Table
import DueDispatch.Settings.CommandLine

/-!
# DueDispatch — the configuration

The settings as the program uses them. `Config.check` refuses settings that make
no sense together or alone; of several faults it reports the first in its own
order, whatever the order of the command line.
-/

namespace DueDispatch

/-- Why settings are refused. -/
inductive ConfigFault
  | empty (s : Setting)
  | zero (s : Setting)
  /-- The table name may not stand in SQL. -/
  | notIdentifier (name : String)
  /-- A chunk would be larger than a batch. -/
  | chunkExceedsBatch (chunkSize cap : Nat)
deriving DecidableEq

/-- The wording of refused settings. -/
def ConfigFault.message : ConfigFault → String
  | .empty s => s.envName ++ " must not be empty"
  | .zero s => s.envName ++ " must be greater than 0"
  | .notIdentifier name =>
    "ACCOUNTS_TABLE (" ++ name ++
      ") must be a non-empty identifier of ASCII letters, digits and underscores"
  | .chunkExceedsBatch chunkSize cap =>
    "CHUNK_SIZE (" ++ Decimal.writeNat chunkSize ++ ") must not exceed BATCH_CAP (" ++
      Decimal.writeNat cap ++ ")"

/-- The configuration of the program. -/
structure Config where
  databaseUrl : String
  redisUrl : String
  queueRedisUrl : String
  accountsTable : String
  policy : Policy
  chunkSize : Nat
  tickPeriod : Duration
  maxInFlight : Nat
  shutdownTimeout : Duration
  dbMaxConnections : Nat
  leaseNamespace : String
  queueChannel : String
  /-- Time between two counts of all accounts, if there are any. -/
  countReportInterval : Option Duration
  logFormat : LogFormat
deriving DecidableEq

namespace Config

/-- The configuration that the settings describe. A missing or empty queue URL
stands for the one of the leases. A setting without a value counts as empty or
zero. -/
def ofValues (v : Values) : Config where
  databaseUrl := (v .databaseUrl).getD ""
  redisUrl := (v .redisUrl).getD ""
  queueRedisUrl :=
    let url := (v .queueRedisUrl).getD ""
    if url.isEmpty then (v .redisUrl).getD "" else url
  accountsTable := (v .accountsTable).getD ""
  policy := {
    ready := .ofSecs ((v .readyThresholdSecs).getD 0)
    expired := .ofSecs ((v .expiredThresholdSecs).getD 0)
    cap := ((v .batchCap).getD 0).toNat }
  chunkSize := ((v .chunkSize).getD 0).toNat
  tickPeriod := .ofMillis ((v .tickPeriodMs).getD 0)
  maxInFlight := ((v .maxInFlight).getD 0).toNat
  shutdownTimeout := .ofSecs ((v .shutdownTimeoutSecs).getD 0)
  dbMaxConnections := ((v .dbMaxConnections).getD 0).toNat
  leaseNamespace := (v .leaseNamespace).getD ""
  queueChannel := (v .queueChannel).getD ""
  countReportInterval :=
    let secs := (v .countReportIntervalSecs).getD 0
    if secs = 0 then none else some (.ofSecs secs)
  logFormat := (v .logFormat).getD .pretty

/-- What is wrong with a configuration, the first fault first. -/
def faults (c : Config) : List ConfigFault :=
  [(c.databaseUrl.isEmpty, ConfigFault.empty .databaseUrl),
    (c.redisUrl.isEmpty, .empty .redisUrl),
    (!Postgres.isIdent c.accountsTable.toList, .notIdentifier c.accountsTable),
    (c.policy.ready.secs == 0, .zero .readyThresholdSecs),
    (c.policy.expired.secs == 0, .zero .expiredThresholdSecs),
    (c.policy.cap == 0, .zero .batchCap),
    (c.chunkSize == 0, .zero .chunkSize),
    (decide (c.policy.cap < c.chunkSize), .chunkExceedsBatch c.chunkSize c.policy.cap),
    (c.tickPeriod.toNanos == 0, .zero .tickPeriodMs),
    (c.maxInFlight == 0, .zero .maxInFlight),
    (c.dbMaxConnections == 0, .zero .dbMaxConnections),
    (c.leaseNamespace.isEmpty, .empty .leaseNamespace),
    (c.queueChannel.isEmpty, .empty .queueChannel)].filterMap
    fun (wrong, fault) => if wrong then some fault else none

/-- The configuration that the settings describe, if nothing is wrong with it. -/
def check (v : Values) : Except ConfigFault Config :=
  match (ofValues v).faults with
  | [] => .ok (ofValues v)
  | fault :: _ => .error fault

end Config

end DueDispatch
