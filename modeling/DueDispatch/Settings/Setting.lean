import DueDispatch.Cycle.Basic
import DueDispatch.Decimal
import DueDispatch.Grant
import DueDispatch.Schedule.Basic

/-!
# DueDispatch — the settings of the program

Everything that can be configured, with its names and its default. A `Setting`
has a value of its own type, `Setting.Value`, which `Setting.read` reads from
text; a text that is no value is refused with a `ValueFault`.
-/

namespace DueDispatch

/-- The layout of the console log. -/
inductive LogFormat
  | pretty
  | json
deriving DecidableEq, Inhabited

/-- The word for a log layout. -/
def LogFormat.name : LogFormat → String
  | .pretty => "pretty"
  | .json => "json"

/-- All log layouts. -/
def LogFormat.all : List LogFormat := [.pretty, .json]

/-- The sorts of values. -/
inductive Kind
  | text
  /-- An unsigned number of 64 bits. -/
  | number
  /-- An unsigned number of 32 bits, read as a signed number of 64 bits. -/
  | small
  | logFormat
deriving DecidableEq

/-- The values of a sort. -/
abbrev Kind.Value : Kind → Type
  | .text => String
  | .number => UInt64
  | .small => UInt32
  | .logFormat => LogFormat

/-- The largest number of 32 bits. -/
def maxSmall : Int := 4294967295

/-- Why a text is not a value of a sort. -/
inductive ValueFault
  | number (fault : Decimal.Fault)
  /-- A number that is out of bounds. -/
  | outOfBounds (i : Int)
  /-- None of the words that are possible. -/
  | unknownWord
deriving DecidableEq

/-- Reads a number of 32 bits. -/
def readSmall (text : String) : Except ValueFault UInt32 :=
  match Decimal.readInt64 text.toList with
  | .error f => .error (.number f)
  | .ok i => if 0 ≤ i ∧ i ≤ maxSmall then .ok i.toNat.toUInt32 else .error (.outOfBounds i)

/-- Reads a value of a sort. -/
def Kind.read : (k : Kind) → String → Except ValueFault k.Value
  | .text, s => .ok s
  | .number, s =>
    match Decimal.readWord s.toList with
    | .ok n => .ok n.toUInt64
    | .error f => .error (.number f)
  | .small, s => readSmall s
  | .logFormat, s =>
    match LogFormat.all.find? (·.name == s) with
    | some f => .ok f
    | none => .error .unknownWord

/-- Something that can be configured. -/
inductive Setting
  | databaseUrl
  | redisUrl
  | queueRedisUrl
  | accountsTable
  | readyThresholdSecs
  | expiredThresholdSecs
  | batchCap
  | chunkSize
  | tickPeriodMs
  | maxInFlight
  | shutdownTimeoutSecs
  | dbMaxConnections
  | leaseNamespace
  | queueChannel
  | countReportIntervalSecs
  | logFormat
deriving DecidableEq

namespace Setting

/-- All settings in the order in which they are shown and read. -/
def all : List Setting :=
  [databaseUrl, redisUrl, queueRedisUrl, accountsTable, readyThresholdSecs,
    expiredThresholdSecs, batchCap, chunkSize, tickPeriodMs, maxInFlight, shutdownTimeoutSecs,
    dbMaxConnections, leaseNamespace, queueChannel, countReportIntervalSecs, logFormat]

/-- The name on the command line, without the two dashes. -/
def name : Setting → String
  | databaseUrl => "database-url"
  | redisUrl => "redis-url"
  | queueRedisUrl => "queue-redis-url"
  | accountsTable => "accounts-table"
  | readyThresholdSecs => "ready-threshold-secs"
  | expiredThresholdSecs => "expired-threshold-secs"
  | batchCap => "batch-cap"
  | chunkSize => "chunk-size"
  | tickPeriodMs => "tick-period-ms"
  | maxInFlight => "max-in-flight"
  | shutdownTimeoutSecs => "shutdown-timeout-secs"
  | dbMaxConnections => "db-max-connections"
  | leaseNamespace => "lease-namespace"
  | queueChannel => "queue-channel"
  | countReportIntervalSecs => "count-report-interval-secs"
  | logFormat => "log-format"

/-- The environment variable, which also stands for the value in messages. -/
def envName : Setting → String
  | databaseUrl => "DATABASE_URL"
  | redisUrl => "REDIS_URL"
  | queueRedisUrl => "QUEUE_REDIS_URL"
  | accountsTable => "ACCOUNTS_TABLE"
  | readyThresholdSecs => "READY_THRESHOLD_SECS"
  | expiredThresholdSecs => "EXPIRED_THRESHOLD_SECS"
  | batchCap => "BATCH_CAP"
  | chunkSize => "CHUNK_SIZE"
  | tickPeriodMs => "TICK_PERIOD_MS"
  | maxInFlight => "MAX_IN_FLIGHT"
  | shutdownTimeoutSecs => "SHUTDOWN_TIMEOUT_SECS"
  | dbMaxConnections => "DB_MAX_CONNECTIONS"
  | leaseNamespace => "LEASE_NAMESPACE"
  | queueChannel => "QUEUE_CHANNEL"
  | countReportIntervalSecs => "COUNT_REPORT_INTERVAL_SECS"
  | logFormat => "LOG_FORMAT"

/-- The sort of its values. -/
abbrev kind : Setting → Kind
  | databaseUrl => .text
  | redisUrl => .text
  | queueRedisUrl => .text
  | accountsTable => .text
  | readyThresholdSecs => .number
  | expiredThresholdSecs => .number
  | batchCap => .number
  | chunkSize => .number
  | tickPeriodMs => .number
  | maxInFlight => .number
  | shutdownTimeoutSecs => .number
  | dbMaxConnections => .small
  | leaseNamespace => .text
  | queueChannel => .text
  | countReportIntervalSecs => .number
  | logFormat => .logFormat

/-- Its values. -/
abbrev Value (s : Setting) : Type := s.kind.Value

/-- Reads a value of it. -/
def read (s : Setting) (text : String) : Except ValueFault s.Value := s.kind.read text

/-- The text of the value that is used if none is given. The database has to be
named, and the queue has no default of its own. -/
def default? : Setting → Option String
  | databaseUrl => none
  | redisUrl => some "redis://127.0.0.1:6379"
  | queueRedisUrl => none
  | accountsTable => some "accounts"
  | readyThresholdSecs => some "60"
  | expiredThresholdSecs => some "300"
  | batchCap => some (Decimal.writeNat defaultBatchCap)
  | chunkSize => some (Decimal.writeNat defaultChunkSize)
  | tickPeriodMs =>
    some (Decimal.writeNat (Schedule.defaultPeriod.toNanos / Duration.nanosPerMilli))
  | maxInFlight => some "1"
  | shutdownTimeoutSecs => some "5"
  | dbMaxConnections => some "5"
  | leaseNamespace => some defaultKeyspace
  | queueChannel => some defaultChannel
  | countReportIntervalSecs => some "30"
  | logFormat => some LogFormat.pretty.name

/-- The words among which a value is chosen, if it is. -/
def words : Setting → List String
  | logFormat => LogFormat.all.map LogFormat.name
  | _ => []

/-- The setting of this name. -/
def ofName? (name : String) : Option Setting := all.find? (·.name == name)

/-- How the setting is shown in messages. -/
def shown (s : Setting) : String := "--" ++ s.name ++ " <" ++ s.envName ++ ">"

end Setting

end DueDispatch
