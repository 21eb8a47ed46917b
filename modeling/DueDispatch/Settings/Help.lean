import DueDispatch.Settings.Message
import DueDispatch.Text.Lines

/-!
# DueDispatch — help

What `--help` and `-h` show. Every setting is shown with the value that its
environment variable has at the moment, its default and its possible values. As
for messages, what a terminal does not show is the `Text.Terminal.plainText` of it.
So an escape sequence that the value of a variable leaves open takes with it
what follows, up to the next name of an option.
-/

namespace DueDispatch

open Text.Terminal (Look)

/-- The version of the program. -/
def programVersion : String := "0.3.2"

/-- What `--version` prints. -/
def versionText : String := programName ++ " " ++ programVersion ++ "\n"

/-- What a setting is for. -/
def Setting.summary : Setting → String
  | databaseUrl => "Postgres connection string for the accounts table"
  | redisUrl => "Redis connection string used for account leases"
  | queueRedisUrl => "Redis connection string for the queue. Defaults to `REDIS_URL`"
  | accountsTable => "Name of the accounts table. Must be a plain identifier"
  | readyThresholdSecs =>
    "Minimum age, in seconds, of an account's last claim before it may be claimed again"
  | expiredThresholdSecs =>
    "Age, in seconds, of an account's last completed check after which it is always due. " ++
      "Also the lease TTL"
  | batchCap => "Maximum number of accounts claimed per tick"
  | chunkSize => "Number of ids per lease script call and per queue message"
  | tickPeriodMs => "Milliseconds between two dispatch cycles"
  | maxInFlight =>
    "Maximum number of cycles allowed to run at the same time. " ++
      "A tick that finds this many cycles still running is skipped"
  | shutdownTimeoutSecs => "Seconds granted to in-flight cycles after the first shutdown signal"
  | dbMaxConnections => "Size of the Postgres connection pool"
  | leaseNamespace => "Key prefix for account leases: `<namespace>:<id>`"
  | queueChannel => "Redis stream receiving dispatched account ids"
  | countReportIntervalSecs =>
    "Seconds between two reports of the total account count. `0` disables the reporter"
  | logFormat => "Console log layout: `pretty` or `json`"

namespace Help

/-- The notes on a setting: its variable, its default, its possible values. -/
def notes (environment : Environment) (s : Setting) : List String :=
  ["[env: " ++ s.envName ++ "=" ++ (environment s.envName).getD "" ++ "]"] ++
    (s.default?.map fun d => "[default: " ++ d ++ "]").toList ++
    (if s.words.isEmpty then []
    else ["[possible values: " ++ String.intercalate ", " s.words ++ "]"])

/-- The entry of an option: its place and its names, and below them what is said
of it. -/
def entry (names text : String) : String :=
  names ++ "\n          " ++ Text.indentRest 10 text ++ "\n"

/-- The place and the names of a setting. -/
def settingNames (s : Setting) : String := "      " ++ (Flag.setting s).usage

/-- The entry of a setting at length. -/
def longEntry (environment : Environment) (s : Setting) : String :=
  entry (settingNames s)
    (s.summary ++ ".\n\nEnvironment variable: `" ++ s.envName ++ "`\n\n" ++
      String.intercalate "\n" (notes environment s))

/-- The entry of a setting in short. -/
def shortEntry (environment : Environment) (s : Setting) : String :=
  entry (settingNames s) (String.intercalate " " (s.summary :: notes environment s))

/-- The place and the names of a query. -/
def queryNames (letter name : String) : String :=
  "  " ++ Look.name.on letter ++ ", " ++ Look.name.on name

/-- The entries of the options without a value. -/
def queryEntries (seeAlso : String) : List String :=
  [entry (queryNames "-h" "--help") ("Print help (" ++ seeAlso ++ ")"),
    entry (queryNames "-V" "--version") "Print version"]

/-- What comes before the entries. -/
def heading : String :=
  UsageFault.generalUsage ++ "\n\n" ++ Look.title.on "Options:" ++ "\n"

/-- What `--help` shows. -/
def long (environment : Environment) : String :=
  "Runtime configuration for the `account-dispatch-server` binary.\n\n" ++
  "These settings control which accounts are considered due, how many are claimed per tick, " ++
  "how claimed ids are chunked for leasing and publishing, and where the storage, lease cache " ++
  "and queue live. All values are parsed from CLI arguments or environment variables (a `.env` " ++
  "file is loaded first), with defaults suitable for a single production deployment.\n\n" ++
  "Every replica of the dispatcher must agree on the thresholds and the lease namespace, " ++
  "otherwise leases taken by one replica are invisible to another.\n\n" ++
  heading ++
  String.intercalate "\n"
    (Setting.all.map (longEntry environment) ++ queryEntries "see a summary with '-h'")

/-- What `-h` shows. -/
def short (environment : Environment) : String :=
  "Claims due accounts, leases them and publishes them to a work queue\n\n" ++
  heading ++
  String.join (Setting.all.map (shortEntry environment) ++ queryEntries "see more with '--help'")

end Help

end DueDispatch
