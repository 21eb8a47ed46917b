import DueDispatch.Redis.Entry
import DueDispatch.Redis.Reply

/-!
# DueDispatch — leases and messages in Redis

The server is a peer that may answer anything: `Server` takes a state and
either replies or reports an error.

Leases are granted by one script per request. It walks the keys in order, sets
each that does not exist, and returns the ids of those. Redis runs a script as
one step, so two callers are never both granted one id. The script is sent by
its digest; only a server that does not know it gets its text.

A message is one entry of the stream named like its channel.
-/

namespace DueDispatch.Redis

/-- The grant script. Its keys are the lease keys; its arguments are the life of
a lease in seconds and then the ids. -/
def grantScript : String :=
  "\nlocal granted = \x7b\x7d\n" ++
  "for i, key in ipairs(KEYS) do\n" ++
  "    if redis.call('SET', key, '1', 'NX', 'EX', ARGV[1]) then\n" ++
  "        granted[#granted + 1] = ARGV[i + 1]\n" ++
  "    end\n" ++
  "end\n" ++
  "return granted\n"

/-- Something that is asked of the server. -/
inductive Command
  /-- A sign of life. -/
  | ping
  /-- Runs the grant script, which the server knows by its digest. -/
  | grant (keys args : List String)
  /-- Makes the grant script known. -/
  | load
  /-- Appends an entry to a stream. -/
  | append (channel entry : String)
deriving DecidableEq

/-- A Redis server over a state `σ`. A failed connection comes with its cause,
a failed command with the error line of the server. -/
structure Server (σ : Type) where
  connect : σ → Except String Unit × σ
  ask : Command → σ → Except String Reply × σ

/-- A server that no connection reaches. -/
def Server.unreachable {σ : Type} (cause : String) : Server σ where
  connect s := (.error cause, s)
  ask _ s := (.error cause, s)

/-- Why a command did not succeed. -/
inductive Failure
  /-- The server reports an error. -/
  | reported (line : String)
  /-- A text was wanted. -/
  | notText (reply : Reply)
  /-- A text was wanted, and the bytes are none. -/
  | notUnicode

/-- The name of an error code that has a meaning of its own. -/
def codeName? (code : String) : Option String :=
  [("ERR", "ResponseError"), ("EXECABORT", "ExecAbortError"), ("LOADING", "BusyLoadingError"),
    ("NOSCRIPT", "NoScriptError"), ("MOVED", "Moved"), ("ASK", "Ask"), ("TRYAGAIN", "TryAgain"),
    ("CLUSTERDOWN", "ClusterDown"), ("CROSSSLOT", "CrossSlot"), ("MASTERDOWN", "MasterDown"),
    ("READONLY", "ReadOnly"), ("NOTBUSY", "NotBusy"), ("NOSUB", "NoSub")].lookup code

/-- The code of an error line: all before the first space. -/
def lineCode (line : String) : String := String.ofList (line.toList.takeWhile (· != ' '))

/-- The detail of an error line: all after the first space, if there is one. -/
def lineDetail? (line : String) : Option String :=
  match line.toList.dropWhile (· != ' ') with
  | [] => none
  | _ :: rest => some (String.ofList rest)

/-- The wording of an error line. -/
def lineText (line : String) : String :=
  match codeName? (lineCode line), lineDetail? line with
  | some name, some detail => "An error was signalled by the server - " ++ name ++ ": " ++ detail
  | some name, none => "An error was signalled by the server- " ++ name
  | none, some detail => lineCode line ++ ": " ++ detail
  | none, none => lineCode line ++ ": Unknown extension error encountered"

/-- The wording of a failure. -/
def Failure.message : Failure → String
  | .reported line => lineText line
  | .notText reply =>
    "Response was of incompatible type - TypeError: \"Response type not string compatible.\" " ++
      "(response was " ++ reply.text ++ ")"
  | .notUnicode => "Cannot convert from UTF-8- TypeError"

/-- Whether a reply reads as a text; which text does not matter. -/
def Reply.checkText : Reply → Except Failure Unit
  | .bulk bytes => if bytes.validateUTF8 then .ok () else .error .notUnicode
  | .simple _ => .ok ()
  | .okay => .ok ()
  | .integer _ => .ok ()
  | .other _ true => .ok ()
  | reply => .error (.notText reply)

/-- The wording of a failed connection. -/
def connectionText (cause : String) : String :=
  "redis pool: Error occurred while creating a new object: " ++ cause

/-- The life of a lease in whole seconds. Redis takes no life of zero. -/
def lifeSeconds (ttl : Duration) : Nat := max ttl.secs.toNat 1

/-- The keys of a lease request. -/
def grantKeys (keyspace : String) (ids : List AccountId) : List String :=
  ids.map (leaseKey keyspace)

/-- The arguments of a lease request. -/
def grantArgs (ids : List AccountId) (ttl : Duration) : List String :=
  Decimal.writeNat (lifeSeconds ttl) :: ids.map AccountId.write

variable {σ : Type}

namespace Server

/-- Sends a command whose reply has to be a text. -/
def askText (server : Server σ) (command : Command) (s : σ) : Except Failure Unit × σ :=
  match server.ask command s with
  | (.error line, s) => (.error (.reported line), s)
  | (.ok reply, s) => (reply.checkText, s)

/-- Asks for a sign of life. -/
def ping (server : Server σ) (s : σ) : Except Error Unit × σ :=
  match server.connect s with
  | (.error cause, s) => (.error (.cache (connectionText cause)), s)
  | (.ok _, s) =>
    let (result, s) := server.askText .ping s
    (result.mapError fun f => .cache ("redis ping: " ++ f.message), s)

/-- Runs the grant script. A server that does not know it is given its text,
once, and asked again. -/
def runScript (server : Server σ) (keys args : List String) (s : σ) :
    Except String Reply × σ :=
  match server.ask (.grant keys args) s with
  | (.error line, s) =>
    if lineCode line = "NOSCRIPT" then
      match server.ask .load s with
      | (.error line, s) => (.error line, s)
      | (.ok _, s) => server.ask (.grant keys args) s
    else (.error line, s)
  | (.ok reply, s) => (.ok reply, s)

/-- Reads the answer to a lease request. -/
def readGrant (ids : List AccountId) (reply : Reply) : Except Error (List AccountId) :=
  (reply.granted.bind (Grant.validate ids)).mapError .leaseDecode

/-- Leases accounts for `ttl`. Nothing is sent for no ids. -/
def acquire (server : Server σ) (keyspace : String) (ids : List AccountId) (ttl : Duration)
    (s : σ) : Except Error (List AccountId) × σ :=
  if ids.isEmpty then (.ok [], s)
  else
    match server.connect s with
    | (.error cause, s) => (.error (.cache (connectionText cause)), s)
    | (.ok _, s) =>
      match server.runScript (grantKeys keyspace ids) (grantArgs ids ttl) s with
      | (.error line, s) => (.error (.cache ("lease script: " ++ lineText line)), s)
      | (.ok reply, s) => (readGrant ids reply, s)

/-- Puts one message on a stream. -/
def publish (server : Server σ) (channel : String) (payloads : List String) (s : σ) :
    Except Error Unit × σ :=
  match server.connect s with
  | (.error cause, s) => (.error (.queue (connectionText cause)), s)
  | (.ok _, s) =>
    let (result, s) := server.askText (.append channel (Entry.encode payloads)) s
    (result.mapError fun f => .queue ("xadd " ++ channel ++ ": " ++ f.message), s)

end Server

end DueDispatch.Redis
