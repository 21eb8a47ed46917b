import DueDispatch.Error
import DueDispatch.SocketPath
import DueDispatch.Url

/-!
# DueDispatch — Redis endpoints

A Redis server is named by a URL: `redis://host:port/db` for TCP, or
`redis+unix:///path` and `unix:///path` for a socket in the file system.

`Endpoint.ofUrl` says which server a URL names; `UrlFault` lists why it may name
none.
-/

namespace DueDispatch.Redis

/-- Why a URL names no Redis server. -/
inductive UrlFault
  | unreadable
  | noHost
  | needsTls
  | badDatabase
  | badUsername
  | badPassword
  | badProtocol (value : String)
  | noPath
deriving DecidableEq

/-- The wording of a refused URL. -/
def UrlFault.message : UrlFault → String
  | .unreadable => "Redis URL did not parse- InvalidClientConfig"
  | .noHost => "Missing hostname- InvalidClientConfig"
  | .needsTls => "can't connect with TLS, the feature is not enabled- InvalidClientConfig"
  | .badDatabase => "Invalid database number- InvalidClientConfig"
  | .badUsername => "Username is not valid UTF-8 string- InvalidClientConfig"
  | .badPassword => "Password is not valid UTF-8 string- InvalidClientConfig"
  | .badProtocol value => "Invalid protocol version - InvalidClientConfig: " ++ value
  | .noPath => "Missing path- InvalidClientConfig"

/-- Where a Redis server listens. -/
inductive Endpoint
  | tcp (host : String) (port : Nat)
  | socket (path : String)
deriving DecidableEq

namespace Endpoint

/-- The port used if none is given. -/
def defaultPort : Nat := 6379

/-- Refuses a text that is no database number. -/
def checkDatabase (text : List Char) : Except UrlFault Unit :=
  match Decimal.readInt64 text with
  | .ok _ => .ok ()
  | .error _ => .error .badDatabase

/-- Refuses an unknown version of the protocol. -/
def checkProtocol (url : Url) : Except UrlFault Unit :=
  match url.parameter? "protocol" with
  | none => .ok ()
  | some value =>
    if ["2", "resp2", "3", "resp3"].contains value then .ok () else .error (.badProtocol value)

/-- The database that a TCP URL names: its path without slashes around it. -/
def database (url : Url) : List Char :=
  ((url.path.dropWhile (· == '/')).reverse.dropWhile (· == '/')).reverse

/-- The server that a TCP URL names. -/
def ofTcp (url : Url) : Except UrlFault Endpoint := do
  let some host := url.host | .error .noHost
  if url.scheme = "rediss" then .error .needsTls
  if !(database url).isEmpty then checkDatabase (database url)
  if !Text.isUtf8 (Text.percentDecode url.username) then .error .badUsername
  if !Text.isUtf8 (Text.percentDecode url.password) then .error .badPassword
  checkProtocol url
  return .tcp host (url.port.getD defaultPort)

/-- The server that a socket URL names. -/
def ofSocket (url : Url) : Except UrlFault Endpoint := do
  let some segments := url.segments | .error .noPath
  if url.host != none && url.host != some "localhost" then .error .noPath
  match url.parameter? "db" with
  | some text => checkDatabase text.toList
  | none => pure ()
  checkProtocol url
  return .socket (Text.lossyText (Text.percentDecode ('/' :: ['/'].intercalate segments)))

/-- The server that a URL names. -/
def ofUrl (text : String) : Except UrlFault Endpoint :=
  match Url.parse text with
  | .error _ => .error .unreadable
  | .ok url =>
    if url.scheme = "redis" || url.scheme = "rediss" then ofTcp url
    else if url.scheme = "redis+unix" || url.scheme = "unix" then ofSocket url
    else .error .unreadable

/-- Why no server can listen there, if none can. -/
def fault? : Endpoint → Option SocketPath.Fault
  | .tcp .. => none
  | .socket path => SocketPath.fault? path

end Endpoint

/-- The server that a configured URL names. -/
def checkUrl (text : String) : Except Error Endpoint :=
  (Endpoint.ofUrl text).mapError fun f =>
    .invalidConfig ("redis pool: Config: Redis: " ++ f.message)

end DueDispatch.Redis
