import DueDispatch.Decimal
import DueDispatch.Environment
import DueDispatch.SocketPath
import DueDispatch.Text.Quoted
import DueDispatch.Url

/-!
# DueDispatch — Postgres endpoints

A Postgres server is named by a URL of any scheme. Its host is a machine, or the
directory of a socket if it is a path. Parameters of the query override what
stands before it, in their order. Unknown parameters mean nothing. What the URL
does not say, variables of the environment may.

`Endpoint.ofUrl` says which server a URL names; `UrlFault` lists why it may name
none.
-/

namespace DueDispatch.Postgres

/-- Whether a connection is encrypted. -/
inductive TlsMode
  | disable
  | allow
  | prefer
  | require
  | verifyCa
  | verifyFull
deriving DecidableEq

/-- The word for a mode. -/
def TlsMode.name : TlsMode → String
  | .disable => "disable"
  | .allow => "allow"
  | .prefer => "prefer"
  | .require => "require"
  | .verifyCa => "verify-ca"
  | .verifyFull => "verify-full"

/-- All modes. -/
def TlsMode.all : List TlsMode := [.disable, .allow, .prefer, .require, .verifyCa, .verifyFull]

/-- The mode of this name, in any letters. -/
def TlsMode.ofName? (name : String) : Option TlsMode :=
  all.find? fun mode => mode.name.toList == name.toList.map Char.toLower

/-- Whether a connection that is not encrypted is refused. -/
def TlsMode.isStrict : TlsMode → Bool
  | .require => true
  | .verifyCa => true
  | .verifyFull => true
  | _ => false

/-- Why a URL names no Postgres server. -/
inductive UrlFault
  | notUrl (fault : Url.Fault)
  /-- A part of the URL is no text. -/
  | notText (fault : Text.Utf8Fault)
  | badNumber (fault : Decimal.Fault)
  | badAddress
  | badTlsMode (value : String)
deriving DecidableEq

/-- The wording of bytes that are no text. -/
def textFault : Text.Utf8Fault → String
  | .invalid size place =>
    "invalid utf-8 sequence of " ++ Decimal.writeNat size ++ " bytes from index " ++
      Decimal.writeNat place
  | .incomplete place => "incomplete utf-8 byte sequence from index " ++ Decimal.writeNat place

/-- The wording of a refused URL. -/
def UrlFault.message : UrlFault → String
  | .notUrl fault => fault.message
  | .notText fault => textFault fault
  | .badNumber fault => fault.message
  | .badAddress => "invalid IP address syntax"
  | .badTlsMode value =>
    "error with configuration: unknown value " ++ Text.quoted value ++ " for `ssl_mode`"

/-- Where a Postgres server listens, and how it is spoken to. A host that is a
path is the directory of a socket. -/
structure Endpoint where
  host : String := "localhost"
  /-- The directory of a socket, which then counts instead of the host. -/
  socket : Option String := none
  port : Nat := 5432
  tls : TlsMode := .prefer
deriving DecidableEq

namespace Endpoint

/-- Whether a host is the path of a directory. -/
def isPath (host : String) : Bool := host.toList.head? == some '/'

/-- The directory of the socket, if the server has one. -/
def directory? (e : Endpoint) : Option String :=
  e.socket <|> if isPath e.host then some e.host else none

/-- The path of the socket, if the server has one. -/
def socketPath? (e : Endpoint) : Option String :=
  e.directory?.map fun directory => directory ++ "/.s.PGSQL." ++ Decimal.writeNat e.port

/-- Why no server can listen there, if none can. -/
def fault? (e : Endpoint) : Option SocketPath.Fault := e.socketPath?.bind SocketPath.fault?

/-- Names the host, or the directory of the socket. -/
def withHost (e : Endpoint) (host : String) : Endpoint :=
  if isPath host then { e with socket := some host } else { e with host }

/-- Follows a parameter of the query. -/
def withParameter (e : Endpoint) (parameter : String × String) : Except UrlFault Endpoint :=
  let (name, value) := parameter
  if name = "sslmode" ∨ name = "ssl-mode" then
    match TlsMode.ofName? value with
    | some tls => .ok { e with tls }
    | none => .error (.badTlsMode value)
  else if name = "statement-cache-capacity" then
    ((Decimal.readWord value.toList).mapError .badNumber).map fun _ => e
  else if name = "host" then .ok (e.withHost value)
  else if name = "hostaddr" then
    if Url.isIpv4 value.toList || Url.isIpv6 value.toList then .ok { e with host := value }
    else .error .badAddress
  else if name = "port" then
    ((Decimal.readNatural 65535 value.toList).mapError .badNumber).map fun port => { e with port }
  else .ok e

/-- The text of a part of a URL. -/
def readPart (cs : List Char) : Except UrlFault String := (Text.percentText cs).mapError .notText

/-- The variables that name a server. -/
def variableNames : List String := ["PGPORT", "PGHOSTADDR", "PGHOST", "PGSSLMODE"]

/-- The server that an environment names. A port or mode that cannot be read
counts as not given. -/
def ofEnvironment (env : Environment) : Endpoint where
  host := ((env "PGHOSTADDR") <|> env "PGHOST").getD "localhost"
  port := ((env "PGPORT").bind fun v => (Decimal.readNatural 65535 v.toList).toOption).getD 5432
  tls := ((env "PGSSLMODE").bind TlsMode.ofName?).getD .prefer

/-- Follows what stands before the query. Only a host that is a path is
decoded. -/
def withAuthority (e : Endpoint) (url : Url) : Except UrlFault Endpoint :=
  let e := { e with port := url.port.getD e.port }
  match url.host with
  | none => .ok e
  | some host =>
    if (Text.percentDecode host.toList).head? = some 0x2f then
      (readPart host.toList).map fun directory => { e with socket := some directory }
    else .ok { e with host }

/-- Follows a URL. User, password and database have to be texts. -/
def withUrl (e : Endpoint) (url : Url) : Except UrlFault Endpoint := do
  let e ← e.withAuthority url
  let _ ← readPart url.username
  let _ ← readPart url.password
  let _ ← readPart (url.path.dropWhile (· == '/'))
  url.parameters.foldlM withParameter e

/-- The server that a URL names in an environment. -/
def ofUrl (env : Environment) (text : String) : Except UrlFault Endpoint :=
  match Url.parse text with
  | .error fault => .error (.notUrl fault)
  | .ok url => (ofEnvironment env).withUrl url

end Endpoint

end DueDispatch.Postgres
