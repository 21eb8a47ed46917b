import DueDispatch.Decimal
import DueDispatch.Url.Address
import DueDispatch.Url.Domain
import DueDispatch.Url.Path

/-!
# DueDispatch — URLs

`Url.parse` takes a URL apart as the URL standard does: the scheme, then after
two slashes a user, a host and a port, then the path and the query. A fragment
is left out.

Schemes of the web need a host, which is a domain name or an address, and do not
care how many slashes stand before it. A file may do without a host, and has no
user and no port. Of other schemes nothing is known, and their hosts are not
looked into.
-/

namespace DueDispatch.Url

/-- Drops what may stand around a URL, and the line breaks and tabs in it. -/
def cleaned (cs : List Char) : List Char :=
  let isBlank (c : Char) : Bool := c ≤ ' '
  let trimmed := ((cs.dropWhile isBlank).reverse.dropWhile isBlank).reverse
  trimmed.filter fun c => c != '\t' && c != '\n' && c != '\r'

/-- A character that a scheme may go on with. -/
def isSchemeChar (c : Char) : Bool := c.isAlphanum || c == '+' || c == '-' || c == '.'

/-- The scheme, in lower case, and what follows its colon. -/
def splitScheme? (cs : List Char) : Option (String × List Char) :=
  match cs.takeWhile (· != ':'), cs.dropWhile (· != ':') with
  | c :: scheme, _ :: rest =>
    if c.isAlpha && scheme.all isSchemeChar then
      some (String.ofList ((c :: scheme).map Char.toLower), rest)
    else none
  | _, _ => none

/-! ## The authority -/

/-- What stands before and after the last at sign, if there is one. -/
def splitLastAt? (cs : List Char) : Option (List Char × List Char) :=
  match cs.reverse.dropWhile (· != '@') with
  | [] => none
  | _ :: before => some (before.reverse, (cs.reverse.takeWhile (· != '@')).reverse)

/-- User name and password. -/
def splitUser (cs : List Char) : List Char × List Char :=
  (cs.takeWhile (· != ':'), (cs.dropWhile (· != ':')).drop 1)

/-- The host, up to the first colon that stands outside square brackets, and
the rest. -/
def splitHost (inBrackets : Bool) : List Char → List Char × List Char
  | [] => ([], [])
  | c :: rest =>
    if c = ':' ∧ !inBrackets then ([], c :: rest)
    else
      let inside := if c = '[' then true else if c = ']' then false else inBrackets
      let (host, after) := splitHost inside rest
      (c :: host, after)

/-- The characters that no host may hold. -/
def isForbiddenInHost (c : Char) : Bool :=
  ['\x00', '\t', '\n', '\r', ' ', '#', '/', ':', '<', '>', '?', '@', '[', '\\', ']', '^',
    '|'].contains c

/-- Refuses an address in brackets that is none. -/
def readBrackets (afterOpening : List Char) : Except Fault Unit :=
  if afterOpening.getLast? = some ']' ∧ isIpv6 afterOpening.dropLast then .ok ()
  else .error .badIpv6

/-- The host of a general scheme; an empty one passes. -/
def readGeneralHost (cs : List Char) : Except Fault (List Char) :=
  match cs with
  | '[' :: rest => (readBrackets rest).map fun _ => cs
  | cs => if cs.any isForbiddenInHost then .error .badHost else .ok cs

/-- A host that has to be there. -/
def readNeededHost (cs : List Char) : Except Fault (List Char) :=
  match cs with
  | [] => .error .noHost
  | '[' :: rest => (readBrackets rest).map fun _ => cs
  | cs =>
    match Domain.read cs with
    | none => .error .badDomain
    | some [] => .error .noHost
    | some domain =>
      if endsInNumber domain && !isLooseIpv4 domain then .error .badIpv4 else .ok domain

/-- The host of a URL. -/
def readHost (layout : Layout) (cs : List Char) : Except Fault (List Char) :=
  if layout = .general then readGeneralHost cs else readNeededHost cs

/-- A port, if any digits are given; it is refused above the largest one. -/
def readPort (digits : List Char) : Option (Option Nat) :=
  if digits.isEmpty then some none
  else
    match Decimal.readDigits 65535 .tooLarge 0 digits with
    | .ok n => some (some n)
    | .error _ => none

/-- The port after a host: digits, and then nothing or a path that begins with a
backslash. Returns the port and that path. -/
def splitPort? (cs : List Char) : Option (Option Nat × List Char) :=
  let digits := cs.takeWhile Char.isDigit
  let rest := cs.dropWhile Char.isDigit
  match rest with
  | [] => (readPort digits).map fun port => (port, [])
  | '\\' :: _ => (readPort digits).map fun port => (port, rest)
  | _ => none

/-- The path after an authority. A general scheme needs none. -/
def readPath (layout : Layout) (path : List Char) : Option (List (List Char)) :=
  if layout = .general ∧ path = [] then none else some (readSegments layout path)

/-- Reads what follows the two slashes: user, host, port and path. `more` tells
whether a query or a fragment follows. -/
def readAuthority (layout : Layout) (url : Url) (cs : List Char) (more : Bool) :
    Except Fault Url :=
  let authority := cs.takeWhile fun c => !layout.isSeparator c
  let path := cs.dropWhile fun c => !layout.isSeparator c
  let (user, hostPort) := (splitLastAt? authority).getD ([], authority)
  let hasAt := authority.contains '@'
  if hasAt && user.isEmpty && hostPort.isEmpty && (!path.isEmpty || more) then .error .noHost
  else
    let (username, password) := splitUser user
    let (hostText, afterHost) := splitHost false hostPort
    match readHost layout hostText with
    | .error fault => .error fault
    | .ok host =>
      if host.isEmpty && (!afterHost.isEmpty || !username.isEmpty || !password.isEmpty) then
        .error .noHost
      else
        match splitPort? (afterHost.drop 1) with
        | none => .error .badPort
        | some (port, rest) =>
          .ok { url with
            username, password, port
            host := if host.isEmpty then none else some (String.ofList host)
            segments := readPath layout (rest ++ path) }

/-! ## The whole -/

/-- Reads what follows the scheme of a file. The local machine counts as no host,
and so does what is a drive. -/
def readFile (url : Url) (cs : List Char) : Except Fault Url :=
  let isSeparator := Layout.file.isSeparator
  let local_ (path : List Char) : Url := { url with segments := some (readSegments .file path) }
  match cs with
  | a :: b :: rest =>
    if isSeparator a && isSeparator b then
      let hostText := rest.takeWhile fun c => !isSeparator c
      let path := rest.dropWhile fun c => !isSeparator c
      if isDrive hostText then .ok (local_ rest)
      else if hostText.isEmpty then .ok (local_ path)
      else
        (readNeededHost hostText).map fun host =>
          if host = "localhost".toList then local_ path
          else { local_ path with host := some (String.ofList host) }
    else .ok (local_ cs)
  | cs => .ok (local_ cs)

/-- Takes a URL apart. -/
def parse (text : String) : Except Fault Url :=
  match splitScheme? (cleaned text.toList) with
  | none => .error .noScheme
  | some (scheme, rest) =>
    let beforeFragment := rest.takeWhile (· != '#')
    let beforeQuery := beforeFragment.takeWhile (· != '?')
    let query := (beforeFragment.dropWhile (· != '?')).drop 1
    let url : Url := { scheme, query }
    let more := beforeQuery.length != rest.length
    match Layout.of scheme, beforeQuery with
    | .file, cs => readFile url cs
    | .web, cs => readAuthority .web url (cs.dropWhile Layout.web.isSeparator) more
    | .general, '/' :: '/' :: cs => readAuthority .general url cs more
    | .general, '/' :: cs => .ok { url with segments := some (readSegments .general ('/' :: cs)) }
    | .general, cs => .ok { url with opaquePath := cs }

end DueDispatch.Url
