import DueDispatch.Text.Percent

/-!
# DueDispatch — parts of URLs

A `Url` holds the parts into which `Url.parse` takes a text. Names and values in
them are as they are written, percent-encoded; `Url.parameters` decodes those of
the query.
-/

namespace DueDispatch

/-- The parts of a URL. -/
structure Url where
  scheme : String
  username : List Char := []
  password : List Char := []
  host : Option String := none
  port : Option Nat := none
  /-- The segments of an absolute path; none if the path is not absolute. -/
  segments : Option (List (List Char)) := none
  /-- The text of a path that is not absolute. -/
  opaquePath : List Char := []
  query : List Char := []

namespace Url

/-- Why a text is no URL. -/
inductive Fault
  | noScheme
  /-- A host is needed, and there is none. -/
  | noHost
  /-- What stands in brackets is no address. -/
  | badIpv6
  /-- The host ends in a number, and is no address. -/
  | badIpv4
  /-- The host holds a character that no host may hold. -/
  | badHost
  /-- The host is no domain name. -/
  | badDomain
  | badPort
deriving DecidableEq

/-- The wording of a fault. -/
def Fault.message : Fault → String
  | .noScheme => "relative URL without a base"
  | .noHost => "empty host"
  | .badIpv6 => "invalid IPv6 address"
  | .badIpv4 => "invalid IPv4 address"
  | .badHost => "invalid domain character"
  | .badDomain => "invalid international domain name"
  | .badPort => "invalid port number"

/-- The pieces of a text between the occurrences of a character. -/
def pieces (sep : Char) : List Char → List (List Char)
  | [] => [[]]
  | c :: rest =>
    if c = sep then [] :: pieces sep rest
    else
      match pieces sep rest with
      | [] => [[c]]
      | first :: others => (c :: first) :: others

/-- The text of the path. -/
def path (url : Url) : List Char :=
  match url.segments with
  | some segments => '/' :: ['/'].intercalate segments
  | none => url.opaquePath

/-- One side of a query parameter. -/
def readQueryText (cs : List Char) : String :=
  Text.lossyText (Text.percentDecode (cs.map fun c => if c = '+' then ' ' else c))

/-- The names and values of the query, in order. -/
def parameters (url : Url) : List (String × String) :=
  ((pieces '&' url.query).filter (!·.isEmpty)).map fun pair =>
    (readQueryText (pair.takeWhile (· != '=')),
      readQueryText ((pair.dropWhile (· != '=')).drop 1))

/-- The value of a query parameter; of several the last counts. -/
def parameter? (url : Url) (name : String) : Option String :=
  ((url.parameters.filter (·.1 == name)).map Prod.snd).getLast?

end Url

end DueDispatch
