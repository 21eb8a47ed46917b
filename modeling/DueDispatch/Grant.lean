import DueDispatch.Error

/-!
# DueDispatch — granted ids

A lease request names accounts in an order, and the cache walks it in that
order. So an honest answer is the request with some ids left out. `validate`
accepts exactly such answers and passes them on unchanged; of any other it
reports the first thing that is wrong.

`leaseKey` names the lease of an account in a cache that holds other things
besides.
-/

namespace DueDispatch

/-- What the lease keys begin with if nothing else is configured. -/
def defaultKeyspace : String := "locks:accounts"

/-- The cache key of an account's lease. -/
def leaseKey (keyspace : String) (id : AccountId) : String := keyspace ++ ":" ++ id.write

namespace Grant

/-- Looks for the granted ids in the request, each one after the one before.
Returns the first that is not found. -/
def firstUnmatched : List AccountId → List AccountId → Option AccountId
  | _, [] => none
  | [], id :: _ => some id
  | r :: requested, id :: granted =>
    if r = id then firstUnmatched requested granted else firstUnmatched requested (id :: granted)

/-- Checks the granted ids against the request. -/
def validate (requested granted : List AccountId) : Except GrantError (List AccountId) :=
  if requested.length < granted.length then
    .error (.tooManyIds granted.length requested.length)
  else
    match firstUnmatched requested granted with
    | some id => .error (.unexpectedId id)
    | none => .ok granted

end Grant

end DueDispatch
