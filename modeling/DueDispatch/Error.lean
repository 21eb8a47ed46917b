import DueDispatch.Account

/-!
# DueDispatch — failures

Everything that can go wrong at a backend, as causes. `Error.message` and
`GrantError.message` hold the only wording of each.

No failure ends the program once it is running: a cycle absorbs every one of
them and dispatches fewer accounts.
-/

namespace DueDispatch

/-- Why a reply of the lease cache is not a list of granted ids. -/
inductive GrantError
  /-- The reply is no array. -/
  | notAnArray (found : String)
  /-- An element of the array is no id. -/
  | invalidElement (index : Nat) (found : String)
  /-- A granted id is not found further along the request. -/
  | unexpectedId (id : AccountId)
  /-- More ids are granted than were requested. -/
  | tooManyIds (granted requested : Nat)
deriving DecidableEq

/-- The wording of a refused lease reply. -/
def GrantError.message : GrantError → String
  | .notAnArray found => "expected an array reply, got " ++ found
  | .invalidElement index found =>
    "element " ++ Decimal.writeNat index ++ " is not an account id: " ++ found
  | .unexpectedId id => "granted id " ++ id.write ++ " was not part of the request"
  | .tooManyIds granted requested =>
    "granted " ++ Decimal.writeNat granted ++ " ids for a request of " ++
      Decimal.writeNat requested

/-- A failed backend call, or a component given unusable settings. -/
inductive Error
  /-- The account store failed; no row was changed. -/
  | storage (context : String)
  /-- The lease cache could not be reached or refused. -/
  | cache (context : String)
  /-- The lease cache answered something that is no grant. -/
  | leaseDecode (cause : GrantError)
  /-- A message was not accepted by the queue. -/
  | queue (context : String)
  /-- A component was given unusable settings. -/
  | invalidConfig (reason : String)
deriving DecidableEq

/-- The wording of a failure. -/
def Error.message : Error → String
  | .storage context => "Storage error: " ++ context
  | .cache context => "Cache error: " ++ context
  | .leaseDecode cause => "Lease decode error: " ++ cause.message
  | .queue context => "Queue error: " ++ context
  | .invalidConfig reason => "Invalid config: " ++ reason

end DueDispatch
