import DueDispatch.Decimal
import DueDispatch.Time.Timestamp

/-!
# DueDispatch — accounts

An account is known by a 64-bit id. Its row records when its last check was
completed and when it was last claimed for dispatch.

`AccountId.write` and `AccountId.read?` are the decimal form in which ids go
to the queue and come back from the lease cache.
-/

namespace DueDispatch

/-- Primary key of an account. -/
abbrev AccountId := Int64

namespace AccountId

/-- The decimal text of an id. -/
def write (id : AccountId) : String := Decimal.write id.toInt

/-- The id that a decimal text stands for, if it is one in range. -/
def read? (text : String) : Option AccountId :=
  match Decimal.readInt64 text.toList with
  | .ok i => some (Int64.ofInt i)
  | .error _ => none

end AccountId

/-- One row of the accounts table. -/
structure Account where
  id : AccountId
  /-- When the last check of the account was completed. -/
  checkedAt : Timestamp
  /-- When the account was last claimed. -/
  enqueuedAt : Timestamp
deriving DecidableEq, Inhabited

namespace Account

/-- The order in which due accounts are claimed: the longest unchecked first,
by id where the check times have equal bits. -/
def before (a b : Account) : Bool :=
  a.checkedAt.rank < b.checkedAt.rank ||
    (a.checkedAt.rank == b.checkedAt.rank && decide (a.id ≤ b.id))

end Account

end DueDispatch
