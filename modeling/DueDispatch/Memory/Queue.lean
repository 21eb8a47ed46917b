import DueDispatch.Error

/-!
# DueDispatch — a queue in memory

`Queue` keeps every message it accepted, in order. It counts the calls made to
it, also those it refuses, and can be told to refuse all calls or single ones
by their number.
-/

namespace DueDispatch

/-- One accepted message. -/
structure Message where
  channel : String
  payloads : List String
deriving DecidableEq, Inhabited

/-- A queue that records what it accepts. -/
structure Queue where
  messages : List Message := []
  /-- Publish calls so far, refused ones included. -/
  calls : Nat := 0
  /-- Numbers of the calls to refuse, the first call being number 0. -/
  failingCalls : List Nat := []
  /-- Whether every call is refused. -/
  failing : Bool := false
deriving DecidableEq, Inhabited

namespace Queue

/-- Whether the next call will be refused. -/
def refusesNext (q : Queue) : Bool := q.failing || q.failingCalls.contains q.calls

/-- Offers one message. -/
def publish (q : Queue) (channel : String) (payloads : List String) :
    Except Error Unit × Queue :=
  if q.refusesNext then
    (.error (.queue ("publish to " ++ channel ++ " rejected")), { q with calls := q.calls + 1 })
  else
    (.ok (), { q with calls := q.calls + 1, messages := q.messages ++ [⟨channel, payloads⟩] })

/-- Every id among the accepted payloads, in order; other payloads are passed
over. -/
def publishedIds (q : Queue) : List AccountId :=
  (q.messages.flatMap Message.payloads).filterMap AccountId.read?

/-- Tells the queue to refuse the `n`-th call. -/
def failCall (q : Queue) (n : Nat) : Queue := { q with failingCalls := n :: q.failingCalls }

end Queue

end DueDispatch
