import DueDispatch.Proofs.Decimal
import DueDispatch.Proofs.Grant
import DueDispatch.Redis.Client

/-!
# DueDispatch — replies that pass as grants

A reply to a lease request is believed only as far as it repeats the request: ids may
be missing from it, but none is new, moved or repeated. So a reply that passes can
grant too little and never too much. Conversely every such list of ids passes if it is
written as decimal texts.

## Results

* `sublist_of_readGrant` — what is read off a reply is part of the request, in its order.
* `readGrant_written` — ids that are part of the request, in its order, are read back
  from their texts.
-/

namespace DueDispatch

namespace Redis.Reply

/-- A text is read back from its UTF-8 form. -/
theorem fromUTF8?_toUTF8 (text : String) : String.fromUTF8? text.toUTF8 = some text := by
  have hValid : text.toUTF8.IsValidUTF8 := text.isValidUTF8
  rw [String.fromUTF8?, dif_pos hValid]
  rfl

/-- Ids that are written as bulk strings are read back. -/
theorem idsFrom_written (index : Nat) (ids : List AccountId) :
    idsFrom index (ids.map fun id => .bulk id.write.toUTF8) = .ok ids := by
  induction ids generalizing index with
  | nil => rfl
  | cons id rest ih =>
    have hId : id? (.bulk id.write.toUTF8) = some id := by
      rw [id?, fromUTF8?_toUTF8, Option.bind_some, AccountId.read?_write]
    rw [List.map_cons, idsFrom, hId]
    simp only [ih, Except.map]

end Redis.Reply

namespace Redis.Server

/-- Ids that are part of the request, in its order, are read back from their texts. -/
theorem readGrant_written {ids granted : List AccountId} (hSub : granted.Sublist ids) :
    readGrant ids (.array (granted.map fun id => .bulk id.write.toUTF8)) = .ok granted := by
  rw [readGrant, Reply.granted, Reply.idsFrom_written]
  exact congrArg (Except.mapError Error.leaseDecode) (Grant.validate_of_sublist hSub)

/-- What is read off a reply is part of the request, in its order. -/
theorem sublist_of_readGrant {ids granted : List AccountId} {reply : Reply}
    (hPass : readGrant ids reply = .ok granted) : granted.Sublist ids := by
  unfold readGrant at hPass
  cases hDecoded : reply.granted with
  | error cause =>
    rw [hDecoded] at hPass
    cases hPass
  | ok found =>
    have hRead : (Grant.validate ids found).mapError Error.leaseDecode = .ok granted := by
      rw [hDecoded] at hPass
      exact hPass
    cases hValid : Grant.validate ids found with
    | error cause =>
      rw [hValid] at hRead
      cases hRead
    | ok passed =>
      rw [hValid] at hRead
      obtain rfl : passed = granted := Except.ok.inj hRead
      exact (Grant.sublist_of_validate hValid).2

end Redis.Server

end DueDispatch
