import DueDispatch.Proofs.Redis.Reply
import DueDispatch.Proofs.Redis.Script

/-!
# DueDispatch — the keys of leases

A key is a keyspace, a colon and the text of an id. A keyspace is any text, with as many
colons and digits as it likes, so a key may have been put together in many ways as far as
its colons go. But the text of an id has none. So the last colon of a key is the one that
was put there, and what stands on each side of it is known from the key alone.

## Results

* `eq_of_split_last` — a list is cut in one way at the last place of an element.
* `colon_notMem_write` — there is no colon in the text of an id.
* `leaseKey_eq_iff` — two leases have one key only if they are of one account in one
  keyspace.
-/

namespace DueDispatch

/-- A list is cut in one way at the last place of an element. -/
theorem eq_of_split_last {α : Type} {x : α} {before before' after after' : List α}
    (hLast : x ∉ after) (hLast' : x ∉ after')
    (hEq : before ++ x :: after = before' ++ x :: after') : before = before' ∧ after = after' := by
  -- one beginning goes on where the other ends: at once, or `x` is met again behind it
  rcases List.append_eq_append_iff.mp hEq with ⟨more, hBefore, hRest⟩ | ⟨more, hBefore, hRest⟩
  · cases more with
    | nil => exact ⟨by rw [hBefore, List.append_nil], (List.cons.inj hRest).2⟩
    | cons y more =>
      have hAfter : after = more ++ x :: after' := (List.cons.inj hRest).2
      exact absurd (hAfter ▸ List.mem_append_right more (List.mem_cons_self ..)) hLast
  · cases more with
    | nil => exact ⟨by rw [hBefore, List.append_nil], (List.cons.inj hRest).2.symm⟩
    | cons y more =>
      have hAfter : after' = more ++ x :: after := (List.cons.inj hRest).2
      exact absurd (hAfter ▸ List.mem_append_right more (List.mem_cons_self ..)) hLast'

/-- The text of an integer consists of digits and of at most one sign. -/
theorem Decimal.SignedNumeral.isDigit_or_sign {cs : List Char} {i : Int}
    (hNumeral : SignedNumeral cs i) {c : Char} (hMem : c ∈ cs) :
    c.isDigit = true ∨ c = '+' ∨ c = '-' := by
  cases hNumeral with
  | bare hDigits => exact Or.inl (hDigits.isDigit c hMem)
  | plus hDigits =>
    rcases List.mem_cons.mp hMem with hSign | hMem
    · exact Or.inr (Or.inl hSign)
    · exact Or.inl (hDigits.isDigit c hMem)
  | minus hDigits =>
    rcases List.mem_cons.mp hMem with hSign | hMem
    · exact Or.inr (Or.inr hSign)
    · exact Or.inl (hDigits.isDigit c hMem)

/-- There is no colon in the text of an id. -/
theorem AccountId.colon_notMem_write (id : AccountId) : ':' ∉ id.write.toList := by
  intro hMem
  have hNumeral := read?_eq_some_iff.mp (read?_write id)
  rcases hNumeral.isDigit_or_sign hMem with hDigit | hPlus | hMinus
  · exact absurd hDigit (by decide)
  · exact absurd hPlus (by decide)
  · exact absurd hMinus (by decide)

/-- A key is its keyspace, a colon and the decimal form of the id. -/
theorem toList_leaseKey (keyspace : String) (id : AccountId) :
    (leaseKey keyspace id).toList = keyspace.toList ++ ':' :: id.write.toList := by
  rw [leaseKey, String.toList_append, String.toList_append, List.append_assoc]
  rfl

/-- **Two leases have one key only if they are of one account in one keyspace**, whatever
the keyspaces are. -/
theorem leaseKey_eq_iff (keyspace keyspace' : String) (id id' : AccountId) :
    leaseKey keyspace id = leaseKey keyspace' id' ↔ keyspace = keyspace' ∧ id = id' := by
  constructor
  · intro hKey
    have hChars := congrArg String.toList hKey
    rw [toList_leaseKey, toList_leaseKey] at hChars
    obtain ⟨hKeyspace, hText⟩ :=
      eq_of_split_last id.colon_notMem_write id'.colon_notMem_write hChars
    exact ⟨String.toList_inj.mp hKeyspace,
      AccountId.write_injective (String.toList_inj.mp hText)⟩
  · rintro ⟨rfl, rfl⟩
    rfl

/-- A keyspace may itself look like a key. -/
example : leaseKey (leaseKey "locks" (-1)) 23 = "locks:-1:23" := by cbv

end DueDispatch
