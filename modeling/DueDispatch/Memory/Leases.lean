import DueDispatch.Error

/-!
# DueDispatch — leases in memory

A lease is an account id with an expiry. It is live while its expiry lies after
the clock reading, and it is never given back: it runs out.

`LeaseTable.acquire` is one pass over a request. Every id without a live lease
gets one and is granted, in request order.

## Results

* `expiry?_set_same`, `expiry?_set_of_ne` — what a write does to the table.
* `acquire_sublist` — the granted ids stand in the request, in order.
-/

namespace DueDispatch

/-- Lease expiries by account id. -/
structure LeaseTable where
  entries : List (AccountId × Timestamp) := []
deriving DecidableEq, Inhabited

namespace LeaseTable

/-- The expiry last written for an account. -/
def expiry? (t : LeaseTable) (id : AccountId) : Option Timestamp := t.entries.lookup id

/-- Writes an expiry, in place of the one that was there. -/
def set (t : LeaseTable) (id : AccountId) (expiry : Timestamp) : LeaseTable :=
  ⟨(id, expiry) :: t.entries.filter fun entry => entry.1 != id⟩

/-- Whether an account holds a lease that expires after `now`. -/
def isLive (t : LeaseTable) (now : Timestamp) (id : AccountId) : Bool :=
  match t.expiry? id with
  | some expiry => decide (now < expiry)
  | none => false

/-- Leases every id that has no live lease at `now`, until `expiry`. Returns
the granted ids in request order. -/
def acquire (now expiry : Timestamp) :
    List AccountId → LeaseTable → List AccountId × LeaseTable
  | [], t => ([], t)
  | id :: rest, t =>
    if t.isLive now id then acquire now expiry rest t
    else
      let (granted, t) := acquire now expiry rest (t.set id expiry)
      (id :: granted, t)

@[simp] theorem expiry?_set_same (t : LeaseTable) (id : AccountId) (expiry : Timestamp) :
    (t.set id expiry).expiry? id = some expiry := by
  simp [set, expiry?]

theorem lookup_filter_ne {id other : AccountId} (hNe : other ≠ id)
    (l : List (AccountId × Timestamp)) :
    (l.filter fun entry => entry.1 != id).lookup other = l.lookup other := by
  induction l with
  | nil => rfl
  | cons entry rest ih =>
    obtain ⟨key, expiry⟩ := entry
    by_cases hKey : key = id
    · have hOther : (other == key) = false := by simpa [hKey] using hNe
      rw [List.filter_cons_of_neg (by simpa using hKey), List.lookup_cons, hOther]
      exact ih
    · rw [List.filter_cons_of_pos (by simpa using hKey), List.lookup_cons, List.lookup_cons, ih]

theorem expiry?_set_of_ne (t : LeaseTable) {id other : AccountId} (expiry : Timestamp)
    (hNe : other ≠ id) : (t.set id expiry).expiry? other = t.expiry? other := by
  have hKey : (other == id) = false := by simpa using hNe
  simp only [set, expiry?, List.lookup_cons, hKey]
  exact lookup_filter_ne hNe t.entries

/-- The granted ids stand in the request, in order. -/
theorem acquire_sublist (now expiry : Timestamp) (ids : List AccountId) (t : LeaseTable) :
    (acquire now expiry ids t).1.Sublist ids := by
  induction ids generalizing t with
  | nil => simp [acquire]
  | cons id rest ih =>
    unfold acquire
    split
    · exact (ih t).cons id
    · exact (ih _).cons_cons id

end LeaseTable

/-- A lease table that can be switched into failing. -/
structure LeaseStore where
  table : LeaseTable := {}
  failing : Bool := false
deriving DecidableEq, Inhabited

/-- A lease request at the clock reading `now`. -/
def LeaseStore.acquire (s : LeaseStore) (now : Timestamp) (ids : List AccountId)
    (ttl : Duration) : Except Error (List AccountId) × LeaseStore :=
  if s.failing then (.error (.cache "lease backend unavailable"), s)
  else
    let (granted, table) := LeaseTable.acquire now (now + ttl) ids s.table
    (.ok granted, { s with table })

end DueDispatch
