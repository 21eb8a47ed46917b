import DueDispatch.Error
import DueDispatch.Policy

/-!
# DueDispatch — an accounts table in memory

`AccountTable` holds rows with distinct ids. `AccountTable.claim` takes the due
rows, the longest unchecked first, up to the cap, and moves their claim time
forward to `now`.

`AccountStore` is a table that can be switched off: while it fails, a claim or
a count reports an error and no row changes.

## Results

* `rows_claim` — a claim changes nothing but the claim time of the rows it
  returns.
* `ids_claim` — no row is added or removed by it.
-/

namespace DueDispatch

/-- Rows with distinct ids. -/
structure AccountTable where
  rows : List Account := []
  nodup_ids : (rows.map Account.id).Nodup := by simp

namespace AccountTable

instance : Inhabited AccountTable := ⟨{}⟩

/-- The ids in the table. -/
def ids (t : AccountTable) : List AccountId := t.rows.map Account.id

/-- The row of an account. -/
def row? (t : AccountTable) (id : AccountId) : Option Account :=
  t.rows.find? fun a => a.id == id

/-- Changes every row by a function that keeps the id. -/
def mapRows (t : AccountTable) (f : Account → Account) (hId : ∀ a, (f a).id = a.id) :
    AccountTable where
  rows := t.rows.map f
  nodup_ids := by
    have hSame : Account.id ∘ f = Account.id := funext hId
    rw [List.map_map, hSame]
    exact t.nodup_ids

/-- Puts a row in, in place of the one with its id if there is one. -/
def insert (t : AccountTable) (a : Account) : AccountTable :=
  if h : a.id ∈ t.ids then
    t.mapRows (fun b => if b.id = a.id then a else b) fun b => by split <;> simp_all
  else
    { rows := t.rows ++ [a]
      nodup_ids := by
        rw [List.map_append, List.nodup_append]
        refine ⟨t.nodup_ids, by simp, ?_⟩
        intro x hx y hy hxy
        simp only [List.map_cons, List.map_nil, List.mem_singleton] at hy
        exact h (hy ▸ hxy ▸ hx) }

/-- A table of these rows; of two with the same id the later one counts. -/
def ofList (rows : List Account) : AccountTable := rows.foldl insert {}

/-- Records that the check of an account was completed. -/
def markChecked (t : AccountTable) (id : AccountId) (time : Timestamp) : AccountTable :=
  t.mapRows (fun a => if a.id = id then { a with checkedAt := time } else a) fun a => by
    split <;> rfl

/-- All due rows, the longest unchecked first. -/
def due (t : AccountTable) (now : Timestamp) (p : Policy) : List Account :=
  (t.rows.filter (p.isDue now)).mergeSort Account.before

/-- The rows that a claim takes. -/
def claimable (t : AccountTable) (now : Timestamp) (p : Policy) : List Account :=
  (t.due now p).take p.cap

/-- A row after a claim of `ids` at `now`. -/
def enqueued (now : Timestamp) (ids : List AccountId) (a : Account) : Account :=
  if a.id ∈ ids then { a with enqueuedAt := a.enqueuedAt.max now } else a

theorem id_enqueued (now : Timestamp) (ids : List AccountId) (a : Account) :
    (enqueued now ids a).id = a.id := by
  unfold enqueued; split <;> rfl

/-- Claims the due rows: their ids, and the table with their claim time moved
forward to `now`, never backward. -/
def claim (t : AccountTable) (now : Timestamp) (p : Policy) : List AccountId × AccountTable :=
  let ids := (t.claimable now p).map Account.id
  (ids, t.mapRows (enqueued now ids) (id_enqueued now ids))

theorem rows_claim (t : AccountTable) (now : Timestamp) (p : Policy) :
    (t.claim now p).2.rows = t.rows.map (enqueued now (t.claim now p).1) := rfl

theorem ids_claim (t : AccountTable) (now : Timestamp) (p : Policy) :
    (t.claim now p).2.ids = t.ids := by
  simp only [ids, rows_claim, List.map_map]
  exact List.map_congr_left fun a _ => id_enqueued now _ a

end AccountTable

/-- A table that can be switched into failing. -/
structure AccountStore where
  table : AccountTable := {}
  failing : Bool := false

namespace AccountStore

instance : Inhabited AccountStore := ⟨{}⟩

/-- A claim; a failing store changes no row. -/
def claim (s : AccountStore) (now : Timestamp) (p : Policy) :
    Except Error (List AccountId) × AccountStore :=
  if s.failing then (.error (.storage "claim transaction aborted"), s)
  else
    let (ids, table) := s.table.claim now p
    (.ok ids, { s with table })

/-- The number of accounts. -/
def count (s : AccountStore) : Except Error Nat :=
  if s.failing then .error (.storage "count query failed") else .ok s.table.rows.length

end AccountStore

end DueDispatch
