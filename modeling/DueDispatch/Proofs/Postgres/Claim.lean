import DueDispatch.Postgres.Store
import DueDispatch.Proofs.Memory.Accounts

/-!
# DueDispatch — the transaction of a claim

A claim sends its statements one after another, and each answer decides on the next
one. `Transaction` lists the ways this can go: the server may refuse the claim at each
of three points, and only a transaction that was committed brings ids. What passes is
written down by `Server.watched`, which changes nothing else.

## Results

* `claim_watched` — what passes for a claim is one of these transactions.
* `Transaction.eq_committedClaim` — ids come out only if the commit was acknowledged.
* `sorted_claimedIds` — they are those of the committed rows, by check time and id.
* `Transaction.sql_mem` — what is sent of it to the server names its table and no other.
-/

namespace DueDispatch.Postgres

/-- A statement together with what it brought back. -/
structure Contact where
  statement : Statement
  result : Except Failure statement.Rows

/-- A claim that brought these rows and was committed. -/
def committedClaim (table : Table) (params : ClaimParams) (rows : List (AccountId × Timestamp)) :
    List Contact :=
  [⟨.begin, .ok ()⟩, ⟨.claim table params, .ok rows⟩, ⟨.commit, .ok ()⟩]

/-- The rows of the claim that was committed, if one was. -/
def committedRows : List Contact → List (AccountId × Timestamp)
  | ⟨.claim .., .ok rows⟩ :: ⟨.commit, .ok _⟩ :: _ => rows
  | _ :: rest => committedRows rest
  | [] => []

variable {σ κ : Type}

/-- The server, every statement to which is also written down. -/
def Server.watched (server : Server σ) (note : Contact → κ) : Server (σ × List κ) where
  connect p := ((server.connect p.1).1, ((server.connect p.1).2, p.2))
  ask st p :=
    let (result, s) := server.ask st p.1
    (result, (s, p.2 ++ [note ⟨st, result⟩]))

/-- What passes for a claim, and what comes of it. -/
inductive Transaction (table : Table) (params : ClaimParams) :
    Except Error (List AccountId) → List Contact → Prop
  | unbegun (f : Failure) :
      Transaction table params (.error (failed "begin claim" f)) [⟨.begin, .error f⟩]
  | refused (f : Failure) (rolledBack : Except Failure Unit) :
      Transaction table params (.error (failed "claim due accounts" f))
        [⟨.begin, .ok ()⟩, ⟨.claim table params, .error f⟩, ⟨.rollback, rolledBack⟩]
  | uncommitted (rows : List (AccountId × Timestamp)) (f : Failure)
      (rolledBack : Except Failure Unit) :
      Transaction table params (.error (failed "commit claim" f))
        [⟨.begin, .ok ()⟩, ⟨.claim table params, .ok rows⟩, ⟨.commit, .error f⟩,
          ⟨.rollback, rolledBack⟩]
  | committed (rows : List (AccountId × Timestamp)) :
      Transaction table params (.ok (claimedIds rows)) (committedClaim table params rows)

/-- A claim that is watched brings what it brings unwatched, and its contacts are those of
one transaction. -/
theorem Server.claim_watched (server : Server σ) (note : Contact → κ) (table : Table)
    (now : Timestamp) (p : Policy) (s : σ) (t : List κ) :
    ∃ seg,
      (server.watched note).claim table now p (s, t) =
        ((server.claim table now p s).1, ((server.claim table now p s).2, t ++ seg.map note)) ∧
      Transaction table (.of now p) (server.claim table now p s).1 seg := by
  -- one case per point at which the server may refuse, in the order of the statements
  rcases hBegin : server.ask .begin s with ⟨f | ⟨⟨⟩⟩, s₁⟩
  · have hOut : server.claim table now p s = (.error (failed "begin claim" f), s₁) := by
      simp [claim, hBegin]
    rw [hOut]
    refine ⟨_, ?_, .unbegun f⟩
    simp [claim, watched, hBegin]
  rcases hClaim : server.ask (.claim table (.of now p)) s₁ with ⟨f | rows, s₂⟩
  · have hOut : server.claim table now p s =
        (.error (failed "claim due accounts" f), (server.ask .rollback s₂).2) := by
      simp [claim, giveUp, hBegin, hClaim]
    rw [hOut]
    refine ⟨_, ?_, .refused f (server.ask .rollback s₂).1⟩
    simp [claim, watched, giveUp, hBegin, hClaim]
  rcases hCommit : server.ask .commit s₂ with ⟨f | ⟨⟨⟩⟩, s₃⟩
  · have hOut : server.claim table now p s =
        (.error (failed "commit claim" f), (server.ask .rollback s₃).2) := by
      simp [claim, commitClaim, giveUp, hBegin, hClaim, hCommit]
    rw [hOut]
    refine ⟨_, ?_, .uncommitted rows f (server.ask .rollback s₃).1⟩
    simp [claim, commitClaim, watched, giveUp, hBegin, hClaim, hCommit]
  · have hOut : server.claim table now p s = (.ok (claimedIds rows), s₃) := by
      simp [claim, commitClaim, hBegin, hClaim, hCommit]
    rw [hOut]
    refine ⟨_, ?_, .committed rows⟩
    simp [claim, commitClaim, watched, hBegin, hClaim, hCommit, committedClaim]

section

variable {table : Table} {params : ClaimParams} {seg : List Contact}

/-- Ids come out of a claim only if its commit was acknowledged. -/
theorem Transaction.eq_committedClaim {ids : List AccountId}
    (hClaim : Transaction table params (.ok ids) seg) :
    seg = committedClaim table params (committedRows seg) := by
  cases hClaim with
  | committed rows => rfl

theorem claimedIds_nil : claimedIds [] = [] := by rw [claimedIds, List.mergeSort_nil, List.map_nil]

/-- The ids that come out of a claim are those of the committed rows. -/
theorem Transaction.ids_eq {result : Except Error (List AccountId)}
    (hClaim : Transaction table params result seg) :
    result.toOption.getD [] = claimedIds (committedRows seg) := by
  cases hClaim with
  | committed rows => rfl
  -- nothing was committed, so there are no rows
  | unbegun f => exact claimedIds_nil.symm
  | refused f rolledBack => exact claimedIds_nil.symm
  | uncommitted rows f rolledBack => exact claimedIds_nil.symm

-- ---------------------------------------------------------------------------
-- The texts of its statements
-- ---------------------------------------------------------------------------

/-- The texts of all the statements about a table of this name, and of those about none. -/
def sqlTexts (name : String) : List String :=
  ["SELECT 1", "BEGIN", Statement.claimSql name, "COMMIT", "ROLLBACK", Statement.countSql name]

theorem sql_probe_mem (name : String) : Statement.probe.sql ∈ sqlTexts name := List.mem_cons_self

theorem sql_count_mem (table : Table) : (Statement.count table).sql ∈ sqlTexts table.name := by
  simp only [Statement.sql, sqlTexts, List.mem_cons, true_or, or_true]

/-- The statements of a claim name its table and no other. -/
theorem Transaction.sql_mem {result : Except Error (List AccountId)}
    (hClaim : Transaction table params result seg) :
    ∀ c ∈ seg, c.statement.sql ∈ sqlTexts table.name := by
  rw [← List.forall_iff_forall_mem]
  cases hClaim <;> simp [committedClaim, Statement.sql, sqlTexts]

end

-- ---------------------------------------------------------------------------
-- The order of the ids
-- ---------------------------------------------------------------------------

/-- A claimed row as a row of the table. -/
def rowAccount (row : AccountId × Timestamp) : Account := ⟨row.1, row.2, row.2⟩

/-- Rows are sorted by check time and then by id. -/
theorem pairwise_rowBefore (rows : List (AccountId × Timestamp)) :
    (rows.mergeSort rowBefore).Pairwise fun a b => rowBefore a b = true := by
  apply List.pairwise_mergeSort
  · exact fun a b c => Account.before_trans (rowAccount a) (rowAccount b) (rowAccount c)
  · exact fun a b => Account.before_total (rowAccount a) (rowAccount b)

/-- Ids are handed out by check time and then by id, each as often as it was claimed. -/
theorem sorted_claimedIds (rows : List (AccountId × Timestamp)) :
    ∃ sorted : List (AccountId × Timestamp), sorted.Perm rows ∧
      sorted.Pairwise (fun a b => rowBefore a b = true) ∧
      claimedIds rows = sorted.map Prod.fst :=
  ⟨_, List.mergeSort_perm _ _, pairwise_rowBefore rows, rfl⟩

end DueDispatch.Postgres
