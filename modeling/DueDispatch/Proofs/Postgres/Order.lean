import DueDispatch.Proofs.Memory.Claim
import DueDispatch.Proofs.Postgres.Claim

/-!
# DueDispatch — claimed rows in any order

The statement of a claim brings back the rows that it updated, in no order that could be
relied on. They are sorted before their ids are handed out. `RowLe` is the order: the bits
of the check time first, then the id. Every two rows stand in it, one way or the other, and
both ways only if they are equal. So there is one way to sort given rows, and it does not
show which one came first, even where an id, a zero or a NaN comes more than once.

A table in memory sorts whole rows of its own, before it takes the first of them. As far as
the ids go that is the same order, so the same rows give the same ids.

## Results

* `claimedIds_eq_of_sorted`, `claimedIds_perm` — the ids are those of the sorted rows,
  whatever order these came in.
* `AccountTable.Claims.claimedIds_eq` — the rows that a table in memory claims give the ids
  that it returns.
* `Server.claim_in_any_order` — all this of a claim, which returns no id if one of its
  statements fails.
-/

namespace DueDispatch

namespace Postgres

/-- `a` may be handed out before `b`: it is longer unchecked, or its check time has the same
bits and its id is not greater. -/
def RowLe (a b : AccountId × Timestamp) : Prop :=
  a.2.rank < b.2.rank ∨ a.2.rank = b.2.rank ∧ a.1 ≤ b.1

variable {a b : AccountId × Timestamp} {rows rows' : List (AccountId × Timestamp)}

/-- The check by which rows are sorted decides their order. -/
theorem rowBefore_iff : rowBefore a b = true ↔ RowLe a b := by simp [rowBefore, RowLe]

/-- Rows that may stand in either order are the same row. -/
theorem RowLe.antisymm (hAB : RowLe a b) (hBA : RowLe b a) : a = b := by
  rcases hAB with hRank | ⟨hRank, hId⟩
  · rcases hBA with hBack | ⟨hBack, -⟩ <;> omega
  · rcases hBA with hBack | ⟨-, hBack⟩
    · omega
    · exact Prod.ext (Int64.le_antisymm hId hBack) (Timestamp.rank_inj hRank)

/-- **The ids are those of the sorted rows**, each as often as it came. -/
theorem claimedIds_eq_of_sorted {sorted : List (AccountId × Timestamp)} (hPerm : sorted.Perm rows)
    (hSorted : sorted.Pairwise RowLe) : claimedIds rows = sorted.map Prod.fst := by
  obtain ⟨sorted', hPerm', hSorted', hIds⟩ := sorted_claimedIds rows
  have hSame : sorted' = sorted :=
    List.Perm.eq_of_pairwise (fun _ _ _ _ => RowLe.antisymm) (hSorted'.imp rowBefore_iff.mp)
      hSorted (hPerm'.trans hPerm.symm)
  rw [hIds, hSame]

/-- **The order of the rows does not matter.** -/
theorem claimedIds_perm (hPerm : rows.Perm rows') : claimedIds rows = claimedIds rows' := by
  obtain ⟨sorted, hSorted, hPairwise, hIds⟩ := sorted_claimedIds rows'
  rw [hIds]
  exact claimedIds_eq_of_sorted (hSorted.trans hPerm.symm) (hPairwise.imp rowBefore_iff.mp)

end Postgres

-- ---------------------------------------------------------------------------
-- The rows that a table in memory claims
-- ---------------------------------------------------------------------------

namespace AccountTable

variable {t : AccountTable} {now : Timestamp} {p : Policy}
  {rows : List (AccountId × Timestamp)}

/-- These are, in some order, the ids that a claim returns of the table, each with the check
time of its row. -/
structure Claims (t : AccountTable) (now : Timestamp) (p : Policy)
    (rows : List (AccountId × Timestamp)) : Prop where
  ids : (rows.map Prod.fst).Perm (t.claim now p).1
  checked : ∀ row ∈ rows, ∃ a, t.row? row.1 = some a ∧ a.checkedAt = row.2

/-- An id with the check time that the table has of it. -/
def withCheckTime (t : AccountTable) (id : AccountId) : AccountId × Timestamp :=
  (id, (t.row? id).elim ⟨0⟩ Account.checkedAt)

theorem withCheckTime_of_row? {id : AccountId} {a : Account} (hRow : t.row? id = some a) :
    t.withCheckTime id = (id, a.checkedAt) := by rw [withCheckTime, hRow, Option.elim_some]

/-- The claimed ids with their check times are the claimed rows. -/
theorem map_withCheckTime_claimed (t : AccountTable) (now : Timestamp) (p : Policy) :
    (t.claim now p).1.map t.withCheckTime =
      (t.claimable now p).map fun a => (a.id, a.checkedAt) := by
  show ((t.claimable now p).map Account.id).map t.withCheckTime = _
  rw [List.map_map]
  exact List.map_congr_left fun a hMem => withCheckTime_of_row? (t.row?_of_mem_claimable now p hMem)

/-- The claimed rows are the ones that the table takes. -/
theorem Claims.perm (hClaims : t.Claims now p rows) :
    ((t.claimable now p).map fun a => (a.id, a.checkedAt)).Perm rows := by
  have hRows : (rows.map Prod.fst).map t.withCheckTime = rows := by
    rw [List.map_map]
    refine (List.map_congr_left fun row hMem => ?_).trans (List.map_id rows)
    obtain ⟨a, hRow, hChecked⟩ := hClaims.checked row hMem
    exact (withCheckTime_of_row? hRow).trans (Prod.ext rfl hChecked)
  rw [← map_withCheckTime_claimed, ← hRows]
  exact (hClaims.ids.map _).symm

/-- **The rows that a table in memory claims give the ids that it returns.** -/
theorem Claims.claimedIds_eq (hClaims : t.Claims now p rows) :
    Postgres.claimedIds rows = (t.claim now p).1 := by
  have hTaken : (t.claimable now p).Pairwise Account.Precedes :=
    (t.pairwise_due now p).sublist (List.take_sublist ..)
  have hSorted : ((t.claimable now p).map fun a => (a.id, a.checkedAt)).Pairwise Postgres.RowLe :=
    List.pairwise_map.mpr (hTaken.imp fun hPrecedes => Account.before_iff.mp hPrecedes.before)
  rw [Postgres.claimedIds_eq_of_sorted hClaims.perm hSorted, List.map_map]
  rfl

end AccountTable

-- ---------------------------------------------------------------------------
-- The claim
-- ---------------------------------------------------------------------------

namespace Postgres.Server

variable {σ : Type} {server : Server σ} {table : Table} {now : Timestamp} {p : Policy} {s : σ}
  {rows : List (AccountId × Timestamp)}

/-- In this state a transaction is begun, the statement of the claim brings these rows, and
the commit is acknowledged. -/
def Brings (server : Server σ) (table : Table) (params : ClaimParams) (s : σ)
    (rows : List (AccountId × Timestamp)) : Prop :=
  ∃ s₁ s₂ s₃, server.ask .begin s = (.ok (), s₁) ∧
    server.ask (.claim table params) s₁ = (.ok rows, s₂) ∧ server.ask .commit s₂ = (.ok (), s₃)

/-- In this state a statement of the claim fails, while this is being done. -/
inductive Fails (server : Server σ) (table : Table) (params : ClaimParams) (s : σ) :
    String → Failure → Prop
  | begin {f : Failure} {s₁ : σ} (hBegin : server.ask .begin s = (.error f, s₁)) :
      Fails server table params s "begin claim" f
  | claim {f : Failure} {s₁ s₂ : σ} (hBegin : server.ask .begin s = (.ok (), s₁))
      (hClaim : server.ask (.claim table params) s₁ = (.error f, s₂)) :
      Fails server table params s "claim due accounts" f
  | commit {rows : List (AccountId × Timestamp)} {f : Failure} {s₁ s₂ s₃ : σ}
      (hBegin : server.ask .begin s = (.ok (), s₁))
      (hClaim : server.ask (.claim table params) s₁ = (.ok rows, s₂))
      (hCommit : server.ask .commit s₂ = (.error f, s₃)) :
      Fails server table params s "commit claim" f

/-- The statements of a claim bring rows, or one of them fails. -/
theorem brings_or_fails (server : Server σ) (table : Table) (params : ClaimParams) (s : σ) :
    (∃ rows, server.Brings table params s rows) ∨
      ∃ activity f, server.Fails table params s activity f := by
  rcases hBegin : server.ask .begin s with ⟨f | ⟨⟨⟩⟩, s₁⟩
  · exact Or.inr ⟨_, _, .begin hBegin⟩
  rcases hClaim : server.ask (.claim table params) s₁ with ⟨f | rows, s₂⟩
  · exact Or.inr ⟨_, _, .claim hBegin hClaim⟩
  rcases hCommit : server.ask .commit s₂ with ⟨f | ⟨⟨⟩⟩, s₃⟩
  · exact Or.inr ⟨_, _, .commit hBegin hClaim hCommit⟩
  · exact Or.inl ⟨rows, s₁, s₂, s₃, hBegin, hClaim, hCommit⟩

/-- A transaction that brings rows hands out their ids. -/
theorem Brings.claim_eq (hBrings : server.Brings table (.of now p) s rows) :
    (server.claim table now p s).1 = .ok (claimedIds rows) := by
  obtain ⟨s₁, s₂, s₃, hBegin, hClaim, hCommit⟩ := hBrings
  simp only [claim, commitClaim, hBegin, hClaim, hCommit]

/-- A transaction that fails hands out none, but says what failed. -/
theorem Fails.claim_eq {activity : String} {f : Failure}
    (hFails : server.Fails table (.of now p) s activity f) :
    (server.claim table now p s).1 = .error (failed activity f) := by
  cases hFails with
  | begin hBegin => simp only [Server.claim, hBegin]
  | claim hBegin hClaim => simp only [Server.claim, giveUp, hBegin, hClaim]
  | commit hBegin hClaim hCommit =>
    simp only [Server.claim, commitClaim, giveUp, hBegin, hClaim, hCommit]

/-- **What a claim returns does not depend on the order of the rows**, and is what a table in
memory returns.

* The rows of a claim that was committed give the ids of the same rows sorted, each as often
  as it came.
* Another claim, of whatever server, returns the same ids if its rows are the same ones in
  another order.
* If they are the rows that a claim takes of a table in memory, this claim returns the same
  ids.
* If a statement of the claim fails, no id is returned. -/
theorem claim_in_any_order (server : Server σ) (table : Table) (now : Timestamp) (p : Policy)
    (s : σ) :
    (∀ rows, server.Brings table (.of now p) s rows →
      (∃ sorted : List (AccountId × Timestamp), sorted.Perm rows ∧ sorted.Pairwise RowLe ∧
        (server.claim table now p s).1 = .ok (sorted.map Prod.fst)) ∧
      (∀ (τ : Type) (other : Server τ) (table' : Table) (now' : Timestamp) (p' : Policy) (u : τ)
        (rows' : List (AccountId × Timestamp)), rows'.Perm rows →
          other.Brings table' (.of now' p') u rows' →
            (other.claim table' now' p' u).1 = (server.claim table now p s).1) ∧
      ∀ t : AccountTable, t.Claims now p rows →
        (AccountStore.claim { table := t } now p).1 = (server.claim table now p s).1) ∧
    (∀ activity f, server.Fails table (.of now p) s activity f →
      (server.claim table now p s).1 = .error (failed activity f)) ∧
    ((∃ rows, server.Brings table (.of now p) s rows) ∨
      ∃ activity f, server.Fails table (.of now p) s activity f) := by
  refine ⟨fun rows hBrings => ?_, fun _ _ hFails => hFails.claim_eq, brings_or_fails ..⟩
  rw [hBrings.claim_eq]
  refine ⟨?_, fun τ other table' now' p' u rows' hPerm hOther => ?_, fun t hClaims => ?_⟩
  · obtain ⟨sorted, hSorted, hPairwise, hIds⟩ := sorted_claimedIds rows
    exact ⟨sorted, hSorted, hPairwise.imp rowBefore_iff.mp, congrArg _ hIds⟩
  · rw [hOther.claim_eq, claimedIds_perm hPerm]
  · rw [hClaims.claimedIds_eq]
    rfl

-- ---------------------------------------------------------------------------
-- Zeros, a NaN and an id that comes twice
-- ---------------------------------------------------------------------------

/-- A server on which every claim brings these rows. -/
def bringing (rows : List (AccountId × Timestamp)) : Server Unit where
  connect s := (.ok (), s)
  ask
    | .claim .., s => (.ok rows, s)
    | .count _, s => (.ok [], s)
    | .probe, s => (.ok (), s)
    | .begin, s => (.ok (), s)
    | .commit, s => (.ok (), s)
    | .rollback, s => (.ok (), s)

/-- Such a server brings these rows. -/
theorem brings_bringing (rows : List (AccountId × Timestamp)) (table : Table)
    (params : ClaimParams) : (bringing rows).Brings table params () rows :=
  ⟨(), (), (), rfl, rfl, rfl⟩

/-- The check times of three accounts, in the order of `RowLe`: both zeros and a NaN. -/
def mixedRows : List (AccountId × Timestamp) :=
  [(3, ⟨0x8000000000000000⟩), (1, ⟨0⟩), (2, ⟨0x7ff8000000000000⟩)]

/-- A table of these accounts, none of which was ever claimed. -/
def mixedTable : AccountTable where
  rows := mixedRows.map fun row => ⟨row.1, row.2, ⟨0⟩⟩
  nodup_ids := by decide

def mixedPolicy : Policy := { ready := .ofSecs 5, expired := .ofSecs 60 }

def mixedNow : Timestamp := ⟨0x41d954fc40000000⟩

/-- What the table in memory hands out. -/
theorem claim_mixedTable : (mixedTable.claim mixedNow mixedPolicy).1 = [3, 1, 2] := by
  have hDue : mixedTable.rows.filter (mixedPolicy.isDue mixedNow) = mixedTable.rows := by
    decide +kernel
  have hSorted : mixedTable.rows.Pairwise fun a b => a.before b = true := by decide +kernel
  show (mixedTable.claimable _ _).map Account.id = _
  rw [mixedTable.claimable_of_sorted _ _ hDue hSorted]
  rfl

/-- The same rows, in another order, are what a server may bring. -/
theorem claims_mixedTable : mixedTable.Claims mixedNow mixedPolicy mixedRows.reverse where
  ids := by
    rw [claim_mixedTable]
    decide
  checked := by
    intro row hMem
    refine ⟨⟨row.1, row.2, ⟨0⟩⟩, (mixedTable.row?_eq_some_iff).mpr ⟨?_, rfl⟩, rfl⟩
    exact List.mem_map_of_mem (List.mem_reverse.mp hMem)

/-- The negative zero comes first and the NaN last, whatever order they are brought in, and
an id that is brought twice is returned twice. Without a transaction there are no ids. -/
theorem claim_in_any_order_mixed :
    let table : Table := ⟨"accounts", by decide⟩
    let twice := (1, ⟨0⟩) :: mixedRows
    (bringing twice).Brings table (.of mixedNow mixedPolicy) () twice ∧
      ((bringing twice).claim table mixedNow mixedPolicy ()).1 = .ok [3, 1, 1, 2] ∧
      ((bringing twice.reverse).claim table mixedNow mixedPolicy ()).1 = .ok [3, 1, 1, 2] ∧
      mixedTable.Claims mixedNow mixedPolicy mixedRows.reverse ∧
      ((bringing mixedRows.reverse).claim table mixedNow mixedPolicy ()).1 = .ok [3, 1, 2] ∧
      ((unreachable .timedOut).claim table mixedNow mixedPolicy ()).1 =
        .error (failed "begin claim" .timedOut) := by
  intro table twice
  have hBrings := brings_bringing twice table (.of mixedNow mixedPolicy)
  obtain ⟨hRows, -⟩ := claim_in_any_order (bringing twice) table mixedNow mixedPolicy ()
  obtain ⟨⟨sorted, hPerm, hPairwise, hIds⟩, hOther, -⟩ := hRows twice hBrings
  have hSorted : sorted = (3, ⟨0x8000000000000000⟩) :: (1, ⟨0⟩) :: mixedRows.tail :=
    List.Perm.eq_of_pairwise (fun _ _ _ _ => RowLe.antisymm) hPairwise
      (by unfold RowLe; decide +kernel) (hPerm.trans (by decide +kernel))
  have hTwice : ((bringing twice).claim table mixedNow mixedPolicy ()).1 = .ok [3, 1, 1, 2] := by
    rw [hIds, hSorted]
    rfl
  have hReverse := hOther Unit (bringing twice.reverse) table mixedNow mixedPolicy ()
    twice.reverse (List.reverse_perm _) (brings_bringing ..)
  obtain ⟨hTable, -⟩ :=
    claim_in_any_order (bringing mixedRows.reverse) table mixedNow mixedPolicy ()
  obtain ⟨-, -, hMemory⟩ := hTable _ (brings_bringing ..)
  obtain ⟨-, hFailed, -⟩ :=
    claim_in_any_order (unreachable .timedOut) table mixedNow mixedPolicy ()
  refine ⟨hBrings, hTwice, hReverse.trans hTwice, claims_mixedTable, ?_, hFailed _ _ (.begin rfl)⟩
  rw [← hMemory _ claims_mixedTable, ← claim_mixedTable]
  rfl

end Postgres.Server

end DueDispatch
