import DueDispatch.Proofs.Memory.Accounts

/-!
# DueDispatch — the oldest due accounts, and nothing else

A claim sorts the due rows and takes the first ones, up to the cap. The order is strict
because the rows of a table have distinct ids. So it is settled which ones these are: of the
due rows that are left out none stands before one that was taken, whatever bits its check
time has and however many rows share it.

What a claim writes is looked at through the row of an account, since that is all that the
table shows of itself besides its ids.

## Results

* `claim_takes` — what a claim returns and what it writes.
* `claim_oldest` — the same of a store, which claims nothing while it fails.
-/

namespace DueDispatch

namespace AccountTable

/-- A claim that returned these ids and left the table `t'` took the first due rows of `t`, as
many as the cap allows, and wrote nothing but their claim time. -/
structure Takes (t : AccountTable) (now : Timestamp) (p : Policy) (ids : List AccountId)
    (t' : AccountTable) : Prop where
  nodup : ids.Nodup
  length : ids.length = min p.cap (t.rows.countP (p.isDue now))
  due : ∀ id ∈ ids, ∃ a, t.row? id = some a ∧ p.isDue now a = true
  ascending : ids.Pairwise fun id id' =>
    ∀ a b, t.row? id = some a → t.row? id' = some b → a.Precedes b
  oldest : ∀ b ∈ t.rows, p.isDue now b = true → b.id ∉ ids →
    ∀ id ∈ ids, ∀ a, t.row? id = some a → ¬b.Precedes a
  claimed : ∀ id ∈ ids,
    t'.row? id = (t.row? id).map fun a => { a with enqueuedAt := a.enqueuedAt.max now }
  others : ∀ id, id ∉ ids → t'.row? id = t.row? id
  sameIds : t'.ids = t.ids

variable (t : AccountTable) (now : Timestamp) (p : Policy)

/-- A row that can be claimed is the row of its id. -/
theorem row?_of_mem_claimable {a : Account} (hMem : a ∈ t.claimable now p) :
    t.row? a.id = some a :=
  t.row?_eq_some_iff.mpr ⟨t.claimable_subset now p hMem, rfl⟩

/-- A row whose id is claimed is the one that was taken. -/
theorem mem_claimable_of_row? {id : AccountId} {a : Account}
    (hMem : id ∈ (t.claim now p).1) (hRow : t.row? id = some a) : a ∈ t.claimable now p := by
  obtain ⟨hRows, rfl⟩ := t.row?_eq_some_iff.mp hRow
  exact (t.id_mem_claimed_iff now p hRows).mp hMem

/-- A claim takes as many accounts as are due, up to the cap. -/
theorem length_claimed :
    (t.claim now p).1.length = min p.cap (t.rows.countP (p.isDue now)) := by
  show ((t.claimable now p).map Account.id).length = _
  rw [List.length_map, claimable, List.length_take, (t.due_perm now p).length_eq,
    List.countP_eq_length_filter]

/-- A due row that is not taken stands behind all that are. -/
theorem precedes_of_left_out {a b : Account} (hTaken : a ∈ t.claimable now p)
    (hRow : b ∈ t.rows) (hDue : p.isDue now b = true) (hLeft : b ∉ t.claimable now p) :
    a.Precedes b := by
  have hAll : b ∈ t.due now p := (t.due_perm now p).mem_iff.mpr (List.mem_filter.mpr ⟨hRow, hDue⟩)
  rw [← List.take_append_drop p.cap (t.due now p)] at hAll
  have hRest : b ∈ (t.due now p).drop p.cap := (List.mem_append.mp hAll).resolve_left hLeft
  have hSorted := t.pairwise_due now p
  rw [← List.take_append_drop p.cap (t.due now p)] at hSorted
  exact (List.pairwise_append.mp hSorted).2.2 a hTaken b hRest

/-- **What a claim returns and what it writes.** -/
theorem claim_takes : t.Takes now p (t.claim now p).1 (t.claim now p).2 where
  nodup := t.nodup_claimed now p
  length := t.length_claimed now p
  due id hMem := t.due_of_mem_claim now p hMem
  ascending := by
    show ((t.claimable now p).map Account.id).Pairwise _
    -- what is taken is a beginning of the due rows, which are sorted
    have hSorted : (t.claimable now p).Pairwise Account.Precedes :=
      (t.pairwise_due now p).sublist (List.take_sublist ..)
    refine List.pairwise_map.mpr (hSorted.imp_of_mem ?_)
    intro a b hA hB hPrecedes a' b' hRowA hRowB
    obtain rfl := Option.some.inj ((t.row?_of_mem_claimable now p hA).symm.trans hRowA)
    obtain rfl := Option.some.inj ((t.row?_of_mem_claimable now p hB).symm.trans hRowB)
    exact hPrecedes
  -- a due row that is left out stands behind the cut
  oldest b hRow hDue hLeft id hMem a hRowA := by
    have hTaken := t.mem_claimable_of_row? now p hMem hRowA
    have hNot : b ∉ t.claimable now p := fun hClaimed =>
      hLeft ((t.id_mem_claimed_iff now p hRow).mpr hClaimed)
    exact (t.precedes_of_left_out now p hTaken hRow hDue hNot).asymm
  claimed id hMem := by
    rw [t.row?_claim now p id]
    cases hRow : t.row? id with
    | none => rfl
    | some a =>
      have hId : a.id ∈ (t.claim now p).1 := (t.row?_eq_some_iff.mp hRow).2 ▸ hMem
      rw [Option.map_some, enqueued, if_pos hId, Option.map_some]
  others id hMem := by
    rw [t.row?_claim now p id]
    cases hRow : t.row? id with
    | none => rfl
    | some a =>
      have hId : a.id ∉ (t.claim now p).1 := (t.row?_eq_some_iff.mp hRow).2 ▸ hMem
      rw [Option.map_some, enqueued, if_neg hId]
  sameIds := t.ids_claim now p

end AccountTable

namespace AccountStore

/-- **A claim takes the oldest due accounts, and nothing else.** A store that fails reports
an error and changes no row. One that works returns the first due ids in strict order, as many
as the cap allows, and moves their claim time forward; no other row changes. -/
theorem claim_oldest (s : AccountStore) (now : Timestamp) (p : Policy) :
    if s.failing then s.claim now p = (.error (.storage "claim transaction aborted"), s)
    else ∃ ids t', s.claim now p = (.ok ids, { s with table := t' }) ∧
      s.table.Takes now p ids t' := by
  cases hFailing : s.failing with
  | true => simp [claim, hFailing]
  | false =>
    refine ⟨_, _, ?_, s.table.claim_takes now p⟩
    simp [claim, hFailing]

end AccountStore

end DueDispatch
