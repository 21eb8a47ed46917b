import DueDispatch.Memory.Accounts
import Mathlib.Data.List.Nodup

/-!
# DueDispatch — which accounts a claim takes

`AccountTable.due` sorts the due rows by `Account.before`, which is total, so it
leaves open in which order two equal rows stand. Rows of one table have distinct
ids, so there are no equal rows: their order is the strict `Account.Precedes`.

## Results

* `due_perm`, `pairwise_due` — the due rows, each once, in strict order.
* `nodup_claimed` — no id is claimed twice.
* `id_mem_claimed_iff` — a row is claimed exactly if its id is.
* `row?_claim`, `row?_markChecked`, `row?_insert_of_ne` — what a write does to the row
  of an account.
* `due_of_mem_claim` — an account that a claim returns has a due row.
-/

namespace DueDispatch

namespace Account

/-- `a` is claimed in preference to `b`: it is longer unchecked, or it was checked
at the same reading and has the smaller id. -/
def Precedes (a b : Account) : Prop :=
  a.checkedAt.rank < b.checkedAt.rank ∨ a.checkedAt.rank = b.checkedAt.rank ∧ a.id < b.id

/-- The order of accounts is that of check times, and of ids where these are equal. -/
theorem before_iff {a b : Account} :
    a.before b = true ↔
      a.checkedAt.rank < b.checkedAt.rank ∨ a.checkedAt.rank = b.checkedAt.rank ∧ a.id ≤ b.id := by
  simp [before]

/-- The order of accounts is transitive. -/
theorem before_trans (a b c : Account) (hab : a.before b = true) (hbc : b.before c = true) :
    a.before c = true := by
  rw [before_iff] at hab hbc ⊢
  -- the check times decide, unless both are equal
  rcases hab with hab | ⟨hab, hIdAB⟩ <;> rcases hbc with hbc | ⟨hbc, hIdBC⟩
  · exact Or.inl (Int.lt_trans hab hbc)
  · exact Or.inl (hbc ▸ hab)
  · exact Or.inl (hab ▸ hbc)
  · exact Or.inr ⟨hab.trans hbc, Int64.le_trans hIdAB hIdBC⟩

/-- Of two accounts one comes before the other. -/
theorem before_total (a b : Account) : (a.before b || b.before a) = true := by
  rw [Bool.or_eq_true, before_iff, before_iff]
  rcases Int.lt_trichotomy a.checkedAt.rank b.checkedAt.rank with hLt | hEq | hGt
  · exact Or.inl (Or.inl hLt)
  · rcases Int64.le_total a.id b.id with hLe | hLe
    · exact Or.inl (Or.inr ⟨hEq, hLe⟩)
    · exact Or.inr (Or.inr ⟨hEq.symm, hLe⟩)
  · exact Or.inr (Or.inl hGt)

/-- Between rows with distinct ids the order is strict. -/
theorem precedes_of_before {a b : Account} (hBefore : a.before b = true) (hNe : a.id ≠ b.id) :
    a.Precedes b := by
  rcases before_iff.mp hBefore with hRank | ⟨hRank, hId⟩
  · exact Or.inl hRank
  · exact Or.inr ⟨hRank, Int64.lt_of_le_of_ne hId hNe⟩

/-- An account that strictly precedes another one comes before it. -/
theorem Precedes.before {a b : Account} (hPrecedes : a.Precedes b) : a.before b = true := by
  rw [before_iff]
  exact hPrecedes.imp_right fun hTie => ⟨hTie.1, Int64.le_of_lt hTie.2⟩

/-- And the other one does not come before it. -/
theorem Precedes.not_before {a b : Account} (hPrecedes : a.Precedes b) : b.before a = false := by
  rw [← Bool.not_eq_true, before_iff]
  rcases hPrecedes with hRank | ⟨hRank, hId⟩
  · omega
  · rintro (hBack | ⟨-, hBack⟩)
    · omega
    · exact Int64.not_le.mpr hId hBack

/-- Two accounts do not strictly precede each other. -/
theorem Precedes.asymm {a b : Account} (hPrecedes : a.Precedes b) : ¬b.Precedes a := by
  intro hBack
  have hBefore := hBack.before
  rw [hPrecedes.not_before] at hBefore
  contradiction

end Account

namespace AccountTable

variable (t : AccountTable) (now : Timestamp) (p : Policy)

/-- The due accounts are those rows that are due, in some order. -/
theorem due_perm : (t.due now p).Perm (t.rows.filter (p.isDue now)) := List.mergeSort_perm _ _

/-- No account is due twice. -/
theorem nodup_ids_due : ((t.due now p).map Account.id).Nodup := by
  have hFilter : ((t.rows.filter (p.isDue now)).map Account.id).Nodup :=
    t.nodup_ids.sublist (List.filter_sublist.map Account.id)
  exact (((t.due_perm now p).map Account.id).nodup_iff).mpr hFilter

/-- The due rows stand in strict order. -/
theorem pairwise_due : (t.due now p).Pairwise Account.Precedes := by
  have hSorted : (t.due now p).Pairwise fun a b => a.before b = true :=
    List.pairwise_mergeSort Account.before_trans Account.before_total _
  have hDistinct : (t.due now p).Pairwise fun a b => a.id ≠ b.id :=
    List.pairwise_map.mp (t.nodup_ids_due now p)
  exact hSorted.imp₂ (fun _ _ => Account.precedes_of_before) hDistinct

/-- Rows that stand in order already are claimed as they stand. -/
theorem claimable_of_sorted {rows : List Account} (hRows : t.rows.filter (p.isDue now) = rows)
    (hSorted : rows.Pairwise fun a b => a.before b = true) :
    t.claimable now p = rows.take p.cap := by
  rw [claimable, due, hRows, List.mergeSort_of_pairwise hSorted]

/-- No account is claimed twice. -/
theorem nodup_claimed : ((t.claimable now p).map Account.id).Nodup :=
  (t.nodup_ids_due now p).sublist ((List.take_sublist _ _).map Account.id)

/-- What can be claimed is in the table. -/
theorem claimable_subset {a : Account} (hMem : a ∈ t.claimable now p) : a ∈ t.rows :=
  (List.mem_filter.mp ((t.due_perm now p).mem_iff.mp (List.mem_of_mem_take hMem))).1

/-- A row is claimed exactly when its id is. -/
theorem id_mem_claimed_iff {a : Account} (hRow : a ∈ t.rows) :
    a.id ∈ (t.claimable now p).map Account.id ↔ a ∈ t.claimable now p := by
  constructor
  · intro hMem
    obtain ⟨b, hClaimed, hId⟩ := List.mem_map.mp hMem
    -- two rows of a table with one id are the same row
    have hEq : b = a :=
      List.inj_on_of_nodup_map t.nodup_ids (t.claimable_subset now p hClaimed) hRow hId
    exact hEq ▸ hClaimed
  · exact fun hMem => List.mem_map_of_mem hMem

-- ---------------------------------------------------------------------------
-- The row of an account
-- ---------------------------------------------------------------------------

variable {id : AccountId}

/-- The row of an id is the one that has it. -/
theorem row?_eq_some_iff {a : Account} : t.row? id = some a ↔ a ∈ t.rows ∧ a.id = id := by
  constructor
  · intro hRow
    exact ⟨List.mem_of_find?_eq_some hRow, by simpa using List.find?_some hRow⟩
  · rintro ⟨hMem, rfl⟩
    have hSome : (t.row? a.id).isSome = true := List.find?_isSome.mpr ⟨a, hMem, by simp⟩
    obtain ⟨b, hRow⟩ := Option.isSome_iff_exists.mp hSome
    have hId : b.id = a.id := by simpa using List.find?_some hRow
    have hEq : b = a :=
      List.inj_on_of_nodup_map t.nodup_ids (List.mem_of_find?_eq_some hRow) hMem hId
    rw [hRow, hEq]

/-- A change of rows that keeps the ids is seen in the row of each id. -/
theorem row?_mapRows {f : Account → Account} (hId : ∀ a, (f a).id = a.id) (id : AccountId) :
    (t.mapRows f hId).row? id = (t.row? id).map f := by
  have hSame : ((fun a => a.id == id) ∘ f) = fun a : Account => a.id == id :=
    funext fun a => by rw [Function.comp_apply, hId]
  rw [row?, mapRows, List.find?_map, hSame, row?]

/-- A claim writes its time into the claimed rows and leaves the others alone. -/
theorem row?_claim (id : AccountId) :
    (t.claim now p).2.row? id = (t.row? id).map (enqueued now (t.claim now p).1) :=
  t.row?_mapRows (id_enqueued now _) id

/-- A check is written into the row that was checked. -/
theorem row?_markChecked (checked id : AccountId) (time : Timestamp) :
    (t.markChecked checked time).row? id =
      (t.row? id).map fun a => if a.id = checked then { a with checkedAt := time } else a :=
  t.row?_mapRows _ id

/-- An insertion leaves the rows of other ids alone. -/
theorem row?_insert_of_ne {row : Account} (hNe : row.id ≠ id) :
    (t.insert row).row? id = t.row? id := by
  unfold insert
  split
  · rw [row?_mapRows]
    -- the row that was put in place of another is not the one looked for
    cases hRow : t.row? id with
    | none => rfl
    | some a =>
      have hId := ((t.row?_eq_some_iff).mp hRow).2
      rw [Option.map_some, if_neg fun hSame => hNe (hSame.symm.trans hId)]
  · rw [row?, List.find?_append, List.find?_singleton, if_neg (by simpa using hNe),
      Option.or_none, row?]

/-- An account that a claim returns has a due row. -/
theorem due_of_mem_claim (hMem : id ∈ (t.claim now p).1) :
    ∃ a, t.row? id = some a ∧ p.isDue now a = true := by
  obtain ⟨a, hClaimed, hId⟩ := List.mem_map.mp hMem
  have hDue := (t.due_perm now p).mem_iff.mp (List.mem_of_mem_take hClaimed)
  exact ⟨a, t.row?_eq_some_iff.mpr ⟨t.claimable_subset now p hClaimed, hId⟩,
    (List.mem_filter.mp hDue).2⟩

end AccountTable

end DueDispatch
