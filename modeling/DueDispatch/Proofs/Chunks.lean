import DueDispatch.Chunks

/-!
# DueDispatch — the shape of chunks

`flatten_chunks` says that the pieces put together are the list. Here is how
many pieces there are and how long each one is.

## Results

* `length_chunks` — the number of pieces is the length over the size, rounded up.
* `length_of_mem_dropLast_chunks` — every piece but the last is full.
-/

namespace DueDispatch

variable {α : Type} {size : Nat} {l c : List α}

/-- Only the empty list has no pieces. -/
theorem chunks_eq_nil_iff : chunks size l = [] ↔ l = [] := by
  constructor
  · intro h
    rw [← flatten_chunks size l, h, List.flatten_nil]
  · rintro rfl
    exact chunks_nil size

/-- The number of pieces, a size of zero counting as one. -/
theorem length_chunks (size : Nat) (l : List α) :
    (chunks size l).length = (l.length + (max size 1 - 1)) / max size 1 := by
  have hPos : 0 < max size 1 := by omega
  fun_induction chunks size l with
  | case1 => exact (Nat.div_eq_of_lt (by simp only [List.length_nil]; omega)).symm
  | case2 a rest ih =>
    rw [List.length_cons, ih, List.length_drop, List.length_cons]
    -- either the first piece is full, and one piece comes off, or it is the only one
    by_cases hFull : size - 1 ≤ rest.length
    · have hSplit : rest.length + 1 + (max size 1 - 1) =
          rest.length - (size - 1) + (max size 1 - 1) + max size 1 := by omega
      rw [hSplit, Nat.add_div_right _ hPos]
    -- the first piece takes everything, so nothing is left to divide
    · have hNone : rest.length - (size - 1) = 0 := by omega
      have hLast : rest.length + 1 + (max size 1 - 1) = rest.length + max size 1 := by omega
      rw [hNone, hLast, Nat.add_div_right _ hPos, Nat.div_eq_of_lt (by omega),
        Nat.div_eq_of_lt (by omega)]

/-- Every piece but the last is full. -/
theorem length_of_mem_dropLast_chunks (hMem : c ∈ (chunks size l).dropLast) :
    c.length = max size 1 := by
  fun_induction chunks size l with
  | case1 => simp at hMem
  | case2 a rest ih =>
    by_cases hRest : chunks size (rest.drop (size - 1)) = []
    · rw [hRest] at hMem
      simp at hMem
    · rw [List.dropLast_cons_of_ne_nil hRest] at hMem
      rcases List.mem_cons.mp hMem with rfl | hTail
      -- something is left behind this piece, so it was cut at the size
      · have hLeft : rest.drop (size - 1) ≠ [] := fun h => hRest (chunks_eq_nil_iff.mpr h)
        have hLong : size - 1 < rest.length := by
          simpa [List.drop_eq_nil_iff] using hLeft
        simp only [List.length_cons, List.length_take]
        omega
      · exact ih hTail

end DueDispatch
