/-!
# DueDispatch — chunks

Lease requests and queue messages carry a bounded number of ids. `chunks` cuts
a list into consecutive pieces of that size.

## Results

* `flatten_chunks` — the pieces put together are the list.
* `ne_nil_of_mem_chunks` — no piece is empty.
-/

namespace DueDispatch

/-- Ids per lease request and per message if nothing else is configured. -/
def defaultChunkSize : Nat := 100

/-- The consecutive pieces of `size` elements, the last one possibly shorter.
A size of zero counts as one. -/
def chunks {α : Type} (size : Nat) : List α → List (List α)
  | [] => []
  | a :: rest =>
    (a :: rest.take (size - 1)) :: chunks size (rest.drop (size - 1))
termination_by l => l.length
decreasing_by simp only [List.length_drop, List.length_cons]; omega

variable {α : Type}

@[simp] theorem chunks_nil (size : Nat) : chunks size ([] : List α) = [] := by
  simp [chunks]

/-- The pieces put together are the list. -/
@[simp] theorem flatten_chunks (size : Nat) (l : List α) : (chunks size l).flatten = l := by
  fun_induction chunks size l with
  | case1 => rfl
  | case2 a rest ih => simp [ih]

/-- No piece is empty. -/
theorem ne_nil_of_mem_chunks {size : Nat} {l c : List α} (hMem : c ∈ chunks size l) : c ≠ [] := by
  fun_induction chunks size l with
  | case1 => simp at hMem
  | case2 a rest ih =>
    rcases List.mem_cons.mp hMem with rfl | hTail
    · simp
    · exact ih hTail

end DueDispatch
