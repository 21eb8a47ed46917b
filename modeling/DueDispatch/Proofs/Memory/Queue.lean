import DueDispatch.Cycle.Basic
import DueDispatch.Memory.Queue
import DueDispatch.Proofs.Decimal
import Mathlib.Data.List.Flatten

/-!
# DueDispatch — chunks offered to a queue

A queue counts the calls made to it and refuses single ones by their number. So
whether a message is accepted depends on how many were offered before it, and not
on what they were.

## Results

* `taken_cons`, `offered_cons` — offering chunks one after another is offering them
  together.
* `publishedIds_offered` — the ids on the queue grow by those of the accepted chunks.
-/

namespace DueDispatch.Queue

/-- Whether the `n`-th call of the queue's life is accepted. -/
def accepts (q : Queue) (n : Nat) : Bool := !(q.failing || q.failingCalls.contains n)

/-- Which of these chunks become messages if they are offered one after another. -/
def taken (q : Queue) (cs : List (List AccountId)) : List (List AccountId) :=
  ((cs.zipIdx q.calls).filter fun p => q.accepts p.2).map Prod.fst

/-- The queue after these chunks were offered one after another. -/
def offered (q : Queue) (channel : String) (cs : List (List AccountId)) : Queue :=
  { q with
    calls := q.calls + cs.length
    messages := q.messages ++ (q.taken cs).map fun ids => ⟨channel, payloads ids⟩ }

variable {q : Queue} {channel : String} {chunk : List AccountId} {cs : List (List AccountId)}

/-- A queue refuses the next message if it does not accept a call of this number. -/
theorem refusesNext_eq (q : Queue) : q.refusesNext = !q.accepts q.calls := by
  simp [refusesNext, accepts]

/-- A single chunk is taken if its call is accepted. -/
theorem taken_singleton (q : Queue) (chunk : List AccountId) :
    q.taken [chunk] = if q.accepts q.calls then [chunk] else [] := by
  by_cases hAccepts : q.accepts q.calls = true <;> simp [taken, hAccepts]

/-- What was accepted before does not matter for what is accepted next. -/
theorem taken_cons (q : Queue) (channel : String) (chunk : List AccountId)
    (cs : List (List AccountId)) :
    q.taken (chunk :: cs) = q.taken [chunk] ++ (q.offered channel [chunk]).taken cs := by
  by_cases hAccepts : q.accepts q.calls = true
  · rw [taken_singleton, if_pos hAccepts, taken, List.zipIdx_cons,
      List.filter_cons_of_pos (by exact hAccepts)]
    rfl
  · rw [taken_singleton, if_neg hAccepts, taken, List.zipIdx_cons,
      List.filter_cons_of_neg (by exact hAccepts)]
    rfl

/-- Only the chunk of the refused call is dropped. -/
example : taken { failingCalls := [1] } [[7], [8], [9]] = [[7], [9]] := by decide

/-- Chunks offered one after another are offered together. -/
theorem offered_cons (q : Queue) (channel : String) (chunk : List AccountId)
    (cs : List (List AccountId)) :
    (q.offered channel [chunk]).offered channel cs = q.offered channel (chunk :: cs) := by
  rw [offered.eq_def q channel (chunk :: cs), taken_cons q channel, List.map_append,
    ← List.append_assoc, List.length_cons, Nat.add_comm cs.length, ← Nat.add_assoc]
  rfl

/-- The chunks that are taken are among those that were offered, in their order. -/
theorem taken_sublist (q : Queue) (cs : List (List AccountId)) : (q.taken cs).Sublist cs := by
  have hSub : (q.taken cs).Sublist ((cs.zipIdx q.calls).map Prod.fst) :=
    List.filter_sublist.map Prod.fst
  rwa [List.zipIdx_map_fst] at hSub

/-- A queue that refuses no call to come takes everything. -/
theorem taken_of_accepts (hAccepts : ∀ n, q.calls ≤ n → q.accepts n = true)
    (cs : List (List AccountId)) : q.taken cs = cs := by
  have hAll : ∀ p ∈ cs.zipIdx q.calls, q.accepts p.2 = true :=
    fun p hMem => hAccepts p.2 (List.le_snd_of_mem_zipIdx hMem)
  rw [taken, List.filter_eq_self.mpr hAll, List.zipIdx_map_fst]

/-- The ids on the queue grow by those of the accepted chunks. -/
theorem publishedIds_offered (q : Queue) (channel : String) (cs : List (List AccountId)) :
    (q.offered channel cs).publishedIds = q.publishedIds ++ (q.taken cs).flatten := by
  have hPayloads : ((q.taken cs).map fun ids => (⟨channel, payloads ids⟩ : Message)).flatMap
      Message.payloads = (q.taken cs).flatten.map AccountId.write := by
    rw [List.flatMap_map, List.map_flatten]
    rfl
  rw [publishedIds, offered, List.flatMap_append, List.filterMap_append, hPayloads,
    AccountId.filterMap_read?_map_write]
  rfl

end DueDispatch.Queue
