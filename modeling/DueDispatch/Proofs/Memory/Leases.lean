import DueDispatch.Memory.Leases

/-!
# DueDispatch — one pass over a lease request

`LeaseTable.acquire` decides the ids of a request one by one, each on the table
that the earlier ones left. A lease that is live stays as it is during the pass,
so an id that is refused once is refused throughout the request.

## Results

* `expiry?_acquire` — the granted ids carry the new expiry, and no other entry
  changes.
* `acquire_append` — a request cut in two is one request.
* `acquire_of_nodup` — without repetitions the granted ids are those without a
  live lease.
* `mem_acquire_iff` — an id is granted exactly if it had no live lease.
* `acquire_eq_firstFree` — if the new leases are live, the granted ids are those
  without a live lease, each where it stands first.
* `nodup_acquire` — so no id is granted twice.
* `LeaseStore.acquire_of_working`, `LeaseStore.isLive_acquire_of_working` — the same of a
  store that does not fail.
-/

namespace DueDispatch

/-- The ids of a request that nobody holds, each where it stands first. -/
def firstFree (isHeld : AccountId → Bool) (ids : List AccountId) : List AccountId :=
  (ids.filter fun id => !isHeld id).eraseDups

section

variable {isHeld isHeldNow : AccountId → Bool} {ids : List AccountId} {id : AccountId}

/-- The first free ids are those that nobody holds. -/
theorem mem_firstFree_iff : id ∈ firstFree isHeld ids ↔ id ∈ ids ∧ isHeld id = false := by
  rw [firstFree, List.mem_eraseDups, List.mem_filter, Bool.not_eq_true']

/-- An id that is held is passed over. -/
theorem firstFree_cons_of_held (hHeld : isHeld id = true) :
    firstFree isHeld (id :: ids) = firstFree isHeld ids := by
  rw [firstFree, List.filter_cons_of_neg (by simp [hHeld]), firstFree]

/-- An id that is free is held from there on. -/
theorem firstFree_cons_of_free (hFree : isHeld id = false)
    (hNow : ∀ other, isHeldNow other = (other == id || isHeld other)) :
    firstFree isHeld (id :: ids) = id :: firstFree isHeldNow ids := by
  have hRest : (ids.filter fun other => !isHeld other).filter (fun other => !other == id) =
      ids.filter fun other => !isHeldNow other := by
    rw [List.filter_filter]
    refine List.filter_congr fun other _ => ?_
    rw [hNow, Bool.not_or]
  rw [firstFree, List.filter_cons_of_pos (by simp [hFree]), List.eraseDups_cons, hRest, firstFree]

/-- The first free ids come in the order of the request. -/
theorem firstFree_sublist (isHeld : AccountId → Bool) (ids : List AccountId) :
    (firstFree isHeld ids).Sublist ids := by
  induction ids generalizing isHeld with
  | nil => exact List.nil_sublist _
  | cons id rest ih =>
    by_cases hHeld : isHeld id = true
    · rw [firstFree_cons_of_held hHeld]
      exact (ih isHeld).cons id
    · rw [firstFree_cons_of_free (by simpa using hHeld) fun _ => rfl]
      exact (ih _).cons_cons id

/-- No id is free twice. -/
theorem nodup_firstFree (isHeld : AccountId → Bool) (ids : List AccountId) :
    (firstFree isHeld ids).Nodup := by
  induction ids generalizing isHeld with
  | nil => exact List.nodup_nil
  | cons id rest ih =>
    by_cases hHeld : isHeld id = true
    · rw [firstFree_cons_of_held hHeld]
      exact ih isHeld
    · rw [firstFree_cons_of_free (by simpa using hHeld) fun _ => rfl, List.nodup_cons,
        mem_firstFree_iff]
      exact ⟨by simp, ih _⟩

end

namespace LeaseTable

variable {now expiry : Timestamp} {ids : List AccountId} {id : AccountId} {t : LeaseTable}

-- ---------------------------------------------------------------------------
-- The first id of a request
-- ---------------------------------------------------------------------------

/-- A live lease is not granted, and left as it is. -/
theorem acquire_cons_of_live (hLive : t.isLive now id = true) :
    acquire now expiry (id :: ids) t = acquire now expiry ids t := by
  rw [acquire, if_pos hLive]

/-- A free lease is granted, and live for the rest of the request. -/
theorem acquire_cons_of_free (hFree : t.isLive now id = false) :
    acquire now expiry (id :: ids) t =
      (id :: (acquire now expiry ids (t.set id expiry)).1,
        (acquire now expiry ids (t.set id expiry)).2) := by
  rw [acquire, if_neg (by simp [hFree])]

-- ---------------------------------------------------------------------------
-- What is live
-- ---------------------------------------------------------------------------

/-- A lease that is written is live until its expiry. -/
theorem isLive_set_same : (t.set id expiry).isLive now id = decide (now < expiry) := by
  simp [isLive]

/-- A lease that is written leaves those of other ids alone. -/
theorem isLive_set_of_ne {other : AccountId} (hNe : other ≠ id) :
    (t.set id expiry).isLive now other = t.isLive now other := by
  rw [isLive, isLive, expiry?_set_of_ne t expiry hNe]

/-- A live lease is not granted again, wherever in the request its id stands. -/
theorem notMem_acquire_of_isLive (expiry : Timestamp) (ids : List AccountId)
    (hLive : t.isLive now id = true) :
    id ∉ (acquire now expiry ids t).1 := by
  induction ids generalizing t with
  | nil => simp [acquire]
  | cons head rest ih =>
    by_cases hHead : t.isLive now head = true
    · rw [acquire_cons_of_live hHead]
      exact ih hLive
    -- the head is granted, so it is another id, and granting it changes nothing for this one
    · have hNe : id ≠ head := fun hEq => hHead (hEq ▸ hLive)
      rw [acquire_cons_of_free (by simpa using hHead), List.mem_cons, not_or]
      exact ⟨hNe, ih ((isLive_set_of_ne hNe).trans hLive)⟩

/-- The granted ids carry the new expiry, and no other entry changes. -/
theorem expiry?_acquire (ids : List AccountId) (t : LeaseTable) (id : AccountId) :
    (acquire now expiry ids t).2.expiry? id =
      if id ∈ (acquire now expiry ids t).1 then some expiry else t.expiry? id := by
  induction ids generalizing t with
  | nil => simp [acquire]
  | cons head rest ih =>
    by_cases hHead : t.isLive now head = true
    · rw [acquire_cons_of_live hHead]
      exact ih t
    · rw [acquire_cons_of_free (by simpa using hHead)]
      simp only [List.mem_cons]
      rw [ih (t.set head expiry)]
      by_cases hEq : id = head
      · subst hEq
        simp
      · rw [expiry?_set_of_ne t expiry hEq]
        simp [hEq]

/-- After a pass an id is live if it was before, or if it was granted a lease
that is. -/
theorem isLive_acquire (ids : List AccountId) (t : LeaseTable) (id : AccountId) :
    (acquire now expiry ids t).2.isLive now id =
      if id ∈ (acquire now expiry ids t).1 then decide (now < expiry) else t.isLive now id := by
  by_cases hMem : id ∈ (acquire now expiry ids t).1
  · rw [isLive, expiry?_acquire, if_pos hMem, if_pos hMem]
  · rw [isLive, expiry?_acquire, if_neg hMem, if_neg hMem, isLive]

-- ---------------------------------------------------------------------------
-- Whole requests
-- ---------------------------------------------------------------------------

/-- A request cut in two is one request. -/
theorem acquire_append (first second : List AccountId) (t : LeaseTable) :
    acquire now expiry (first ++ second) t =
      ((acquire now expiry first t).1 ++
          (acquire now expiry second (acquire now expiry first t).2).1,
        (acquire now expiry second (acquire now expiry first t).2).2) := by
  induction first generalizing t with
  | nil => simp [acquire]
  | cons head rest ih =>
    rw [List.cons_append]
    by_cases hHead : t.isLive now head = true
    · rw [acquire_cons_of_live hHead, acquire_cons_of_live hHead, ih]
    · have hFree : t.isLive now head = false := by simpa using hHead
      rw [acquire_cons_of_free hFree, acquire_cons_of_free hFree, ih, List.cons_append]

/-- Without repetitions the granted ids are those without a live lease. -/
theorem acquire_of_nodup (hNodup : ids.Nodup) (t : LeaseTable) :
    (acquire now expiry ids t).1 = ids.filter fun id => !t.isLive now id := by
  induction ids generalizing t with
  | nil => rfl
  | cons head rest ih =>
    obtain ⟨hFresh, hRest⟩ := List.nodup_cons.mp hNodup
    by_cases hHead : t.isLive now head = true
    · rw [acquire_cons_of_live hHead, ih hRest, List.filter_cons_of_neg (by simp [hHead])]
    -- the lease just granted concerns no later id of the request
    · have hSame : ∀ id ∈ rest, (!(t.set head expiry).isLive now id) = !t.isLive now id := by
        intro id hId
        have hNe : id ≠ head := fun hEq => hFresh (hEq ▸ hId)
        rw [isLive_set_of_ne hNe]
      rw [acquire_cons_of_free (by simpa using hHead), ih hRest, List.filter_congr hSame,
        List.filter_cons_of_pos (by simpa using hHead)]

/-- An id is granted exactly if it is asked for and had no live lease. -/
theorem mem_acquire_iff :
    id ∈ (acquire now expiry ids t).1 ↔ id ∈ ids ∧ t.isLive now id = false := by
  induction ids generalizing t with
  | nil => simp [acquire]
  | cons head rest ih =>
    by_cases hHead : t.isLive now head = true
    · rw [acquire_cons_of_live hHead, ih, List.mem_cons]
      constructor
      · rintro ⟨hMem, hFree⟩
        exact ⟨Or.inr hMem, hFree⟩
      · rintro ⟨rfl | hMem, hFree⟩
        · simp [hHead] at hFree
        · exact ⟨hMem, hFree⟩
    · rw [acquire_cons_of_free (by simpa using hHead), List.mem_cons, ih, List.mem_cons]
      by_cases hEq : id = head
      · subst hEq
        simpa using hHead
      · rw [isLive_set_of_ne hEq]
        simp [hEq]

/-- If the new leases are live, the granted ids are those without a live lease, each
where it stands first. -/
theorem acquire_eq_firstFree (hTerm : now < expiry) (ids : List AccountId) (t : LeaseTable) :
    (acquire now expiry ids t).1 = firstFree (t.isLive now) ids := by
  induction ids generalizing t with
  | nil => rfl
  | cons head rest ih =>
    by_cases hHead : t.isLive now head = true
    · rw [acquire_cons_of_live hHead, ih, firstFree_cons_of_held hHead]
    -- the head is held from here on, and nothing else changes
    · have hFree : t.isLive now head = false := by simpa using hHead
      have hNow : ∀ id, (t.set head expiry).isLive now id = (id == head || t.isLive now id) := by
        intro id
        by_cases hId : id = head
        · subst hId
          simp [isLive_set_same, hTerm]
        · simp [isLive_set_of_ne hId, hId]
      rw [acquire_cons_of_free hFree, ih, firstFree_cons_of_free hFree hNow]

/-- If the new leases are live, no id is granted twice. -/
theorem nodup_acquire (hTerm : now < expiry) (ids : List AccountId) (t : LeaseTable) :
    (acquire now expiry ids t).1.Nodup := by
  rw [acquire_eq_firstFree hTerm]
  exact nodup_firstFree _ ids

end LeaseTable

namespace LeaseStore

variable {s : LeaseStore} {now : Timestamp} {ttl : Duration} (hWorking : s.failing = false)
  (hTerm : now < now + ttl) (ids : List AccountId)

include hWorking hTerm

/-- A store that works grants the first free ids. -/
theorem acquire_of_working :
    (s.acquire now ids ttl).1 = .ok (firstFree (s.table.isLive now) ids) := by
  rw [acquire, if_neg (by simp [hWorking]), ← LeaseTable.acquire_eq_firstFree hTerm]

/-- After a request the granted leases are live, and the others as before. -/
theorem isLive_acquire_of_working (id : AccountId) :
    (s.acquire now ids ttl).2.table.isLive now id =
      if id ∈ firstFree (s.table.isLive now) ids then true else s.table.isLive now id := by
  rw [acquire, if_neg (by simp [hWorking]), ← LeaseTable.acquire_eq_firstFree hTerm,
    LeaseTable.isLive_acquire, decide_eq_true hTerm]

end LeaseStore

end DueDispatch
