import DueDispatch.Proofs.Memory.Leases

/-!
# DueDispatch — rulings on lease requests

A `Ruling` is what a lease request decided about one of its ids. The reply to a
request names the granted ids only, in request order, so `verdicts` reads off it
which of the requested ids were granted, also where an id is asked for twice.

`Lawful` is what a lease table promises of all the rulings it ever made: an id
is granted exactly if the latest earlier grant of it has run out. `Records` says
that the table holds the expiry of the latest grant of every id, and nothing
else.

## Results

* `ids_rulingsOf`, `granted_rulingsOf` — the rulings of a request are about its
  ids, and the granted ones are its reply.
* `lawful_acquire` — one request keeps the rulings lawful and recorded.
* `Lawful.not_lt_of_sorted` — while the clock does not go back, no id is granted
  before any earlier lease on it has run out.
* `Lawful.nodup_granted` — if no lease runs out, no id is granted twice.
-/

namespace DueDispatch

/-- What a lease request decided about one of its ids. -/
structure Ruling where
  /-- The number of the cycle that asked. -/
  cycle : Nat
  id : AccountId
  /-- The reading of the clock at the request. -/
  time : Timestamp
  /-- When a lease given by the request runs out. -/
  expiry : Timestamp
  granted : Bool
deriving DecidableEq

/-- Which ids of a request were granted, given its reply. -/
def verdicts : List AccountId → List AccountId → List (AccountId × Bool)
  | [], _ => []
  | id :: ids, [] => (id, false) :: verdicts ids []
  | id :: ids, next :: reply =>
    if id = next then (id, true) :: verdicts ids reply
    else (id, false) :: verdicts ids (next :: reply)

/-- The rulings of a request of one cycle, made at `time`. -/
def rulingsOf (cycle : Nat) (time expiry : Timestamp) (ids reply : List AccountId) : List Ruling :=
  (verdicts ids reply).map fun v => ⟨cycle, v.1, time, expiry, v.2⟩

def latestGrant (id : AccountId) (rs : List Ruling) : Option Ruling :=
  (rs.filter fun r => r.granted && r.id == id).getLast?

/-- Every ruling is a grant exactly if the latest earlier grant of its id has run
out. -/
def Lawful (rs : List Ruling) : Prop :=
  ∀ before r after, rs = before ++ r :: after →
    (r.granted = true ↔ ∀ g, latestGrant r.id before = some g → ¬ r.time < g.expiry)

/-- The table holds the expiry of the latest grant of every id. -/
def Records (rs : List Ruling) (t : LeaseTable) : Prop :=
  ∀ id, t.expiry? id = (latestGrant id rs).map Ruling.expiry

variable {id head : AccountId} {ids reply : List AccountId} {rs : List Ruling} {r : Ruling}
  {t : LeaseTable} {cycle : Nat} {time expiry : Timestamp}

-- ---------------------------------------------------------------------------
-- Verdicts
-- ---------------------------------------------------------------------------

/-- An id at the head of the reply is granted. -/
theorem verdicts_cons_self :
    verdicts (id :: ids) (id :: reply) = (id, true) :: verdicts ids reply := by
  rw [verdicts, if_pos rfl]

/-- An id that is not in the reply is refused. -/
theorem verdicts_cons_of_notMem (hRefused : id ∉ reply) :
    verdicts (id :: ids) reply = (id, false) :: verdicts ids reply := by
  cases reply with
  | nil => rw [verdicts]
  | cons next reply =>
    have hNe : id ≠ next := fun hEq => hRefused (hEq ▸ List.mem_cons_self)
    rw [verdicts, if_neg hNe]

/-- Each requested id gets one verdict. -/
theorem map_fst_verdicts (ids reply : List AccountId) :
    (verdicts ids reply).map Prod.fst = ids := by
  fun_induction verdicts ids reply with
  | case1 => rfl
  | case2 id ids ih => rw [List.map_cons, ih]
  | case3 ids id reply ih => rw [List.map_cons, ih]
  | case4 id ids next reply hNe ih => rw [List.map_cons, ih]

/-- The ids with a favourable verdict are the reply. -/
theorem map_fst_filter_verdicts (hReply : reply.Sublist ids) :
    ((verdicts ids reply).filter Prod.snd).map Prod.fst = reply := by
  fun_induction verdicts ids reply with
  | case1 => exact (List.sublist_nil.mp hReply).symm
  | case2 id ids ih =>
    rw [List.filter_cons_of_neg (by simp)]
    exact ih (List.nil_sublist _)
  | case3 ids id reply ih =>
    rw [List.filter_cons_of_pos rfl, List.map_cons, ih (List.cons_sublist_cons.mp hReply)]
  | case4 id ids next reply hNe ih =>
    rw [List.filter_cons_of_neg (by simp)]
    cases hReply with
    | cons _ hRest => exact ih hRest
    | cons_cons _ _ => exact absurd rfl hNe

/-- An id that is asked for twice may be granted at the first place only. -/
example : verdicts [1, 2, 1] [1, 2] = [(1, true), (2, true), (1, false)] := by decide

/-- Each requested id gets one ruling. -/
theorem ids_rulingsOf (cycle : Nat) (time expiry : Timestamp) (ids reply : List AccountId) :
    (rulingsOf cycle time expiry ids reply).map Ruling.id = ids := by
  rw [rulingsOf, List.map_map]
  exact map_fst_verdicts ids reply

/-- The rulings that grant are those on the reply. -/
theorem granted_rulingsOf (cycle : Nat) (time expiry : Timestamp) (hReply : reply.Sublist ids) :
    ((rulingsOf cycle time expiry ids reply).filter Ruling.granted).map Ruling.id = reply := by
  rw [rulingsOf, List.filter_map, List.map_map]
  exact map_fst_filter_verdicts hReply

theorem rulingsOf_cons_self :
    rulingsOf cycle time expiry (id :: ids) (id :: reply) =
      ⟨cycle, id, time, expiry, true⟩ :: rulingsOf cycle time expiry ids reply := by
  rw [rulingsOf, verdicts_cons_self]
  rfl

theorem rulingsOf_cons_of_notMem (hRefused : id ∉ reply) :
    rulingsOf cycle time expiry (id :: ids) reply =
      ⟨cycle, id, time, expiry, false⟩ :: rulingsOf cycle time expiry ids reply := by
  rw [rulingsOf, verdicts_cons_of_notMem hRefused]
  rfl

-- ---------------------------------------------------------------------------
-- The latest grant
-- ---------------------------------------------------------------------------

/-- A new grant is the latest one of its id. -/
theorem latestGrant_concat_of_granted (hGranted : r.granted = true) :
    latestGrant id (rs ++ [r]) = if r.id = id then some r else latestGrant id rs := by
  rw [latestGrant, List.filter_append]
  by_cases hId : r.id = id
  · rw [if_pos hId, List.filter_cons_of_pos (by simp [hGranted, hId]), List.filter_nil,
      List.getLast?_concat]
  · rw [if_neg hId, List.filter_cons_of_neg (by simp [hId]), List.filter_nil, List.append_nil]
    rfl

/-- A refusal leaves the latest grants as they are. -/
theorem latestGrant_concat_of_refused (hRefused : r.granted = false) :
    latestGrant id (rs ++ [r]) = latestGrant id rs := by
  rw [latestGrant, List.filter_append, List.filter_cons_of_neg (by simp [hRefused]),
    List.filter_nil, List.append_nil]
  rfl

/-- An id is live in the table exactly if its latest grant has not run out. -/
theorem Records.isLive_iff (hRecords : Records rs t) :
    t.isLive time id = true ↔ ∃ g, latestGrant id rs = some g ∧ time < g.expiry := by
  rw [LeaseTable.isLive, hRecords id]
  cases latestGrant id rs with
  | none => simp
  | some g => simp

-- ---------------------------------------------------------------------------
-- One request
-- ---------------------------------------------------------------------------

/-- Before any ruling the log is lawful. -/
theorem lawful_nil : Lawful [] := by
  intro before r after hSplit
  simp at hSplit

/-- A ruling that follows from the rulings before it keeps them lawful. -/
theorem lawful_concat (hLawful : Lawful rs)
    (hRuling : r.granted = true ↔ ∀ g, latestGrant r.id rs = some g → ¬ r.time < g.expiry) :
    Lawful (rs ++ [r]) := by
  intro before r' after hSplit
  -- the ruling in question is the new one, or it stands among the old ones
  rcases List.eq_nil_or_concat after with rfl | ⟨after, last, rfl⟩
  · obtain ⟨rfl, hLast⟩ := List.append_inj' hSplit rfl
    obtain rfl := List.singleton_inj.mp hLast
    exact hRuling
  · rw [List.concat_eq_append, ← List.cons_append, ← List.append_assoc] at hSplit
    obtain ⟨hInit, -⟩ := List.append_inj' hSplit rfl
    exact hLawful before r' after hInit

/-- **One request keeps the rulings lawful and recorded**, whatever ids it asks
for, and however long or short the leases are. -/
theorem lawful_acquire (cycle : Nat) (time expiry : Timestamp) (ids : List AccountId)
    (hLawful : Lawful rs) (hRecords : Records rs t) :
    Lawful (rs ++ rulingsOf cycle time expiry ids (LeaseTable.acquire time expiry ids t).1) ∧
      Records (rs ++ rulingsOf cycle time expiry ids (LeaseTable.acquire time expiry ids t).1)
        (LeaseTable.acquire time expiry ids t).2 := by
  induction ids generalizing rs t with
  | nil =>
    rw [LeaseTable.acquire, rulingsOf, verdicts, List.map_nil, List.append_nil]
    exact ⟨hLawful, hRecords⟩
  | cons head rest ih =>
    by_cases hHead : t.isLive time head = true
    -- the head is refused on account of its latest grant, and the table stays
    · obtain ⟨g, hLatest, hLive⟩ := hRecords.isLive_iff.mp hHead
      have hNotMem := LeaseTable.notMem_acquire_of_isLive expiry rest hHead
      rw [LeaseTable.acquire_cons_of_live hHead, rulingsOf_cons_of_notMem hNotMem,
        List.append_cons]
      apply ih
      · refine lawful_concat hLawful ⟨fun hGranted => ?_, fun hFree => ?_⟩
        · simp at hGranted
        · exact absurd hLive (hFree g hLatest)
      · intro id
        rw [latestGrant_concat_of_refused rfl]
        exact hRecords id
    -- the head is granted, and becomes the latest grant of its id
    · have hFree : t.isLive time head = false := by simpa using hHead
      rw [LeaseTable.acquire_cons_of_free hFree, rulingsOf_cons_self, List.append_cons]
      apply ih
      · refine lawful_concat hLawful ⟨fun _ g hLatest hLive => ?_, fun _ => rfl⟩
        exact hHead (hRecords.isLive_iff.mpr ⟨g, hLatest, hLive⟩)
      · intro id
        rw [latestGrant_concat_of_granted rfl]
        by_cases hId : head = id
        · subst hId
          simp
        · rw [LeaseTable.expiry?_set_of_ne t expiry (Ne.symm hId), if_neg hId]
          exact hRecords id

-- ---------------------------------------------------------------------------
-- Two grants of one id
-- ---------------------------------------------------------------------------

/-- A grant stays the latest one of its id as long as no other follows. -/
theorem latestGrant_append_cons {g : Ruling} {before mid : List Ruling}
    (hGranted : g.granted = true) (hNone : ∀ m ∈ mid, ¬ (m.granted && m.id == g.id) = true) :
    latestGrant g.id (before ++ g :: mid) = some g := by
  have hKeep : (g.granted && g.id == g.id) = true := by simp [hGranted]
  have hMid : mid.filter (fun r => r.granted && r.id == g.id) = [] :=
    List.filter_eq_nil_iff.mpr hNone
  rw [latestGrant, List.filter_append, List.filter_cons, if_pos hKeep, hMid, List.getLast?_concat]

/-- If an id is granted again, then its next grant, which is that one or stands
before it, comes when the lease has run out. -/
theorem Lawful.exists_next (hLawful : Lawful rs) {g : Ruling} (hPair : [g, r].Sublist rs)
    (hFirst : g.granted = true) (hLater : r.granted = true) (hSame : g.id = r.id) :
    ∃ n, ¬ n.time < g.expiry ∧ (n = r ∨ [n, r].Sublist rs) := by
  obtain ⟨front, back, rfl, hFront, hBack⟩ := List.cons_sublist_iff.mp hPair
  obtain ⟨before, mid, rfl⟩ := List.append_of_mem hFront
  have hMem : r ∈ mid ++ back := List.mem_append_right _ (List.singleton_sublist.mp hBack)
  -- the next grant is the first one behind `g`; up to there `g` stays the latest
  have hSome : ((mid ++ back).find? fun m => m.granted && m.id == g.id).isSome := by
    rw [List.find?_isSome]
    exact ⟨r, hMem, by simp [hLater, hSame]⟩
  obtain ⟨n, hFind⟩ := Option.isSome_iff_exists.mp hSome
  obtain ⟨hNext, skipped, rest, hMid, hNone⟩ := List.find?_eq_some_iff_append.mp hFind
  obtain ⟨hGranted, hId⟩ : n.granted = true ∧ n.id = g.id := by simpa using hNext
  have hSplit : before ++ g :: mid ++ back = (before ++ g :: skipped) ++ n :: rest := by
    rw [List.append_assoc, List.cons_append, hMid, List.append_assoc, List.cons_append]
  refine ⟨n, (hLawful _ n _ hSplit).mp hGranted g ?_, ?_⟩
  · rw [hId]
    refine latestGrant_append_cons hFirst fun m hm => ?_
    rw [Bool.not_eq_true, ← Bool.not_eq_true']
    exact hNone m hm
  · rw [hMid] at hMem
    rcases List.mem_append.mp hMem with hSkipped | hRest
    -- `r` is a grant of the id itself, so it was not skipped
    · simpa [hLater, hSame] using hNone r hSkipped
    · rcases List.mem_cons.mp hRest with rfl | hTail
      · exact Or.inl rfl
      · rw [hSplit]
        refine Or.inr (List.Sublist.trans ?_ (List.sublist_append_right _ _))
        exact (List.singleton_sublist.mpr hTail).cons_cons n

/-- The readings of a clock that does not go back; those of one request are equal. -/
def Sorted (rs : List Ruling) : Prop := rs.Pairwise fun a b => a.time = b.time ∨ a.time ≤ b.time

/-- **No id is granted while any earlier lease on it lasts**, however many grants
lie between the two, as long as the clock does not go back. -/
theorem Lawful.not_lt_of_sorted (hLawful : Lawful rs) (hSorted : Sorted rs) {g : Ruling}
    (hPair : [g, r].Sublist rs) (hFirst : g.granted = true) (hLater : r.granted = true)
    (hSame : g.id = r.id) : ¬ r.time < g.expiry := by
  obtain ⟨n, hOver, hNext⟩ := hLawful.exists_next hPair hFirst hLater hSame
  have hOrder : n.time = r.time ∨ n.time ≤ r.time := by
    rcases hNext with rfl | hBefore
    · exact Or.inl rfl
    · exact List.pairwise_iff_forall_sublist.mp hSorted hBefore
  -- a lease that outlasts `r` would have outlasted the next grant too
  intro hLive
  rcases hOrder with hEq | hLe
  · exact hOver (hEq ▸ hLive)
  · exact hOver ⟨hLe.1, hLive.2.1, Int.lt_of_le_of_lt hLe.2.2 hLive.2.2⟩

/-- If no lease runs out, no id is granted twice. -/
theorem Lawful.nodup_granted (hLawful : Lawful rs)
    (hLasting : ∀ g ∈ rs, g.granted = true → ∀ r ∈ rs, r.time < g.expiry) :
    ((rs.filter Ruling.granted).map Ruling.id).Nodup := by
  rw [List.Nodup, List.pairwise_map, List.pairwise_filter, List.pairwise_iff_forall_sublist]
  intro g r hPair hFirst hLater hSame
  obtain ⟨n, hOver, hNext⟩ := hLawful.exists_next hPair hFirst hLater hSame
  have hMem : n ∈ rs := by
    rcases hNext with rfl | hBefore
    · exact hPair.subset (by simp)
    · exact hBefore.subset (by simp)
  exact hOver (hLasting g (hPair.subset (by simp)) hFirst n hMem)

end DueDispatch
