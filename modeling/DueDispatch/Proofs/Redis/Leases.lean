import DueDispatch.Memory.Leases
import DueDispatch.Proofs.Redis.Script
import DueDispatch.Proofs.Redis.Traffic

/-!
# DueDispatch — leases in Redis and in memory

A lease request to Redis is one run of the grant script on the keys of the server. If
the server is faithful and can be reached, the request has the outcome that it has on a
lease table in memory: the same ids are granted, and the same ids are leased afterwards.

## Results

* `acquire_of_connected` — what a request that reaches the server brings, and which keys
  exist after it.
* `Request.script_of_mem`, `pairs_request` — a script that is sent pairs every id with
  its own key.
* `acquire_as_memory` — the outcome of a request, and that it is the one in memory.
-/

namespace DueDispatch.Redis

variable {σ : Type} {server : Server σ} {keys : σ → KeyTable} {knows : σ → Bool}

namespace Server

/-- A request that reaches a faithful server is granted the ids whose key does not
exist. -/
theorem Faithful.acquire_of_connected (hFaithful : server.Faithful keys knows)
    (keyspace : String) (ids : List AccountId) (ttl : Duration) {s : σ}
    (hConnect : (server.connect s).1 = .ok ()) :
    (server.acquire keyspace ids ttl s).1 = .ok (firstFree ((keys s).isLeased keyspace) ids) ∧
      ∀ key, (keys (server.acquire keyspace ids ttl s).2).life? key =
        if key ∈ (firstFree ((keys s).isLeased keyspace) ids).map (leaseKey keyspace) then
          some (some (lifeSeconds ttl))
        else (keys s).life? key := by
  by_cases hNone : ids = []
  -- nothing is asked for, and nothing is done
  · subst hNone
    exact ⟨rfl, fun key => rfl⟩
  · have hKeys := hFaithful.connect s
    rcases hOpen : server.connect s with ⟨result, s₁⟩
    rw [hOpen] at hConnect hKeys
    subst hConnect
    obtain ⟨after, hRun, hAfter⟩ := (keys s₁).runScript_request keyspace ids ttl
    obtain ⟨hReply, hLeft⟩ := hFaithful.runScript_ok s₁ hRun
    rw [hKeys] at hReply hAfter
    -- the reply names ids of the request in its order, so it passes
    have hRead := readGrant_written (firstFree_sublist ((keys s).isLeased keyspace) ids)
    rw [List.map_map] at hReply
    have hAcquire : server.acquire keyspace ids ttl s =
        (.ok (firstFree ((keys s).isLeased keyspace) ids),
          (server.runScript (grantKeys keyspace ids) (grantArgs ids ttl) s₁).2) := by
      rcases hOut : server.runScript (grantKeys keyspace ids) (grantArgs ids ttl) s₁ with
        ⟨result, s₂⟩
      rw [hOut] at hReply
      subst hReply
      simp only [acquire, List.isEmpty_iff, hNone, if_false, hOpen, hOut]
      exact Prod.ext hRead rfl
    rw [hAcquire, hLeft]
    exact ⟨rfl, hAfter⟩

end Server

-- ---------------------------------------------------------------------------
-- What is sent
-- ---------------------------------------------------------------------------

variable {keyspace : String} {ids : List AccountId} {ttl : Duration}

/-- A script is sent with the keys and the arguments of its request. -/
theorem Request.script_of_mem {result : Except Error (List AccountId)} {seg : List Contact}
    (hRequest : Request keyspace ttl ids result seg) {names args : List String}
    {reply : Except String Reply} (hMem : .command (.grant names args) reply ∈ seg) :
    names = grantKeys keyspace ids ∧ args = grantArgs ids ttl := by
  cases hRequest with
  | empty hNone => simp at hMem
  | refused cause => simp at hMem
  | sent hRun =>
    have hScript : .grant names args = requestScript keyspace ids ttl := by
      cases hRun <;> grind
    exact Command.grant.inj hScript

/-- The key with some number belongs to the id with this number, and so does the argument
one place further. -/
theorem pairs_request (keyspace : String) (ttl : Duration) {i : Nat} {id : AccountId}
    (hId : ids[i]? = some id) :
    (grantKeys keyspace ids)[i]? = some (leaseKey keyspace id) ∧
      (grantArgs ids ttl)[i + 1]? = some id.write := by
  rw [grantKeys, grantArgs, List.getElem?_cons_succ, List.getElem?_map, List.getElem?_map, hId]
  exact ⟨rfl, rfl⟩

-- ---------------------------------------------------------------------------
-- The same in memory
-- ---------------------------------------------------------------------------

namespace Server

/-- Whether the server can be reached or not, what it grants can be read. -/
theorem Faithful.acquire_ne_leaseDecode (hFaithful : server.Faithful keys knows)
    (keyspace : String) (ids : List AccountId) (ttl : Duration) (s : σ) (cause : GrantError) :
    (server.acquire keyspace ids ttl s).1 ≠ .error (.leaseDecode cause) := by
  rcases hConnect : (server.connect s).1 with refusal | ⟨⟨⟩⟩
  · rcases hOpen : server.connect s with ⟨result, s₁⟩
    rw [hOpen] at hConnect
    subst hConnect
    by_cases hNone : ids = [] <;> simp [acquire, hNone, hOpen]
  · rw [(hFaithful.acquire_of_connected keyspace ids ttl hConnect).1]
    simp

/-- After a request the ids are leased that were before, and those that were granted. -/
theorem Faithful.isLeased_acquire (hFaithful : server.Faithful keys knows) (keyspace : String)
    (ids : List AccountId) (ttl : Duration) {s : σ} (hConnect : (server.connect s).1 = .ok ())
    (id : AccountId) :
    (keys (server.acquire keyspace ids ttl s).2).isLeased keyspace id =
      if id ∈ firstFree ((keys s).isLeased keyspace) ids then true
      else (keys s).isLeased keyspace id := by
  have hAfter := (hFaithful.acquire_of_connected keyspace ids ttl hConnect).2 (leaseKey keyspace id)
  simp only [List.mem_map_of_injective (leaseKey_injective keyspace)] at hAfter
  rw [KeyTable.isLeased, KeyTable.holds, hAfter]
  split <;> rfl

/-- **A lease request in Redis is one in memory.** The keys and arguments that are sent
pair every id with its own key, and no answer of the script fails to be read. A request
that reaches the server is granted the ids whose key does not exist, in order and each
once, and sets their keys, for as long as is asked for, and no others. A lease table on
which the same ids are leased grants the same ones, and the same ids are leased on it
afterwards. -/
theorem acquire_as_memory (hFaithful : server.Faithful keys knows) (keyspace : String)
    (ids : List AccountId) (n : UInt64) (hLife : 1 ≤ n) (s : σ) :
    let ttl := Duration.ofSecs n
    let out := server.acquire keyspace ids ttl s
    let watched := (server.watched id).acquire keyspace ids ttl (s, [])
    let contacts := watched.2.2
    let granted := firstFree ((keys s).isLeased keyspace) ids
    (watched.1, watched.2.1) = out ∧
    (ids = [] → contacts = [] ∧ out = (.ok [], s)) ∧
    (∀ names args reply, .command (.grant names args) reply ∈ contacts →
      names.length = ids.length ∧
      args.length = ids.length + 1 ∧
      args[0]? = some (Decimal.writeNat n.toNat) ∧
      ∀ i id, ids[i]? = some id →
        names[i]? = some (leaseKey keyspace id) ∧ args[i + 1]? = some id.write) ∧
    (∀ cause, out.1 ≠ .error (.leaseDecode cause)) ∧
    ((server.connect s).1 = .ok () →
      out.1 = .ok granted ∧
      granted.Sublist ids ∧
      granted.Nodup ∧
      (∀ id, id ∈ granted ↔ id ∈ ids ∧ (keys s).life? (leaseKey keyspace id) = none) ∧
      (∀ key, (keys out.2).life? key =
        if key ∈ granted.map (leaseKey keyspace) then some (some n.toNat)
        else (keys s).life? key) ∧
      ∀ (store : LeaseStore) (now : Timestamp), store.failing = false → now < now + ttl →
        (∀ id, store.table.isLive now id = (keys s).isLeased keyspace id) →
        (store.acquire now ids ttl).1 = out.1 ∧
        ∀ id, (store.acquire now ids ttl).2.table.isLive now id =
          (keys out.2).isLeased keyspace id) := by
  intro ttl out watched contacts granted
  obtain ⟨seg, hWatched, hRequest⟩ := server.acquire_watched id keyspace ids ttl s []
  have hContacts : contacts = seg := by
    simp only [contacts, watched, hWatched, List.nil_append, List.map_id]
  have hSecs : lifeSeconds ttl = n.toNat := Nat.max_eq_left (UInt64.le_iff_toNat_le.mp hLife)
  refine ⟨?_, ?_, ?_, hFaithful.acquire_ne_leaseDecode keyspace ids ttl s, fun hConnect => ?_⟩
  · simp only [watched, hWatched, out]
  · rintro rfl
    exact ⟨rfl, rfl⟩
  · intro names args reply hMem
    rw [hContacts] at hMem
    obtain ⟨rfl, rfl⟩ := hRequest.script_of_mem hMem
    refine ⟨List.length_map _, ?_, ?_, fun i id hId => pairs_request keyspace ttl hId⟩
    · rw [grantArgs, List.length_cons, List.length_map]
    · rw [grantArgs, hSecs, List.getElem?_cons_zero]
  · obtain ⟨hOut, hKeys⟩ := hFaithful.acquire_of_connected keyspace ids ttl hConnect
    rw [hSecs] at hKeys
    refine ⟨hOut, firstFree_sublist _ ids, nodup_firstFree _ ids, fun id => ?_, hKeys, ?_⟩
    · rw [mem_firstFree_iff, KeyTable.isLeased, KeyTable.holds, Option.isSome_eq_false_iff,
        Option.isNone_iff_eq_none]
    -- both sides grant the ids that are free, and they agree on which these are
    · intro store now hWorking hTerm hSame
      have hHeld : store.table.isLive now = (keys s).isLeased keyspace := funext hSame
      refine ⟨?_, fun id => ?_⟩
      · rw [LeaseStore.acquire_of_working hWorking hTerm, hHeld]
        exact hOut.symm
      · rw [LeaseStore.isLive_acquire_of_working hWorking hTerm, hHeld]
        exact (hFaithful.isLeased_acquire keyspace ids ttl hConnect id).symm

/-- Account 2 is leased already, account 1 is asked for twice, and the server does not
know the script yet. -/
theorem acquire_as_memory_repeated :
    let s : Cache := { keys := ⟨[(leaseKey defaultKeyspace 2, some 5)]⟩ }
    let now : Timestamp := ⟨0⟩
    let store : LeaseStore := { table := ⟨[(2, now + Duration.ofSecs 5)]⟩ }
    let ids : List AccountId := [1, 2, 1, 3]
    let out := Cache.server.acquire defaultKeyspace ids (.ofSecs 60) s
    (Cache.server.connect s).1 = .ok () ∧
    now < now + Duration.ofSecs 60 ∧
    (∀ id, store.table.isLive now id = s.keys.isLeased defaultKeyspace id) ∧
    out.1 = .ok [1, 3] ∧
    out.2.keys.life? (leaseKey defaultKeyspace 2) = some (some 5) ∧
    out.2.keys.life? (leaseKey defaultKeyspace 3) = some (some 60) ∧
    (store.acquire now ids (.ofSecs 60)).1 = .ok [1, 3] := by
  intro s now store ids out
  have hTerm : now < now + Duration.ofSecs 60 := by decide +kernel
  have hSame : ∀ id, store.table.isLive now id = s.keys.isLeased defaultKeyspace id := by
    intro id
    have hNone : KeyTable.isLeased {} defaultKeyspace id = false := rfl
    rw [KeyTable.isLeased_cons, hNone, Bool.or_false]
    by_cases hId : id = 2
    · subst hId
      decide +kernel
    · have hOther : (id == 2) = false := by simpa using hId
      simp [store, LeaseTable.isLive, LeaseTable.expiry?, List.lookup_cons, hOther]
  have hGranted : firstFree (s.keys.isLeased defaultKeyspace) ids = [1, 3] := by decide +kernel
  obtain ⟨-, -, -, -, hReached⟩ := acquire_as_memory Cache.faithful_server defaultKeyspace ids 60
    (by decide) s
  obtain ⟨hOut, -, -, -, hKeys, hMemory⟩ := hReached rfl
  have hStore := (hMemory store now rfl hTerm hSame).1
  rw [hGranted] at hOut hKeys
  refine ⟨rfl, hTerm, hSame, hOut, ?_, ?_, hStore.trans hOut⟩
  · exact (hKeys _).trans (by decide +kernel)
  · exact (hKeys _).trans (by decide +kernel)

end Server

end DueDispatch.Redis
