import DueDispatch.Proofs.Fleet.Basic
import DueDispatch.Proofs.Memory.Rulings
import Mathlib.Algebra.Order.BigOperators.Group.Finset

/-!
# DueDispatch — no two replicas hold a lease

Any number of cycles ask one lease store. What answers their claims and takes
their messages is left open, and so is the clock: it may be set to anything
between two calls, and every backend may fail at any time. A `Leasehold` is the
state they share, and a `Disturbance` is what happens to it between the calls.

The log of a run says which requests were made and what came back. `rulings`
reads off it what was decided about every requested id.

## Results

* `accounted_run` — the lease table records the latest grants of the log, and the
  rulings are lawful.
* `count_acceptedIds_le` — no id is accepted by the queue more often than it was
  granted.
* `exclusive_run` — leases exclude each other over whole runs.
-/

namespace DueDispatch

/-- A lease store and its clock, and whatever else the cycles share. -/
structure Leasehold (τ : Type) where
  clock : Timestamp
  leases : LeaseStore
  outside : τ

/-- What may happen to a `Leasehold` between two calls. -/
inductive Disturbance (τ : Type)
  | setClock (time : Timestamp)
  | failLeases (failing : Bool)
  | outside (s : τ)

variable {τ : Type}

/-- Lease requests go to the store, all other calls to the backends `outside`. -/
def Leasehold.world (outside : Backends τ) : World (Leasehold τ) (Disturbance τ) where
  backends
    | .claim now policy, s =>
      let (answer, other) := outside (.claim now policy) s.outside
      (answer, { s with outside := other })
    | .lease ids ttl, s =>
      let (result, leases) := s.leases.acquire s.clock ids ttl
      (⟨result, 0⟩, { s with leases })
    | .publish channel payloads, s =>
      let (answer, other) := outside (.publish channel payloads) s.outside
      (answer, { s with outside := other })
  clock := Leasehold.clock
  change
    | .setClock time, s => { s with clock := time }
    | .failLeases failing, s => { s with leases := { s.leases with failing } }
    | .outside other, s => { s with outside := other }

/-- What a call decided about the ids it requested; nothing if it failed. -/
def Entry.rulings (e : Entry) : List Ruling :=
  match e.exchange with
  | ⟨.lease ids ttl, ⟨.ok reply, _⟩⟩ => rulingsOf e.cycle e.time (e.time + ttl) ids reply
  | _ => []

namespace Fleet

/-- Everything that was decided so far, in the order of the decisions. -/
def rulings {σ : Type} (f : Fleet σ) : List Ruling := f.log.flatMap Entry.rulings

/-- The lease table records the latest grants, and nothing was decided otherwise
than by them. -/
structure Accounted (f : Fleet (Leasehold τ)) : Prop where
  lawful : Lawful f.rulings
  records : Records f.rulings f.shared.leases.table
  replies : ∀ e ∈ f.log, ∀ ids ttl reply elapsed,
    e.exchange = ⟨.lease ids ttl, ⟨.ok reply, elapsed⟩⟩ → reply.Sublist ids

variable {outside : Backends τ} {f : Fleet (Leasehold τ)}

/-- A call that decides nothing and leaves the lease table alone changes nothing. -/
theorem Accounted.of_no_rulings {g : Fleet (Leasehold τ)} (hAccounted : f.Accounted)
    (hTable : g.shared.leases.table = f.shared.leases.table) (e : Entry)
    (hLog : g.log = f.log ++ [e]) (hNone : e.rulings = [])
    (hFailed : ∀ ids ttl reply elapsed, e.exchange ≠ ⟨.lease ids ttl, ⟨.ok reply, elapsed⟩⟩) :
    g.Accounted := by
  have hRulings : g.rulings = f.rulings := by
    rw [rulings, hLog, List.flatMap_append, List.flatMap_singleton, hNone, List.append_nil]
    rfl
  refine ⟨hRulings ▸ hAccounted.lawful, ?_, ?_⟩
  · rw [hRulings, hTable]
    exact hAccounted.records
  · intro e' he' ids ttl reply elapsed hCall
    rw [hLog] at he'
    rcases List.mem_append.mp he' with hOld | hNew
    · exact hAccounted.replies e' hOld ids ttl reply elapsed hCall
    · obtain rfl := List.mem_singleton.mp hNew
      exact absurd hCall (hFailed ids ttl reply elapsed)

/-- What a lease request makes of the table, whatever the other backends do. -/
theorem backends_lease (ids : List AccountId) (ttl : Duration) (s : Leasehold τ) :
    (Leasehold.world outside).backends (.lease ids ttl) s =
      (⟨(s.leases.acquire s.clock ids ttl).1, 0⟩,
        { s with leases := (s.leases.acquire s.clock ids ttl).2 }) := rfl

/-- The lease table records what a call decides. -/
theorem accounted_call (hAccounted : f.Accounted) (i : Nat) :
    (f.call (Leasehold.world outside) i).Accounted := by
  rcases f.call_cases (Leasehold.world outside) i with hSame | ⟨d, c, call, -, -, hEq⟩
  · rw [hSame]
    exact hAccounted
  rw [hEq]
  cases call with
  -- calls to the other backends decide nothing
  | claim now policy => exact hAccounted.of_no_rulings rfl _ rfl rfl (by simp)
  | publish channel payloads => exact hAccounted.of_no_rulings rfl _ rfl rfl (by simp)
  -- a request that fails decides nothing either; any other is one pass over the table
  | lease ids ttl =>
    rw [backends_lease, LeaseStore.acquire]
    cases hFailing : f.shared.leases.failing with
    | true => exact hAccounted.of_no_rulings rfl _ rfl rfl (by simp)
    | false =>
      obtain ⟨hLawful, hRecords⟩ := lawful_acquire i f.shared.clock (f.shared.clock + ttl) ids
        hAccounted.lawful hAccounted.records
      refine ⟨?_, ?_, ?_⟩
      · rw [rulings, List.flatMap_append, List.flatMap_singleton]
        exact hLawful
      · rw [rulings, List.flatMap_append, List.flatMap_singleton]
        exact hRecords
      · intro e he ids' ttl' reply elapsed hCall
        rcases List.mem_append.mp he with hOld | hNew
        · exact hAccounted.replies e hOld ids' ttl' reply elapsed hCall
        · obtain rfl := List.mem_singleton.mp hNew
          cases hCall
          exact LeaseTable.acquire_sublist _ _ _ _

/-- Every move keeps the account: no move but a call decides anything or touches the table. -/
theorem accounted_step (hAccounted : f.Accounted) (m : Move (Disturbance τ)) :
    (f.step (Leasehold.world outside) m).Accounted := by
  cases m with
  | start d => exact ⟨hAccounted.lawful, hAccounted.records, hAccounted.replies⟩
  | call i => exact accounted_call hAccounted i
  | change e =>
    -- no disturbance touches the lease table
    cases e <;> exact ⟨hAccounted.lawful, hAccounted.records, hAccounted.replies⟩

/-- **The lease table records the latest grants of a run**, and every ruling of the
run follows from them. -/
theorem accounted_run (outside : Backends τ) (clock : Timestamp) (failing : Bool) (other : τ)
    (moves : List (Move (Disturbance τ))) :
    (Fleet.run (Leasehold.world outside) { shared := ⟨clock, ⟨{}, failing⟩, other⟩ }
      moves).Accounted := by
  refine run_induction moves ⟨lawful_nil, fun _ => rfl, ?_⟩ fun _ hAccounted m _ =>
    accounted_step hAccounted m
  intro e he
  simp at he

/-- The rulings of a run are as sorted as the readings of its clock. -/
theorem sorted_rulings {σ : Type} {f : Fleet σ}
    (hClock : f.log.Pairwise fun a b => a.time ≤ b.time) :
    Sorted f.rulings := by
  have hTime : ∀ e : Entry, ∀ r ∈ e.rulings, r.time = e.time := by
    intro e r hr
    unfold Entry.rulings at hr
    split at hr
    · obtain ⟨v, -, rfl⟩ := List.mem_map.mp hr
      rfl
    · simp at hr
  -- within one call the readings are equal, and between two calls those of the log
  rw [Sorted, rulings, List.pairwise_flatMap]
  refine ⟨fun e _ => List.pairwise_of_forall_mem_list ?_, hClock.imp fun hLe a ha b hb => ?_⟩
  · intro a ha b hb
    exact Or.inl ((hTime e a ha).trans (hTime e b hb).symm)
  · rw [hTime _ a ha, hTime _ b hb]
    exact Or.inr hLe

-- ---------------------------------------------------------------------------
-- Messages
-- ---------------------------------------------------------------------------

/-- The ids that a cycle got accepted stand among those it was granted, in order. -/
theorem Tracked.acceptedIds_sublist {σ : Type} {f : Fleet σ} (hTracked : f.Tracked) (i : Nat) :
    (f.history i).acceptedIds.Sublist (f.history i).granted := by
  cases hCycle : f.cycles[i]? with
  | some p =>
    obtain ⟨now, hReaches⟩ := hTracked.reaches hCycle
    exact hReaches.acceptedIds_sublist
  | none =>
    rw [hTracked.history_eq_nil (List.getElem?_eq_none_iff.mp hCycle)]
    exact List.nil_sublist _

/-- No id is accepted by the queue more often than it was granted. -/
theorem count_acceptedIds_le {σ : Type} {f : Fleet σ} (hTracked : f.Tracked) (id : AccountId) :
    f.exchanges.acceptedIds.count id ≤ f.exchanges.granted.count id := by
  rw [History.count_acceptedIds, History.count_granted, sum_exchanges hTracked,
    sum_exchanges hTracked]
  -- it is enough to compare the two counts cycle by cycle
  refine Finset.sum_le_sum fun i _ => ?_
  rw [← History.count_acceptedIds, ← History.count_granted]
  exact (hTracked.acceptedIds_sublist i).count_le id

-- ---------------------------------------------------------------------------
-- Whole runs
-- ---------------------------------------------------------------------------

/-- The rulings on a request that was answered: one for each of its ids, and the
granted ones are its reply. -/
theorem Accounted.rulings_of_reply (hAccounted : f.Accounted) {e : Entry} (hEntry : e ∈ f.log)
    {ids reply : List AccountId} {ttl : Duration} {elapsed : Nat}
    (hCall : e.exchange = ⟨.lease ids ttl, ⟨.ok reply, elapsed⟩⟩) :
    e.rulings.map Ruling.id = ids ∧
      (e.rulings.filter Ruling.granted).map Ruling.id = reply ∧
      ∀ r ∈ e.rulings, r.cycle = e.cycle ∧ r.time = e.time ∧ r.expiry = e.time + ttl := by
  have hRulings : e.rulings = rulingsOf e.cycle e.time (e.time + ttl) ids reply := by
    rw [Entry.rulings, hCall]
  have hReply := hAccounted.replies e hEntry ids ttl reply elapsed hCall
  rw [hRulings]
  refine ⟨ids_rulingsOf _ _ _ _ _, granted_rulingsOf _ _ _ hReply, ?_⟩
  intro r hr
  obtain ⟨v, -, rfl⟩ := List.mem_map.mp hr
  exact ⟨rfl, rfl, rfl⟩

/-- What the calls of a run brought is what its rulings granted. -/
theorem Accounted.granted_exchanges (hAccounted : f.Accounted) :
    f.exchanges.granted = (f.rulings.filter Ruling.granted).map Ruling.id := by
  have hEntry : ∀ e ∈ f.log,
      e.exchange.granted = (e.rulings.filter Ruling.granted).map Ruling.id := by
    intro e he
    obtain ⟨cycle, time, ⟨call, result, elapsed⟩⟩ := e
    cases call with
    | claim now policy => rfl
    | publish channel payloads => rfl
    | lease ids ttl =>
      cases result with
      | error cause => rfl
      | ok reply => exact (hAccounted.rulings_of_reply he rfl).2.1.symm
  rw [History.granted, exchanges, List.flatMap_map, rulings, List.filter_flatMap, List.map_flatMap]
  exact congrArg List.flatten (List.map_congr_left hEntry)

/-- **Leases exclude each other over whole runs**: for any number of cycles of any
replicas, in any interleaving of their calls, whatever the other backends answer,
whatever fails and however the clock is set.

The rulings of the run are decisions on the ids that were asked for, and the table
holds the expiry of the latest grant of each id. An id is granted only when its
latest grant has run out, and refused only while it has not. What a cycle gets
accepted by the queue stands in order among what it was granted.

If moreover the clock never goes back, an id is not granted while any earlier lease
on it lasts; and if no lease of the run runs out in it, no id is granted or accepted
twice. -/
theorem exclusive_run (outside : Backends τ) (clock : Timestamp) (failing : Bool) (other : τ)
    (moves : List (Move (Disturbance τ))) :
    let f := Fleet.run (Leasehold.world outside) { shared := ⟨clock, ⟨{}, failing⟩, other⟩ } moves
    (∀ e ∈ f.log, ∀ ids ttl reply elapsed,
      e.exchange = ⟨.lease ids ttl, ⟨.ok reply, elapsed⟩⟩ →
        e.rulings.map Ruling.id = ids ∧
        (e.rulings.filter Ruling.granted).map Ruling.id = reply ∧
        ∀ r ∈ e.rulings, r.cycle = e.cycle ∧ r.time = e.time ∧ r.expiry = e.time + ttl) ∧
    (∀ id, f.shared.leases.table.expiry? id = (latestGrant id f.rulings).map Ruling.expiry) ∧
    (∀ before r after, f.rulings = before ++ r :: after → r.granted = true →
      ∀ g, latestGrant r.id before = some g → ¬ r.time < g.expiry) ∧
    (∀ before r after, f.rulings = before ++ r :: after → r.granted = false →
      ∃ g, latestGrant r.id before = some g ∧ r.time < g.expiry) ∧
    (∀ i, (f.history i).acceptedIds.Sublist (f.history i).granted) ∧
    (∀ id, f.exchanges.acceptedIds.count id ≤ f.exchanges.granted.count id) ∧
    ((f.log.Pairwise fun a b => a.time ≤ b.time) →
      ∀ g r, [g, r].Sublist f.rulings → g.granted = true → r.granted = true → g.id = r.id →
        ¬ r.time < g.expiry) ∧
    ((∀ g ∈ f.rulings, g.granted = true → ∀ r ∈ f.rulings, r.time < g.expiry) →
      ∀ id, f.exchanges.granted.count id ≤ 1 ∧ f.exchanges.acceptedIds.count id ≤ 1) := by
  intro f
  have hAccounted : f.Accounted := accounted_run outside clock failing other moves
  have hTracked : f.Tracked := tracked_run (Leasehold.world outside) _ moves
  refine ⟨?_, hAccounted.records, ?_, ?_, hTracked.acceptedIds_sublist,
    count_acceptedIds_le hTracked, ?_, ?_⟩
  · exact fun e hEntry ids ttl reply elapsed hCall => hAccounted.rulings_of_reply hEntry hCall
  · exact fun before r after hSplit hGranted =>
      (hAccounted.lawful before r after hSplit).mp hGranted
  -- a refusal without a lasting lease would have been a grant
  · intro before r after hSplit hRefused
    by_contra hNone
    have hGranted : r.granted = true := (hAccounted.lawful before r after hSplit).mpr
      fun g hLatest hLive => hNone ⟨g, hLatest, hLive⟩
    simp [hRefused] at hGranted
  · exact fun hClock g r hPair hFirst hLater hSame =>
      hAccounted.lawful.not_lt_of_sorted (sorted_rulings hClock) hPair hFirst hLater hSame
  · intro hLasting id
    have hOnce : f.exchanges.granted.count id ≤ 1 := by
      rw [hAccounted.granted_exchanges]
      exact List.nodup_iff_count_le_one.mp (hAccounted.lawful.nodup_granted hLasting) id
    exact ⟨hOnce, (count_acceptedIds_le hTracked id).trans hOnce⟩

/-- Backends that find account 7 due whenever they are asked, and accept every
message. -/
def sevenDue : Backends Unit
  | .claim .., s => (⟨.ok [7], 0⟩, s)
  | .lease .., s => (⟨.ok [], 0⟩, s)
  | .publish .., s => (⟨.ok (), 0⟩, s)

/-- Three cycles ask for account 7: two at the same reading, and one when the lease
of the first has run out. Only the first cycle goes on to publish. -/
def handover : List (Move (Disturbance Unit)) :=
  let d : Dispatcher := ⟨⟨.ofSecs 300, .ofSecs 30, 1⟩, .ofSecs 30, defaultChannel, 1⟩
  [.start d, .call 0, .call 0, .start d, .call 1, .call 1,
    .change (.setClock ((⟨0⟩ : Timestamp) + Duration.ofSecs 31)), .start d, .call 2, .call 0,
    .call 2]

/-- The second cycle of the handover is refused, and the third is not. -/
theorem exclusive_run_handover :
    let f := Fleet.run (Leasehold.world sevenDue) { shared := ⟨⟨0⟩, ⟨{}, false⟩, ()⟩ } handover
    let zero : Timestamp := ⟨0⟩
    let late : Timestamp := zero + Duration.ofSecs 31
    let first : Ruling := ⟨0, 7, zero, zero + Duration.ofSecs 30, true⟩
    let second : Ruling := ⟨1, 7, zero, zero + Duration.ofSecs 30, false⟩
    let third : Ruling := ⟨2, 7, late, late + Duration.ofSecs 30, true⟩
    f.rulings = [first, second, third] ∧
    (∃ g, latestGrant 7 [first] = some g ∧ second.time < g.expiry) ∧
    (latestGrant 7 [first, second] = some first ∧ ¬ third.time < first.expiry) ∧
    (f.log.Pairwise fun a b => a.time ≤ b.time) := by
  intro f zero late first second third
  have hRulings : f.rulings = [first, second, third] := by decide +kernel
  have hClock : f.log.Pairwise fun a b => a.time ≤ b.time := by decide +kernel
  obtain ⟨-, -, hGrants, hRefusals, -⟩ := exclusive_run sevenDue ⟨0⟩ false () handover
  have hFree := hGrants [first, second] third [] hRulings rfl first rfl
  exact ⟨hRulings, hRefusals [first] second [third] hRulings rfl, ⟨rfl, hFree⟩, hClock⟩

end Fleet

end DueDispatch
