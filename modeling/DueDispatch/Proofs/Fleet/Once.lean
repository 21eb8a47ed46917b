import DueDispatch.Proofs.Fleet.Steady
import Mathlib.Algebra.Order.BigOperators.Group.Finset

/-!
# DueDispatch — every claimed account is dispatched once

Cycles that run side by side claim overlapping sets of accounts. If they all come
to their end at one reading of the clock, then every account that any of them
claimed and that was not leased before is granted to exactly one of them, and is
published once. Nothing is lost between the claim of a cycle and its messages, and
nothing is done twice.

What is counted for the whole fleet is added up from its cycles, each of which has
a history that is closed (`Dispatcher.Closed`).

## Results

* `Reaches.flatten_requests` — in memory a finished cycle asked for all it claimed.
* `sum_reports` — the counters of the reports add up to those of the histories.
* `perm_requests`, `perm_acceptedIds` — over all cycles, the requests are the claims,
  and the messages are the grants.
* `dispatched_once` — the grants, the counters and the queue after such a run.
-/

namespace DueDispatch

namespace History

/-- Every id of a request is granted or skipped. -/
theorem skipped_add_granted (h : History) (hBounded : ∀ e ∈ h, e.Bounded) :
    (h.map Exchange.skipped).sum + h.granted.length = h.requests.flatten.length := by
  have hEach : ∀ e ∈ h, e.skipped + e.granted.length = (e.requested?.getD []).length := by
    intro e he
    have hBound := hBounded e he
    obtain ⟨call, a⟩ := e
    cases call with
    | claim now p => rfl
    | publish channel texts => rfl
    | lease ids ttl => exact Nat.sub_add_cancel hBound
  rw [flatten_requests, granted, List.length_flatMap, List.length_flatMap, ← List.sum_map_add,
    List.map_congr_left hEach]

end History

namespace Dispatcher

variable {d : Dispatcher} {now : Timestamp} {h : History} {report : Report}

/-- A cycle claims once, and its claim stays within the cap. -/
theorem Reaches.claimed_length_le (hCycle : d.Reaches now h (.finished report))
    (hBounded : ∀ e ∈ h, e.Bounded) : h.claimed.length ≤ d.policy.cap := by
  rcases hCycle.explains with ⟨-, rfl, -⟩ | ⟨-, done, hStage⟩
  · exact Nat.zero_le _
  obtain ⟨a, rest, rfl, -, hRest⟩ := hStage.exists_claim
  -- the other calls bring no claimed ids
  have hNone : History.claimed rest = [] := by
    rw [History.claimed, List.flatMap_eq_nil_iff]
    exact fun e he => (hRest e he).1
  have hHead := hBounded _ List.mem_cons_self
  rw [History.claimed, List.flatMap_cons]
  rw [History.claimed] at hNone
  rw [hNone, List.append_nil]
  exact hHead

/-- In memory a finished cycle has asked for everything it claimed. -/
theorem Reaches.flatten_requests (hCycle : d.Reaches now h (.finished report))
    (hBounded : ∀ e ∈ h, e.Bounded) : h.requests.flatten = h.claimed := by
  rw [hCycle.closed.requests, selection, List.take_of_length_le]
  exact hCycle.claimed_length_le hBounded

/-- If no message was refused, a finished cycle has published what it was granted. -/
theorem Reaches.acceptedIds_eq (hCycle : d.Reaches now h (.finished report))
    (hAccepted : ∀ e ∈ h, e.publishFailed = false) : h.acceptedIds = h.granted := by
  have hRefused : h.refused = [] := by
    rw [History.refused, List.flatMap_eq_nil_iff]
    intro e he
    have hOk := hAccepted e he
    cases hSent : e.sent? <;> cases hFailed : e.failed <;>
      simp_all [Exchange.refused, Exchange.publishFailed]
  -- the accepted payloads are as many as the granted ids, so none is left out
  have hBalance := hCycle.closed.balance
  rw [hRefused, List.length_nil, Nat.add_zero] at hBalance
  have hAll : h.accepted = payloads h.granted := by
    refine hCycle.accepted_sublist.eq_of_length ?_
    rw [hBalance, payloads, List.length_map]
  rw [History.acceptedIds, hAll, payloads, AccountId.filterMap_read?_map_write]

end Dispatcher

namespace Fleet

variable {σ : Type} {f : Fleet σ}

/-- All cycles have come to their end. -/
def Done (f : Fleet σ) : Prop := ∀ p ∈ f.cycles, p.2.report?.isSome = true

/-- Each cycle of a fleet that is done has a report, and a history that leads to it. -/
theorem Tracked.finished (hTracked : f.Tracked) (hDone : f.Done) {i : Nat}
    {p : Dispatcher × Cycle} (hCycle : f.cycles[i]? = some p) :
    ∃ now report, p.2 = .finished report ∧ p.1.Reaches now (f.history i) (.finished report) := by
  obtain ⟨report, hEnd⟩ := Option.isSome_iff_exists.mp (hDone p (List.mem_of_getElem? hCycle))
  have hFinished := Cycle.eq_finished_of_report? hEnd
  obtain ⟨now, hReaches⟩ := hTracked.reaches hCycle
  exact ⟨now, report, hFinished, hFinished ▸ hReaches⟩

/-- If all cycles are finished, a counter of their reports is summed up cycle by cycle. -/
theorem sum_filterMap_report (counter : Report → Nat) (cycles : List (Dispatcher × Cycle))
    (total : Nat → Nat)
    (hEach : ∀ i p, cycles[i]? = some p →
      ∃ report, p.2 = .finished report ∧ counter report = total i) :
    ((cycles.filterMap fun p => p.2.report?).map counter).sum =
      ∑ i ∈ Finset.range cycles.length, total i := by
  induction cycles generalizing total with
  | nil => rfl
  | cons p rest ih =>
    obtain ⟨report, hFinished, hTotal⟩ := hEach 0 p rfl
    have hReport : p.2.report? = some report := by rw [hFinished, Cycle.report?]
    have hRest := ih (fun i => total (i + 1)) fun i q hq => hEach (i + 1) q hq
    rw [List.filterMap_cons_some (f := fun q : Dispatcher × Cycle => q.2.report?) hReport,
      List.map_cons, List.sum_cons, hRest, hTotal, List.length_cons, Finset.sum_range_succ',
      Nat.add_comm]

/-- The counters of the reports add up to what is counted over the log. -/
theorem sum_reports (hTracked : f.Tracked) (hDone : f.Done) (counter : Report → Nat)
    (count : Exchange → Nat)
    (hEach : ∀ (d : Dispatcher) (now : Timestamp) (h : History) (report : Report),
      d.Reaches now h (.finished report) → counter report = (h.map count).sum) :
    (f.reports.map counter).sum = (f.exchanges.map count).sum := by
  rw [sum_exchanges hTracked]
  refine sum_filterMap_report counter f.cycles _ fun i p hCycle => ?_
  obtain ⟨now, report, hFinished, hReaches⟩ := hTracked.finished hDone hCycle
  exact ⟨report, hFinished, hEach p.1 now _ report hReaches⟩

/-- Views of the log that agree for each cycle agree for all. -/
theorem perm_exchanges (hTracked : f.Tracked) {first second : Exchange → List AccountId}
    (hEach : ∀ i < f.cycles.length,
      (f.history i).flatMap first = (f.history i).flatMap second) :
    (f.exchanges.flatMap first).Perm (f.exchanges.flatMap second) := by
  rw [List.perm_iff_count]
  intro id
  rw [List.count_flatMap, List.count_flatMap, sum_exchanges hTracked, sum_exchanges hTracked]
  refine Finset.sum_congr rfl fun i hi => ?_
  rw [← List.count_flatMap, ← List.count_flatMap, hEach i (Finset.mem_range.mp hi)]

/-- The calls of one cycle are among those of the fleet. -/
theorem mem_exchanges_of_mem_history {i : Nat} {e : Exchange} (hMem : e ∈ f.history i) :
    e ∈ f.exchanges := by
  obtain ⟨entry, hEntry, rfl⟩ := List.mem_map.mp hMem
  exact List.mem_map_of_mem (List.mem_filter.mp hEntry).1

/-- Over all cycles, the requests are the claims. -/
theorem perm_requests (hTracked : f.Tracked) (hDone : f.Done)
    (hBounded : ∀ e ∈ f.exchanges, e.Bounded) :
    f.exchanges.requests.flatten.Perm f.exchanges.claimed := by
  rw [History.flatten_requests]
  refine perm_exchanges hTracked fun i hi => ?_
  obtain ⟨now, report, -, hReaches⟩ := hTracked.finished hDone (List.getElem?_eq_getElem hi)
  rw [← History.flatten_requests]
  exact hReaches.flatten_requests fun e he => hBounded e (mem_exchanges_of_mem_history he)

/-- Over all cycles, the messages are the grants, if none was refused. -/
theorem perm_acceptedIds (hTracked : f.Tracked) (hDone : f.Done)
    (hAccepted : ∀ e ∈ f.exchanges, e.publishFailed = false) :
    f.exchanges.acceptedIds.Perm f.exchanges.granted := by
  rw [History.acceptedIds, History.accepted, List.filterMap_flatMap]
  refine perm_exchanges hTracked fun i hi => ?_
  obtain ⟨now, report, -, hReaches⟩ := hTracked.finished hDone (List.getElem?_eq_getElem hi)
  rw [← List.filterMap_flatMap]
  exact hReaches.acceptedIds_eq fun e he => hAccepted e (mem_exchanges_of_mem_history he)

/-- What was granted once over all cycles was granted by one of them. -/
theorem exists_cycle_of_count_eq_one (hTracked : f.Tracked) {id : AccountId}
    (hOnce : f.exchanges.granted.count id = 1) :
    ∃ i < f.cycles.length, (f.history i).granted.count id = 1 ∧
      ∀ j, j ≠ i → id ∉ (f.history j).granted := by
  rw [History.count_granted, sum_exchanges hTracked] at hOnce
  simp only [← History.count_granted] at hOnce
  obtain ⟨i, hIndex, hSome⟩ : ∃ i ∈ Finset.range f.cycles.length,
      (f.history i).granted.count id ≠ 0 :=
    Finset.exists_ne_zero_of_sum_ne_zero (by omega)
  -- the other cycles share what is left of the one
  have hSplit := Finset.add_sum_erase _ (fun i => (f.history i).granted.count id) hIndex
  have hRest :
      ∑ j ∈ (Finset.range f.cycles.length).erase i, (f.history j).granted.count id = 0 := by
    omega
  refine ⟨i, Finset.mem_range.mp hIndex, by omega, fun j hNe => ?_⟩
  by_cases hj : j < f.cycles.length
  · have hZero := Finset.sum_eq_zero_iff.mp hRest j
      (Finset.mem_erase.mpr ⟨hNe, Finset.mem_range.mpr hj⟩)
    exact List.count_eq_zero.mp hZero
  · rw [hTracked.history_eq_nil (Nat.not_lt.mp hj)]
    exact List.not_mem_nil

/-- **Every claimed account is dispatched exactly once** by cycles of any replicas that
run side by side on one memory, at one reading of the clock, whatever the
interleaving of their calls, as long as the lease table works and new leases are
live. The accounts in question are those that some cycle claimed and that were not
leased when the run began.

Each of them is granted to one cycle, once, and nothing else is granted. The reports
count each of them as granted once and everything else they selected as skipped. If
no message is refused, the ids that come onto the queue are these, once each. -/
theorem dispatched_once (m : Memory) (moves : List (Move Incident))
    (hLeases : m.leases.failing = false)
    (hTerm : ∀ d, Move.start d ∈ moves → m.clock < m.clock + d.ttl)
    (hDone : (Fleet.run Memory.world { shared := m } moves).Done) :
    let f := Fleet.run Memory.world { shared := m } moves
    let pending : Finset AccountId :=
      f.exchanges.claimed.toFinset.filter fun id => m.isLeased id = false
    (∀ id ∈ pending, ∃ i < f.cycles.length, (f.history i).granted.count id = 1 ∧
      ∀ j, j ≠ i → id ∉ (f.history j).granted) ∧
    (∀ i, ∀ id ∈ (f.history i).granted, id ∈ pending) ∧
    f.reports.length = f.cycles.length ∧
    (f.reports.map Report.granted).sum = pending.card ∧
    (f.reports.map Report.skipped).sum + pending.card = (f.reports.map Report.selected).sum ∧
    ((∀ e ∈ f.exchanges, e.publishFailed = false) →
      ∃ new, f.shared.queue.publishedIds = m.queue.publishedIds ++ new ∧
        (new : Multiset AccountId) = pending.val) := by
  intro f pending
  have hTracked : f.Tracked := tracked_run Memory.world m moves
  have hSteady : Steady m f.exchanges f.shared := steady_run hLeases moves hTerm
  -- the invariant speaks of what was asked for, and that is what was claimed
  have hMem : ∀ id, id ∈ f.exchanges.granted ↔ id ∈ pending := by
    intro id
    rw [hSteady.mem_granted_iff, (perm_requests hTracked hDone hSteady.bounded).mem_iff,
      Finset.mem_filter, List.mem_toFinset]
  have hSet : f.exchanges.granted.toFinset = pending := by
    ext id
    rw [List.mem_toFinset, hMem]
  have hCard : f.exchanges.granted.length = pending.card := by
    rw [← hSet, List.toFinset_card_of_nodup hSteady.nodup]
  -- the counters of the reports, as counts over the log
  have hGranted : (f.reports.map Report.granted).sum = f.exchanges.granted.length := by
    rw [History.granted, List.length_flatMap]
    refine sum_reports hTracked hDone _ _ fun d now h report hReaches => ?_
    rw [hReaches.closed.report, History.tally, History.granted, List.length_flatMap]
  have hSkipped : (f.reports.map Report.skipped).sum = (f.exchanges.map Exchange.skipped).sum := by
    refine sum_reports hTracked hDone _ _ fun d now h report hReaches => ?_
    rw [hReaches.closed.report, History.tally]
  have hSelected : (f.reports.map Report.selected).sum = f.exchanges.requests.flatten.length := by
    rw [History.flatten_requests, List.length_flatMap]
    refine sum_reports hTracked hDone _ _ fun d now h report hReaches => ?_
    rw [← List.length_flatMap, ← History.flatten_requests, hReaches.closed.requests,
      hReaches.closed.report]
    rfl
  -- granted once over all cycles, so granted by one of them
  refine ⟨?_, ?_, ?_, hGranted.trans hCard, ?_, ?_⟩
  · intro id hId
    refine exists_cycle_of_count_eq_one hTracked ?_
    exact List.count_eq_one_of_mem hSteady.nodup ((hMem id).mpr hId)
  · intro i id hId
    obtain ⟨e, he, hIn⟩ := List.mem_flatMap.mp hId
    exact (hMem id).mp (List.mem_flatMap.mpr ⟨e, mem_exchanges_of_mem_history he, hIn⟩)
  · exact List.filterMap_length_eq_length.mpr hDone
  · rw [hSkipped, hSelected, ← hCard]
    exact History.skipped_add_granted _ hSteady.bounded
  · intro hAccepted
    refine ⟨_, hSteady.published, ?_⟩
    rw [Multiset.coe_eq_coe.mpr (perm_acceptedIds hTracked hDone hAccepted), ← hSet,
      List.toFinset_val, List.dedup_eq_self.mpr hSteady.nodup]

/-- Account 7 at the reading 1000, unchecked since 0. -/
def oneDue : Memory where
  clock := (⟨0⟩ : Timestamp) + Duration.ofSecs 1000
  accounts := { table := .ofList [⟨7, ⟨0⟩, ⟨0⟩⟩] }

/-- Two cycles that take turns, one with chunks of one id and one with chunks of ten. -/
def turns : List (Move Incident) :=
  let p : Policy := ⟨.ofSecs 300, .ofSecs 30, 10⟩
  [.start ⟨p, .ofSecs 30, defaultChannel, 1⟩, .start ⟨p, .ofSecs 30, defaultChannel, 10⟩,
    .call 0, .call 1, .call 1, .call 0, .call 1]

/-- Both cycles claim the account, and the one that asks first for the lease
dispatches it. -/
theorem dispatched_once_turns :
    let f := Fleet.run Memory.world { shared := oneDue } turns
    f.Done ∧
    f.exchanges.claimed = [7, 7] ∧
    (∃ i < f.cycles.length, (f.history i).granted.count 7 = 1 ∧
      ∀ j, j ≠ i → 7 ∉ (f.history j).granted) ∧
    (f.reports.map Report.granted).sum = 1 ∧
    (f.reports.map Report.skipped).sum + 1 = (f.reports.map Report.selected).sum ∧
    ∃ new, f.shared.queue.publishedIds = oneDue.queue.publishedIds ++ new ∧
      (new : Multiset AccountId) = {7} := by
  intro f
  have hTerm : ∀ d, Move.start d ∈ turns → oneDue.clock < oneDue.clock + d.ttl := by
    intro d hStart
    have hTtl : d.ttl = .ofSecs 30 := by
      simp only [turns, List.mem_cons, Move.start.injEq, reduceCtorEq, List.not_mem_nil,
        or_false] at hStart
      rcases hStart with rfl | rfl <;> rfl
    rw [hTtl]
    decide +kernel
  have hDone : f.Done := by
    show ∀ p ∈ f.cycles, p.2.report?.isSome = true
    decide +kernel
  have hClaimed : f.exchanges.claimed = [7, 7] := by decide +kernel
  have hPending : f.exchanges.claimed.toFinset.filter (fun id => oneDue.isLeased id = false) =
      {7} := by
    rw [hClaimed]
    decide +kernel
  have hAccepted : ∀ e ∈ f.exchanges, e.publishFailed = false := by decide +kernel
  obtain ⟨hOnce, -, -, hGranted, hSkipped, hQueue⟩ := dispatched_once oneDue turns rfl hTerm hDone
  rw [hPending] at hOnce hGranted hSkipped hQueue
  exact ⟨hDone, hClaimed, hOnce 7 (Finset.mem_singleton_self 7), hGranted, hSkipped,
    hQueue hAccepted⟩

end Fleet

end DueDispatch
