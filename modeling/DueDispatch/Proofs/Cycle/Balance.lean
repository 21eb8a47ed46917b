import DueDispatch.Proofs.Cycle.Calls

/-!
# DueDispatch — the report of a cycle balances

A report is read in operation without the calls behind it. So its counters have to
agree with each other and with the calls, whatever the backends answered: what was
granted was offered to the queue, what was selected was granted or skipped, and a
failure is counted where it happened and nowhere else.

The one inequality comes from replies that grant more than they were asked for. The
surplus counts as granted, and it does not make up for what another chunk skipped.

## Results

* `length_requests_le` — what is asked for is granted or skipped, and exactly so
  if no reply exceeds its request.
* `Reaches.of_claimFailed` — a cycle whose claim failed makes no other call.
* `balance_of_runCycle` — the counters of a report, for any backends.
-/

namespace DueDispatch

namespace Exchange

/-- A call that failed was a claim, a lease request or a message. -/
theorem failed_iff (e : Exchange) :
    e.failed = true ↔ e.claimFailed = true ∨ e.leaseFailed = true ∨ e.publishFailed = true := by
  obtain ⟨call, a⟩ := e
  cases call <;> simp [claimFailed, leaseFailed, publishFailed, requested?, sent?]

/-- What one call asks for is granted or skipped; more is granted only by a reply
that exceeds its request. -/
theorem asked_le (e : Exchange) :
    (e.requested?.getD []).length ≤ e.granted.length + e.skipped ∧
      ((e.requested?.getD []).length = e.granted.length + e.skipped ↔
        e.granted.length ≤ (e.requested?.getD []).length) := by
  obtain ⟨call, a⟩ := e
  cases call with
  | claim now p => simp [requested?, granted, skipped]
  | publish channel texts => simp [requested?, granted, skipped]
  | lease ids ttl =>
    simp only [requested?, granted, skipped, Option.getD_some]
    omega

end Exchange

namespace History

/-- What is asked for is granted or skipped, and exactly so if no reply exceeds its
request. -/
theorem length_requests_le (h : History) :
    h.requests.flatten.length ≤ h.granted.length + (h.map Exchange.skipped).sum ∧
      (h.requests.flatten.length = h.granted.length + (h.map Exchange.skipped).sum ↔
        ∀ e ∈ h, e.granted.length ≤ (e.requested?.getD []).length) := by
  induction h with
  | nil => simp [requests, granted]
  | cons e rest ih =>
    obtain ⟨hLe, hEq⟩ := ih
    obtain ⟨hHead, hHeadEq⟩ := e.asked_le
    rw [flatten_requests] at hLe hEq ⊢
    rw [granted, List.flatMap_cons, List.flatMap_cons, List.map_cons, List.sum_cons,
      List.length_append, List.length_append, ← granted, List.forall_mem_cons, ← hHeadEq, ← hEq]
    -- both sides are sums of inequalities, so they are equal only if each part is
    omega

/-- Only a reply to a lease request can exceed its request. -/
theorem forall_granted_le_iff (h : History) :
    (∀ e ∈ h, e.granted.length ≤ (e.requested?.getD []).length) ↔
      ∀ ids ttl reply elapsed, (⟨.lease ids ttl, ⟨.ok reply, elapsed⟩⟩ : Exchange) ∈ h →
        reply.length ≤ ids.length := by
  constructor
  · intro hAll ids ttl reply elapsed hMem
    exact hAll _ hMem
  · rintro hAll ⟨call, ⟨result, elapsed⟩⟩ hMem
    cases call with
    | claim now p => simp [Exchange.granted]
    | publish channel texts => simp [Exchange.granted]
    | lease ids ttl =>
      cases result with
      | error cause => simp [Exchange.granted, Answer.ids]
      | ok reply => exact hAll ids ttl reply elapsed hMem

/-- Where no lease was requested none was granted. -/
theorem granted_eq_nil (h : History) (hNone : h.requests = []) : h.granted = [] := by
  rw [granted, List.flatMap_eq_nil_iff]
  rintro ⟨call, a⟩ hMem
  cases call with
  | claim now p => rfl
  | publish channel texts => rfl
  | lease ids ttl =>
    have hAsked : ids ∈ h.requests := List.mem_filterMap.mpr ⟨_, hMem, rfl⟩
    rw [hNone] at hAsked
    simp at hAsked

/-- A report shows errors exactly when some call failed. -/
theorem hasErrors_tally (cap : Nat) (h : History) :
    (h.tally cap).hasErrors = true ↔ ∃ e ∈ h, e.failed = true := by
  simp only [Report.hasErrors, tally, Bool.or_eq_true, decide_eq_true_eq, List.any_eq_true,
    List.countP_pos_iff, Exchange.failed_iff]
  constructor
  · rintro ((⟨e, hMem, hFailed⟩ | ⟨e, hMem, hFailed⟩) | ⟨e, hMem, hFailed⟩)
    · exact ⟨e, hMem, Or.inl hFailed⟩
    · exact ⟨e, hMem, Or.inr (Or.inl hFailed)⟩
    · exact ⟨e, hMem, Or.inr (Or.inr hFailed)⟩
  · rintro ⟨e, hMem, hFailed | hFailed | hFailed⟩
    · exact Or.inl (Or.inl ⟨e, hMem, hFailed⟩)
    · exact Or.inl (Or.inr ⟨e, hMem, hFailed⟩)
    · exact Or.inr ⟨e, hMem, hFailed⟩

end History

namespace Dispatcher

variable {σ : Type} {d : Dispatcher} {now : Timestamp} {h : History} {report : Report}

/-- A claim that brought nothing is the only call of its cycle. -/
theorem Publishing.eq_singleton {done : List (List AccountId)}
    (hStage : d.Publishing now h done [] report) (hNone : h.claimed = []) :
    ∃ a, h = [⟨.claim now d.policy, a⟩] := by
  have hRequests : h.requests = [] := by
    rw [hStage.requests, selection, hNone, List.take_nil, chunks_nil]
  -- nothing was asked for, so nothing was granted, and there is nothing to publish
  have hDone : done = [] := by
    have hChunks := hStage.chunks
    rwa [h.granted_eq_nil hRequests, chunks_nil, List.append_nil] at hChunks
  obtain ⟨a, rest, hCons, hRest, -⟩ := hStage.exists_claim
  rw [hRequests, hDone] at hRest
  rw [List.map_eq_nil_iff.mp hRest] at hCons
  exact ⟨a, hCons⟩

/-- A cycle whose claim failed makes no other call, and its report says nothing else. -/
theorem Reaches.of_claimFailed (hCycle : d.Reaches now h (.finished report)) {e : Exchange}
    (hMem : e ∈ h) (hFailed : e.claimFailed = true) :
    h.calls = [.claim now d.policy] ∧
      report = { selectionFailed := true, elapsed := report.elapsed } := by
  rcases hCycle.explains with ⟨-, rfl, -⟩ | ⟨-, done, hStage⟩
  · simp at hMem
  obtain ⟨a, rest, hCons, -, hRest⟩ := hStage.exists_claim
  -- no other call is a claim, so it is the first one that failed
  have hFirst : e = ⟨.claim now d.policy, a⟩ := by
    rw [hCons] at hMem
    rcases List.mem_cons.mp hMem with hHead | hTail
    · exact hHead
    · have hNot := (hRest e hTail).2
      rw [hFailed] at hNot
      contradiction
  obtain ⟨result, elapsed⟩ := a
  cases result with
  | ok ids =>
    rw [hFirst] at hFailed
    simp [Exchange.claimFailed, Exchange.failed] at hFailed
  | error cause =>
    have hClaimed : h.claimed = [] := by
      rw [hCons, History.claimed, List.flatMap_cons,
        List.flatMap_eq_nil_iff.mpr fun e he => (hRest e he).1]
      rfl
    obtain ⟨b, hOnly⟩ := hStage.eq_singleton hClaimed
    have hSame : b = ⟨.error cause, elapsed⟩ := by
      rw [hOnly] at hCons
      simpa using (List.cons.inj hCons).1
    rw [hStage.report, History.tally, hClaimed, List.take_nil, hOnly, hSame]
    exact ⟨rfl, rfl⟩

/-- **The report of a cycle balances**, for any backends. The selection stays within
the cap. Everything granted was accepted by the queue or is counted as failed.
Everything selected was granted or skipped; only a reply that exceeds its request
makes the two come to more. Failures are counted by the calls that failed. A claim
that failed is the only call of its cycle, and nothing else is reported then. -/
theorem balance_of_runCycle (d : Dispatcher) (backends : Backends σ) (now : Timestamp) (s : σ) :
    let run := d.runCycle backends.logged now (s, [])
    let report := run.1
    let h : History := run.2.2
    report = (d.runCycle backends now s).1 ∧
    report.selected ≤ d.policy.cap ∧
    report.granted = report.enqueued + report.failed ∧
    report.selected ≤ report.granted + report.skipped ∧
    (report.selected = report.granted + report.skipped ↔
      ∀ ids ttl reply elapsed, (⟨.lease ids ttl, ⟨.ok reply, elapsed⟩⟩ : Exchange) ∈ h →
        reply.length ≤ ids.length) ∧
    report.leaseFailures = h.countP Exchange.leaseFailed ∧
    report.publishFailures = h.countP Exchange.publishFailed ∧
    (report.selectionFailed = true ↔ ∃ e ∈ h, e.claimFailed = true) ∧
    (report.selectionFailed = true →
      h.calls = [.claim now d.policy] ∧
        report = { selectionFailed := true, elapsed := report.elapsed }) ∧
    (report.hasErrors = true ↔ ∃ e ∈ h, e.failed = true) := by
  intro run report h
  have hReaches : d.Reaches now h (.finished report) :=
    reaches_run_logged backends (s, []) .begin
  -- the report of a finished cycle is the tally of its history
  obtain ⟨hRequests, hBalance, hReport⟩ := hReaches.closed
  have hRun := congrArg Prod.fst (d.run_logged backends (d.begin now) s [])
  have hSelected : report.selected = h.requests.flatten.length := by
    rw [hRequests, hReport]
    rfl
  have hGranted : report.granted = h.granted.length := by rw [hReport, History.tally]
  have hSkipped : report.skipped = (h.map Exchange.skipped).sum := by rw [hReport, History.tally]
  have hFailed : report.selectionFailed = true ↔ ∃ e ∈ h, e.claimFailed = true := by
    rw [hReport, History.tally, List.any_eq_true]
  refine ⟨hRun, ?_, ?_, ?_, ?_, ?_, ?_, hFailed, ?_, ?_⟩
  · rw [hReport, History.tally]
    exact List.length_take_le _ _
  · rw [hGranted, ← hBalance, hReport, History.tally]
  · rw [hSelected, hGranted, hSkipped]
    exact h.length_requests_le.1
  · rw [hSelected, hGranted, hSkipped, h.length_requests_le.2, h.forall_granted_le_iff]
  · rw [hReport, History.tally]
  · rw [hReport, History.tally]
  · intro hSelection
    obtain ⟨e, hMem, hClaim⟩ := hFailed.mp hSelection
    exact hReaches.of_claimFailed hMem hClaim
  · rw [hReport]
    exact h.hasErrors_tally d.policy.cap

/-- Backends whose store is down and whose other calls would succeed. -/
def unclaiming : Backends Nat
  | .claim .., n => (⟨.error (.storage "down"), 3⟩, n + 1)
  | .lease ids _, n => (⟨.ok ids, 2⟩, n + 1)
  | .publish .., n => (⟨.ok (), 1⟩, n + 1)

/-- A cycle whose claim fails ends with it. -/
theorem runCycle_unclaiming :
    pairs.runCycle unclaiming.logged ⟨0⟩ (0, []) =
      ({ selectionFailed := true, elapsed := 3 }, 1,
        [⟨.claim ⟨0⟩ pairs.policy, ⟨.error (.storage "down"), 3⟩⟩]) := by
  rw [runCycle, Dispatcher.begin, if_neg (by decide), run_eq_run_step _ _ _ rfl]
  simp only [step, Backends.logged, unclaiming, claimed, capped, Except.map]
  rw [run_finished]
  rfl

/-- A claim that fails ends its cycle. In the other run a lease call fails, and an
earlier reply exceeds its request, so more is granted and skipped than was selected. -/
theorem balance_of_runCycle_failing :
    let down := pairs.runCycle unclaiming.logged ⟨0⟩ (0, [])
    let run := pairs.runCycle unruly.logged ⟨0⟩ (0, [])
    (down.1.selectionFailed = true ∧ History.calls down.2.2 = [.claim ⟨0⟩ pairs.policy] ∧
      down.1 = { selectionFailed := true, elapsed := down.1.elapsed }) ∧
    run.1.selected = 3 ∧ run.1.granted + run.1.skipped = 4 ∧
    ¬ (∀ ids ttl reply elapsed,
      (⟨.lease ids ttl, ⟨.ok reply, elapsed⟩⟩ : Exchange) ∈ (run.2.2 : History) →
        reply.length ≤ ids.length) ∧
    run.1.leaseFailures = 1 ∧
    ∃ e ∈ (run.2.2 : History), e.failed = true := by
  obtain ⟨-, -, -, -, -, -, -, -, hDown, -⟩ := pairs.balance_of_runCycle unclaiming ⟨0⟩ 0
  obtain ⟨-, -, -, -, hExact, -, -, -, -, hErrors⟩ := pairs.balance_of_runCycle unruly ⟨0⟩ 0
  simp only [runCycle_unclaiming] at hDown ⊢
  simp only [runCycle_unruly] at hExact hErrors ⊢
  refine ⟨⟨trivial, hDown trivial⟩, trivial, trivial, ?_, trivial, hErrors.mp rfl⟩
  rw [← hExact]
  decide

end Dispatcher

end DueDispatch
