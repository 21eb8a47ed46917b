import DueDispatch.Proofs.Chunks
import DueDispatch.Proofs.Cycle.History

/-!
# DueDispatch — the calls of a cycle

Which calls one cycle makes, in which order, for arbitrary backends. The
backends are watched by `Backends.logged`, which writes every exchange down and
changes nothing else.

## Results

* `run_map` — a cycle depends on its backends only through their answers.
* `run_invariant` — what every call keeps, a cycle keeps.
* `reaches_run_logged` — the written history is one that leads to the report.
* `calls_of_runCycle` — the calls are one claim, then one lease request per
  chunk of the claim, then one message per chunk of the granted ids.
-/

namespace DueDispatch

/-- The backends, every exchange with which is also written down. -/
def Backends.logged {σ : Type} (backends : Backends σ) : Backends (σ × History) :=
  fun call (s, h) =>
    let (answer, s) := backends call s
    (answer, (s, h ++ [⟨call, answer⟩]))

namespace Dispatcher

variable {σ τ : Type}

-- ---------------------------------------------------------------------------
-- Only the answers matter
-- ---------------------------------------------------------------------------

/-- A change of state that the backends do not see is not seen by a step of a cycle either. -/
theorem step_map {backends : Backends σ} {backends' : Backends τ} {f : σ → τ}
    (hMap : ∀ call s, backends' call (f s) = ((backends call s).1, f (backends call s).2))
    (d : Dispatcher) (c : Cycle) (s : σ) :
    d.step backends' c (f s) = ((d.step backends c s).1, f (d.step backends c s).2) := by
  cases c <;> simp [step, hMap]

/-- If one state is a view of another and the backends give the same answers on
both, a cycle gives the same report on both and the view stays one. -/
theorem run_map (backends : Backends σ) (backends' : Backends τ) (f : σ → τ)
    (hMap : ∀ call s, backends' call (f s) = ((backends call s).1, f (backends call s).2))
    (d : Dispatcher) (c : Cycle) (s : σ) :
    d.run backends' c (f s) = ((d.run backends c s).1, f (d.run backends c s).2) := by
  fun_induction d.run backends c s with
  | case1 c s report hEnd =>
    obtain rfl := Cycle.eq_finished_of_report? hEnd
    rw [run_finished]
  | case2 c s hOpen ih => rw [run_eq_run_step d backends' _ hOpen, step_map hMap, ih]

/-- What every call keeps, a cycle keeps. -/
theorem run_invariant {backends : Backends σ} {P : σ → Prop}
    (hCall : ∀ call s, P s → P (backends call s).2) (d : Dispatcher) (c : Cycle) {s : σ}
    (hStart : P s) : P (d.run backends c s).2 := by
  fun_induction d.run backends c s with
  | case1 c s report hEnd => exact hStart
  | case2 c s hOpen ih =>
    obtain ⟨call, hNext⟩ := exists_call (d := d) hOpen
    apply ih
    rw [state_step backends s hNext]
    exact hCall call s hStart

/-- The log beside the state has no influence on a cycle. -/
theorem run_logged (d : Dispatcher) (backends : Backends σ) (c : Cycle) (s : σ) (h : History) :
    ((d.run backends.logged c (s, h)).1, (d.run backends.logged c (s, h)).2.1) =
      d.run backends c s :=
  (run_map backends.logged backends Prod.fst (fun _ _ => rfl) d c (s, h)).symm

/-- To record only the calls is to forget the answers of the log. -/
theorem run_recorded (d : Dispatcher) (backends : Backends σ) (c : Cycle) (s : σ) (h : History) :
    (d.run backends.recorded c (s, h.calls)).2.2 = (d.run backends.logged c (s, h)).2.2.calls := by
  have hMap := run_map backends.logged backends.recorded (fun p => (p.1, p.2.calls))
    (fun call p => by simp [Backends.logged, Backends.recorded]) d c (s, h)
  rw [hMap]

/-- The written history leads to the report. -/
theorem reaches_run_logged {d : Dispatcher} {now : Timestamp} {c : Cycle}
    (backends : Backends σ) (p : σ × History) (hCycle : d.Reaches now p.2 c) :
    d.Reaches now (d.run backends.logged c p).2.2 (.finished (d.run backends.logged c p).1) := by
  fun_induction d.run backends.logged c p with
  | case1 c p report hEnd =>
    obtain rfl := Cycle.eq_finished_of_report? hEnd
    exact hCycle
  | case2 c p hOpen ih =>
    obtain ⟨call, hCall⟩ := exists_call (d := d) hOpen
    apply ih
    rw [state_step backends.logged p hCall]
    exact hCycle.step backends.logged p hCall

/-- The payloads of some chunks are those of all their ids. -/
theorem payloads_flatten (cs : List (List AccountId)) :
    (cs.map payloads).flatten = payloads cs.flatten := by
  simp only [payloads, List.map_flatten]
  rfl

/-- **The calls of a cycle**, for any backends. If anything may be claimed at
all, they are one claim at the reading of the clock, then one lease request for
each chunk of the claim, and only then one message for each chunk of the granted
ids. The requests cover the claim and the messages the granted ids, in order; no
call is empty, and only the last one of a stage may be short. The reported time
is that of the calls. -/
theorem calls_of_runCycle (d : Dispatcher) (backends : Backends σ) (now : Timestamp) (s : σ) :
    let run := d.runCycle backends.logged now (s, [])
    let h := run.2.2
    (run.1, run.2.1) = d.runCycle backends now s ∧
    (d.runCycle backends.recorded now (s, [])).2.2 = h.calls ∧
    h.calls =
      (if d.policy.cap = 0 then []
      else
        .claim now d.policy ::
          ((chunks d.chunkSize (h.claimed.take d.policy.cap)).map (fun ids => .lease ids d.ttl) ++
            (chunks d.chunkSize h.granted).map fun ids => .publish d.channel (payloads ids))) ∧
    h.requests.flatten = h.claimed.take d.policy.cap ∧
    h.messages.flatten = h.granted.map AccountId.write ∧
    (∀ ids ttl, Call.lease ids ttl ∈ h.calls → ids ≠ []) ∧
    (∀ channel texts, Call.publish channel texts ∈ h.calls → texts ≠ []) ∧
    (∀ ids ∈ h.requests.dropLast, ids.length = max d.chunkSize 1) ∧
    (∀ texts ∈ h.messages.dropLast, texts.length = max d.chunkSize 1) ∧
    run.1.elapsed = (h.map fun e => e.answer.elapsed).sum := by
  intro run h
  have hExplains : d.Explains now h (.finished run.1) :=
    (reaches_run_logged backends (s, []) .begin).explains
  refine ⟨d.run_logged backends _ s [], d.run_recorded backends _ s [], ?_⟩
  rcases hExplains with ⟨hCap, hNone, hReport⟩ | ⟨hCap, done, hStage⟩
  -- nothing may be claimed: no call is made
  · rw [hNone, hReport, if_pos hCap]
    simp [History.calls, History.claimed, History.granted, History.requests, History.messages]
  -- nothing is left to be offered: the chunks offered are all chunks of the granted ids
  · have hDone : done = chunks d.chunkSize h.granted := by
      simpa using hStage.chunks
    have hRequests : h.requests = chunks d.chunkSize (h.claimed.take d.policy.cap) :=
      hStage.requests
    have hMessages : h.messages = (chunks d.chunkSize h.granted).map payloads := by
      rw [hStage.messages, hDone]
    have hCalls := hStage.calls
    rw [hRequests, hDone] at hCalls
    refine ⟨?_, ?_, ?_, ?_, ?_, ?_, ?_, ?_⟩
    -- the calls, and what the requests and the messages amount to
    · rw [if_neg hCap]
      exact hCalls
    · rw [hRequests, flatten_chunks]
    · rw [hMessages, payloads_flatten, flatten_chunks]
      rfl
    -- a call in the list is one for a chunk, and no chunk is empty
    · intro ids ttl hMem
      rw [hCalls] at hMem
      obtain ⟨_, hChunk, rfl, -⟩ : ∃ chunk ∈ chunks d.chunkSize (h.claimed.take d.policy.cap),
          chunk = ids ∧ d.ttl = ttl := by
        simpa [leaseCall, publishCall] using hMem
      exact ne_nil_of_mem_chunks hChunk
    · intro channel texts hMem
      rw [hCalls] at hMem
      obtain ⟨ids, hChunk, -, rfl⟩ : ∃ chunk ∈ chunks d.chunkSize h.granted,
          d.channel = channel ∧ payloads chunk = texts := by
        simpa [leaseCall, publishCall] using hMem
      simpa [payloads] using ne_nil_of_mem_chunks hChunk
    -- only the last chunk of a stage may be short
    · intro ids hMem
      rw [hRequests] at hMem
      exact length_of_mem_dropLast_chunks hMem
    · intro texts hMem
      rw [hMessages, ← List.map_dropLast] at hMem
      obtain ⟨ids, hChunk, rfl⟩ := List.mem_map.mp hMem
      rw [payloads, List.length_map]
      exact length_of_mem_dropLast_chunks hChunk
    · rw [hStage.report]
      rfl

/-- Backends that count their calls: they claim four ids whatever the cap, fail at
the third call, and grant a foreign id besides what is asked for. -/
def unruly : Backends Nat
  | .claim .., n => (⟨.ok [1, 2, 3, 4], 5⟩, n + 1)
  | .lease ids _, n =>
    if n = 2 then (⟨.error (.cache "down"), 7⟩, n + 1) else (⟨.ok (9 :: ids), 2⟩, n + 1)
  | .publish .., n => (⟨.ok (), 1⟩, n + 1)

/-- At most three ids, two of them a call. -/
def pairs : Dispatcher := ⟨⟨.ofSecs 300, .ofSecs 30, 3⟩, .ofSecs 30, defaultChannel, 2⟩

def unrulyHistory : History :=
  [⟨.claim ⟨0⟩ pairs.policy, ⟨.ok [1, 2, 3, 4], 5⟩⟩,
    ⟨.lease [1, 2] pairs.ttl, ⟨.ok [9, 1, 2], 2⟩⟩,
    ⟨.lease [3] pairs.ttl, ⟨.error (.cache "down"), 7⟩⟩,
    ⟨.publish pairs.channel (payloads [9, 1]), ⟨.ok (), 1⟩⟩,
    ⟨.publish pairs.channel (payloads [2]), ⟨.ok (), 1⟩⟩]

/-- What such backends make of a cycle: one chunk fails, and more is granted than was asked. -/
theorem runCycle_unruly :
    pairs.runCycle unruly.logged ⟨0⟩ (0, []) =
      ({ selected := 3, granted := 3, enqueued := 3, skipped := 1, leaseFailures := 1,
         elapsed := 16 }, 5, unrulyHistory) := by
  have hClaimed : chunks pairs.chunkSize [1, 2, 3] = ([[1, 2], [3]] : List (List AccountId)) := by
    simp [chunks, pairs]
  have hGranted : chunks pairs.chunkSize [9, 1, 2] = ([[9, 1], [2]] : List (List AccountId)) := by
    simp [chunks, pairs]
  have hCap : [1, 2, 3, 4].take pairs.policy.cap = ([1, 2, 3] : List AccountId) := rfl
  rw [runCycle, Dispatcher.begin, if_neg (by decide), run_eq_run_step _ _ _ rfl]
  simp only [step, Backends.logged, unruly, claimed, capped, Except.map, hCap, hClaimed, leaseNext]
  rw [run_eq_run_step _ _ _ rfl]
  simp only [step, Backends.logged, unruly, leased, leaseNext, LeaseOutcome.ofResult,
    Nat.reduceEqDiff, ↓reduceIte, zero_add, List.nil_append]
  rw [run_eq_run_step _ _ _ rfl]
  -- the third call fails, and what was granted so far is cut into chunks anew
  simp only [step, Backends.logged, unruly, leased, leaseNext, LeaseOutcome.ofResult, ↓reduceIte,
    Nat.reduceAdd, List.append_nil, hGranted, publishNext]
  rw [run_eq_run_step _ _ _ rfl]
  simp only [step, Backends.logged, unruly, published, publishNext]
  rw [run_eq_run_step _ _ _ rfl]
  simp only [step, Backends.logged, unruly, published, publishNext]
  rw [run_finished]
  rfl

/-- The granted ids are cut anew, whatever became of the chunks they were asked for
in. -/
theorem calls_of_runCycle_unruly :
    let run := pairs.runCycle unruly.logged ⟨0⟩ (0, [])
    let h : History := run.2.2
    h.calls =
      [.claim ⟨0⟩ pairs.policy, .lease [1, 2] pairs.ttl, .lease [3] pairs.ttl,
        .publish pairs.channel (payloads [9, 1]), .publish pairs.channel (payloads [2])] ∧
    (Call.lease [3] pairs.ttl ∈ h.calls ∧ ([3] : List AccountId) ≠ []) ∧
    (Call.publish pairs.channel (payloads [2]) ∈ h.calls ∧ payloads [2] ≠ []) ∧
    ([1, 2] ∈ h.requests.dropLast ∧ ([1, 2] : List AccountId).length = max pairs.chunkSize 1) ∧
    (payloads [9, 1] ∈ h.messages.dropLast ∧
      (payloads [9, 1]).length = max pairs.chunkSize 1) ∧
    run.1.elapsed = (h.map fun e => e.answer.elapsed).sum := by
  obtain ⟨-, -, -, -, -, hLease, hPublish, hRequest, hMessage, hElapsed⟩ :=
    pairs.calls_of_runCycle unruly ⟨0⟩ 0
  simp only [runCycle_unruly] at hLease hPublish hRequest hMessage hElapsed ⊢
  have hCalls : unrulyHistory.calls =
      [.claim ⟨0⟩ pairs.policy, .lease [1, 2] pairs.ttl, .lease [3] pairs.ttl,
        .publish pairs.channel (payloads [9, 1]), .publish pairs.channel (payloads [2])] := rfl
  have hThird : Call.lease [3] pairs.ttl ∈ unrulyHistory.calls := by simp [hCalls]
  have hLast : Call.publish pairs.channel (payloads [2]) ∈ unrulyHistory.calls := by simp [hCalls]
  have hFirst : [1, 2] ∈ unrulyHistory.requests.dropLast := List.mem_singleton_self _
  have hFull : payloads [9, 1] ∈ unrulyHistory.messages.dropLast := List.mem_singleton_self _
  exact ⟨hCalls, ⟨hThird, hLease _ _ hThird⟩, ⟨hLast, hPublish _ _ hLast⟩,
    ⟨hFirst, hRequest _ hFirst⟩, ⟨hFull, hMessage _ hFull⟩, hElapsed⟩

end Dispatcher

end DueDispatch
