import DueDispatch.Chunks
import DueDispatch.Cycle.Report
import DueDispatch.Error
import DueDispatch.Policy

/-!
# DueDispatch — the dispatch cycle

One cycle claims due accounts, asks for a lease on each chunk of them, and
publishes the ids that were granted. It speaks to three backends, one call at
a time, and absorbs every failure.

A cycle is a value: `Cycle` says which call comes next and what has been
gathered so far, and `Dispatcher.step` makes that one call. So cycles of
several replicas can be interleaved call by call, and a cycle that is abandoned
is one that is not stepped again. `Dispatcher.run` steps a cycle to its end.

The backends are arbitrary: any function from calls and a state to answers and
a state.

## Results

* `step_remaining_lt` — every step leaves less to do, so a cycle ends whatever
  its backends answer.
* `run_eq_run_step` — running is stepping once and running the rest.
-/

namespace DueDispatch

/-- A call to one of the backends. -/
inductive Call
  /-- Claim the accounts that are due at `now`. -/
  | claim (now : Timestamp) (policy : Policy)
  /-- Lease these accounts for `ttl`. -/
  | lease (ids : List AccountId) (ttl : Duration)
  /-- Put one message on the queue. -/
  | publish (channel : String) (payloads : List String)
deriving DecidableEq

/-- What a call brings back if it succeeds: claimed ids, granted ids, or
nothing. -/
abbrev Call.Result : Call → Type
  | .claim .. => List AccountId
  | .lease .. => List AccountId
  | .publish .. => Unit

/-- The outcome of a call and the nanoseconds it took. -/
structure Answer (α : Type) where
  result : Except Error α
  elapsed : Nat := 0

/-- The three backends over a state `σ`. -/
abbrev Backends (σ : Type) := (c : Call) → σ → Answer c.Result × σ

/-- The queue channel if nothing else is configured. -/
def defaultChannel : String := "notifications"

/-- The queue payloads of a chunk: the decimal ids. -/
def payloads (ids : List AccountId) : List String := ids.map AccountId.write

/-- What became of the lease request for one chunk. -/
structure LeaseOutcome where
  /-- Ids that received a lease, as answered. -/
  granted : List AccountId := []
  /-- Ids of the chunk that received none. -/
  skipped : Nat := 0
  /-- Whether the call failed. -/
  failed : Bool := false
deriving DecidableEq

/-- A failed call counts the whole chunk as skipped. -/
def LeaseOutcome.ofResult (chunk : List AccountId) : Except Error (List AccountId) → LeaseOutcome
  | .ok granted => { granted, skipped := chunk.length - granted.length }
  | .error _ => { skipped := chunk.length, failed := true }

/-- The settings of one replica. -/
structure Dispatcher where
  policy : Policy
  /-- How long its leases live. -/
  ttl : Duration
  /-- The queue channel it publishes on. -/
  channel : String
  /-- Ids per lease request and per message; zero counts as one. -/
  chunkSize : Nat
deriving DecidableEq

/-- A dispatch cycle between two calls. -/
inductive Cycle
  /-- About to claim, the clock having been read. -/
  | claiming (now : Timestamp)
  /-- About to lease `chunk`, with `later` chunks behind it. -/
  | leasing (chunk : List AccountId) (later : List (List AccountId)) (granted : List AccountId)
      (report : Report)
  /-- About to publish `chunk`, with `later` chunks behind it. -/
  | publishing (chunk : List AccountId) (later : List (List AccountId)) (report : Report)
  | finished (report : Report)
deriving DecidableEq

/-- What is left of a cycle: the stage first, then the chunks of the stage. -/
def Cycle.remaining : Cycle → Nat × Nat
  | .claiming _ => (3, 0)
  | .leasing _ later _ _ => (2, later.length)
  | .publishing _ later _ => (1, later.length)
  | .finished _ => (0, 0)

/-- The report of a cycle that has ended. -/
def Cycle.report? : Cycle → Option Report
  | .finished r => some r
  | _ => none

namespace Dispatcher

/-- The call that a cycle makes next. -/
def call? (d : Dispatcher) : Cycle → Option Call
  | .claiming now => some (.claim now d.policy)
  | .leasing chunk .. => some (.lease chunk d.ttl)
  | .publishing chunk .. => some (.publish d.channel (payloads chunk))
  | .finished _ => none

/-- A cycle at the clock reading `now`. Nothing is claimed under a cap of zero. -/
def begin (d : Dispatcher) (now : Timestamp) : Cycle :=
  if d.policy.cap = 0 then .finished {} else .claiming now

/-- Goes on with the chunks that are still to be published. -/
def publishNext : List (List AccountId) → Report → Cycle
  | [], report => .finished report
  | chunk :: later, report => .publishing chunk later report

/-- Goes on with the chunks that are still to be leased. After the last one,
all granted ids are cut into chunks anew. -/
def leaseNext (d : Dispatcher) :
    List (List AccountId) → List AccountId → Report → Cycle
  | [], granted, report =>
    publishNext (chunks d.chunkSize granted) { report with granted := granted.length }
  | chunk :: later, granted, report => .leasing chunk later granted report

/-- The ids of a claim, cut to the cap even if the backend exceeds it. -/
def capped (d : Dispatcher) (result : Except Error (List AccountId)) :
    Except Error (List AccountId) :=
  result.map (List.take d.policy.cap)

/-- After the claim. -/
def claimed (d : Dispatcher) (answer : Answer (List AccountId)) : Cycle :=
  match d.capped answer.result with
  | .error _ => .finished { selectionFailed := true, elapsed := answer.elapsed }
  | .ok ids =>
    d.leaseNext (chunks d.chunkSize ids) [] { selected := ids.length, elapsed := answer.elapsed }

/-- After the lease request for `chunk`. -/
def leased (d : Dispatcher) (chunk : List AccountId) (later : List (List AccountId))
    (granted : List AccountId) (report : Report) (answer : Answer (List AccountId)) : Cycle :=
  let outcome := LeaseOutcome.ofResult chunk answer.result
  d.leaseNext later (granted ++ outcome.granted)
    { report with
      skipped := report.skipped + outcome.skipped
      leaseFailures := report.leaseFailures + if outcome.failed then 1 else 0
      elapsed := report.elapsed + answer.elapsed }

/-- After the publish call for `chunk`. A message that was not accepted is
counted and dropped. -/
def published (chunk : List AccountId) (later : List (List AccountId)) (report : Report)
    (answer : Answer Unit) : Cycle :=
  match answer.result with
  | .ok _ =>
    publishNext later
      { report with
        enqueued := report.enqueued + chunk.length
        elapsed := report.elapsed + answer.elapsed }
  | .error _ =>
    publishNext later
      { report with
        failed := report.failed + chunk.length
        publishFailures := report.publishFailures + 1
        elapsed := report.elapsed + answer.elapsed }

variable {σ : Type}

/-- Makes the next call of a cycle. A finished cycle stays as it is. -/
def step (d : Dispatcher) (backends : Backends σ) : Cycle → σ → Cycle × σ
  | .claiming now, s =>
    let (answer, s) := backends (.claim now d.policy) s
    (d.claimed answer, s)
  | .leasing chunk later granted report, s =>
    let (answer, s) := backends (.lease chunk d.ttl) s
    (d.leased chunk later granted report answer, s)
  | .publishing chunk later report, s =>
    let (answer, s) := backends (.publish d.channel (payloads chunk)) s
    (published chunk later report answer, s)
  | .finished report, s => (.finished report, s)

/-! ## A cycle ends -/

/-- The order on what is left of a cycle. -/
abbrev Less (a b : Nat × Nat) : Prop := Prod.Lex (· < ·) (· < ·) a b

theorem publishNext_less (cs : List (List AccountId)) (r : Report) :
    Less (publishNext cs r).remaining (1, cs.length) := by
  cases cs with
  | nil => exact Prod.Lex.left _ _ (by decide)
  | cons c cs => exact Prod.Lex.right _ (Nat.lt_succ_self _)

theorem leaseNext_less (d : Dispatcher) (cs : List (List AccountId)) (granted : List AccountId)
    (r : Report) : Less (d.leaseNext cs granted r).remaining (2, cs.length) := by
  cases cs with
  | nil =>
    have h := publishNext_less (chunks d.chunkSize granted) { r with granted := granted.length }
    simp only [Less, Prod.lex_def] at h ⊢
    simp only [leaseNext]
    omega
  | cons c cs => exact Prod.Lex.right _ (Nat.lt_succ_self _)

/-- **Every step leaves less to do**, whatever the backends answer: the stage
falls, or it stays and loses a chunk. -/
theorem step_remaining_lt (d : Dispatcher) (backends : Backends σ) {c : Cycle} (s : σ)
    (hOpen : c.report? = none) : Less (d.step backends c s).1.remaining c.remaining := by
  cases c with
  | claiming now =>
    simp only [step, claimed]
    split
    · exact Prod.Lex.left _ _ (by decide)
    · rename_i ids _
      have h := d.leaseNext_less (chunks d.chunkSize ids) []
        { selected := ids.length, elapsed := (backends (.claim now d.policy) s).1.elapsed }
      simp only [Less, Prod.lex_def, Cycle.remaining] at h ⊢
      omega
  | leasing chunk later granted report => exact d.leaseNext_less _ _ _
  | publishing chunk later report =>
    simp only [step, published]
    split <;> exact publishNext_less _ _
  | finished report => simp [Cycle.report?] at hOpen

/-- Steps a cycle to its end. -/
def run (d : Dispatcher) (backends : Backends σ) (c : Cycle) (s : σ) : Report × σ :=
  match _hOpen : c.report? with
  | some report => (report, s)
  | none => d.run backends (d.step backends c s).1 (d.step backends c s).2
termination_by c.remaining
decreasing_by exact d.step_remaining_lt backends s _hOpen

theorem run_finished (d : Dispatcher) (backends : Backends σ) (r : Report) (s : σ) :
    d.run backends (.finished r) s = (r, s) := by
  unfold run; split <;> simp_all [Cycle.report?]

/-- Running is stepping once and running the rest. -/
theorem run_eq_run_step (d : Dispatcher) (backends : Backends σ) {c : Cycle} (s : σ)
    (hOpen : c.report? = none) :
    d.run backends c s = d.run backends (d.step backends c s).1 (d.step backends c s).2 := by
  rw [run]; split <;> simp_all

/-- One full cycle at the clock reading `now`. -/
def runCycle (d : Dispatcher) (backends : Backends σ) (now : Timestamp) (s : σ) : Report × σ :=
  d.run backends (d.begin now) s

/-! ## The stages on their own -/

/-- The claim of a cycle: no call is made under a cap of zero, and the answer
never exceeds the cap. -/
def select (d : Dispatcher) (backends : Backends σ) (now : Timestamp) (s : σ) :
    Except Error (List AccountId) × σ :=
  if d.policy.cap = 0 then (.ok [], s)
  else
    let (answer, s) := backends (.claim now d.policy) s
    (d.capped answer.result, s)

/-- The lease request for one chunk; none is made for an empty one. -/
def grant (d : Dispatcher) (backends : Backends σ) (chunk : List AccountId) (s : σ) :
    LeaseOutcome × σ :=
  if chunk.isEmpty then ({}, s)
  else
    let (answer, s) := backends (.lease chunk d.ttl) s
    (LeaseOutcome.ofResult chunk answer.result, s)

/-- The last stage of a cycle for any ids; the report counts this stage only. -/
def publishAll (d : Dispatcher) (backends : Backends σ) (ids : List AccountId) (s : σ) :
    Report × σ :=
  d.run backends (publishNext (chunks d.chunkSize ids) {}) s

end Dispatcher

/-! ## Recorded backends -/

/-- The backends, every call to which is also written down. -/
def Backends.recorded {σ : Type} (backends : Backends σ) : Backends (σ × List Call) :=
  fun call (s, calls) =>
    let (answer, s) := backends call s
    (answer, (s, calls ++ [call]))

end DueDispatch
