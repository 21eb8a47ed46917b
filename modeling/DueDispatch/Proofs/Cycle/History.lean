import DueDispatch.Cycle.Basic
import DueDispatch.Proofs.Decimal
import Mathlib.Algebra.GroupWithZero.Nat

/-!
# DueDispatch — what a cycle has gone through

A cycle knows its backends only by their answers. A `History` is the list of
its calls with the answers they brought, and `Dispatcher.Reaches` says which
histories lead to which cycle. Nothing is assumed of the answers: they may be
errors, exceed what was asked for, repeat ids or name foreign ones.

`Dispatcher.Explains` is the invariant: it says stage by stage how the calls
made so far, the chunks still to be worked off and the counters follow from the
answers.

## Results

* `Reaches.explains` — the invariant holds of every cycle at every point.
* `Reaches.step` — a step of a cycle on any backends adds one exchange.
* `Reaches.acceptedIds_sublist` — only granted ids are accepted, in order.
* `Reaches.closed` — what the history of a finished cycle amounts to.
-/

namespace DueDispatch

/-- The ids that an answer brings; none if the call failed. -/
def Answer.ids (a : Answer (List AccountId)) : List AccountId :=
  match a.result with
  | .ok ids => ids
  | .error _ => []

/-- A call together with its answer. -/
structure Exchange where
  call : Call
  answer : Answer call.Result

namespace Exchange

/-- The ids that a claim brought. -/
def claimed : Exchange → List AccountId
  | ⟨.claim .., a⟩ => a.ids
  | ⟨.lease .., _⟩ => []
  | ⟨.publish .., _⟩ => []

/-- The ids of a lease request. -/
def requested? : Exchange → Option (List AccountId)
  | ⟨.lease ids _, _⟩ => some ids
  | ⟨.claim .., _⟩ => none
  | ⟨.publish .., _⟩ => none

/-- The ids that a lease request brought. -/
def granted : Exchange → List AccountId
  | ⟨.lease .., a⟩ => a.ids
  | ⟨.claim .., _⟩ => []
  | ⟨.publish .., _⟩ => []

/-- The ids of a lease request that remained without a lease, by number. -/
def skipped : Exchange → Nat
  | ⟨.lease ids _, a⟩ => ids.length - a.ids.length
  | ⟨.claim .., _⟩ => 0
  | ⟨.publish .., _⟩ => 0

/-- The payloads of a message, accepted or not. -/
def sent? : Exchange → Option (List String)
  | ⟨.publish _ payloads, _⟩ => some payloads
  | ⟨.claim .., _⟩ => none
  | ⟨.lease .., _⟩ => none

def failed (e : Exchange) : Bool :=
  match e.answer.result with
  | .ok _ => false
  | .error _ => true

def accepted (e : Exchange) : List String :=
  if e.failed then [] else e.sent?.getD []

def refused (e : Exchange) : List String :=
  if e.failed then e.sent?.getD [] else []

def claimFailed : Exchange → Bool
  | ⟨.claim now p, a⟩ => (Exchange.mk (.claim now p) a).failed
  | ⟨.lease .., _⟩ => false
  | ⟨.publish .., _⟩ => false

def leaseFailed (e : Exchange) : Bool := e.requested?.isSome && e.failed

def publishFailed (e : Exchange) : Bool := e.sent?.isSome && e.failed

end Exchange

/-- Calls and their answers, the first call first. -/
abbrev History := List Exchange

namespace History

def calls (h : History) : List Call := h.map Exchange.call

def claimed (h : History) : List AccountId := h.flatMap Exchange.claimed

def requests (h : History) : List (List AccountId) := h.filterMap Exchange.requested?

def granted (h : History) : List AccountId := h.flatMap Exchange.granted

def messages (h : History) : List (List String) := h.filterMap Exchange.sent?

def accepted (h : History) : List String := h.flatMap Exchange.accepted

def refused (h : History) : List String := h.flatMap Exchange.refused

def acceptedIds (h : History) : List AccountId := h.accepted.filterMap AccountId.read?

/-- The report that belongs to a history under a cap: every counter is read off
the answers. -/
def tally (cap : Nat) (h : History) : Report where
  selected := (h.claimed.take cap).length
  granted := h.granted.length
  enqueued := h.accepted.length
  skipped := (h.map Exchange.skipped).sum
  failed := h.refused.length
  selectionFailed := h.any Exchange.claimFailed
  leaseFailures := h.countP Exchange.leaseFailed
  publishFailures := h.countP Exchange.publishFailed
  elapsed := (h.map fun e => e.answer.elapsed).sum

variable (h : History) (e : Exchange)

@[simp] theorem calls_concat : calls (h ++ [e]) = h.calls ++ [e.call] := by simp [calls]

@[simp] theorem claimed_concat : claimed (h ++ [e]) = h.claimed ++ e.claimed := by simp [claimed]

@[simp] theorem requests_concat : requests (h ++ [e]) = h.requests ++ e.requested?.toList := by
  rw [requests, List.filterMap_append]
  cases hAsk : e.requested? <;> simp [requests, hAsk]

@[simp] theorem granted_concat : granted (h ++ [e]) = h.granted ++ e.granted := by simp [granted]

@[simp] theorem messages_concat : messages (h ++ [e]) = h.messages ++ e.sent?.toList := by
  rw [messages, List.filterMap_append]
  cases hSent : e.sent? <;> simp [messages, hSent]

@[simp] theorem accepted_concat : accepted (h ++ [e]) = h.accepted ++ e.accepted := by
  simp [accepted]

@[simp] theorem refused_concat : refused (h ++ [e]) = h.refused ++ e.refused := by simp [refused]

/-- The ids of all lease requests, call by call. -/
theorem flatten_requests : h.requests.flatten = h.flatMap fun e => e.requested?.getD [] := by
  induction h with
  | nil => rfl
  | cons e rest ih =>
    rw [List.flatMap_cons, ← ih, requests, requests]
    cases hAsked : e.requested? with
    | none => rw [List.filterMap_cons_none hAsked, Option.getD_none, List.nil_append]
    | some ids => rw [List.filterMap_cons_some hAsked, Option.getD_some, List.flatten_cons]

/-- How often an id was granted is counted call by call. -/
theorem count_granted (id : AccountId) :
    h.granted.count id = (h.map fun e => e.granted.count id).sum := by
  rw [granted, List.count_flatMap]
  rfl

/-- How often an id was published is counted call by call. -/
theorem count_acceptedIds (id : AccountId) :
    h.acceptedIds.count id =
      (h.map fun e => (e.accepted.filterMap AccountId.read?).count id).sum := by
  rw [acceptedIds, accepted, List.filterMap_flatMap, List.count_flatMap]
  rfl

/-- What one more call adds to a report. -/
theorem tally_concat (cap : Nat) :
    tally cap (h ++ [e]) =
      { selected := ((h.claimed ++ e.claimed).take cap).length
        granted := h.granted.length + e.granted.length
        enqueued := h.accepted.length + e.accepted.length
        skipped := (tally cap h).skipped + e.skipped
        failed := h.refused.length + e.refused.length
        selectionFailed := (tally cap h).selectionFailed || e.claimFailed
        leaseFailures := (tally cap h).leaseFailures + if e.leaseFailed then 1 else 0
        publishFailures := (tally cap h).publishFailures + if e.publishFailed then 1 else 0
        elapsed := (tally cap h).elapsed + e.answer.elapsed } := by
  simp [tally, List.countP_append, List.countP_singleton]

/-- What one more lease request adds to a report. -/
theorem tally_lease (cap : Nat) (chunk : List AccountId) (ttl : Duration)
    (a : Answer (List AccountId)) :
    tally cap (h ++ [⟨.lease chunk ttl, a⟩]) =
      { tally cap h with
        granted := h.granted.length + a.ids.length
        skipped := (tally cap h).skipped + (chunk.length - a.ids.length)
        leaseFailures :=
          (tally cap h).leaseFailures +
            if (LeaseOutcome.ofResult chunk a.result).failed then 1 else 0
        elapsed := (tally cap h).elapsed + a.elapsed } := by
  rw [tally_concat]
  obtain ⟨result, elapsed⟩ := a
  cases result <;>
    simp [Exchange.claimed, Exchange.granted, Exchange.accepted, Exchange.sent?, Exchange.skipped,
      Exchange.refused, Exchange.claimFailed, Exchange.leaseFailed, Exchange.requested?,
      Exchange.publishFailed, Exchange.failed, LeaseOutcome.ofResult, tally]

/-- What one more message that was accepted adds to a report. -/
theorem tally_publish_ok (cap : Nat) (channel : String) (texts : List String) (elapsed : Nat) :
    tally cap (h ++ [⟨.publish channel texts, ⟨.ok (), elapsed⟩⟩]) =
      { tally cap h with
        enqueued := h.accepted.length + texts.length
        elapsed := (tally cap h).elapsed + elapsed } := by
  rw [tally_concat]
  simp [Exchange.claimed, Exchange.granted, Exchange.accepted, Exchange.sent?, Exchange.skipped,
    Exchange.refused, Exchange.claimFailed, Exchange.leaseFailed, Exchange.requested?,
    Exchange.publishFailed, Exchange.failed, tally]

/-- What one more message that was refused adds to a report. -/
theorem tally_publish_error (cap : Nat) (channel : String) (texts : List String) (cause : Error)
    (elapsed : Nat) :
    tally cap (h ++ [⟨.publish channel texts, ⟨.error cause, elapsed⟩⟩]) =
      { tally cap h with
        failed := h.refused.length + texts.length
        publishFailures := (tally cap h).publishFailures + 1
        elapsed := (tally cap h).elapsed + elapsed } := by
  rw [tally_concat]
  simp [Exchange.claimed, Exchange.granted, Exchange.accepted, Exchange.sent?, Exchange.skipped,
    Exchange.refused, Exchange.claimFailed, Exchange.leaseFailed, Exchange.requested?,
    Exchange.publishFailed, Exchange.failed, tally]

end History

theorem Cycle.eq_finished_of_report? {c : Cycle} {report : Report}
    (hEnd : c.report? = some report) : c = .finished report := by
  cases c with
  | finished r => exact congrArg Cycle.finished (Option.some.inj hEnd)
  | _ => simp [Cycle.report?] at hEnd

namespace Dispatcher

/-- A cycle begun at `now` stands at this point after this history. -/
inductive Reaches (d : Dispatcher) (now : Timestamp) : History → Cycle → Prop
  | begin : Reaches d now [] (d.begin now)
  | claim {h : History} {t : Timestamp} (hCycle : Reaches d now h (.claiming t))
      (a : Answer (List AccountId)) :
      Reaches d now (h ++ [⟨.claim t d.policy, a⟩]) (d.claimed a)
  | lease {h : History} {chunk : List AccountId} {later : List (List AccountId)}
      {granted : List AccountId} {report : Report}
      (hCycle : Reaches d now h (.leasing chunk later granted report))
      (a : Answer (List AccountId)) :
      Reaches d now (h ++ [⟨.lease chunk d.ttl, a⟩]) (d.leased chunk later granted report a)
  | publish {h : History} {chunk : List AccountId} {later : List (List AccountId)}
      {report : Report} (hCycle : Reaches d now h (.publishing chunk later report))
      (a : Answer Unit) :
      Reaches d now (h ++ [⟨.publish d.channel (payloads chunk), a⟩])
        (published chunk later report a)

/-- A step of a cycle on any backends adds the exchange it made. -/
theorem Reaches.step {σ : Type} {d : Dispatcher} {now : Timestamp} {h : History} {c : Cycle}
    (backends : Backends σ) (s : σ) (hCycle : d.Reaches now h c) {call : Call}
    (hCall : d.call? c = some call) :
    d.Reaches now (h ++ [⟨call, (backends call s).1⟩]) (d.step backends c s).1 := by
  cases c with
  | claiming t =>
    obtain rfl := Option.some.inj hCall
    exact hCycle.claim _
  | leasing chunk later granted report =>
    obtain rfl := Option.some.inj hCall
    exact hCycle.lease _
  | publishing chunk later report =>
    obtain rfl := Option.some.inj hCall
    exact hCycle.publish _
  | finished report => simp [call?] at hCall

/-- What a step does to the state is what its call does. -/
theorem state_step {σ : Type} {d : Dispatcher} {c : Cycle} {call : Call}
    (backends : Backends σ) (s : σ) (hCall : d.call? c = some call) :
    (d.step backends c s).2 = (backends call s).2 := by
  cases c with
  | claiming t => obtain rfl := Option.some.inj hCall; rfl
  | leasing chunk later granted report => obtain rfl := Option.some.inj hCall; rfl
  | publishing chunk later report => obtain rfl := Option.some.inj hCall; rfl
  | finished report => simp [call?] at hCall

/-- A cycle that is not finished has a next call. -/
theorem exists_call {d : Dispatcher} {c : Cycle} (hOpen : c.report? = none) :
    ∃ call, d.call? c = some call := by
  cases c with
  | finished report => simp [Cycle.report?] at hOpen
  | _ => exact ⟨_, rfl⟩

-- ---------------------------------------------------------------------------
-- The two chunked stages
-- ---------------------------------------------------------------------------

def selection (d : Dispatcher) (h : History) : List AccountId := h.claimed.take d.policy.cap

def leaseCall (d : Dispatcher) (chunk : List AccountId) : Call := .lease chunk d.ttl

def publishCall (d : Dispatcher) (chunk : List AccountId) : Call :=
  .publish d.channel (payloads chunk)

/-- The chunks of the claim are being leased, and `todo` are left. -/
structure Leasing (d : Dispatcher) (now : Timestamp) (h : History) (todo : List (List AccountId))
    (granted : List AccountId) (report : Report) : Prop where
  calls : h.calls = .claim now d.policy :: h.requests.map d.leaseCall
  requests : h.requests ++ todo = chunks d.chunkSize (d.selection h)
  granted : granted = h.granted
  messages : h.messages = []
  accepted : h.accepted = []
  refused : h.refused = []
  report : { report with granted := h.granted.length } = h.tally d.policy.cap

/-- The chunks of the granted ids are being published; `done` were offered, and
`todo` are left. -/
structure Publishing (d : Dispatcher) (now : Timestamp) (h : History)
    (done todo : List (List AccountId)) (report : Report) : Prop where
  calls : h.calls = .claim now d.policy :: (h.requests.map d.leaseCall ++ done.map d.publishCall)
  requests : h.requests = chunks d.chunkSize (d.selection h)
  chunks : done ++ todo = DueDispatch.chunks d.chunkSize h.granted
  messages : h.messages = done.map payloads
  accepted : h.accepted.Sublist (payloads done.flatten)
  balance : h.accepted.length + h.refused.length = done.flatten.length
  report : report = h.tally d.policy.cap

/-- How the history of a cycle begun at `now` accounts for where it stands. -/
def Explains (d : Dispatcher) (now : Timestamp) (h : History) : Cycle → Prop
  | .claiming t => d.policy.cap ≠ 0 ∧ t = now ∧ h = []
  | .leasing chunk later granted report =>
    d.policy.cap ≠ 0 ∧ d.Leasing now h (chunk :: later) granted report
  | .publishing chunk later report =>
    d.policy.cap ≠ 0 ∧ ∃ done, d.Publishing now h done (chunk :: later) report
  | .finished report =>
    (d.policy.cap = 0 ∧ h = [] ∧ report = {}) ∨
      (d.policy.cap ≠ 0 ∧ ∃ done, d.Publishing now h done [] report)

variable {d : Dispatcher} {now : Timestamp} {h : History} {report : Report}
  {chunk : List AccountId} {later done todo : List (List AccountId)} {granted : List AccountId}

/-- The history explains what the cycle does after a message: the next one, or the end. -/
theorem explains_publishNext (hCap : d.policy.cap ≠ 0)
    (hStage : d.Publishing now h done todo report) :
    d.Explains now h (publishNext todo report) := by
  cases todo with
  | nil => exact Or.inr ⟨hCap, done, hStage⟩
  | cons chunk later => exact ⟨hCap, done, hStage⟩

/-- After the last lease request the granted ids are cut anew, and no message
has been offered yet. -/
theorem explains_leaseNext (hCap : d.policy.cap ≠ 0)
    (hStage : d.Leasing now h todo granted report) :
    d.Explains now h (d.leaseNext todo granted report) := by
  cases todo with
  | cons chunk later => exact ⟨hCap, hStage⟩
  | nil =>
    obtain ⟨hCalls, hRequests, rfl, hMessages, hAccepted, hRefused, hReport⟩ := hStage
    have hStage : d.Publishing now h [] (chunks d.chunkSize h.granted)
        { report with granted := h.granted.length } := by
      refine ⟨?_, ?_, rfl, ?_, ?_, ?_, hReport⟩
      · simpa using hCalls
      · simpa using hRequests
      · simpa using hMessages
      · simp [hAccepted]
      · simp [hAccepted, hRefused]
    exact explains_publishNext hCap hStage

/-- The history explains what a cycle makes of its claim. -/
theorem explains_claimed (hCap : d.policy.cap ≠ 0) (a : Answer (List AccountId)) :
    d.Explains now [⟨.claim now d.policy, a⟩] (d.claimed a) := by
  obtain ⟨result, elapsed⟩ := a
  cases result with
  -- a failed claim ends the cycle as if it had brought nothing
  | error cause =>
    have hClaimed : History.claimed [⟨.claim now d.policy, ⟨.error cause, elapsed⟩⟩] = [] := by
      simp [History.claimed, Exchange.claimed, Answer.ids]
    refine Or.inr ⟨hCap, [], ⟨rfl, ?_, ?_, rfl, List.nil_sublist _, rfl, ?_⟩⟩
    · rw [selection, hClaimed, List.take_nil, chunks_nil]
      rfl
    · exact (chunks_nil _).symm
    · rw [History.tally, hClaimed, List.take_nil]
      rfl
  | ok ids =>
    have hClaimed : History.claimed [⟨.claim now d.policy, ⟨.ok ids, elapsed⟩⟩] = ids := by
      simp [History.claimed, Exchange.claimed, Answer.ids]
    apply explains_leaseNext hCap
    refine ⟨rfl, ?_, rfl, rfl, rfl, rfl, ?_⟩
    · rw [selection, hClaimed]
      rfl
    · rw [History.tally, hClaimed]
      rfl

/-- A lease request moves its chunk from those left to those asked for. -/
theorem Leasing.lease (hStage : d.Leasing now h (chunk :: later) granted report)
    (a : Answer (List AccountId)) :
    d.Leasing now (h ++ [⟨.lease chunk d.ttl, a⟩]) later
      (granted ++ (LeaseOutcome.ofResult chunk a.result).granted)
      { report with
        skipped := report.skipped + (LeaseOutcome.ofResult chunk a.result).skipped
        leaseFailures :=
          report.leaseFailures + if (LeaseOutcome.ofResult chunk a.result).failed then 1 else 0
        elapsed := report.elapsed + a.elapsed } := by
  obtain ⟨hCalls, hRequests, rfl, hMessages, hAccepted, hRefused, hReport⟩ := hStage
  obtain ⟨result, elapsed⟩ := a
  -- a call that failed counts as one that granted nothing
  have hIds : (LeaseOutcome.ofResult chunk result).granted = Answer.ids ⟨result, elapsed⟩ := by
    cases result <;> rfl
  have hSkipped : (LeaseOutcome.ofResult chunk result).skipped =
      chunk.length - (Answer.ids ⟨result, elapsed⟩).length := by
    cases result <;> rfl
  constructor
  · simp [hCalls, Exchange.requested?, leaseCall]
  · simpa [selection, Exchange.requested?, Exchange.claimed] using hRequests
  · simp [Exchange.granted, hIds]
  · simpa [Exchange.sent?] using hMessages
  · simpa [Exchange.accepted, Exchange.sent?] using hAccepted
  · simpa [Exchange.refused, Exchange.sent?] using hRefused
  · simp [History.tally_lease, ← hReport, Exchange.granted, hSkipped]

/-- A message moves its chunk from those left to those offered, accepted or not. -/
theorem Publishing.message (hStage : d.Publishing now h done (chunk :: later) report)
    (a : Answer Unit) :
    d.Publishing now (h ++ [⟨d.publishCall chunk, a⟩]) (done ++ [chunk]) later
      (History.tally d.policy.cap (h ++ [⟨d.publishCall chunk, a⟩])) := by
  obtain ⟨hCalls, hRequests, hChunks, hMessages, hAccepted, hBalance, rfl⟩ := hStage
  obtain ⟨result, elapsed⟩ := a
  constructor
  · simp [hCalls, Exchange.requested?, publishCall]
  · simpa [selection, Exchange.requested?, Exchange.claimed, publishCall] using hRequests
  · simpa [Exchange.granted, publishCall] using hChunks
  · simp [hMessages, Exchange.sent?, publishCall]
  · have hPayloads : payloads (done ++ [chunk]).flatten =
        payloads done.flatten ++ payloads chunk := by simp [payloads]
    rw [hPayloads, History.accepted_concat]
    -- the payloads of this message follow as a whole, or not at all
    refine hAccepted.append ?_
    cases result with
    | ok _ => exact List.Sublist.refl _
    | error _ => exact List.nil_sublist _
  · rw [History.accepted_concat, History.refused_concat, List.flatten_concat]
    cases result <;>
      simp only [Exchange.accepted, Exchange.refused, Exchange.failed, Exchange.sent?, publishCall,
        payloads, List.length_append, List.length_map, List.length_nil, Option.getD_some,
        Bool.false_eq_true, if_true, if_false] <;>
      omega
  · rfl

/-- The report after a message is the tally of the history with it. -/
theorem published_eq_publishNext (a : Answer Unit) :
    published chunk later (h.tally d.policy.cap) a =
      publishNext later (History.tally d.policy.cap (h ++ [⟨d.publishCall chunk, a⟩])) := by
  obtain ⟨result, elapsed⟩ := a
  cases result with
  | ok _ =>
    have hTally := h.tally_publish_ok d.policy.cap d.channel (payloads chunk) elapsed
    refine Eq.trans ?_ (congrArg (publishNext later) hTally.symm)
    simp [published, History.tally, payloads]
  | error cause =>
    have hTally := h.tally_publish_error d.policy.cap d.channel (payloads chunk) cause elapsed
    refine Eq.trans ?_ (congrArg (publishNext later) hTally.symm)
    simp [published, History.tally, payloads]

/-- **The history of a cycle accounts for where it stands**, whatever the
backends answered. -/
theorem Reaches.explains {c : Cycle} (hCycle : d.Reaches now h c) : d.Explains now h c := by
  induction hCycle with
  | begin =>
    by_cases hCap : d.policy.cap = 0
    · rw [Dispatcher.begin, if_pos hCap]
      exact Or.inl ⟨hCap, rfl, rfl⟩
    · rw [Dispatcher.begin, if_neg hCap]
      exact ⟨hCap, rfl, rfl⟩
  | claim _ a ih =>
    obtain ⟨hCap, rfl, rfl⟩ := ih
    exact explains_claimed hCap a
  | lease _ a ih => exact explains_leaseNext ih.1 (ih.2.lease a)
  | publish _ a ih =>
    obtain ⟨hCap, done, hStage⟩ := ih
    -- the report so far is the count of the history, so the next one is that of the longer history
    rw [hStage.report, published_eq_publishNext a]
    exact explains_publishNext hCap (hStage.message a)

/-- After the claim come only lease requests and messages. -/
theorem Publishing.exists_claim (hStage : d.Publishing now h done todo report) :
    ∃ a rest, h = ⟨.claim now d.policy, a⟩ :: rest ∧
      rest.map Exchange.call = h.requests.map d.leaseCall ++ done.map d.publishCall ∧
      ∀ e ∈ rest, e.claimed = [] ∧ e.claimFailed = false := by
  obtain ⟨first, rest, hCons, hFirst, hRest⟩ := List.map_eq_cons_iff.mp hStage.calls
  obtain ⟨call, a⟩ := first
  subst hFirst
  refine ⟨a, rest, hCons, hRest, fun e he => ?_⟩
  have hCall : e.call ∈ rest.map Exchange.call := List.mem_map_of_mem he
  obtain ⟨call, b⟩ := e
  rw [hRest] at hCall
  cases call with
  | claim now' p => simp [leaseCall, publishCall] at hCall
  | lease ids ttl => exact ⟨rfl, rfl⟩
  | publish channel texts => exact ⟨rfl, rfl⟩

/-- What was accepted so far was granted, and in the same order. -/
theorem Publishing.accepted_sublist (hStage : d.Publishing now h done todo report) :
    h.accepted.Sublist (payloads h.granted) := by
  have hFlat : done.flatten ++ todo.flatten = h.granted := by
    rw [← List.flatten_append, hStage.chunks, flatten_chunks]
  -- what was offered so far is the beginning of what was granted
  rw [← hFlat, payloads, List.map_append]
  exact hStage.accepted.trans (List.sublist_append_left _ _)

/-- **Only granted ids are accepted**, in the order in which they were granted. -/
theorem Reaches.accepted_sublist {c : Cycle} (hCycle : d.Reaches now h c) :
    h.accepted.Sublist (payloads h.granted) := by
  have hExplains := hCycle.explains
  cases c with
  | claiming t =>
    obtain ⟨-, -, rfl⟩ := hExplains
    exact List.nil_sublist _
  | leasing chunk later granted report =>
    rw [hExplains.2.accepted]
    exact List.nil_sublist _
  | publishing chunk later report =>
    obtain ⟨-, done, hStage⟩ := hExplains
    exact hStage.accepted_sublist
  | finished report =>
    rcases hExplains with ⟨-, rfl, -⟩ | ⟨-, done, hStage⟩
    · exact List.nil_sublist _
    · exact hStage.accepted_sublist

/-- Ids are published in the order in which they were granted. -/
theorem Reaches.acceptedIds_sublist {c : Cycle} (hCycle : d.Reaches now h c) :
    h.acceptedIds.Sublist h.granted := by
  have hIds := hCycle.accepted_sublist.filterMap AccountId.read?
  rwa [payloads, AccountId.filterMap_read?_map_write] at hIds

/-- What the history of a finished cycle amounts to: everything selected was asked
for, everything granted was offered, and the report is the count of it. -/
structure Closed (d : Dispatcher) (h : History) (report : Report) : Prop where
  requests : h.requests.flatten = d.selection h
  balance : h.accepted.length + h.refused.length = h.granted.length
  report : report = h.tally d.policy.cap

/-- A finished cycle has a closed history. -/
theorem Reaches.closed (hCycle : d.Reaches now h (.finished report)) : d.Closed h report := by
  rcases hCycle.explains with ⟨hCap, rfl, rfl⟩ | ⟨-, done, hStage⟩
  · refine ⟨?_, rfl, ?_⟩
    · rw [selection, hCap, List.take_zero]
      rfl
    · rw [hCap]
      rfl
  · have hDone : done = chunks d.chunkSize h.granted := by simpa using hStage.chunks
    refine ⟨?_, ?_, hStage.report⟩
    · rw [hStage.requests, flatten_chunks]
    · rw [hStage.balance, hDone, flatten_chunks]

end Dispatcher

end DueDispatch
