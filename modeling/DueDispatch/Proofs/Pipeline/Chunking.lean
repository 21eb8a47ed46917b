import DueDispatch.Pipeline
import DueDispatch.Proofs.Memory.Effect

/-!
# DueDispatch — the chunk size is no matter

Replicas may cut lease requests and messages as they like. Two rehearsals that differ in
nothing but the chunk sizes make different calls, and still the stores go through the
same states: lease requests one after another are one request, and a queue that only
fails as a whole takes the same ids however they are cut. What differs is where one
message ends and the next begins, how many there were, and how many calls failed.

## Results

* `agree_runCycle` — one cycle under two chunk sizes.
* `agree_perform` — one action under two chunk sizes.
* `agree_performAll` — whole rehearsals.
-/

namespace DueDispatch

-- ---------------------------------------------------------------------------
-- Queues that took the same texts
-- ---------------------------------------------------------------------------

namespace Queue

/-- All accepted payloads with their channels, in order. -/
def texts (q : Queue) : List (String × String) :=
  q.messages.flatMap fun msg => msg.payloads.map fun text => (msg.channel, text)

/-- The queues took the same payloads and refuse the same calls, which is all of them
or none. They may have been called differently. -/
structure Agree (q q' : Queue) : Prop where
  texts : q'.texts = q.texts
  failing : q'.failing = q.failing
  whole : q.failingCalls = []
  whole' : q'.failingCalls = []

variable {q q' : Queue}

/-- The published ids are those of all texts, whatever messages they came in. -/
theorem publishedIds_eq (q : Queue) :
    q.publishedIds = q.texts.filterMap fun t => AccountId.read? t.2 := by
  have hSnd : q.messages.flatMap Message.payloads = q.texts.map Prod.snd := by
    simp [texts, List.map_flatMap, Function.comp_def]
  rw [publishedIds, hSnd, List.filterMap_map]
  rfl

/-- Queues that agree have published the same ids. -/
theorem Agree.publishedIds (hAgree : Agree q q') : q'.publishedIds = q.publishedIds := by
  rw [publishedIds_eq, publishedIds_eq, hAgree.texts]

/-- A queue that refuses no single calls takes all or nothing. -/
theorem taken_of_whole (hWhole : q.failingCalls = []) (cs : List (List AccountId)) :
    q.taken cs = if q.failing then [] else cs := by
  have hAccepts : ∀ n, q.accepts n = !q.failing := by
    intro n
    simp [accepts, hWhole]
  cases hFailing : q.failing with
  | true => simp [taken, hAccepts, hFailing]
  | false => simp [taken_of_accepts (q := q) (fun n _ => by rw [hAccepts, hFailing]; rfl)]

/-- The texts that an offer adds are those of the chunks that are taken. -/
theorem texts_offered (q : Queue) (channel : String) (cs : List (List AccountId)) :
    (q.offered channel cs).texts =
      q.texts ++ (q.taken cs).flatten.map fun id => (channel, id.write) := by
  rw [texts, offered, List.flatMap_append, List.flatMap_map, List.map_flatten]
  simp [texts, payloads, List.flatMap_def, Function.comp_def]

/-- The same ids may be cut differently. -/
theorem Agree.offered (hAgree : Agree q q') (channel : String) {cs cs' : List (List AccountId)}
    (hSame : cs'.flatten = cs.flatten) :
    Agree (q.offered channel cs) (q'.offered channel cs') where
  texts := by
    rw [texts_offered, texts_offered, hAgree.texts, taken_of_whole hAgree.whole,
      taken_of_whole hAgree.whole', hAgree.failing]
    cases q.failing with
    | true => rfl
    | false => simp [hSame]
  failing := hAgree.failing
  whole := hAgree.whole
  whole' := hAgree.whole'

/-- Queues that agree answer a message alike, and agree afterwards. -/
theorem Agree.publish (hAgree : Agree q q') (channel : String) (payloads : List String) :
    (q'.publish channel payloads).1 = (q.publish channel payloads).1 ∧
      Agree (q.publish channel payloads).2 (q'.publish channel payloads).2 := by
  have hRefuses : q'.refusesNext = q.refusesNext := by
    simp [refusesNext, hAgree.failing, hAgree.whole, hAgree.whole']
  unfold Queue.publish
  rw [hRefuses]
  cases q.refusesNext with
  | true => exact ⟨rfl, hAgree.texts, hAgree.failing, hAgree.whole, hAgree.whole'⟩
  | false =>
    refine ⟨rfl, ?_, hAgree.failing, hAgree.whole, hAgree.whole'⟩
    have hTexts := hAgree.texts
    unfold Queue.texts at hTexts ⊢
    simp [hTexts]

end Queue

-- ---------------------------------------------------------------------------
-- What two rehearsals agree on
-- ---------------------------------------------------------------------------

/-- The stores hold the same, but for how the messages are cut. -/
structure Memory.Agree (m m' : Memory) : Prop where
  clock : m'.clock = m.clock
  accounts : m'.accounts = m.accounts
  leases : m'.leases = m.leases
  queue : m.queue.Agree m'.queue

/-- Memories that agree differ in their queues only. -/
theorem Memory.Agree.exists_queue {m m' : Memory} (hAgree : m.Agree m') :
    ∃ q', m.queue.Agree q' ∧ m' = { m with queue := q' } := by
  obtain ⟨hClock, hAccounts, hLeases, hQueue⟩ := hAgree
  refine ⟨m'.queue, hQueue, ?_⟩
  rw [← hClock, ← hAccounts, ← hLeases]

/-- The reports differ in nothing but the numbers of failed calls, and they agree on
whether there were any. -/
def Report.Same (r r' : Report) : Prop :=
  r' = { r with leaseFailures := r'.leaseFailures, publishFailures := r'.publishFailures } ∧
    r'.hasErrors = r.hasErrors

/-- What is seen of two actions differs in nothing but the numbers of failed calls. -/
def Outcome.Same : Outcome → Outcome → Prop
  | .report r, .report r' => r.Same r'
  | .publishing r, .publishing r' => r.Same r'
  | o, o' => o' = o

/-- A replica with another chunk size. -/
def Dispatcher.resized (d : Dispatcher) (size : Nat) : Dispatcher := { d with chunkSize := size }

namespace Dispatcher

variable {m m' : Memory} (d : Dispatcher) (size size' : Nat)

/-- There is a chunk exactly when there is an id. -/
theorem decide_chunks_pos (size : Nat) (ids : List AccountId) :
    decide (0 < (chunks size ids).length) = !ids.isEmpty := by
  cases ids with
  | nil => simp
  | cons id rest => simp [chunks]

/-- The last stage of a cycle under two chunk sizes. -/
theorem agree_run_publishNext (hAgree : m.Agree m') (ids : List AccountId) {r : Report}
    (hNone : r.publishFailures = 0) {failures : Nat}
    (hFailures : decide (0 < failures) = decide (0 < r.leaseFailures)) :
    let out := (d.resized size).run Memory.backends (publishNext (chunks size ids) r) m
    let out' := (d.resized size').run Memory.backends
      (publishNext (chunks size' ids) { r with leaseFailures := failures }) m'
    out.1.Same out'.1 ∧ out.2.Agree out'.2 := by
  obtain ⟨q', hQueue, rfl⟩ := hAgree.exists_queue
  rw [run_publishNext, run_publishNext, Queue.taken_of_whole hQueue.whole,
    Queue.taken_of_whole hQueue.whole', hQueue.failing]
  refine ⟨?_, ⟨rfl, rfl, rfl, hQueue.offered d.channel (by simp)⟩⟩
  -- the queue takes everything, or it refuses every message if there is one
  cases m.queue.failing with
  | true => simp [Report.Same, Report.hasErrors, hNone, decide_chunks_pos, hFailures]
  | false => simp [Report.Same, Report.hasErrors, hNone, hFailures]

/-- The stages after the claim under two chunk sizes. -/
theorem agree_run_leaseNext (hAgree : m.Agree m') (ids : List AccountId) :
    let out := (d.resized size).run Memory.backends
      ((d.resized size).leaseNext (chunks size ids) [] { selected := ids.length }) m
    let out' := (d.resized size').run Memory.backends
      ((d.resized size').leaseNext (chunks size' ids) [] { selected := ids.length }) m'
    out.1.Same out'.1 ∧ out.2.Agree out'.2 := by
  obtain ⟨q', hQueue, rfl⟩ := hAgree.exists_queue
  cases hLeases : m.leases.failing with
  | true =>
    rw [run_leaseNext_of_failing (d.resized size) _ _ _ m hLeases,
      run_leaseNext_of_failing (d.resized size') _ _ _ { m with queue := q' } hLeases,
      flatten_chunks, flatten_chunks]
    refine d.agree_run_publishNext size size' hAgree [] (r := ⟨_, _, _, _, _, _, _, _, _⟩) rfl ?_
    show decide (0 < 0 + (chunks size' ids).length) = decide (0 < 0 + (chunks size ids).length)
    rw [Nat.zero_add, Nat.zero_add, decide_chunks_pos, decide_chunks_pos]
  | false =>
    rw [run_leaseNext (d.resized size) _ _ _ m hLeases,
      run_leaseNext (d.resized size') _ _ _ { m with queue := q' } hLeases,
      flatten_chunks, flatten_chunks]
    -- the requests of both together are one and the same request
    have hLeased : Memory.Agree { m with leases := ⟨(m.pass d.ttl ids).2, false⟩ }
        { m with leases := ⟨(m.pass d.ttl ids).2, false⟩, queue := q' } := ⟨rfl, rfl, rfl, hQueue⟩
    exact d.agree_run_publishNext size size' hLeased ([] ++ (m.pass d.ttl ids).1)
      (r := ⟨_, _, _, _, _, _, _, _, _⟩) rfl rfl

/-- **One cycle under two chunk sizes.** -/
theorem agree_runCycle (hAgree : m.Agree m') :
    let out := (d.resized size).runCycle Memory.backends m.clock m
    let out' := (d.resized size').runCycle Memory.backends m'.clock m'
    out.1.Same out'.1 ∧ out.2.Agree out'.2 := by
  obtain ⟨q', hQueue, rfl⟩ := hAgree.exists_queue
  by_cases hCap : d.policy.cap = 0
  · rw [runCycle_of_cap_zero (d := d.resized size) hCap,
      runCycle_of_cap_zero (d := d.resized size') hCap]
    exact ⟨⟨rfl, rfl⟩, hAgree⟩
  cases hAccounts : m.accounts.failing with
  | true =>
    rw [runCycle_of_accounts_failing (d := d.resized size) hCap hAccounts,
      runCycle_of_accounts_failing (d := d.resized size') (m := { m with queue := q' }) hCap
        hAccounts]
    exact ⟨⟨rfl, rfl⟩, hAgree⟩
  | false =>
    rw [runCycle_eq_run_leaseNext (d := d.resized size) hCap hAccounts,
      runCycle_eq_run_leaseNext (d := d.resized size') (m := { m with queue := q' }) hCap
        hAccounts]
    -- both claims take the same rows and leave the same table
    have hClaim : ((d.resized size).afterClaim m.clock m).Agree
        ((d.resized size').afterClaim m.clock { m with queue := q' }) := ⟨rfl, rfl, rfl, hQueue⟩
    exact d.agree_run_leaseNext size size' hClaim _

/-- A claim does not look at the chunk size. -/
theorem agree_select (hAgree : m.Agree m') (now : Timestamp) :
    let out := (d.resized size).select Memory.backends now m
    let out' := (d.resized size').select Memory.backends now m'
    out'.1 = out.1 ∧ out.2.Agree out'.2 := by
  obtain ⟨q', hQueue, rfl⟩ := hAgree.exists_queue
  show (d.select Memory.backends now { m with queue := q' }).1 =
      (d.select Memory.backends now m).1 ∧
    (d.select Memory.backends now m).2.Agree (d.select Memory.backends now { m with queue := q' }).2
  unfold select
  by_cases hCap : d.policy.cap = 0
  · rw [if_pos hCap, if_pos hCap]
    exact ⟨rfl, hAgree⟩
  · rw [if_neg hCap, if_neg hCap]
    exact ⟨rfl, rfl, rfl, rfl, hQueue⟩

end Dispatcher

-- ---------------------------------------------------------------------------
-- Rehearsals
-- ---------------------------------------------------------------------------

/-- The replicas with these chunk sizes. -/
def resizeAll (sizes : Nat → Nat) (replicas : List Dispatcher) : List Dispatcher :=
  replicas.mapIdx fun i d => d.resized (sizes i)

namespace Action

variable {m m' : Memory} (replicas : List Dispatcher) (sizes sizes' : Nat → Nat)

/-- A replica's part of an action, if it agrees under any two chunk sizes. -/
theorem agree_onReplica (hAgree : m.Agree m') (replica : Nat)
    {part part' : Dispatcher → Outcome × Memory}
    (hPart : ∀ d size size', (part (.resized d size)).1.Same (part' (.resized d size')).1 ∧
      (part (.resized d size)).2.Agree (part' (.resized d size')).2) :
    let out := onReplica (resizeAll sizes replicas) replica m part
    let out' := onReplica (resizeAll sizes' replicas) replica m' part'
    out.1.Same out'.1 ∧ out.2.Agree out'.2 := by
  unfold onReplica resizeAll
  rw [List.getElem?_mapIdx, List.getElem?_mapIdx]
  cases replicas[replica]? with
  | none => exact ⟨rfl, hAgree⟩
  | some d => exact hPart d _ _

/-- **One action under two assignments of chunk sizes.** -/
theorem agree_perform (hAgree : m.Agree m') {a : Action} (hWhole : ∀ n, a ≠ .failCall n) :
    let out := a.perform (resizeAll sizes replicas) m
    let out' := a.perform (resizeAll sizes' replicas) m'
    out.1.Same out'.1 ∧ out.2.Agree out'.2 := by
  obtain ⟨q', hQueue, rfl⟩ := hAgree.exists_queue
  cases a with
  | cycle replica =>
    refine agree_onReplica replicas sizes sizes' hAgree replica ?_
    intro d size size'
    exact d.agree_runCycle size size' hAgree
  | select replica now =>
    refine agree_onReplica replicas sizes sizes' hAgree replica ?_
    intro d size size'
    obtain ⟨hResult, hAfter⟩ := d.agree_select size size' hAgree now
    exact ⟨congrArg Outcome.ids hResult, hAfter⟩
  | grant replica ids =>
    refine agree_onReplica replicas sizes sizes' hAgree replica ?_
    intro d size size'
    unfold Dispatcher.grant
    cases ids.isEmpty with
    | true => exact ⟨rfl, hAgree⟩
    | false => exact ⟨rfl, rfl, rfl, rfl, hQueue⟩
  | publish replica ids =>
    refine agree_onReplica replicas sizes sizes' hAgree replica ?_
    intro d size size'
    exact d.agree_run_publishNext size size' hAgree ids (r := {}) rfl rfl
  | send channel payloads =>
    obtain ⟨hSent, hAfter⟩ := hQueue.publish channel payloads
    exact ⟨congrArg Outcome.sent hSent, rfl, rfl, rfl, hAfter⟩
  | failQueue failing =>
    exact ⟨rfl, rfl, rfl, rfl, hQueue.texts, rfl, hQueue.whole, hQueue.whole'⟩
  | failCall n => exact absurd rfl (hWhole n)
  | acquire ids ttl => exact ⟨rfl, rfl, rfl, rfl, hQueue⟩
  | claim now policy => exact ⟨rfl, rfl, rfl, rfl, hQueue⟩
  | count => exact ⟨rfl, hAgree⟩
  | setClock time => exact ⟨rfl, rfl, rfl, rfl, hQueue⟩
  | advance span => exact ⟨rfl, rfl, rfl, rfl, hQueue⟩
  | insert row => exact ⟨rfl, rfl, rfl, rfl, hQueue⟩
  | markChecked id time => exact ⟨rfl, rfl, rfl, rfl, hQueue⟩
  | failAccounts failing => exact ⟨rfl, rfl, rfl, rfl, hQueue⟩
  | failLeases failing => exact ⟨rfl, rfl, rfl, rfl, hQueue⟩

/-- A script in which no call is made to fail keeps the agreement, and both runs have the
same outcomes. -/
theorem agree_performAll (hAgree : m.Agree m') {actions : List Action}
    (hWhole : ∀ n, .failCall n ∉ actions) :
    let out := performAll (resizeAll sizes replicas) actions m
    let out' := performAll (resizeAll sizes' replicas) actions m'
    List.Forall₂ Outcome.Same out.1 out'.1 ∧ out.2.Agree out'.2 := by
  induction actions generalizing m m' with
  | nil => exact ⟨.nil, hAgree⟩
  | cons a rest ih =>
    have hAction : ∀ n, a ≠ .failCall n := by
      rintro n rfl
      exact hWhole n List.mem_cons_self
    have hRest : ∀ n, .failCall n ∉ rest := fun n hMem => hWhole n (List.mem_cons_of_mem _ hMem)
    obtain ⟨hFirst, hNext⟩ := agree_perform replicas sizes sizes' hAgree hAction
    obtain ⟨hLater, hEnd⟩ := ih hNext hRest
    exact ⟨.cons hFirst hLater, hEnd⟩

/-- **The chunk size does not change what is dispatched.** A rehearsal in which no single
publish call is made to fail is run under two assignments of chunk sizes. After every
step

* the rows, the leases, the clock and the published ids are the same, and so are the
  accepted payloads with their channels,
* what was seen of the steps is the same, but for the numbers of failed calls. -/
theorem chunkSize_irrelevant (replicas : List Dispatcher) (sizes sizes' : Nat → Nat) {m : Memory}
    (hWhole : m.queue.failingCalls = []) {actions : List Action}
    (hNoSingle : ∀ n, .failCall n ∉ actions) (k : Nat) :
    let out := performAll (resizeAll sizes replicas) (actions.take k) m
    let out' := performAll (resizeAll sizes' replicas) (actions.take k) m
    out'.2.accounts = out.2.accounts ∧ out'.2.leases = out.2.leases ∧
      out'.2.clock = out.2.clock ∧
      out'.2.queue.publishedIds = out.2.queue.publishedIds ∧
      out'.2.queue.texts = out.2.queue.texts ∧
      List.Forall₂ Outcome.Same out.1 out'.1 := by
  intro out out'
  have hStart : m.Agree m := ⟨rfl, rfl, rfl, rfl, rfl, hWhole, hWhole⟩
  obtain ⟨hSeen, hAgree⟩ := agree_performAll replicas sizes sizes' hStart
    fun n hMem => hNoSingle n (List.mem_of_mem_take hMem)
  exact ⟨hAgree.accounts, hAgree.leases, hAgree.clock, hAgree.queue.publishedIds,
    hAgree.queue.texts, hSeen⟩

/-- A cycle, and messages before and after the queue began to fail. -/
def throughOutage : List Action :=
  [.cycle 0, .publish 0 [5, 6, 7], .failQueue true, .publish 0 [8, 9]]

/-- The queue is called for each chunk of what is published. The cycle does not call it, as
there are no accounts. -/
theorem calls_throughOutage (d : Dispatcher) (now : Timestamp) :
    (performAll [d] throughOutage { clock := now }).2.queue.calls =
      (chunks d.chunkSize ([5, 6, 7] : List AccountId)).length +
        (chunks d.chunkSize ([8, 9] : List AccountId)).length := by
  have hCycle : (perform [d] { clock := now } (.cycle 0)).2.queue.calls = 0 := by
    change (d.runCycle Memory.backends now { clock := now }).2.queue.calls = 0
    by_cases hCap : d.policy.cap = 0
    · rw [Dispatcher.runCycle_of_cap_zero hCap]
    · have hNone : ({} : AccountTable).claimable now d.policy = [] := by
        simp [AccountTable.claimable, AccountTable.due]
      rw [Dispatcher.runCycle_eq_run_leaseNext hCap rfl]
      simp [hNone, Dispatcher.leaseNext, Dispatcher.publishNext, Dispatcher.run_finished,
        Dispatcher.afterClaim]
  have hPublish (m : Memory) (ids : List AccountId) :
      (perform [d] m (.publish 0 ids)).2.queue.calls =
        m.queue.calls + (chunks d.chunkSize ids).length := by
    change (d.run Memory.backends
      (Dispatcher.publishNext (chunks d.chunkSize ids) {}) m).2.queue.calls = _
    rw [Dispatcher.run_publishNext]
    rfl
  have hFail (m : Memory) :
      (perform [d] m (.failQueue true)).2.queue.calls = m.queue.calls := rfl
  simp only [throughOutage, performAll_cons, performAll, hPublish, hFail, hCycle, Nat.zero_add]

/-- One replica makes three calls with pairs of ids and the other five with single ones. -/
theorem chunkSize_irrelevant_outage :
    let replicas := [⟨⟨.ofSecs 60, .ofSecs 300, 10⟩, .ofSecs 300, defaultChannel, 10⟩]
    let m : Memory := { clock := ⟨0⟩ }
    let out := performAll (resizeAll (fun _ => 2) replicas) throughOutage m
    let out' := performAll (resizeAll (fun _ => 0) replicas) throughOutage m
    m.queue.failingCalls = [] ∧ (∀ n, .failCall n ∉ throughOutage) ∧
      out.2.queue.calls = 3 ∧ out'.2.queue.calls = 5 ∧
      out'.2.queue.publishedIds = out.2.queue.publishedIds ∧
      List.Forall₂ Outcome.Same out.1 out'.1 := by
  intro replicas m out out'
  have hWhole : m.queue.failingCalls = [] := rfl
  have hNoSingle : ∀ n, .failCall n ∉ throughOutage := by simp [throughOutage]
  obtain ⟨-, -, -, hPublished, -, hSeen⟩ :=
    chunkSize_irrelevant replicas (fun _ => 2) (fun _ => 0) hWhole hNoSingle 4
  have hPairs : out.2.queue.calls = 3 :=
    (calls_throughOutage ..).trans (by simp [length_chunks, Dispatcher.resized])
  have hSingles : out'.2.queue.calls = 5 :=
    (calls_throughOutage ..).trans (by simp [length_chunks, Dispatcher.resized])
  exact ⟨hWhole, hNoSingle, hPairs, hSingles, hPublished, hSeen⟩

end Action

end DueDispatch
