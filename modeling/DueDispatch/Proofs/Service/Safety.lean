import DueDispatch.Proofs.Cycle.Balance
import DueDispatch.Proofs.Service.Traffic

/-!
# DueDispatch — a cycle among arbitrary peers

Postgres and Redis may answer whatever they like. The running program still asks for
leases only on ids of a committed claim, and publishes only ids that a reply to such a
request granted, none of them more often than the claim returned it.

How often a lease script is sent depends on the lease server: not at all where it
cannot be connected to, and twice where it claims not to know the script. So it is the
requests, not the scripts, that cover the claimed ids.

## Results

* `commit_before_lease` — the lease server is spoken to only after the commit.
* `traffic_of_runCycle` — what a cycle sends, for any peers.
-/

namespace DueDispatch

namespace Dispatcher

variable {σ : Type} {d : Dispatcher} {now : Timestamp} {h : History} {report : Report}
  {table : Postgres.Table} {keyspace : String} {t : Traffic}

/-- A cycle that has ended asked for all it selected and offered all it was granted. -/
theorem Reaches.offers (hCycle : d.Reaches now h (.finished report)) :
    h.requests = chunks d.chunkSize (d.selection h) ∧
      h.messages = (chunks d.chunkSize h.granted).map payloads ∧
      ∀ ids life, Call.lease ids life ∈ h.calls → life = d.ttl := by
  rcases hCycle.explains with ⟨hCap, rfl, -⟩ | ⟨-, done, hStage⟩
  · refine ⟨?_, ?_, by simp [History.calls]⟩
    · rw [selection, hCap, List.take_zero, chunks_nil]
      rfl
    · rw [History.granted, List.flatMap_nil, chunks_nil]
      rfl
  · have hDone : done = chunks d.chunkSize h.granted := by simpa using hStage.chunks
    refine ⟨hStage.requests, hDone ▸ hStage.messages, fun ids life hMem => ?_⟩
    rw [hStage.calls] at hMem
    obtain ⟨-, -, rfl⟩ : ids ∈ h.requests ∧ True ∧ d.ttl = life := by
      simpa [leaseCall, publishCall] using hMem
    rfl

/-- The traffic of a cycle begins with the transaction of its claim, and nothing else
in it concerns the store. If the claim failed, there is nothing else. -/
theorem Publishing.exists_transaction {done : List (List AccountId)}
    (hStage : d.Publishing now h done [] report) (hCarried : Carried table keyspace h t) :
    ∃ result seg rest, Postgres.Transaction table (.of now d.policy) result seg ∧
      t = seg.map .store ++ rest ∧ rest.filterMap Contact.store? = [] ∧
      h.claimed = result.toOption.getD [] ∧ (∀ f, result = .error f → rest = []) := by
  obtain ⟨a, later, rfl, hCalls, hLater⟩ := hStage.exists_claim
  cases hCarried with
  | @cons _ _ _ rest hHead hRest =>
    cases hHead with
    | @claim _ _ _ seg hClaim =>
      have hClaimed : History.claimed (⟨.claim now d.policy, a⟩ :: later) =
          a.result.toOption.getD [] := by
        rw [History.claimed, List.flatMap_cons,
          List.flatMap_eq_nil_iff.mpr fun e he => (hLater e he).1, List.append_nil]
        obtain ⟨result, elapsed⟩ := a
        cases result <;> rfl
      have hOther : ∀ e ∈ later, ∀ now' p, e.call ≠ .claim now' p := by
        intro e hMem now' p hCall
        have hListed := List.mem_map_of_mem (f := Exchange.call) hMem
        rw [hCalls, hCall] at hListed
        simp [leaseCall, publishCall] at hListed
      refine ⟨a.result, seg, rest, hClaim, rfl, hRest.store_eq_nil hOther, hClaimed, ?_⟩
      intro f hFailed
      -- a claim that failed is the only call
      rw [hFailed] at hClaimed
      obtain ⟨b, hOnly⟩ := hStage.eq_singleton hClaimed
      obtain rfl : later = [] := (List.cons.inj hOnly).2
      cases hRest
      rfl

/-- The lease server is spoken to only after the commit of the claim. -/
theorem commit_before_lease (hCycle : d.Reaches now h (.finished report))
    (hCarried : Carried table keyspace h t) {before after : Traffic} {c : Redis.Contact}
    (hSplit : t = before ++ .leases c :: after) :
    (Postgres.committedClaim table (.of now d.policy) t.claimedRows).map .store <+: before := by
  rcases hCycle.explains with ⟨-, rfl, -⟩ | ⟨-, done, hStage⟩
  · cases hCarried
    simp at hSplit
  obtain ⟨result, seg, rest, hClaim, hAll, hRest, -, hFailed⟩ := hStage.exists_transaction hCarried
  have hNot : Contact.leases c ∉ seg.map Contact.store := by simp
  rw [hAll] at hSplit
  obtain ⟨more, rfl, hRest'⟩ := Traffic.exists_before hNot hSplit
  rw [hAll, Traffic.claimedRows_append hRest]
  cases result with
  | error f =>
    rw [hFailed f rfl] at hRest'
    simp at hRest'
  | ok ids =>
    rw [← hClaim.eq_committedClaim]
    exact List.prefix_append _ _

/-- The messages of a cycle come after all its lease requests. -/
theorem Publishing.exists_messages {done todo : List (List AccountId)}
    (hStage : d.Publishing now h done todo report) :
    ∃ first messages, h = first ++ messages ∧ (∀ e ∈ first, e.sent? = none) ∧
      messages.granted = [] := by
  have hCalls : h.calls =
      (.claim now d.policy :: h.requests.map d.leaseCall) ++ done.map d.publishCall := hStage.calls
  obtain ⟨first, messages, hSplit, hFirst, hMessages⟩ := List.map_eq_append_iff.mp hCalls
  refine ⟨first, messages, hSplit, fun e hMem => ?_, List.flatMap_eq_nil_iff.mpr fun e hMem => ?_⟩
  · have hCall : e.call ∈ first.map Exchange.call := List.mem_map_of_mem hMem
    obtain ⟨call, a⟩ := e
    rw [hFirst] at hCall
    cases call with
    | publish channel texts => simp [leaseCall] at hCall
    | claim now' p => rfl
    | lease ids ttl => rfl
  · have hCall : e.call ∈ messages.map Exchange.call := List.mem_map_of_mem hMem
    obtain ⟨call, a⟩ := e
    rw [hMessages] at hCall
    cases call with
    | lease ids ttl => simp [publishCall] at hCall
    | claim now' p => rfl
    | publish channel texts => rfl

/-- By the time an entry is sent, all that the cycle is granted has been granted. -/
theorem granted_before_sent (hCycle : d.Reaches now h (.finished report))
    (hCarried : Carried table keyspace h t) {before after : Traffic} {c : Redis.Contact}
    (hSplit : t = before ++ .queue c :: after) : before.granted = t.granted := by
  rcases hCycle.explains with ⟨-, rfl, -⟩ | ⟨-, done, hStage⟩
  · cases hCarried
    simp at hSplit
  obtain ⟨first, messages, rfl, hFirst, hMessages⟩ := hStage.exists_messages
  obtain ⟨t₁, t₂, hAll, hLeases, hQueue⟩ := hCarried.exists_split
  have hNot : Contact.queue c ∉ t₁ := by
    intro hMem
    have hFound : c ∈ t₁.filterMap Contact.queue? := List.mem_filterMap.mpr ⟨_, hMem, rfl⟩
    rw [hLeases.queue_eq_nil hFirst] at hFound
    simp at hFound
  rw [hAll] at hSplit
  obtain ⟨more, rfl, hRest⟩ := Traffic.exists_before hNot hSplit
  -- what follows on the first message brings no grants
  have hLate : Traffic.granted t₂ = [] := hQueue.granted.trans hMessages
  have hMore : Traffic.granted more = [] := by
    rw [hRest, Traffic.granted_append] at hLate
    exact (List.append_eq_nil_iff.mp hLate).1
  rw [hAll, Traffic.granted_append, Traffic.granted_append, hMore, hLate]

/-- What is selected are the ids of the committed rows, up to the cap. -/
theorem selection_eq (hCycle : d.Reaches now h (.finished report))
    (hCarried : Carried table keyspace h t) :
    d.selection h = (Postgres.claimedIds t.claimedRows).take d.policy.cap := by
  rcases hCycle.explains with ⟨hCap, -, -⟩ | ⟨-, done, hStage⟩
  · rw [selection, hCap, List.take_zero, List.take_zero]
  obtain ⟨result, seg, rest, hClaim, rfl, hRest, hClaimed, -⟩ := hStage.exists_transaction hCarried
  rw [selection, hClaimed, Traffic.claimedRows_append hRest, hClaim.ids_eq]

/-- Behind the traffic of a cycle there is a history that leads to its report. -/
theorem exists_history (d : Dispatcher) (peers : Peers σ) (table : Postgres.Table)
    (keyspace : String) (now : Timestamp) (s : σ) :
    let run := d.runCycle (peers.watched.backends table keyspace) now (s, [])
    ∃ h, d.Reaches now h (.finished run.1) ∧ Carried table keyspace h run.2.2 := by
  intro run
  have hSame := d.run_logged (peers.watched.backends table keyspace) (d.begin now) (s, []) []
  have hReaches : d.Reaches now _ (.finished _) :=
    reaches_run_logged (peers.watched.backends table keyspace) ((s, []), []) .begin
  have hNothing : Carried table keyspace [] [] := .nil
  have hCarried := carried_run (d := d) (c := d.begin now) peers ((s, []), []) hNothing
  obtain ⟨hReport, hState⟩ := Prod.mk.inj hSame
  exact ⟨_, hReport ▸ hReaches, congrArg Prod.snd hState ▸ hCarried⟩

/-- **What a cycle sends to arbitrary peers.** Watching it changes nothing. The lease
server is spoken to only after the commit of the claim. The lease requests are for the
committed ids by check time and id, cut to the cap and into chunks; their scripts name
nothing else, and where every connection is opened and the script is known they name
just these. What is published was granted before by replies that decode and pass, and that
is part of the selection, in its order. So no id is published more often than the
committed claim returned it. -/
theorem traffic_of_runCycle (d : Dispatcher) (peers : Peers σ) (table : Postgres.Table)
    (keyspace : String) (now : Timestamp) (s : σ) :
    let run := d.runCycle (peers.watched.backends table keyspace) now (s, [])
    let t : Traffic := run.2.2
    let selected := (Postgres.claimedIds t.claimedRows).take d.policy.cap
    (run.1, run.2.1) = d.runCycle (peers.backends table keyspace) now s ∧
    (∃ sorted : List (AccountId × Timestamp), sorted.Perm t.claimedRows ∧
      sorted.Pairwise (fun a b => Postgres.rowBefore a b = true) ∧
      selected = (sorted.map Prod.fst).take d.policy.cap) ∧
    (∀ before c after, t = before ++ .leases c :: after →
      (Postgres.committedClaim table (.of now d.policy) t.claimedRows).map .store <+: before) ∧
    (∃ segs, List.Forall₂
        (fun ids seg => ∃ result, Redis.Request keyspace d.ttl ids result seg)
        (chunks d.chunkSize selected) segs ∧
      t.filterMap Contact.leases? = segs.flatten) ∧
    (∀ ids ∈ t.scripts, ids ∈ chunks d.chunkSize selected) ∧
    ((∀ c ∈ t.filterMap Contact.leases?, c.isSetback = false) → t.scripts.flatten = selected) ∧
    t.sent.Sublist t.granted ∧
    (∀ before c after, t = before ++ .queue c :: after →
      Traffic.granted before = t.granted) ∧
    t.granted.Sublist selected ∧
    ∀ id, t.sent.count id ≤ (t.claimedRows.map Prod.fst).count id := by
  intro run t selected
  obtain ⟨h, hReaches, hCarried⟩ := d.exists_history peers table keyspace now s
  obtain ⟨hRequests, hMessages, hLife⟩ := hReaches.offers
  have hSelected : d.selection h = selected := selection_eq hReaches hCarried
  obtain ⟨sorted, hPerm, hSorted, hIds⟩ := Postgres.sorted_claimedIds t.claimedRows
  -- what the lease server is sent are the requests for the chunks of the selection
  obtain ⟨segs, hEach, hLeases⟩ := hCarried.requests hLife
  rw [hRequests, hSelected] at hEach
  have hSent : t.sent.Sublist t.granted := by
    have hSub := hCarried.sent_sublist hMessages
    rwa [flatten_chunks, ← hCarried.granted] at hSub
  have hGranted : t.granted.Sublist selected := by
    have hSub := hCarried.granted_sublist
    rwa [← hCarried.granted, hRequests, flatten_chunks, hSelected] at hSub
  refine ⟨d.run_watched peers table keyspace _ s [], ⟨sorted, hPerm, hSorted, by rw [← hIds]⟩,
    fun before c after hSplit => commit_before_lease hReaches hCarried hSplit,
    ⟨segs, hEach, hLeases⟩, fun ids hMem => ?_, fun hSmooth => ?_, hSent,
    fun before c after hSplit => granted_before_sent hReaches hCarried hSplit, hGranted,
    fun id => ?_⟩
  · rw [Traffic.scripts, hLeases] at hMem
    obtain ⟨c, hContact, hScript⟩ := List.mem_filterMap.mp hMem
    exact Redis.mem_of_script hEach hContact hScript
  · rw [hLeases] at hSmooth
    rw [Traffic.scripts, hLeases, Redis.scripts_of_requests hEach hSmooth, flatten_chunks]
  -- what is sent is part of the selection, and that is part of the committed ids
  · calc t.sent.count id
        ≤ selected.count id := (hSent.trans hGranted).count_le id
      _ ≤ (sorted.map Prod.fst).count id := by
          rw [← hIds]
          exact (List.take_sublist _ _).count_le id
      _ = (t.claimedRows.map Prod.fst).count id := (hPerm.map Prod.fst).count_eq id

-- ---------------------------------------------------------------------------
-- Three lease servers
-- ---------------------------------------------------------------------------

def accounts : Postgres.Table := ⟨"accounts", by decide⟩

/-- Three rows, the last one to be handed out first. -/
def backwards : List (AccountId × Timestamp) := [(1, ⟨5⟩), (2, ⟨4⟩), (3, ⟨3⟩)]

def threeRows : Postgres.Server Nat where
  connect n := (.ok (), n)
  ask
    | .claim .., n => (.ok backwards, n)
    | .count _, n => (.ok [], n)
    | .probe, n => (.ok (), n)
    | .begin, n => (.ok (), n)
    | .commit, n => (.ok (), n)
    | .rollback, n => (.ok (), n)

def willing : Redis.Server Nat where
  connect n := (.ok (), n)
  ask _ n := (.ok .okay, n)

/-- A lease server that counts the scripts it is sent and answers them by number. -/
def answering (answer : Nat → List AccountId → Except String Redis.Reply) :
    Redis.Server Nat where
  connect n := (.ok (), n)
  ask
    | .grant _ args, n => (answer n (args.tail.filterMap AccountId.read?), n + 1)
    | _, n => (.ok .okay, n)

def grantAll (ids : List AccountId) : Redis.Reply := .array (ids.map .integer)

/-- It forgets the script before the second request. -/
def forgetful : Redis.Server Nat :=
  answering fun n ids => if n = 1 then .error "NOSCRIPT" else .ok (grantAll ids)

/-- It grants a foreign id at the second request. -/
def foreign : Redis.Server Nat :=
  answering fun n ids => .ok (grantAll (if n = 1 then [7] else ids))

/-- At most three ids, one of them a call. -/
def singles : Dispatcher := { pairs with chunkSize := 1 }

def among (leases : Redis.Server Nat) : Peers Nat := ⟨threeRows, leases, willing⟩

/-- What passes in one cycle over a lease server. -/
def passing (leases : Redis.Server Nat) : Traffic :=
  (singles.runCycle ((among leases).watched.backends accounts "locks") ⟨0⟩ (0, [])).2.2

theorem claimedIds_backwards : Postgres.claimedIds backwards = [3, 2, 1] := by
  have hFirst : Postgres.rowBefore (1, ⟨5⟩) (2, ⟨4⟩) = false := by decide
  have hSecond : Postgres.rowBefore (2, ⟨4⟩) (3, ⟨3⟩) = false := by decide
  simp [Postgres.claimedIds, backwards, List.mergeSort, hFirst, hSecond]

/-- What passes for the claim. -/
def transaction : Traffic :=
  (Postgres.committedClaim accounts (.of ⟨0⟩ singles.policy) backwards).map .store

theorem claim_among (leases : Redis.Server Nat) :
    (among leases).watched.backends accounts "locks" (.claim ⟨0⟩ singles.policy) (0, []) =
      (⟨.ok [3, 2, 1], 0⟩, 0, transaction) := by
  simp [among, Peers.backends, Peers.watched, Postgres.Server.watched, Postgres.Server.claim,
    Postgres.Server.commitClaim, threeRows, claimedIds_backwards, Postgres.committedClaim,
    transaction]

/-- What passes for a message of one id. -/
def message (id : AccountId) : List Redis.Contact :=
  [.connection (.ok ()),
    .command (.append singles.channel (Redis.Entry.encode (payloads [id]))) (.ok .okay)]

theorem sent_messages (ids : List AccountId) :
    (ids.flatMap message).flatMap Redis.Contact.sent = ids := by
  have hSent (id : AccountId) : (message id).flatMap Redis.Contact.sent = [id] := by
    have hIds : Redis.Entry.idsIn (Redis.Entry.encode (payloads [id])) = [id] :=
      Redis.Entry.idsIn_encode [id]
    simp [message, Redis.Contact.sent, hIds]
  simp [List.flatMap_assoc, hSent]

/-- The granted ids are published one by one. -/
theorem run_publishNext_among (leases : Redis.Server Nat) (ids : List AccountId) (report : Report)
    (n : Nat) (t : Traffic) :
    (singles.run ((among leases).watched.backends accounts "locks")
      (publishNext (chunks singles.chunkSize ids) report) (n, t)).2.2 =
        t ++ (ids.flatMap message).map .queue := by
  induction ids generalizing report t with
  | nil => simp [publishNext, run_finished]
  | cons id ids ih =>
    have hChunks : chunks singles.chunkSize (id :: ids) =
        [id] :: chunks singles.chunkSize ids := by
      simp [chunks, singles]
    have hPublish : (among leases).watched.backends accounts "locks"
          (.publish singles.channel (payloads [id])) (n, t) =
        (⟨.ok (), 0⟩, n, t ++ (message id).map .queue) := by
      simp [among, Peers.backends, Peers.watched, Redis.Server.watched, Redis.Server.publish,
        Redis.Server.askText, willing, Redis.Reply.checkText, message, Except.mapError]
    rw [hChunks, publishNext, run_eq_run_step _ _ _ rfl]
    simp only [step, hPublish, published]
    rw [ih, List.flatMap_cons, List.map_append, List.append_assoc]

/-- A request for one id takes a lease server from the first state to the second. This comes
of it, and this is what passes. -/
def Answers (leases : Redis.Server Nat) (id : AccountId) (n n' : Nat)
    (result : Except Error (List AccountId)) (seg : List Redis.Contact) : Prop :=
  ∀ t, (among leases).watched.backends accounts "locks" (.lease [id] singles.ttl) (n, t) =
    (⟨result, 0⟩, n', t ++ seg.map .leases)

section

variable {leases : Redis.Server Nat} {n₁ n₂ n₃ : Nat} {r₁ r₂ r₃ : Except Error (List AccountId)}
  {s₁ s₂ s₃ : List Redis.Contact}

/-- Three requests are made, and what they grant is published. -/
theorem passing_eq (hFirst : Answers leases 3 0 n₁ r₁ s₁) (hSecond : Answers leases 2 n₁ n₂ r₂ s₂)
    (hThird : Answers leases 1 n₂ n₃ r₃ s₃) :
    passing leases = transaction ++ ((s₁ ++ s₂ ++ s₃).map .leases ++
      ((r₁.toOption.getD [] ++ r₂.toOption.getD [] ++ r₃.toOption.getD []).flatMap message).map
        .queue) := by
  have hCap : [3, 2, 1].take singles.policy.cap = ([3, 2, 1] : List AccountId) := rfl
  have hChunks : chunks singles.chunkSize [3, 2, 1] =
      ([[3], [2], [1]] : List (List AccountId)) := by
    simp [chunks, singles]
  have hGranted (chunk : List AccountId) (r : Except Error (List AccountId)) :
      (LeaseOutcome.ofResult chunk r).granted = r.toOption.getD [] := by
    cases r <;> rfl
  rw [passing, runCycle, Dispatcher.begin, if_neg (by decide), run_eq_run_step _ _ _ rfl]
  simp only [step, claim_among, claimed, capped, Except.map, hCap, hChunks, leaseNext]
  -- one step for each of the three requests
  rw [run_eq_run_step _ _ _ rfl]
  simp only [step, hFirst _, leased, leaseNext]
  rw [run_eq_run_step _ _ _ rfl]
  simp only [step, hSecond _, leased, leaseNext]
  rw [run_eq_run_step _ _ _ rfl]
  simp only [step, hThird _, leased, leaseNext]
  rw [run_publishNext_among, hGranted, hGranted, hGranted, List.nil_append]
  simp only [List.map_append, List.append_assoc]

/-- The claim is that of the rows, and each Redis server meets what is meant for it. -/
theorem parts_of_passing (hFirst : Answers leases 3 0 n₁ r₁ s₁)
    (hSecond : Answers leases 2 n₁ n₂ r₂ s₂) (hThird : Answers leases 1 n₂ n₃ r₃ s₃) :
    (Postgres.claimedIds (passing leases).claimedRows).take singles.policy.cap = [3, 2, 1] ∧
      (passing leases).filterMap Contact.leases? = s₁ ++ s₂ ++ s₃ ∧
      (passing leases).filterMap Contact.queue? =
        (r₁.toOption.getD [] ++ r₂.toOption.getD [] ++ r₃.toOption.getD []).flatMap message := by
  rw [passing_eq hFirst hSecond hThird]
  refine ⟨?_, ?_, ?_⟩
  · rw [transaction, Traffic.claimedRows_append]
    · exact congrArg _ claimedIds_backwards
    · simp [Function.comp_def, Contact.store?]
  · simp [transaction, Function.comp_def, Contact.leases?]
  · simp [transaction, Function.comp_def, Contact.queue?]

end

/-- What passes for a request that is answered with a reply. -/
def request (id : AccountId) (reply : Redis.Reply) : List Redis.Contact :=
  [.connection (.ok ()), .command (Redis.requestScript "locks" [id] singles.ttl) (.ok reply)]

/-- What passes for a request to a server that has to be told the script first. -/
def secondRequest (id : AccountId) (reply : Redis.Reply) : List Redis.Contact :=
  [.connection (.ok ()),
    .command (Redis.requestScript "locks" [id] singles.ttl) (.error "NOSCRIPT"),
    .command .load (.ok .okay),
    .command (Redis.requestScript "locks" [id] singles.ttl) (.ok reply)]

theorem scripts_request (id : AccountId) (reply : Redis.Reply) :
    (request id reply).filterMap Redis.Contact.script? = [[id]] := by
  have hConnection : (Redis.Contact.connection (.ok ())).script? = none := rfl
  simp [request, hConnection, Redis.script?_requestScript]

theorem scripts_secondRequest (id : AccountId) (reply : Redis.Reply) :
    (secondRequest id reply).filterMap Redis.Contact.script? = [[id], [id]] := by
  have hConnection : (Redis.Contact.connection (.ok ())).script? = none := rfl
  have hLoad : (Redis.Contact.command .load (.ok .okay)).script? = none := rfl
  simp [secondRequest, hConnection, hLoad, Redis.script?_requestScript]

theorem granted_request (id : AccountId) (reply : Redis.Reply) :
    (request id reply).flatMap Redis.Contact.granted =
      (Redis.Server.readGrant [id] reply).toOption.getD [] := by
  have hConnection : (Redis.Contact.connection (.ok ())).granted = [] := rfl
  simp [request, hConnection, Redis.granted_requestScript, Redis.readScript]

theorem answers_answering {answer : Nat → List AccountId → Except String Redis.Reply} {n : Nat}
    {id : AccountId} {reply : Redis.Reply} (hReply : answer n [id] = .ok reply) :
    Answers (answering answer) id n (n + 1) (Redis.Server.readGrant [id] reply)
      (request id reply) := by
  intro t
  have hNamed := Redis.args_requestScript [id] singles.ttl
  simp [among, Peers.backends, Peers.watched, Redis.Server.watched, Redis.Server.acquire,
    Redis.Server.runScript, answering, hNamed, hReply, request, Redis.requestScript]

theorem answers_forgetful (id : AccountId) :
    Answers forgetful id 1 3 (Redis.Server.readGrant [id] (grantAll [id]))
      (secondRequest id (grantAll [id])) := by
  intro t
  have hNamed := Redis.args_requestScript [id] singles.ttl
  have hCode : Redis.lineCode "NOSCRIPT" = "NOSCRIPT" := by decide
  simp [among, Peers.backends, Peers.watched, Redis.Server.watched, Redis.Server.acquire,
    Redis.Server.runScript, forgetful, answering, hNamed, hCode, secondRequest,
    Redis.requestScript]

theorem answers_unreachable (cause : String) (id : AccountId) (n : Nat) :
    Answers (.unreachable cause) id n n (.error (.cache (Redis.connectionText cause)))
      [.connection (.error cause)] := by
  intro t
  simp [among, Peers.backends, Peers.watched, Redis.Server.watched, Redis.Server.acquire,
    Redis.Server.unreachable]

/-- A reply with a foreign id grants nothing, and the other ids are published in order. -/
theorem traffic_of_runCycle_foreign :
    let t := passing foreign
    (t = t.take 3 ++ .leases (.connection (.ok ())) :: t.drop 4 ∧
      (Postgres.committedClaim accounts (.of ⟨0⟩ singles.policy) t.claimedRows).map .store <+:
        t.take 3) ∧
    (t = t.take 9 ++ .queue (.connection (.ok ())) :: t.drop 10 ∧
      Traffic.granted (t.take 9) = t.granted) ∧
    ([2] ∈ t.scripts ∧ [2] ∈ chunks singles.chunkSize
      ((Postgres.claimedIds t.claimedRows).take singles.policy.cap)) ∧
    ((∀ c ∈ t.filterMap Contact.leases?, c.isSetback = false) ∧ t.scripts.flatten = [3, 2, 1]) ∧
    t.granted = [3, 1] ∧ t.sent = [3, 1] ∧
    t.sent.count 3 ≤ (t.claimedRows.map Prod.fst).count 3 := by
  obtain ⟨-, -, hCommit, -, hChunk, hScripts, -, hBefore, -, hCount⟩ :=
    singles.traffic_of_runCycle (among foreign) accounts "locks" ⟨0⟩ 0
  have hFirst : Answers foreign 3 0 1 _ (request 3 (grantAll [3])) :=
    answers_answering (n := 0) rfl
  have hSecond : Answers foreign 2 1 2 _ (request 2 (grantAll [7])) := answers_answering rfl
  have hThird : Answers foreign 1 2 3 _ (request 1 (grantAll [1])) := answers_answering rfl
  obtain ⟨hSelected, hLeases, hQueue⟩ := parts_of_passing hFirst hSecond hThird
  have hLease : passing foreign =
      (passing foreign).take 3 ++
        .leases (.connection (.ok ())) :: (passing foreign).drop 4 := by
    rw [passing_eq hFirst hSecond hThird]
    rfl
  have hMessage : passing foreign =
      (passing foreign).take 9 ++
        .queue (.connection (.ok ())) :: (passing foreign).drop 10 := by
    rw [passing_eq hFirst hSecond hThird]
    rfl
  have hNamed : [2] ∈ (passing foreign).scripts := by
    rw [Traffic.scripts, hLeases]
    simp [scripts_request]
  have hSmooth : ∀ c ∈ (passing foreign).filterMap Contact.leases?, c.isSetback = false := by
    rw [hLeases]
    simp [request, Redis.Contact.isSetback]
  -- the second reply names an id that was not asked for
  have hGranted : (passing foreign).granted = [3, 1] := by
    rw [Traffic.granted, hLeases, List.flatMap_append, List.flatMap_append, granted_request,
      granted_request, granted_request]
    rfl
  have hSent : (passing foreign).sent = [3, 1] := by
    rw [Traffic.sent, hQueue]
    exact sent_messages [3, 1]
  exact ⟨⟨hLease, hCommit _ _ _ hLease⟩, ⟨hMessage, hBefore _ _ _ hMessage⟩,
    ⟨hNamed, hChunk _ hNamed⟩, ⟨hSmooth, (hScripts hSmooth).trans hSelected⟩, hGranted, hSent,
    hCount 3⟩

/-- The scripts need not name the selected ids one after another: a script that is not
known is sent again, and where no connection is opened none is sent. -/
theorem scripts_ne_selected :
    let selected (t : Traffic) := (Postgres.claimedIds t.claimedRows).take singles.policy.cap
    let again := passing forgetful
    let never := passing (.unreachable "down")
    (selected again = [3, 2, 1] ∧ again.scripts.flatten = [3, 2, 2, 1] ∧
      again.scripts.flatten ≠ selected again) ∧
    selected never = [3, 2, 1] ∧ never.scripts.flatten = [] ∧
      never.scripts.flatten ≠ selected never := by
  have hFirst : Answers forgetful 3 0 1 _ (request 3 (grantAll [3])) :=
    answers_answering (n := 0) rfl
  have hThird : Answers forgetful 1 3 4 _ (request 1 (grantAll [1])) := answers_answering rfl
  obtain ⟨hAgain, hLeases, -⟩ := parts_of_passing hFirst (answers_forgetful 2) hThird
  have hTwice : (passing forgetful).scripts.flatten = [3, 2, 2, 1] := by
    rw [Traffic.scripts, hLeases]
    simp [scripts_request, scripts_secondRequest]
  obtain ⟨hNever, hAttempts, -⟩ := parts_of_passing (answers_unreachable "down" 3 0)
    (answers_unreachable "down" 2 0) (answers_unreachable "down" 1 0)
  have hNone : (passing (.unreachable "down")).scripts.flatten = [] := by
    rw [Traffic.scripts, hAttempts]
    rfl
  refine ⟨⟨hAgain, hTwice, ?_⟩, hNever, hNone, ?_⟩
  · simp only [hTwice, hAgain]
    decide
  · simp only [hNone, hNever]
    decide

end Dispatcher

end DueDispatch
