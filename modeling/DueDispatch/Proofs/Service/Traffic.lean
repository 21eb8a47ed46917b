import DueDispatch.Proofs.Cycle.Calls
import DueDispatch.Proofs.Postgres.Claim
import DueDispatch.Proofs.Redis.Traffic
import DueDispatch.Service.Peers

/-!
# DueDispatch — what passes between a cycle and its peers

A cycle makes calls, and each call is some traffic with one of the peers. Watching the
traffic changes nothing, and the traffic of a whole cycle is that of its calls, one
after another. So whatever is known of the calls from their answers carries over.

## Results

* `backends_watched` — the traffic of one call.
* `carried_run` — the traffic of a cycle is that of the calls in its history.
* `Carried.requests`, `Carried.granted`, `Carried.sent_sublist` — what this says of the
  scripts, the replies and the entries.
-/

namespace DueDispatch

/-- Something that passes between a running program and one of its peers. -/
inductive Contact
  | store (c : Postgres.Contact)
  | leases (c : Redis.Contact)
  | queue (c : Redis.Contact)

namespace Contact

def store? : Contact → Option Postgres.Contact
  | .store c => some c
  | _ => none

def leases? : Contact → Option Redis.Contact
  | .leases c => some c
  | _ => none

def queue? : Contact → Option Redis.Contact
  | .queue c => some c
  | _ => none

end Contact

/-- What passes, the first contact first. -/
abbrev Traffic := List Contact

namespace Traffic

/-- The rows of the claim that was committed. -/
def claimedRows (t : Traffic) : List (AccountId × Timestamp) :=
  Postgres.committedRows (t.filterMap Contact.store?)

theorem claimedRows_append {seg : List Postgres.Contact} {rest : Traffic}
    (hRest : rest.filterMap Contact.store? = []) :
    claimedRows (seg.map .store ++ rest) = Postgres.committedRows seg := by
  have hStore : (seg.map Contact.store).filterMap Contact.store? = seg := by
    simp [Function.comp_def, Contact.store?]
  rw [claimedRows, List.filterMap_append, hStore, hRest, List.append_nil]

/-- The ids that the lease scripts name, script by script. -/
def scripts (t : Traffic) : List (List AccountId) :=
  (t.filterMap Contact.leases?).filterMap Redis.Contact.script?

/-- The ids granted by replies that decode and pass. -/
def granted (t : Traffic) : List AccountId :=
  (t.filterMap Contact.leases?).flatMap Redis.Contact.granted

theorem granted_append (t₁ t₂ : Traffic) : granted (t₁ ++ t₂) = granted t₁ ++ granted t₂ := by
  rw [granted, List.filterMap_append, List.flatMap_append]
  rfl

/-- The ids of the entries that are sent. -/
def sent (t : Traffic) : List AccountId :=
  (t.filterMap Contact.queue?).flatMap Redis.Contact.sent

/-- What is not among the first ones comes behind them. -/
theorem exists_before {κ : Type} {seg rest before after : List κ} {c : κ} (hNot : c ∉ seg)
    (hSplit : seg ++ rest = before ++ c :: after) :
    ∃ more, before = seg ++ more ∧ rest = more ++ c :: after := by
  rcases List.append_eq_append_iff.mp hSplit with ⟨more, hBefore, hRest⟩ | ⟨more, hSeg, hTail⟩
  · exact ⟨more, hBefore, hRest⟩
  · cases more with
    | nil => exact ⟨[], by simpa using hSeg.symm, by simpa using hTail.symm⟩
    | cons first more =>
      rw [hSeg, (List.cons.inj hTail).1] at hNot
      simp at hNot

end Traffic

variable {σ : Type}

/-- The peers, everything that passes being written down. -/
def Peers.watched (peers : Peers σ) : Peers (σ × Traffic) where
  postgres := peers.postgres.watched .store
  leases := peers.leases.watched .leases
  queue := peers.queue.watched .queue

/-- The traffic of one call of a cycle. -/
inductive Exchange.Carries (table : Postgres.Table) (keyspace : String) :
    Exchange → Traffic → Prop
  | claim {now : Timestamp} {p : Policy} {a : Answer (List AccountId)}
      {seg : List Postgres.Contact}
      (hClaim : Postgres.Transaction table (.of now p) a.result seg) :
      Carries table keyspace ⟨.claim now p, a⟩ (seg.map .store)
  | lease {ids : List AccountId} {ttl : Duration} {a : Answer (List AccountId)}
      {seg : List Redis.Contact} (hRequest : Redis.Request keyspace ttl ids a.result seg) :
      Carries table keyspace ⟨.lease ids ttl, a⟩ (seg.map .leases)
  | publish {channel : String} {texts : List String} {a : Answer Unit}
      {seg : List Redis.Contact} (hMessage : Redis.Message channel texts seg) :
      Carries table keyspace ⟨.publish channel texts, a⟩ (seg.map .queue)

variable {table : Postgres.Table} {keyspace : String}

/-- A call that is watched gives what it gives unwatched, and what passes is the traffic of
that call. -/
theorem backends_watched (peers : Peers σ) (table : Postgres.Table) (keyspace : String)
    (call : Call) (s : σ) (t : Traffic) :
    ∃ seg,
      peers.watched.backends table keyspace call (s, t) =
        ((peers.backends table keyspace call s).1,
          ((peers.backends table keyspace call s).2, t ++ seg)) ∧
      Exchange.Carries table keyspace ⟨call, (peers.backends table keyspace call s).1⟩ seg := by
  cases call with
  | claim now p =>
    obtain ⟨seg, hRun, hClaim⟩ := peers.postgres.claim_watched .store table now p s t
    exact ⟨_, by simp [Peers.backends, Peers.watched, hRun], .claim hClaim⟩
  | lease ids ttl =>
    obtain ⟨seg, hRun, hRequest⟩ := peers.leases.acquire_watched .leases keyspace ids ttl s t
    exact ⟨_, by simp [Peers.backends, Peers.watched, hRun], .lease hRequest⟩
  | publish channel texts =>
    obtain ⟨seg, hRun, hMessage⟩ := peers.queue.publish_watched .queue channel texts s t
    exact ⟨_, by simp [Peers.backends, Peers.watched, hRun], .publish hMessage⟩

-- ---------------------------------------------------------------------------
-- What single calls leave behind: each peer is spoken to by one kind of call
-- ---------------------------------------------------------------------------

namespace Exchange.Carries

variable {e : Exchange} {seg : Traffic}

theorem store_eq_nil (hCarries : e.Carries table keyspace seg)
    (hLater : ∀ now p, e.call ≠ .claim now p) : seg.filterMap Contact.store? = [] := by
  cases hCarries with
  | claim hClaim => exact absurd rfl (hLater _ _)
  | lease hRequest => simp [Function.comp_def, Contact.store?]
  | publish hMessage => simp [Function.comp_def, Contact.store?]

/-- What passes to the lease server is the request of a lease call, and nothing for any
other. -/
theorem leases_eq (hCarries : e.Carries table keyspace seg) :
    (e.requested? = none ∧ e.granted = [] ∧ seg.filterMap Contact.leases? = []) ∨
      ∃ ids ttl result, e.call = .lease ids ttl ∧ e.requested? = some ids ∧
        e.granted = result.toOption.getD [] ∧
        Redis.Request keyspace ttl ids result (seg.filterMap Contact.leases?) := by
  cases hCarries with
  | claim hClaim => exact Or.inl ⟨rfl, rfl, by simp [Function.comp_def, Contact.leases?]⟩
  | publish hMessage => exact Or.inl ⟨rfl, rfl, by simp [Function.comp_def, Contact.leases?]⟩
  | @lease ids ttl a seg hRequest =>
    have hSeg : (seg.map Contact.leases).filterMap Contact.leases? = seg := by
      simp [Function.comp_def, Contact.leases?]
    have hGranted : a.ids = a.result.toOption.getD [] := by
      obtain ⟨result, elapsed⟩ := a
      cases result <;> rfl
    refine Or.inr ⟨ids, ttl, a.result, rfl, rfl, hGranted, ?_⟩
    rwa [hSeg]

/-- What passes to the queue is the message of a publication, and nothing for any other
call. -/
theorem queue_eq (hCarries : e.Carries table keyspace seg) :
    (e.sent? = none ∧ seg.filterMap Contact.queue? = []) ∨
      ∃ channel texts, e.sent? = some texts ∧
        Redis.Message channel texts (seg.filterMap Contact.queue?) := by
  cases hCarries with
  | claim hClaim => exact Or.inl ⟨rfl, by simp [Function.comp_def, Contact.queue?]⟩
  | lease hRequest => exact Or.inl ⟨rfl, by simp [Function.comp_def, Contact.queue?]⟩
  | @publish channel texts a seg hMessage =>
    have hSeg : (seg.map Contact.queue).filterMap Contact.queue? = seg := by
      simp [Function.comp_def, Contact.queue?]
    refine Or.inr ⟨channel, texts, rfl, ?_⟩
    rwa [hSeg]

end Exchange.Carries

-- ---------------------------------------------------------------------------
-- The traffic of a history
-- ---------------------------------------------------------------------------

/-- The traffic of the calls of a history, one after another. -/
inductive Carried (table : Postgres.Table) (keyspace : String) : History → Traffic → Prop
  | nil : Carried table keyspace [] []
  | cons {e : Exchange} {h : History} {seg t : Traffic}
      (hHead : e.Carries table keyspace seg) (hRest : Carried table keyspace h t) :
      Carried table keyspace (e :: h) (seg ++ t)

namespace Carried

variable {h : History} {t : Traffic}

/-- The traffic of one more call comes after that of the others. -/
theorem concat (hCarried : Carried table keyspace h t) {e : Exchange} {seg : Traffic}
    (hLast : e.Carries table keyspace seg) : Carried table keyspace (h ++ [e]) (t ++ seg) := by
  induction hCarried with
  | nil =>
    have hOnly := Carried.cons hLast .nil
    rwa [List.append_nil] at hOnly
  | cons hHead _ ih =>
    rw [List.cons_append, List.append_assoc]
    exact .cons hHead ih

/-- The traffic of a history splits where the history does. -/
theorem exists_split {h₁ h₂ : History} (hCarried : Carried table keyspace (h₁ ++ h₂) t) :
    ∃ t₁ t₂, t = t₁ ++ t₂ ∧ Carried table keyspace h₁ t₁ ∧ Carried table keyspace h₂ t₂ := by
  induction h₁ generalizing t with
  | nil => exact ⟨[], t, rfl, .nil, hCarried⟩
  | cons e h₁ ih =>
    cases hCarried with
    | @cons _ _ seg _ hHead hRest =>
      obtain ⟨t₁, t₂, rfl, hFirst, hSecond⟩ := ih hRest
      exact ⟨seg ++ t₁, t₂, (List.append_assoc _ _ _).symm, .cons hHead hFirst, hSecond⟩

theorem queue_eq_nil (hCarried : Carried table keyspace h t)
    (hNone : ∀ e ∈ h, e.sent? = none) : t.filterMap Contact.queue? = [] := by
  induction hCarried with
  | nil => rfl
  | cons hHead _ ih =>
    obtain ⟨hFirst, hRest⟩ := List.forall_mem_cons.mp hNone
    rcases hHead.queue_eq with ⟨-, hNil⟩ | ⟨channel, texts, hSome, -⟩
    · rw [List.filterMap_append, hNil, ih hRest, List.append_nil]
    · rw [hFirst] at hSome
      contradiction

theorem store_eq_nil (hCarried : Carried table keyspace h t)
    (hLater : ∀ e ∈ h, ∀ now p, e.call ≠ .claim now p) : t.filterMap Contact.store? = [] := by
  induction hCarried with
  | nil => rfl
  | cons hHead _ ih =>
    obtain ⟨hFirst, hRest⟩ := List.forall_mem_cons.mp hLater
    rw [List.filterMap_append, hHead.store_eq_nil hFirst, ih hRest, List.append_nil]

/-- The traffic with the lease server is that of the lease requests. -/
theorem requests (hCarried : Carried table keyspace h t) {ttl : Duration}
    (hLife : ∀ ids life, Call.lease ids life ∈ h.calls → life = ttl) :
    ∃ segs : List (List Redis.Contact),
      List.Forall₂ (fun ids seg => ∃ result, Redis.Request keyspace ttl ids result seg)
        h.requests segs ∧
      t.filterMap Contact.leases? = segs.flatten := by
  induction hCarried with
  | nil => exact ⟨[], .nil, rfl⟩
  | @cons e h seg t hHead _ ih =>
    obtain ⟨segs, hEach, hAll⟩ :=
      ih fun ids life hMem => hLife ids life (List.mem_cons_of_mem _ hMem)
    rw [List.filterMap_append, hAll]
    rcases hHead.leases_eq with ⟨hNone, -, hNil⟩ | ⟨ids, life, result, hCall, hSome, -, hRequest⟩
    · rw [hNil]
      exact ⟨segs, by rwa [History.requests, List.filterMap_cons_none hNone], rfl⟩
    · obtain rfl : life = ttl := hLife ids life (List.mem_cons.mpr (Or.inl hCall.symm))
      refine ⟨_ :: segs, ?_, List.flatten_cons.symm⟩
      rw [History.requests, List.filterMap_cons_some hSome]
      exact .cons ⟨result, hRequest⟩ hEach

/-- What is granted was granted by replies that passed. -/
theorem granted (hCarried : Carried table keyspace h t) : t.granted = h.granted := by
  induction hCarried with
  | nil => rfl
  | @cons e h seg t hHead _ ih =>
    have hFirst : Traffic.granted seg = e.granted := by
      rcases hHead.leases_eq with ⟨-, hNone, hNil⟩ | ⟨ids, ttl, result, -, -, hGranted, hRequest⟩
      · rw [Traffic.granted, hNil, hNone, List.flatMap_nil]
      · rw [Traffic.granted, hRequest.granted_eq, hGranted]
    rw [Traffic.granted_append, hFirst, ih]
    rfl

/-- What is granted was asked for, in this order. -/
theorem granted_sublist (hCarried : Carried table keyspace h t) :
    h.granted.Sublist h.requests.flatten := by
  induction hCarried with
  | nil => exact List.nil_sublist _
  | @cons e h seg t hHead _ ih =>
    have hFirst : e.granted.Sublist (e.requested?.getD []) := by
      rcases hHead.leases_eq with ⟨-, hNone, -⟩ | ⟨ids, ttl, result, -, hSome, hGranted, hRequest⟩
      · rw [hNone]
        exact List.nil_sublist _
      · rw [hGranted, hSome]
        exact hRequest.granted_sublist
    rw [History.flatten_requests] at ih ⊢
    exact hFirst.append ih

/-- What is sent was to be published, in this order. -/
theorem sent_sublist (hCarried : Carried table keyspace h t) {cs : List (List AccountId)}
    (hMessages : h.messages = cs.map payloads) : t.sent.Sublist cs.flatten := by
  induction hCarried generalizing cs with
  | nil => exact List.nil_sublist _
  | @cons e h seg t hHead _ ih =>
    rw [Traffic.sent, List.filterMap_append, List.flatMap_append]
    rcases hHead.queue_eq with ⟨hNone, hNil⟩ | ⟨channel, texts, hSome, hMessage⟩
    · rw [hNil]
      rw [History.messages, List.filterMap_cons_none hNone] at hMessages
      exact ih hMessages
    · rw [History.messages, List.filterMap_cons_some hSome] at hMessages
      obtain ⟨ids, later, rfl, rfl, hRest⟩ := List.map_eq_cons_iff.mp hMessages.symm
      exact hMessage.sublist.append (ih hRest.symm)

end Carried

-- ---------------------------------------------------------------------------
-- Whole cycles
-- ---------------------------------------------------------------------------

namespace Dispatcher

/-- Watching the peers changes nothing. -/
theorem run_watched (d : Dispatcher) (peers : Peers σ) (table : Postgres.Table)
    (keyspace : String) (c : Cycle) (s : σ) (t : Traffic) :
    let run := d.run (peers.watched.backends table keyspace) c (s, t)
    (run.1, run.2.1) = d.run (peers.backends table keyspace) c s := by
  refine (run_map (peers.watched.backends table keyspace) (peers.backends table keyspace) Prod.fst
    (fun call p => ?_) d c (s, t)).symm
  obtain ⟨seg, hRun, -⟩ := backends_watched peers table keyspace call p.1 p.2
  rw [hRun]

/-- The traffic of a cycle is that of the calls in its history. -/
theorem carried_run {d : Dispatcher} {c : Cycle} (peers : Peers σ)
    (p : (σ × Traffic) × History) (hCarried : Carried table keyspace p.2 p.1.2) :
    let run := d.run (peers.watched.backends table keyspace).logged c p
    Carried table keyspace run.2.2 run.2.1.2 := by
  fun_induction d.run (peers.watched.backends table keyspace).logged c p with
  | case1 c p report hEnd => exact hCarried
  | case2 c p hOpen ih =>
    obtain ⟨⟨s, t⟩, h⟩ := p
    obtain ⟨call, hCall⟩ := exists_call (d := d) hOpen
    obtain ⟨seg, hRun, hLast⟩ := backends_watched peers table keyspace call s t
    apply ih
    rw [state_step (peers.watched.backends table keyspace).logged ((s, t), h) hCall]
    simp only [Backends.logged, hRun]
    exact hCarried.concat hLast

end Dispatcher

end DueDispatch
