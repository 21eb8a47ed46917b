import DueDispatch.Proofs.Redis.Entry
import DueDispatch.Proofs.Redis.Grant
import Mathlib.Data.List.Forall2

/-!
# DueDispatch — what passes for a lease request and for a message

A lease request is one run of the grant script, which may have to be sent again to a
server that does not know it; a message is one entry. `Request` and `Message` list the
ways either can go. What passes is written down by `Server.watched`, which changes
nothing else.

## Results

* `acquire_watched`, `publish_watched` — what passes is one of these ways.
* `Request.script_eq`, `Request.scripts_flatten` — a script that is sent names the ids
  of its request, and unless something goes wrong it is sent once.
* `Request.granted_eq` — what comes of a request was granted by a reply that passed.
* `Message.sublist` — a message is sent at most once.
-/

namespace DueDispatch.Redis

/-- Something that passes between the program and a Redis server. -/
inductive Contact
  | connection (result : Except String Unit)
  | command (command : Command) (result : Except String Reply)

namespace Contact

/-- The ids that a run of the grant script names. -/
def script? : Contact → Option (List AccountId)
  | .command (.grant _ args) _ => some (args.tail.filterMap AccountId.read?)
  | _ => none

/-- The ids granted by a reply that decodes and passes. -/
def granted : Contact → List AccountId
  | .command (.grant _ args) (.ok reply) =>
    (Server.readGrant (args.tail.filterMap AccountId.read?) reply).toOption.getD []
  | _ => []

/-- The ids of an entry that is sent. -/
def sent : Contact → List AccountId
  | .command (.append _ entry) _ => Entry.idsIn entry
  | _ => []

/-- A connection that cannot be opened, or a server that does not know the grant
script. -/
def isSetback : Contact → Bool
  | .connection (.error _) => true
  | .command (.grant ..) (.error line) => lineCode line == "NOSCRIPT"
  | _ => false

end Contact

variable {σ κ : Type}

/-- The server, everything that passes being written down. -/
def Server.watched (server : Server σ) (note : Contact → κ) : Server (σ × List κ) where
  connect p :=
    let (result, s) := server.connect p.1
    (result, (s, p.2 ++ [note (.connection result)]))
  ask command p :=
    let (result, s) := server.ask command p.1
    (result, (s, p.2 ++ [note (.command command result)]))

-- ---------------------------------------------------------------------------
-- Lease requests
-- ---------------------------------------------------------------------------

/-- What passes when the grant script is run, and what comes of it. -/
inductive ScriptRun (script : Command) : Except String Reply → List Contact → Prop
  | known (result : Except String Reply)
      (hKnown : ∀ line, result = .error line → lineCode line ≠ "NOSCRIPT") :
      ScriptRun script result [.command script result]
  | unloadable {line : String} (hUnknown : lineCode line = "NOSCRIPT") (cause : String) :
      ScriptRun script (.error cause)
        [.command script (.error line), .command .load (.error cause)]
  | loaded {line : String} (hUnknown : lineCode line = "NOSCRIPT") (reply : Reply)
      (result : Except String Reply) :
      ScriptRun script result
        [.command script (.error line), .command .load (.ok reply), .command script result]

/-- The script of a lease request. -/
def requestScript (keyspace : String) (ids : List AccountId) (ttl : Duration) : Command :=
  .grant (grantKeys keyspace ids) (grantArgs ids ttl)

/-- What is made of the outcome of the script. -/
def readScript (ids : List AccountId) : Except String Reply → Except Error (List AccountId)
  | .error line => .error (.cache ("lease script: " ++ lineText line))
  | .ok reply => Server.readGrant ids reply

/-- What passes for a lease request, and what comes of it. -/
inductive Request (keyspace : String) (ttl : Duration) (ids : List AccountId) :
    Except Error (List AccountId) → List Contact → Prop
  | empty (hNone : ids = []) : Request keyspace ttl ids (.ok []) []
  | refused (cause : String) :
      Request keyspace ttl ids (.error (.cache (connectionText cause)))
        [.connection (.error cause)]
  | sent {result : Except String Reply} {seg : List Contact}
      (hRun : ScriptRun (requestScript keyspace ids ttl) result seg) :
      Request keyspace ttl ids (readScript ids result) (.connection (.ok ()) :: seg)

/-- A script that is watched brings what it brings unwatched, and its contacts are one of
the ways to run it. -/
theorem Server.runScript_watched (server : Server σ) (note : Contact → κ)
    (keys args : List String) (s : σ) (t : List κ) :
    ∃ seg,
      (server.watched note).runScript keys args (s, t) =
        ((server.runScript keys args s).1,
          ((server.runScript keys args s).2, t ++ seg.map note)) ∧
      ScriptRun (.grant keys args) (server.runScript keys args s).1 seg := by
  rcases hFirst : server.ask (.grant keys args) s with ⟨line | reply, s₁⟩
  · by_cases hUnknown : lineCode line = "NOSCRIPT"
    -- the server does not know the script, and everything depends on whether it takes it
    · rcases hLoad : server.ask .load s₁ with ⟨cause | reply, s₂⟩
      · have hOut : server.runScript keys args s = (.error cause, s₂) := by
          simp [runScript, hFirst, hUnknown, hLoad]
        rw [hOut]
        refine ⟨_, ?_, .unloadable hUnknown cause⟩
        simp [runScript, watched, hFirst, hUnknown, hLoad]
      · have hOut : server.runScript keys args s = server.ask (.grant keys args) s₂ := by
          simp [runScript, hFirst, hUnknown, hLoad]
        rw [hOut]
        refine ⟨_, ?_, .loaded hUnknown reply (server.ask (.grant keys args) s₂).1⟩
        simp [runScript, watched, hFirst, hUnknown, hLoad]
    · have hOut : server.runScript keys args s = (.error line, s₁) := by
        simp [runScript, hFirst, hUnknown]
      rw [hOut]
      refine ⟨_, ?_, .known _ fun line' hLine => Except.error.inj hLine ▸ hUnknown⟩
      simp [runScript, watched, hFirst, hUnknown]
  · have hOut : server.runScript keys args s = (.ok reply, s₁) := by
      simp [runScript, hFirst]
    rw [hOut]
    refine ⟨_, ?_, .known _ fun line hLine => by simp at hLine⟩
    simp [runScript, watched, hFirst]

/-- A lease request that is watched brings what it brings unwatched, and its contacts are
those of one request. -/
theorem Server.acquire_watched (server : Server σ) (note : Contact → κ) (keyspace : String)
    (ids : List AccountId) (ttl : Duration) (s : σ) (t : List κ) :
    ∃ seg,
      (server.watched note).acquire keyspace ids ttl (s, t) =
        ((server.acquire keyspace ids ttl s).1,
          ((server.acquire keyspace ids ttl s).2, t ++ seg.map note)) ∧
      Request keyspace ttl ids (server.acquire keyspace ids ttl s).1 seg := by
  by_cases hNone : ids = []
  · have hOut : server.acquire keyspace ids ttl s = (.ok [], s) := by simp [acquire, hNone]
    rw [hOut]
    exact ⟨[], by simp [acquire, hNone], .empty hNone⟩
  rcases hConnect : server.connect s with ⟨cause | ⟨⟨⟩⟩, s₁⟩
  · have hOut : server.acquire keyspace ids ttl s =
        (.error (.cache (connectionText cause)), s₁) := by
      simp [acquire, hNone, hConnect]
    rw [hOut]
    refine ⟨_, ?_, .refused cause⟩
    simp [acquire, watched, hNone, hConnect]
  -- the rest is a run of the script, read as an answer to the request
  · obtain ⟨seg, hRun, hScript⟩ := server.runScript_watched note (grantKeys keyspace ids)
      (grantArgs ids ttl) s₁ (t ++ [note (.connection (.ok ()))])
    have hOut : server.acquire keyspace ids ttl s =
        (readScript ids (server.runScript (grantKeys keyspace ids) (grantArgs ids ttl) s₁).1,
          (server.runScript (grantKeys keyspace ids) (grantArgs ids ttl) s₁).2) := by
      rcases hOut : server.runScript (grantKeys keyspace ids) (grantArgs ids ttl) s₁ with
        ⟨line | reply, s₂⟩ <;> simp [acquire, hNone, hConnect, hOut, readScript]
    have hConnected : (server.watched note).connect (s, t) =
        (.ok (), (s₁, t ++ [note (.connection (.ok ()))])) := by
      simp [watched, hConnect]
    rw [hOut]
    refine ⟨_, ?_, .sent hScript⟩
    rcases hResult : server.runScript (grantKeys keyspace ids) (grantArgs ids ttl) s₁ with
      ⟨line | reply, s₂⟩ <;>
      · rw [hResult] at hRun
        simp [acquire, hNone, hConnected, hRun, readScript]

section

variable {keyspace : String} {ttl : Duration} {ids : List AccountId}
  {result : Except Error (List AccountId)} {seg : List Contact}

/-- The arguments of a request are its ids, behind the life. -/
theorem args_requestScript (ids : List AccountId) (ttl : Duration) :
    (grantArgs ids ttl).tail.filterMap AccountId.read? = ids := by
  rw [grantArgs, List.tail_cons, AccountId.filterMap_read?_map_write]

/-- The ids of a request are read off its script. -/
theorem script?_requestScript (r : Except String Reply) :
    (Contact.command (requestScript keyspace ids ttl) r).script? = some ids := by
  rw [requestScript, Contact.script?, args_requestScript]

/-- What a script grants is read off its reply. -/
theorem granted_requestScript (r : Except String Reply) :
    (Contact.command (requestScript keyspace ids ttl) r).granted =
      (readScript ids r).toOption.getD [] := by
  cases r with
  | error line => rfl
  | ok reply => rw [requestScript, Contact.granted, args_requestScript, readScript]

/-- A script that is sent names the ids of its request. -/
theorem Request.script_eq (hRequest : Request keyspace ttl ids result seg) {c : Contact}
    (hMem : c ∈ seg) {named : List AccountId} (hScript : c.script? = some named) :
    named = ids := by
  have hEach : ∀ c ∈ seg, c.script? = none ∨ c.script? = some ids := by
    cases hRequest with
    | empty hNone => simp
    | refused cause => simp [Contact.script?]
    | sent hRun =>
      cases hRun <;> simp [script?_requestScript] <;> simp [Contact.script?]
  rcases hEach c hMem with hNone | hSome
  · rw [hNone] at hScript
    contradiction
  · rw [hSome] at hScript
    exact (Option.some.inj hScript).symm

/-- Unless something goes wrong, the script of a request is sent once. -/
theorem Request.scripts_flatten (hRequest : Request keyspace ttl ids result seg)
    (hSmooth : ∀ c ∈ seg, c.isSetback = false) :
    (seg.filterMap Contact.script?).flatten = ids := by
  cases hRequest with
  | empty hNone => rw [hNone]; rfl
  | refused cause => simp [Contact.isSetback] at hSmooth
  | sent hRun =>
    cases hRun with
    | known =>
      have hConnection : (Contact.connection (.ok ())).script? = none := rfl
      rw [List.filterMap_cons_none hConnection, List.filterMap_cons_some (script?_requestScript _),
        List.filterMap_nil, List.flatten_singleton]
    | unloadable hUnknown cause => simp [Contact.isSetback, requestScript, hUnknown] at hSmooth
    | loaded hUnknown reply => simp [Contact.isSetback, requestScript, hUnknown] at hSmooth

/-- What comes of a request was granted by a reply that passed. -/
theorem Request.granted_eq (hRequest : Request keyspace ttl ids result seg) :
    seg.flatMap Contact.granted = result.toOption.getD [] := by
  have hConnection (r : Except String Unit) : (Contact.connection r).granted = [] := rfl
  have hLoad (r : Except String Reply) : (Contact.command .load r).granted = [] := rfl
  have hError (line : String) : (readScript ids (.error line)).toOption.getD [] = [] := rfl
  cases hRequest with
  | empty hNone => rfl
  | refused cause => rfl
  | sent hRun =>
    cases hRun <;> simp [hConnection, hLoad, granted_requestScript, hError]

/-- What a request grants was asked for, and in this order. -/
theorem Request.granted_sublist (hRequest : Request keyspace ttl ids result seg) :
    (result.toOption.getD []).Sublist ids := by
  cases hRequest with
  | empty hNone => exact List.nil_sublist _
  | refused cause => exact List.nil_sublist _
  | @sent r seg hRun =>
    cases hRead : readScript ids r with
    | error cause => exact List.nil_sublist _
    | ok granted =>
      cases r with
      | error line => simp [readScript] at hRead
      | ok reply => exact Server.sublist_of_readGrant hRead

end

section

variable {keyspace : String} {ttl : Duration} {cs : List (List AccountId)}
  {segs : List (List Contact)}
  (hRequests : List.Forall₂ (fun ids seg => ∃ result, Request keyspace ttl ids result seg)
    cs segs)

include hRequests

/-- A script that is sent names the ids of one of the requests. -/
theorem mem_of_script {c : Contact} (hMem : c ∈ segs.flatten) {ids : List AccountId}
    (hScript : c.script? = some ids) : ids ∈ cs := by
  induction hRequests with
  | nil => simp at hMem
  | cons hHead _ ih =>
    obtain ⟨result, hRequest⟩ := hHead
    rcases List.mem_append.mp (List.flatten_cons ▸ hMem) with hFirst | hRest
    · rw [hRequest.script_eq hFirst hScript]
      exact List.mem_cons_self
    · exact List.mem_cons_of_mem _ (ih hRest)

/-- The scripts of requests that meet with no setback name the ids of the requests. -/
theorem scripts_of_requests (hSmooth : ∀ c ∈ segs.flatten, c.isSetback = false) :
    (segs.flatten.filterMap Contact.script?).flatten = cs.flatten := by
  induction hRequests with
  | nil => rfl
  | cons hHead _ ih =>
    obtain ⟨result, hRequest⟩ := hHead
    rw [List.flatten_cons, List.forall_mem_append] at hSmooth
    rw [List.flatten_cons, List.filterMap_append, List.flatten_append, ih hSmooth.2,
      hRequest.scripts_flatten hSmooth.1, List.flatten_cons]

end

-- ---------------------------------------------------------------------------
-- Messages
-- ---------------------------------------------------------------------------

/-- What passes for a message. -/
inductive Message (channel : String) (texts : List String) : List Contact → Prop
  | refused (cause : String) : Message channel texts [.connection (.error cause)]
  | offered (result : Except String Reply) :
      Message channel texts
        [.connection (.ok ()), .command (.append channel (Entry.encode texts)) result]

/-- A message that is watched brings what it brings unwatched, and its contacts are those of
one message. -/
theorem Server.publish_watched (server : Server σ) (note : Contact → κ) (channel : String)
    (texts : List String) (s : σ) (t : List κ) :
    ∃ seg,
      (server.watched note).publish channel texts (s, t) =
        ((server.publish channel texts s).1,
          ((server.publish channel texts s).2, t ++ seg.map note)) ∧
      Message channel texts seg := by
  rcases hConnect : server.connect s with ⟨cause | ⟨⟨⟩⟩, s₁⟩
  · refine ⟨_, ?_, .refused cause⟩
    simp [publish, watched, hConnect]
  · refine ⟨_, ?_, .offered (server.ask (.append channel (Entry.encode texts)) s₁).1⟩
    rcases hAsk : server.ask (.append channel (Entry.encode texts)) s₁ with ⟨line | reply, s₂⟩ <;>
      simp [publish, askText, watched, hConnect, hAsk]

/-- A message is sent at most once. -/
theorem Message.sublist {channel : String} {ids : List AccountId} {seg : List Contact}
    (hMessage : Message channel (payloads ids) seg) :
    (seg.flatMap Contact.sent).Sublist ids := by
  cases hMessage with
  | refused cause => exact List.nil_sublist _
  | offered result =>
    have hIds : Entry.idsIn (Entry.encode (payloads ids)) = ids := Entry.idsIn_encode ids
    simp [Contact.sent, hIds]

end DueDispatch.Redis
