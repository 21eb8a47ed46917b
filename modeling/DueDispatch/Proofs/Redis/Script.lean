import DueDispatch.Proofs.Memory.Leases
import DueDispatch.Proofs.Redis.Grant

/-!
# DueDispatch — a run of the grant script

A lease in Redis is a key that exists. `KeyTable` holds the keys, and
`KeyTable.runScript` is one run of the grant script on them: it walks the keys of the
request in order, sets each that does not exist, and collects the argument that belongs
to each key it has set. Keys and arguments are counted from 1. The first argument is the
life of the leases, so the argument of a key stands one place further than the key.

Of a server it is only assumed that it runs the script like this, as one step, and
answers with the collected arguments (`Server.Faithful`). `Cache` is a server that does
nothing else.

## Results

* `leaseKey_injective` — two accounts have two keys.
* `runScript_request` — the script of a lease request grants the ids whose key does not
  exist, each once, and sets their keys.
* `Server.Faithful.runScript_ok` — so does a faithful server, whether or not it knows
  the script beforehand.
-/

namespace DueDispatch

/-- Different ids are written differently. -/
theorem AccountId.write_injective : Function.Injective AccountId.write := by
  intro a b hText
  have hRead : read? a.write = read? b.write := congrArg read? hText
  rwa [read?_write, read?_write, Option.some.injEq] at hRead

/-- Two accounts have two keys. -/
theorem leaseKey_injective (keyspace : String) : Function.Injective (leaseKey keyspace) := by
  intro a b hKey
  exact AccountId.write_injective ((String.append_right_inj (keyspace ++ ":")).mp hKey)

namespace Redis

/-- The keys that exist, each with the seconds it was set for; a key may be there for
ever. -/
structure KeyTable where
  entries : List (String × Option Nat) := []
deriving DecidableEq, Inhabited

namespace KeyTable

/-- What a key was set for, if it exists. -/
def life? (t : KeyTable) (key : String) : Option (Option Nat) := t.entries.lookup key

def holds (t : KeyTable) (key : String) : Bool := (t.life? key).isSome

/-- `SET key 1 NX EX life`: sets the key unless it exists, and tells whether it did. -/
def setNew (t : KeyTable) (key : String) (life : Nat) : Bool × KeyTable :=
  if t.holds key then (false, t) else (true, ⟨(key, some life) :: t.entries⟩)

/-- The argument with this number, the first one having number 1. -/
def argument? (args : List String) : Nat → Option String
  | 0 => none
  | n + 1 => args[n]?

/-- The loop of the script from its `i`-th key on. An argument that is missing adds
nothing to what was granted. -/
def scriptLoop (args : List String) (life : Nat) (i : Nat) :
    List String → KeyTable → List String × KeyTable
  | [], t => ([], t)
  | key :: keys, t =>
    let (isNew, t) := t.setNew key life
    let (granted, t) := scriptLoop args life (i + 1) keys t
    (if isNew then (argument? args (i + 1)).toList ++ granted else granted, t)

/-- The life that an argument of `EX` stands for: any number but zero. -/
def readLife (arg : String) : Option Nat :=
  match Decimal.readWord arg.toList with
  | .ok 0 => none
  | .ok life => some life
  | .error _ => none

/-- One run of the grant script: the granted arguments, and the keys after it. With no
life to set keys for it fails at its first key. -/
def runScript (keys args : List String) (t : KeyTable) :
    Except String (List String × KeyTable) :=
  match (argument? args 1).bind readLife with
  | some life => .ok (scriptLoop args life 1 keys t)
  | none => if keys.isEmpty then .ok ([], t) else .error "ERR invalid expire time in 'set' command"

-- ---------------------------------------------------------------------------
-- One key
-- ---------------------------------------------------------------------------

variable {t : KeyTable} {key other : String} {life : Nat}

/-- A key that is held is not set. -/
theorem setNew_of_holds (hHolds : t.holds key = true) : t.setNew key life = (false, t) := by
  rw [setNew, if_pos hHolds]

/-- A key that is free is set, with its life. -/
theorem setNew_of_free (hFree : t.holds key = false) :
    t.setNew key life = (true, ⟨(key, some life) :: t.entries⟩) := by
  rw [setNew, if_neg (by simp [hFree])]

/-- What is set is found under its key, and other keys are left alone. -/
theorem life?_cons :
    life? ⟨(key, some life) :: t.entries⟩ other =
      if other = key then some (some life) else t.life? other := by
  by_cases hKey : other = key
  · subst hKey
    simp [life?]
  · have hNe : (other == key) = false := by simpa using hKey
    rw [if_neg hKey, life?, List.lookup_cons, hNe, life?]

-- ---------------------------------------------------------------------------
-- The script of a lease request
-- ---------------------------------------------------------------------------

/-- The account's lease is there. -/
def isLeased (t : KeyTable) (keyspace : String) (id : AccountId) : Bool :=
  t.holds (leaseKey keyspace id)

variable {keyspace : String} {first : String}

/-- A key that is set leases its id and no other one. -/
theorem isLeased_cons (life : Nat) (id other : AccountId) :
    isLeased ⟨(leaseKey keyspace id, some life) :: t.entries⟩ keyspace other =
      (other == id || t.isLeased keyspace other) := by
  rw [isLeased, holds, life?_cons]
  by_cases hId : other = id
  · simp [hId]
  · have hKey : leaseKey keyspace other ≠ leaseKey keyspace id :=
      fun hEq => hId (leaseKey_injective keyspace hEq)
    rw [if_neg hKey]
    simp [hId, isLeased, holds]

/-- The place of an id among the arguments is one further than that of its key. -/
theorem argument?_request (before after : List AccountId) (id : AccountId) :
    argument? (first :: (before ++ id :: after).map AccountId.write) (before.length + 1 + 1) =
      some id.write := by
  rw [argument?, List.getElem?_cons_succ, List.getElem?_map,
    List.getElem?_append_right (Nat.le_refl _), Nat.sub_self, List.getElem?_cons_zero,
    Option.map_some]

/-- The loop from some key on grants the ids from there on that nobody holds. -/
theorem scriptLoop_request (before ids : List AccountId) (t : KeyTable) :
    (scriptLoop (first :: (before ++ ids).map AccountId.write) life (before.length + 1)
      (ids.map (leaseKey keyspace)) t).1 =
      (firstFree (t.isLeased keyspace) ids).map AccountId.write := by
  -- the induction is on the ids that are left; those before them only shift the places
  induction ids generalizing before t with
  | nil => rfl
  | cons id rest ih =>
    have hNext := ih (before ++ [id])
    rw [List.append_assoc, List.singleton_append, List.length_append, List.length_singleton]
      at hNext
    rw [List.map_cons, scriptLoop]
    by_cases hHeld : t.isLeased keyspace id = true
    · rw [setNew_of_holds hHeld, firstFree_cons_of_held hHeld]
      exact hNext t
    · have hFree : t.isLeased keyspace id = false := by simpa using hHeld
      rw [setNew_of_free hFree, firstFree_cons_of_free hFree (isLeased_cons life id),
        argument?_request, List.map_cons, ← hNext]
      rfl

/-- The loop sets the keys of what it grants, and no other. -/
theorem life?_scriptLoop (args : List String) (life i : Nat) (ids : List AccountId) (t : KeyTable)
    (key : String) :
    (scriptLoop args life i (ids.map (leaseKey keyspace)) t).2.life? key =
      if key ∈ (firstFree (t.isLeased keyspace) ids).map (leaseKey keyspace) then some (some life)
      else t.life? key := by
  induction ids generalizing i t with
  | nil => rfl
  | cons id rest ih =>
    rw [List.map_cons, scriptLoop]
    by_cases hHeld : t.isLeased keyspace id = true
    · rw [setNew_of_holds hHeld, firstFree_cons_of_held hHeld]
      exact ih (i + 1) t
    · have hFree : t.isLeased keyspace id = false := by simpa using hHeld
      rw [setNew_of_free hFree, firstFree_cons_of_free hFree (isLeased_cons life id), List.map_cons]
      simp only [ih, life?_cons, List.mem_cons]
      by_cases hKey : key = leaseKey keyspace id <;> simp [hKey]

/-- The life that is sent is read as it was written. -/
theorem readLife_writeNat {n : Nat} (hPos : 1 ≤ n) (hWord : n ≤ 0xffffffffffffffff) :
    readLife (Decimal.writeNat n) = some n := by
  have hRead : Decimal.readWord (Decimal.writeNat n).toList = .ok n := by
    rw [Decimal.writeNat, String.toList_ofList]
    exact Decimal.readNatural_digits hWord
  unfold readLife
  rw [hRead]
  cases n with
  | zero => omega
  | succ n => rfl

/-- **The script of a lease request** grants the ids whose key does not exist, each where
it stands first, and sets their keys and no others. -/
theorem runScript_request (keyspace : String) (ids : List AccountId) (ttl : Duration)
    (t : KeyTable) :
    ∃ after,
      runScript (grantKeys keyspace ids) (grantArgs ids ttl) t =
        .ok ((firstFree (t.isLeased keyspace) ids).map AccountId.write, after) ∧
      ∀ key, after.life? key =
        if key ∈ (firstFree (t.isLeased keyspace) ids).map (leaseKey keyspace) then
          some (some (lifeSeconds ttl))
        else t.life? key := by
  have hPos : 1 ≤ lifeSeconds ttl := Nat.le_max_right _ _
  have hWord : lifeSeconds ttl ≤ 0xffffffffffffffff := by
    have := ttl.secs.toNat_lt
    simp only [lifeSeconds]
    omega
  have hLife : (argument? (grantArgs ids ttl) 1).bind readLife = some (lifeSeconds ttl) :=
    readLife_writeNat hPos hWord
  refine ⟨_, ?_, life?_scriptLoop (grantArgs ids ttl) (lifeSeconds ttl) 1 ids t⟩
  rw [runScript, hLife]
  exact congrArg Except.ok (Prod.ext (scriptLoop_request [] ids t) rfl)

end KeyTable

-- ---------------------------------------------------------------------------
-- Servers
-- ---------------------------------------------------------------------------

variable {σ : Type}

/-- A server that keeps `keys`, and runs the grant script on them as one step if it
`knows` it. It answers with the granted arguments as strings. -/
structure Server.Faithful (server : Server σ) (keys : σ → KeyTable) (knows : σ → Bool) :
    Prop where
  connect : ∀ s, keys (server.connect s).2 = keys s
  known : ∀ names args s granted after, knows s = true →
    (keys s).runScript names args = .ok (granted, after) →
      (server.ask (.grant names args) s).1 =
          .ok (.array (granted.map fun text => .bulk text.toUTF8)) ∧
        keys (server.ask (.grant names args) s).2 = after
  unknown : ∀ names args s, knows s = false →
    (∃ line, (server.ask (.grant names args) s).1 = .error line ∧ lineCode line = "NOSCRIPT") ∧
      keys (server.ask (.grant names args) s).2 = keys s
  load : ∀ s, (∃ reply, (server.ask .load s).1 = .ok reply) ∧
    knows (server.ask .load s).2 = true ∧ keys (server.ask .load s).2 = keys s

/-- A server that does not know the script beforehand is given it, and runs it then. -/
theorem Server.Faithful.runScript_ok {server : Server σ} {keys : σ → KeyTable}
    {knows : σ → Bool} (hFaithful : server.Faithful keys knows) {names args granted : List String}
    {after : KeyTable} (s : σ) (hRun : (keys s).runScript names args = .ok (granted, after)) :
    (server.runScript names args s).1 =
        .ok (.array (granted.map fun text => .bulk text.toUTF8)) ∧
      keys (server.runScript names args s).2 = after := by
  cases hKnows : knows s with
  | true =>
    obtain ⟨hReply, hKeys⟩ := hFaithful.known names args s granted after hKnows hRun
    rcases hAsk : server.ask (.grant names args) s with ⟨result, s₁⟩
    rw [hAsk] at hReply hKeys
    subst hReply
    rw [runScript, hAsk]
    exact ⟨rfl, hKeys⟩
  | false =>
    obtain ⟨⟨line, hLine, hCode⟩, hSame⟩ := hFaithful.unknown names args s hKnows
    rcases hAsk : server.ask (.grant names args) s with ⟨result, s₁⟩
    rw [hAsk] at hLine hSame
    subst hLine
    obtain ⟨⟨reply, hTaken⟩, hKnown, hKept⟩ := hFaithful.load s₁
    rcases hLoad : server.ask .load s₁ with ⟨result, s₂⟩
    rw [hLoad] at hTaken hKnown hKept
    subst hTaken
    -- neither the refusal nor the loading touched a key
    have hKeys : keys s₂ = keys s := hKept.trans hSame
    rw [← hKeys] at hRun
    rw [runScript, hAsk]
    simp only [hCode, if_true, hLoad]
    exact hFaithful.known names args s₂ granted after hKnown hRun

/-- The state of a server that keeps keys and runs the script on them. -/
structure Cache where
  keys : KeyTable := {}
  knowsScript : Bool := false

/-- A server that does nothing else. -/
def Cache.server : Server Cache where
  connect s := (.ok (), s)
  ask
    | .ping, s => (.ok (.simple "PONG"), s)
    | .load, s =>
      (.ok (.bulk "8ea6c19c88519e5f7352dc0046fa4480c04518d3".toUTF8),
        { s with knowsScript := true })
    | .append .., s => (.error "ERR no streams here", s)
    | .grant names args, s =>
      if s.knowsScript then
        match s.keys.runScript names args with
        | .ok (granted, keys) =>
          (.ok (.array (granted.map fun text => .bulk text.toUTF8)), { s with keys })
        | .error line => (.error line, s)
      else (.error "NOSCRIPT No matching script. Please use EVAL.", s)

/-- A cache that does as the script says is a faithful server. -/
theorem Cache.faithful_server : Cache.server.Faithful Cache.keys Cache.knowsScript where
  connect _ := rfl
  known names args s granted after hKnows hRun := by
    simp [server, hKnows, hRun]
  unknown names args s hKnows := by
    have hCode : lineCode "NOSCRIPT No matching script. Please use EVAL." = "NOSCRIPT" := by
      decide +kernel
    simp [server, hKnows, hCode]
  load s := ⟨⟨_, rfl⟩, rfl, rfl⟩

end Redis

end DueDispatch
