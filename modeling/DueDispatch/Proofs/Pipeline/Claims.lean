import DueDispatch.Pipeline
import DueDispatch.Proofs.Cycle.Calls
import DueDispatch.Proofs.Memory.Accounts

/-!
# DueDispatch — what happens to the accounts of a rehearsal

Only three things change the accounts table: a claim that succeeds, a row that is put
in, and a check that is recorded. `Action.log` lists them over a whole rehearsal, the
claims inside cycles included: those are written down by `Memory.watched`, which changes
nothing else.

`Course` says that such a list leads from one table to another. Each claim in it found
the table that the things before it left, and returned what a claim of that table
returns.

## Results

* `watched_eq` — watching an action changes nothing.
* `course_perform`, `course_performAll` — the log of an action, or of a rehearsal, leads
  from the table before it to the table after it.
* `insert_of_logged`, `markChecked_of_logged` — only a row that is put in, or a check that
  is recorded, is logged as such.
-/

namespace DueDispatch

/-- A claim that succeeded: the table it found, and the ids it returned. -/
structure Claim where
  found : AccountTable
  now : Timestamp
  policy : Policy
  ids : List AccountId

/-- Something that changes the accounts table. -/
inductive Happening
  | claimed (c : Claim)
  | inserted (row : Account)
  | checked (id : AccountId) (time : Timestamp)

/-- What becomes of a table. -/
inductive Happens : AccountTable → Happening → AccountTable → Prop
  | claimed (t : AccountTable) (now : Timestamp) (p : Policy) :
      Happens t (.claimed ⟨t, now, p, (t.claim now p).1⟩) (t.claim now p).2
  | inserted (t : AccountTable) (row : Account) : Happens t (.inserted row) (t.insert row)
  | checked (t : AccountTable) (id : AccountId) (time : Timestamp) :
      Happens t (.checked id time) (t.markChecked id time)

/-- What becomes of a table when several things happen one after another. -/
inductive Course : AccountTable → List Happening → AccountTable → Prop
  | nil (t : AccountTable) : Course t [] t
  | cons {t t₁ t₂ : AccountTable} {h : Happening} {log : List Happening}
      (hFirst : Happens t h t₁) (hRest : Course t₁ log t₂) : Course t (h :: log) t₂

namespace Course

variable {t t₁ t₂ : AccountTable} {log log₁ log₂ : List Happening}

/-- One change is a course. -/
theorem single {h : Happening} (hHappens : Happens t h t₁) : Course t [h] t₁ :=
  .cons hHappens (.nil t₁)

/-- Two courses, one after the other, are a course. -/
theorem append (hFirst : Course t log₁ t₁) (hSecond : Course t₁ log₂ t₂) :
    Course t (log₁ ++ log₂) t₂ := by
  induction hFirst with
  | nil => exact hSecond
  | cons hHead _ ih => exact .cons hHead (ih hSecond)

/-- A course can be cut anywhere. -/
theorem exists_split (hCourse : Course t (log₁ ++ log₂) t₂) :
    ∃ t₁, Course t log₁ t₁ ∧ Course t₁ log₂ t₂ := by
  induction log₁ generalizing t with
  | nil => exact ⟨t, .nil t, hCourse⟩
  | cons h log₁ ih =>
    cases hCourse with
    | cons hHead hRest =>
      obtain ⟨t₁, hFirst, hSecond⟩ := ih hRest
      exact ⟨t₁, .cons hHead hFirst, hSecond⟩

end Course

-- ---------------------------------------------------------------------------
-- Watched stores
-- ---------------------------------------------------------------------------

/-- A claim that succeeds, on the table that it found. -/
def Exchange.claims (found : AccountTable) : Exchange → List Claim
  | ⟨.claim now policy, ⟨.ok ids, _⟩⟩ => [⟨found, now, policy, ids⟩]
  | _ => []

namespace Memory

/-- The stores as backends, every claim that succeeds being written down. -/
def watched : Backends (Memory × List Claim) := fun call p =>
  let (answer, m) := backends call p.1
  (answer, (m, p.2 ++ Exchange.claims p.1.accounts.table ⟨call, answer⟩))

/-- The claims written down lead from this table to the one that there is. -/
def Watching (t : AccountTable) (p : Memory × List Claim) : Prop :=
  Course t (p.2.map .claimed) p.1.accounts.table

/-- Before any claim there is nothing to watch. -/
theorem watching_start (m : Memory) : Watching m.accounts.table (m, []) := .nil _

/-- One call changes the accounts by its claim, or not at all. -/
theorem course_backends (call : Call) (m : Memory) :
    Course m.accounts.table
      ((Exchange.claims m.accounts.table ⟨call, (backends call m).1⟩).map .claimed)
      (backends call m).2.accounts.table := by
  cases call with
  | lease ids ttl => exact .nil _
  | publish channel payloads => exact .nil _
  | claim now p =>
    cases hFailing : m.accounts.failing with
    | true =>
      simp only [backends, AccountStore.claim, hFailing, if_true]
      exact .nil _
    | false =>
      simp only [backends, AccountStore.claim, hFailing, Bool.false_eq_true, if_false]
      exact .single (.claimed _ now p)

/-- A watched call adds the claim that it makes, if it makes one. -/
theorem watching_watched {t : AccountTable} (call : Call) (p : Memory × List Claim)
    (hWatching : Watching t p) : Watching t (watched call p).2 := by
  rw [Watching, watched, List.map_append]
  exact hWatching.append (course_backends call p.1)

end Memory

-- ---------------------------------------------------------------------------
-- The stages of a cycle on watched stores
-- ---------------------------------------------------------------------------

namespace Dispatcher

variable (d : Dispatcher) (p : Memory × List Claim)

/-- A cycle that is watched changes the memory as it does unwatched. -/
theorem run_watched_stores (c : Cycle) :
    (d.run Memory.watched c p).2.1 = (d.run Memory.backends c p.1).2 := by
  rw [run_map Memory.watched Memory.backends Prod.fst (fun _ _ => rfl) d c p]

/-- So does a selection. -/
theorem select_watched_stores (now : Timestamp) :
    (d.select Memory.watched now p).2.1 = (d.select Memory.backends now p.1).2 := by
  unfold select
  split <;> rfl

/-- So does a lease request. -/
theorem grant_watched_stores (ids : List AccountId) :
    (d.grant Memory.watched ids p).2.1 = (d.grant Memory.backends ids p.1).2 := by
  unfold grant
  split <;> rfl

variable {d p} {t : AccountTable} (hWatching : Memory.Watching t p)

include hWatching

/-- The claims of a cycle lead from table to table. -/
theorem watching_run (c : Cycle) : Memory.Watching t (d.run Memory.watched c p).2 :=
  run_invariant Memory.watching_watched d c hWatching

/-- So do those of a selection. -/
theorem watching_select (now : Timestamp) :
    Memory.Watching t (d.select Memory.watched now p).2 := by
  unfold select
  split
  · exact hWatching
  · exact Memory.watching_watched _ p hWatching

/-- A lease request makes no claims. -/
theorem watching_grant (ids : List AccountId) :
    Memory.Watching t (d.grant Memory.watched ids p).2 := by
  unfold grant
  split
  · exact hWatching
  · exact Memory.watching_watched _ p hWatching

end Dispatcher

-- ---------------------------------------------------------------------------
-- Actions
-- ---------------------------------------------------------------------------

namespace Action

/-- A replica's part of an action on watched stores. -/
def onWatched (replicas : List Dispatcher) (replica : Nat) (m : Memory)
    (part : Dispatcher → Memory × List Claim → Memory × List Claim) : Memory × List Claim :=
  match replicas[replica]? with
  | some d => part d (m, [])
  | none => (m, [])

/-- Performs one action on watched stores: the stores after it, and its claims. -/
def watched (replicas : List Dispatcher) (m : Memory) : Action → Memory × List Claim
  | .cycle replica => onWatched replicas replica m fun d p =>
    (d.runCycle Memory.watched m.clock p).2
  | .select replica now => onWatched replicas replica m fun d p =>
    (d.select Memory.watched now p).2
  | .grant replica ids => onWatched replicas replica m fun d p =>
    (d.grant Memory.watched ids p).2
  | .publish replica ids => onWatched replicas replica m fun d p =>
    (d.publishAll Memory.watched ids p).2
  | .claim now policy => (Memory.watched (.claim now policy) (m, [])).2
  | a => ((a.perform replicas m).2, [])

/-- What an action does to the accounts. -/
def happenings (replicas : List Dispatcher) (m : Memory) : Action → List Happening
  | .insert row => [.inserted row]
  | .markChecked id time => [.checked id time]
  | a => (a.watched replicas m).2.map .claimed

/-- What a rehearsal does to the accounts, the first thing first. -/
def log (replicas : List Dispatcher) : List Action → Memory → List Happening
  | [], _ => []
  | a :: rest, m => a.happenings replicas m ++ log replicas rest (a.perform replicas m).2

variable (replicas : List Dispatcher)

/-- Watching an action on a replica does not change what it does. -/
theorem onWatched_eq (replica : Nat) (m : Memory)
    {part : Dispatcher → Memory × List Claim → Memory × List Claim}
    {plain : Dispatcher → Outcome × Memory} (hPart : ∀ d, (part d (m, [])).1 = (plain d).2) :
    (onWatched replicas replica m part).1 = (onReplica replicas replica m plain).2 := by
  cases hReplica : replicas[replica]? with
  | none => simp only [onWatched, onReplica, hReplica]
  | some d => simpa only [onWatched, onReplica, hReplica] using hPart d

/-- Watching changes nothing. -/
theorem watched_eq (a : Action) (m : Memory) :
    (a.watched replicas m).1 = (a.perform replicas m).2 := by
  cases a with
  | cycle replica =>
    exact onWatched_eq replicas replica m fun d => d.run_watched_stores (m, []) _
  | select replica now =>
    exact onWatched_eq replicas replica m fun d => d.select_watched_stores (m, []) now
  | grant replica ids =>
    exact onWatched_eq replicas replica m fun d => d.grant_watched_stores (m, []) ids
  | publish replica ids =>
    exact onWatched_eq replicas replica m fun d => d.run_watched_stores (m, []) _
  | _ => rfl

/-- What a replica's part of an action does to the accounts is in its claims. -/
theorem watching_onWatched (replica : Nat) (m : Memory)
    {part : Dispatcher → Memory × List Claim → Memory × List Claim}
    (hPart : ∀ d, Memory.Watching m.accounts.table (part d (m, []))) :
    Memory.Watching m.accounts.table (onWatched replicas replica m part) := by
  unfold onWatched
  split
  · exact hPart _
  · exact Memory.watching_start m

/-- What an action does to the accounts leads to the table after it. -/
theorem course_perform (a : Action) (m : Memory) :
    Course m.accounts.table (a.happenings replicas m)
      (a.perform replicas m).2.accounts.table := by
  have hStart := Memory.watching_start m
  rw [← watched_eq]
  cases a with
  | insert row => exact .single (.inserted _ row)
  | markChecked id time => exact .single (.checked _ id time)
  | cycle replica =>
    exact watching_onWatched replicas replica m fun d => Dispatcher.watching_run hStart _
  | select replica now =>
    exact watching_onWatched replicas replica m fun d => Dispatcher.watching_select hStart now
  | grant replica ids =>
    exact watching_onWatched replicas replica m fun d => Dispatcher.watching_grant hStart ids
  | publish replica ids =>
    exact watching_onWatched replicas replica m fun d => Dispatcher.watching_run hStart _
  | claim now policy => exact Memory.watching_watched _ _ hStart
  | _ => exact hStart

/-- **The log of a rehearsal** leads from the accounts before it to those after it. -/
theorem course_performAll (actions : List Action) (m : Memory) :
    Course m.accounts.table (log replicas actions m)
      (performAll replicas actions m).2.accounts.table := by
  induction actions generalizing m with
  | nil => exact .nil _
  | cons a rest ih => exact (course_perform replicas a m).append (ih _)

-- ---------------------------------------------------------------------------
-- What is in the log
-- ---------------------------------------------------------------------------

variable {replicas} {actions : List Action} {m : Memory}

/-- Whatever is in the log is there by one of the actions. -/
theorem exists_action {h : Happening} (hMem : h ∈ log replicas actions m) :
    ∃ a ∈ actions, ∃ found, h ∈ a.happenings replicas found := by
  induction actions generalizing m with
  | nil => simp [log] at hMem
  | cons a rest ih =>
    rcases List.mem_append.mp hMem with hFirst | hRest
    · exact ⟨a, List.mem_cons_self, m, hFirst⟩
    · obtain ⟨b, hAction, found, hLogged⟩ := ih hRest
      exact ⟨b, List.mem_cons_of_mem _ hAction, found, hLogged⟩

/-- An insertion in the log was one of the actions. -/
theorem insert_of_logged {row : Account} (hMem : .inserted row ∈ log replicas actions m) :
    .insert row ∈ actions := by
  obtain ⟨a, hAction, found, hLogged⟩ := exists_action hMem
  cases a <;> simp_all [happenings]

/-- A check in the log was one of the actions. -/
theorem markChecked_of_logged {id : AccountId} {time : Timestamp}
    (hMem : .checked id time ∈ log replicas actions m) : .markChecked id time ∈ actions := by
  obtain ⟨a, hAction, found, hLogged⟩ := exists_action hMem
  cases a <;> simp_all [happenings]

end Action

end DueDispatch
