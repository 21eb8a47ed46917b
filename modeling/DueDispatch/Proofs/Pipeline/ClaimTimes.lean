import DueDispatch.Proofs.Pipeline.Claims

/-!
# DueDispatch — claim times over a rehearsal

A claim stamps the rows it returns with the later of its own reading and the stamp that
is there. Readings of different replicas disagree, and the clock can be set back, but a
stamp that is a number only ever grows: this is `Account.Aged`, what the row of an
account can go through as long as it is not put in anew.

A stamp that grows keeps an account out of every claim whose ready cut-off it exceeds,
however many things happen in between.

## Results

* `Course.aged` — what becomes of a row over any number of happenings.
* `enqueuedAt_forward` — over any stretch of a rehearsal, claim times do not go back,
  and change only by claims; check times change only by recorded checks.
* `claimed_again` — between two claims of an account lies the ready time, unless its
  check has expired.
-/

namespace DueDispatch

/-- What a row can go through while these things happen. -/
structure Account.Aged (log : List Happening) (old new : Account) : Prop where
  same : new.id = old.id
  forward : old.enqueuedAt.isNaN = false → old.enqueuedAt ≤ new.enqueuedAt
  claimed : old.enqueuedAt ≠ new.enqueuedAt → ∃ c, .claimed c ∈ log ∧ old.id ∈ c.ids
  checked : old.checkedAt ≠ new.checkedAt → .checked old.id new.checkedAt ∈ log

namespace Account.Aged

variable {log log₁ log₂ : List Happening} {a b c : Account}

/-- Where nothing happens an account does not age. -/
theorem refl (log : List Happening) (a : Account) : Aged log a a where
  same := rfl
  forward := Timestamp.le_refl
  claimed hChanged := absurd rfl hChanged
  checked hChanged := absurd rfl hChanged

/-- What an account goes through in two stretches it goes through in both together. -/
theorem trans (hFirst : Aged log₁ a b) (hSecond : Aged log₂ b c) : Aged (log₁ ++ log₂) a c where
  same := hSecond.same.trans hFirst.same
  forward hNum :=
    have hLe := hFirst.forward hNum
    Timestamp.le_trans hLe (hSecond.forward hLe.2.1)
  -- what differs in the end was changed in the second part, or else in the first
  claimed hChanged := by
    by_cases hLater : b.enqueuedAt = c.enqueuedAt
    · obtain ⟨claim, hMem, hId⟩ := hFirst.claimed (hLater ▸ hChanged)
      exact ⟨claim, List.mem_append_left _ hMem, hId⟩
    · obtain ⟨claim, hMem, hId⟩ := hSecond.claimed hLater
      exact ⟨claim, List.mem_append_right _ hMem, hFirst.same ▸ hId⟩
  checked hChanged := by
    by_cases hLater : b.checkedAt = c.checkedAt
    · exact List.mem_append_left _ (hLater ▸ hFirst.checked (hLater ▸ hChanged))
    · exact List.mem_append_right _ (hFirst.same ▸ hSecond.checked hLater)

end Account.Aged

/-- A claim takes the later of two readings for the claim time of what it returns. -/
theorem Account.aged_enqueued (c : Claim) (a : Account) :
    Aged [.claimed c] a (AccountTable.enqueued c.now c.ids a) := by
  unfold AccountTable.enqueued
  split
  · rename_i hReturned
    exact {
      same := rfl
      forward := Timestamp.le_max_left
      claimed := fun _ => ⟨c, List.mem_singleton_self _, hReturned⟩
      checked := fun hChanged => absurd rfl hChanged }
  · exact .refl _ a

section

variable {t t' : AccountTable} {id : AccountId} {old : Account}

/-- One thing that happens to a table. -/
theorem Happens.aged {h : Happening} (hHappens : Happens t h t') (hRow : t.row? id = some old)
    (hKept : ∀ row, h = .inserted row → row.id ≠ id) :
    ∃ new, t'.row? id = some new ∧ Account.Aged [h] old new := by
  cases hHappens with
  | claimed now p =>
    rw [t.row?_claim, hRow, Option.map_some]
    exact ⟨_, rfl, Account.aged_enqueued ⟨t, now, p, _⟩ old⟩
  | inserted row =>
    rw [t.row?_insert_of_ne (hKept row rfl), hRow]
    exact ⟨_, rfl, .refl _ old⟩
  | checked checked time =>
    rw [t.row?_markChecked, hRow, Option.map_some]
    refine ⟨_, rfl, ?_⟩
    split
    · rename_i hSame
      subst hSame
      exact {
        same := rfl
        forward := Timestamp.le_refl
        claimed := fun hChanged => absurd rfl hChanged
        checked := fun _ => List.mem_singleton_self _ }
    · exact .refl _ old

/-- An account that a claim returns was due in the table that the claim found, and has
the reading of the claim for its claim time, or a later one. -/
theorem Happens.row_of_claimed {c : Claim} (hHappens : Happens t (.claimed c) t')
    (hReturned : id ∈ c.ids) :
    c.found = t ∧
      (∃ a, t.row? id = some a ∧ c.policy.isDue c.now a = true) ∧
      (c.now.isNaN = false → ∃ a, t'.row? id = some a ∧ c.now ≤ a.enqueuedAt) := by
  cases hHappens with
  | claimed now p =>
    obtain ⟨a, hRow, hDue⟩ := t.due_of_mem_claim now p hReturned
    refine ⟨rfl, ⟨a, hRow, hDue⟩, fun hNum => ?_⟩
    obtain rfl : a.id = id := ((t.row?_eq_some_iff).mp hRow).2
    rw [t.row?_claim, hRow, Option.map_some, AccountTable.enqueued, if_pos hReturned]
    exact ⟨_, rfl, Timestamp.le_max_right hNum⟩

/-- What becomes of a row over any number of happenings. -/
theorem Course.aged {log : List Happening} (hCourse : Course t log t')
    (hRow : t.row? id = some old) (hKept : ∀ row, .inserted row ∈ log → row.id ≠ id) :
    ∃ new, t'.row? id = some new ∧ Account.Aged log old new := by
  induction hCourse generalizing old with
  | nil => exact ⟨old, hRow, .refl _ old⟩
  | cons hHead _ ih =>
    obtain ⟨mid, hMid, hFirst⟩ :=
      hHead.aged hRow fun row hRow => hKept row (hRow ▸ List.mem_cons_self)
    obtain ⟨new, hNew, hSecond⟩ :=
      ih hMid fun row hMem => hKept row (List.mem_cons_of_mem _ hMem)
    exact ⟨new, hNew, hFirst.trans hSecond⟩

end

namespace Action

variable {replicas : List Dispatcher} {m : Memory} {id : AccountId}

/-- **Claim times do not go back.** An account that is there from the beginning and is
not put in anew has a row throughout a rehearsal. Over any stretch `steps` of it, a
single action or more, its claim time does not decrease, stays a number if it was one,
and changes only if a claim of the stretch returned the account. Its check time changes
only if the check that it shows then was recorded. -/
theorem enqueuedAt_forward (replicas : List Dispatcher) (before steps : List Action)
    (hPresent : (m.row? id).isSome = true)
    (hKept : ∀ row, .insert row ∈ before ++ steps → row.id ≠ id) :
    let found := (performAll replicas before m).2
    let left := (performAll replicas steps found).2
    ∃ old new, found.row? id = some old ∧ left.row? id = some new ∧
      ¬ new.enqueuedAt < old.enqueuedAt ∧
      (old.enqueuedAt.isNaN = false →
        new.enqueuedAt.isNaN = false ∧ old.enqueuedAt ≤ new.enqueuedAt) ∧
      (old.enqueuedAt ≠ new.enqueuedAt →
        ∃ c, .claimed c ∈ log replicas steps found ∧ id ∈ c.ids) ∧
      (old.checkedAt ≠ new.checkedAt → .markChecked id new.checkedAt ∈ steps) := by
  intro found left
  -- the row is there up to the stretch, and what the log of the stretch does to it is all
  obtain ⟨first, hFirst⟩ := Option.isSome_iff_exists.mp hPresent
  obtain ⟨old, hOld, hBefore⟩ := (course_performAll replicas before m).aged hFirst
    fun row hMem => hKept row (by simp [insert_of_logged hMem])
  obtain ⟨new, hNew, hSteps⟩ := (course_performAll replicas steps found).aged hOld
    fun row hMem => hKept row (by simp [insert_of_logged hMem])
  obtain rfl : old.id = id := (AccountTable.row?_eq_some_iff _).mp hOld |>.2
  refine ⟨old, new, hOld, hNew, ?_, fun hNum => ?_, hSteps.claimed, fun hChanged => ?_⟩
  · intro hBack
    exact Timestamp.not_lt_of_le (hSteps.forward hBack.2.1) hBack
  · have hLe := hSteps.forward hNum
    exact ⟨hLe.2.1, hLe⟩
  · exact markChecked_of_logged (hSteps.checked hChanged)

/-- A replica to which an account is ready again after a minute. -/
def eachMinute : Dispatcher := ⟨⟨.ofSecs 60, .ofSecs 300, 10⟩, .ofSecs 300, defaultChannel, 2⟩

/-- Account 1, checked at this reading and not claimed yet. -/
def justChecked (time : Timestamp) : Memory :=
  { clock := time, accounts := { table := .ofList [⟨1, time, ⟨0⟩⟩] } }

/-- A claim by a clock that is slow, and then a completed check. -/
def slowClaim (early late : Timestamp) : List Action := [.select 0 early, .markChecked 1 late]

/-- The slow claim returns the account, and leaves its claim time where it is. -/
theorem enqueuedAt_forward_skewed :
    let early : Timestamp := (⟨0⟩ : Timestamp) + Duration.ofSecs 1000
    let late : Timestamp := (⟨0⟩ : Timestamp) + Duration.ofSecs 2000
    let m := justChecked ⟨0⟩
    let found := (performAll [eachMinute] [.select 0 late] m).2
    let left := (performAll [eachMinute] (slowClaim early late) found).2
    (m.row? 1).isSome = true ∧
    (∀ row, .insert row ∈ [.select 0 late] ++ slowClaim early late → row.id ≠ 1) ∧
    found.row? 1 = some ⟨1, ⟨0⟩, late⟩ ∧
    left.row? 1 = some ⟨1, late, late⟩ ∧
    late ≤ late ∧
    .markChecked 1 late ∈ slowClaim early late := by
  intro early late m found left
  have hPresent : (m.row? 1).isSome = true := by decide +kernel
  have hKept : ∀ row, .insert row ∈ [.select 0 late] ++ slowClaim early late → row.id ≠ 1 := by
    simp [slowClaim]
  have hFound : found.row? 1 = some ⟨1, ⟨0⟩, late⟩ := by decide +kernel
  have hLeft : left.row? 1 = some ⟨1, late, late⟩ := by decide +kernel
  obtain ⟨old, new, hOld, hNew, -, hForward, -, hChecked⟩ :=
    enqueuedAt_forward [eachMinute] [.select 0 late] (slowClaim early late) hPresent hKept
  obtain rfl := Option.some.inj (hFound.symm.trans hOld)
  obtain rfl := Option.some.inj (hLeft.symm.trans hNew)
  have hNum : late.isNaN = false := by decide +kernel
  have hMoved : (⟨0⟩ : Timestamp) ≠ late := by decide +kernel
  exact ⟨hPresent, hKept, hFound, hLeft, (hForward hNum).2, hChecked hMoved⟩

/-- **The ready window keeps claimed accounts out.** If two claims of a rehearsal return
one account, and it is not put in anew between them, then the reading of the first was
old enough at the second, or the check of the account had expired by then. -/
theorem claimed_again {actions : List Action} {first second : Claim}
    {before between after : List Happening}
    (hLog : log replicas actions m =
      before ++ .claimed first :: (between ++ .claimed second :: after))
    (hFirst : id ∈ first.ids) (hSecond : id ∈ second.ids)
    (hNum : first.now.isNaN = false)
    (hKept : ∀ row, .inserted row ∈ between → row.id ≠ id) :
    first.now ≤ second.policy.readyCutoff second.now ∨
      ∃ a, second.found.row? id = some a ∧
        a.checkedAt < second.policy.expiredCutoff second.now := by
  have hCourse := course_performAll replicas actions m
  rw [hLog] at hCourse
  obtain ⟨t, -, hFrom⟩ := hCourse.exists_split
  cases hFrom with
  | cons hClaim hRest =>
    obtain ⟨-, -, hStamped⟩ := hClaim.row_of_claimed hFirst
    obtain ⟨stamped, hRow, hStamp⟩ := hStamped hNum
    -- the stamp grows until the second claim finds the row due
    obtain ⟨t', hBetween, hFrom'⟩ := hRest.exists_split
    obtain ⟨a, hFound, hAged⟩ := hBetween.aged hRow hKept
    have hOld : first.now ≤ a.enqueuedAt :=
      Timestamp.le_trans hStamp (hAged.forward hStamp.2.1)
    cases hFrom' with
    | cons hClaim' _ =>
      obtain ⟨rfl, ⟨b, hRow', hDue⟩, -⟩ := hClaim'.row_of_claimed hSecond
      obtain rfl : a = b := Option.some.inj (hFound.symm.trans hRow')
      rcases Policy.isDue_iff.mp hDue with hReady | hExpired
      · exact .inl (Timestamp.le_trans hOld hReady)
      · exact .inr ⟨a, hFound, hExpired⟩

/-- Between two claims the table fails, and a claim made meanwhile returns nothing. -/
def outage (early late : Timestamp) : List Action :=
  [.select 0 early, .failAccounts true, .select 0 late, .failAccounts false,
    .claim late eachMinute.policy]

/-- An account whose check has not expired is claimed again after just the ready time. -/
theorem claimed_again_ready :
    let m := justChecked ((⟨0⟩ : Timestamp) + Duration.ofSecs 1000)
    let policy := eachMinute.policy
    let early := m.clock
    let late := m.clock + Duration.ofSecs 60
    let claimed := m.accounts.table.claim early policy
    let first : Claim := ⟨m.accounts.table, early, policy, claimed.1⟩
    let second : Claim := ⟨claimed.2, late, policy, (claimed.2.claim late policy).1⟩
    log [eachMinute] (outage early late) m = [.claimed first, .claimed second] ∧
    1 ∈ first.ids ∧
    1 ∈ second.ids ∧
    first.now.isNaN = false ∧
    (¬ ∃ a, second.found.row? 1 = some a ∧ a.checkedAt < policy.expiredCutoff late) ∧
    early ≤ policy.readyCutoff late := by
  intro m policy early late claimed first second
  have hLog : log [eachMinute] (outage early late) m =
      [] ++ .claimed first :: ([] ++ .claimed second :: []) := rfl
  have hFirst : 1 ∈ first.ids := by decide +kernel
  have hSecond : 1 ∈ second.ids := by decide +kernel
  have hNum : first.now.isNaN = false := by decide +kernel
  have hFresh : ¬ ∃ a, second.found.row? 1 = some a ∧ a.checkedAt < policy.expiredCutoff late := by
    have hRow : second.found.row? 1 = some ⟨1, early, early⟩ := by decide +kernel
    have hChecked : ¬ early < policy.expiredCutoff late := by decide +kernel
    rintro ⟨a, hFound, hExpired⟩
    obtain rfl := Option.some.inj (hRow.symm.trans hFound)
    exact hChecked hExpired
  have hAgain := claimed_again hLog hFirst hSecond hNum (by simp)
  exact ⟨hLog, hFirst, hSecond, hNum, hFresh, hAgain.resolve_right hFresh⟩

end Action

end DueDispatch
