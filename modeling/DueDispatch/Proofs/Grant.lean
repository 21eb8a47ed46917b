import DueDispatch.Grant
import Mathlib.Data.List.Infix

/-!
# DueDispatch — granted ids that pass

`Grant.validate` looks for each granted id at the next place where the request has it.
That misses no way to find them all, whatever ids are repeated: an id found early leaves
more of the request for the ones behind it. So exactly the parts of the request, in its
order, pass. Of an answer that does not pass, the id that is reported ends the shortest
beginning that is no such part.

## Results

* `firstUnmatched_of_sublist`, `sublist_of_firstUnmatched` — all granted ids are found if
  and only if they are part of the request.
* `shortestStray_of_firstUnmatched` — the first that is not found ends the shortest
  beginning that is no part of the request.
* `validate_iff` — which answers pass, and what is reported of the others.
-/

namespace DueDispatch.Grant

variable {requested granted ids stray : List AccountId} {id : AccountId}

-- ---------------------------------------------------------------------------
-- Answers that pass
-- ---------------------------------------------------------------------------

/-- Looking for each id at its next place misses no way to find them all. -/
theorem firstUnmatched_of_sublist (hSub : granted.Sublist requested) :
    firstUnmatched requested granted = none := by
  fun_induction firstUnmatched requested granted with
  | case1 requested => rfl
  | case2 id rest => simp at hSub
  | case3 rest id granted ih => exact ih (List.cons_sublist_cons.mp hSub)
  | case4 r rest id granted hNe ih =>
    cases hSub with
    | cons _ hRest => exact ih hRest
    | cons_cons _ _ => exact absurd rfl hNe

/-- Grants that were requested, and in this order, are accepted. -/
theorem validate_of_sublist (hSub : granted.Sublist requested) :
    validate requested granted = .ok granted := by
  rw [validate, if_neg (Nat.not_lt.mpr hSub.length_le), firstUnmatched_of_sublist hSub]

/-- If nothing is left unmatched, the grants were requested, and in this order. -/
theorem sublist_of_firstUnmatched (hFound : firstUnmatched requested granted = none) :
    granted.Sublist requested := by
  fun_induction firstUnmatched requested granted with
  | case1 requested => exact List.nil_sublist _
  | case2 id rest => simp at hFound
  | case3 rest id granted ih => exact (ih hFound).cons_cons id
  | case4 r rest id granted hNe ih => exact (ih hFound).cons r

/-- Granted ids that pass are passed on unchanged, and they are part of the request, in
its order. -/
theorem sublist_of_validate (hPass : validate requested granted = .ok ids) :
    ids = granted ∧ ids.Sublist requested := by
  unfold validate at hPass
  split at hPass
  · simp at hPass
  · split at hPass
    · simp at hPass
    · rename_i hFound
      obtain rfl := Except.ok.inj hPass
      exact ⟨rfl, sublist_of_firstUnmatched hFound⟩

-- ---------------------------------------------------------------------------
-- The id that is reported
-- ---------------------------------------------------------------------------

/-- The shortest beginning of the granted ids that is no part of the request, in its
order. -/
structure ShortestStray (requested granted stray : List AccountId) : Prop where
  beginning : stray <+: granted
  notPart : ¬stray.Sublist requested
  shortest : ∀ other, other <+: granted → ¬other.Sublist requested → stray <+: other

/-- A beginning that only its last id keeps from being part of the request is the
shortest one. -/
theorem ShortestStray.of_concat {before : List AccountId} (hBeginning : before ++ [id] <+: granted)
    (hPart : before.Sublist requested) (hNotPart : ¬(before ++ [id]).Sublist requested) :
    ShortestStray requested granted (before ++ [id]) where
  beginning := hBeginning
  notPart := hNotPart
  shortest other hOther hStray := by
    rcases List.prefix_or_prefix_of_prefix hBeginning hOther with hLonger | hShorter
    · exact hLonger
    · rcases List.prefix_concat_iff.mp hShorter with rfl | hBefore
      · exact List.prefix_refl _
      · exact absurd (hBefore.sublist.trans hPart) hStray

/-- There is at most one shortest beginning. -/
theorem ShortestStray.eq {other : List AccountId} (hStray : ShortestStray requested granted stray)
    (hOther : ShortestStray requested granted other) : stray = other := by
  have hLe := hStray.shortest other hOther.beginning hOther.notPart
  have hGe := hOther.shortest stray hStray.beginning hStray.notPart
  exact hLe.eq_of_length (Nat.le_antisymm hLe.length_le hGe.length_le)

/-- The first id that is not found ends the shortest beginning that is no part of the
request. -/
theorem shortestStray_of_firstUnmatched (hFirst : firstUnmatched requested granted = some id) :
    ∃ before, ShortestStray requested granted (before ++ [id]) := by
  suffices hSplit : ∃ before, before ++ [id] <+: granted ∧ before.Sublist requested ∧
      ¬(before ++ [id]).Sublist requested by
    obtain ⟨before, hBeginning, hPart, hNotPart⟩ := hSplit
    exact ⟨before, .of_concat hBeginning hPart hNotPart⟩
  fun_induction firstUnmatched requested granted with
  | case1 requested => contradiction
  | case2 first rest =>
    obtain rfl := Option.some.inj hFirst
    exact ⟨[], by simp, List.nil_sublist _, by simp⟩
  | case3 rest first granted ih =>
    obtain ⟨before, hBeginning, hPart, hNotPart⟩ := ih hFirst
    exact ⟨first :: before, (List.prefix_cons_inj first).mpr hBeginning, hPart.cons_cons first,
      fun hWhole => hNotPart (List.cons_sublist_cons.mp hWhole)⟩
  | case4 r rest first granted hNe ih =>
    obtain ⟨before, hBeginning, hPart, hNotPart⟩ := ih hFirst
    refine ⟨before, hBeginning, hPart.cons r, fun hWhole => hNotPart ?_⟩
    -- it begins with the first granted id, for which the first of the request is no match
    obtain ⟨more, hCons⟩ : ∃ more, before ++ [id] = first :: more := by
      cases before with
      | nil =>
        obtain ⟨rfl, -⟩ := List.cons_prefix_cons.mp hBeginning
        exact ⟨[], rfl⟩
      | cons b before =>
        obtain ⟨rfl, -⟩ := List.cons_prefix_cons.mp hBeginning
        exact ⟨before ++ [id], rfl⟩
    rw [hCons] at hWhole ⊢
    cases hWhole with
    | cons _ hRest => exact hRest
    | cons_cons _ _ => exact absurd rfl hNe

/-- **Which answers pass, and what is reported of the others.** Granted ids pass,
unchanged, if and only if they are part of the request, in its order and each place of it
used once. Of other answers it is reported that they are longer than the request if they
are, and else the last id of their shortest beginning that is no part of the request. -/
theorem validate_iff (requested granted : List AccountId) :
    (∀ ids, validate requested granted = .ok ids ↔ granted.Sublist requested ∧ ids = granted) ∧
    ∀ cause, validate requested granted = .error cause ↔
      (requested.length < granted.length ∧
        cause = .tooManyIds granted.length requested.length) ∨
      (granted.length ≤ requested.length ∧
        ∃ stray id, ShortestStray requested granted stray ∧ stray.getLast? = some id ∧
          cause = .unexpectedId id) := by
  constructor
  · intro ids
    constructor
    · intro hPass
      obtain ⟨rfl, hSub⟩ := sublist_of_validate hPass
      exact ⟨hSub, rfl⟩
    · rintro ⟨hSub, rfl⟩
      exact validate_of_sublist hSub
  · intro cause
    by_cases hLong : requested.length < granted.length
    · rw [validate, if_pos hLong, Except.error.injEq, eq_comm]
      simp [hLong, Nat.not_le.mpr hLong]
    · simp only [hLong, false_and, false_or, Nat.not_lt.mp hLong, true_and]
      rw [validate, if_neg hLong]
      cases hFirst : firstUnmatched requested granted with
      | none =>
        -- all ids were found, so there is nothing to report
        have hSub := sublist_of_firstUnmatched hFirst
        refine iff_of_false (by simp) ?_
        rintro ⟨stray, -, hStray, -⟩
        exact hStray.notPart (hStray.beginning.sublist.trans hSub)
      | some first =>
        obtain ⟨before, hShortest⟩ := shortestStray_of_firstUnmatched hFirst
        constructor
        · intro hCause
          exact ⟨_, first, hShortest, List.getLast?_concat .., (Except.error.inj hCause).symm⟩
        · rintro ⟨stray, id, hStray, hLast, rfl⟩
          rw [hStray.eq hShortest, List.getLast?_concat] at hLast
          rw [Option.some.inj hLast]

/-- Three is not found behind the second one, although the request has it before. -/
example : validate [3, 1, 1, 2] [1, 1, 3] = .error (.unexpectedId 3) := by decide

end DueDispatch.Grant
