import DueDispatch.Decimal

/-!
# DueDispatch — which texts are numbers

The readers of `Decimal` go from left to right and stop at the first fault. Here is what
they accept, said without them: one or more ASCII digits, before which one sign may stand,
with a value within the bounds. Leading zeros do not matter, so a number has many texts.

The value grows from digit to digit. So it leaves the bound at some digit if and only if it
is beyond the bound in the end, and that is why the readers may stop early.

## Results

* `readDigits_eq_ok_iff` — which digits are read as a number.
* `readNatural_eq_ok_iff` — which texts are read as a natural number.
* `readInteger_eq_ok_iff` — which texts are read as an integer.
-/

namespace DueDispatch.Decimal

/-- The number that digits stand for, those before them having stood for `acc`. -/
def valueFrom (acc : Nat) (cs : List Char) : Nat :=
  cs.foldl (fun n c => n * 10 + (c.toNat - '0'.toNat)) acc

/-- ASCII digits that stand for a number. -/
structure IsDigits (cs : List Char) (n : Nat) : Prop where
  ne_nil : cs ≠ []
  isDigit : ∀ c ∈ cs, c.isDigit = true
  value : valueFrom 0 cs = n

/-- Texts of natural numbers. -/
inductive Numeral : List Char → Nat → Prop
  | bare {cs : List Char} {n : Nat} (hDigits : IsDigits cs n) : Numeral cs n
  | plus {cs : List Char} {n : Nat} (hDigits : IsDigits cs n) : Numeral ('+' :: cs) n

/-- Texts of integers. -/
inductive SignedNumeral : List Char → Int → Prop
  | bare {cs : List Char} {n : Nat} (hDigits : IsDigits cs n) : SignedNumeral cs n
  | plus {cs : List Char} {n : Nat} (hDigits : IsDigits cs n) : SignedNumeral ('+' :: cs) n
  | minus {cs : List Char} {n : Nat} (hDigits : IsDigits cs n) : SignedNumeral ('-' :: cs) (-n)

variable {bound acc n low high : Nat} {beyond : Fault} {cs : List Char} {i : Int}

-- ---------------------------------------------------------------------------
-- Digits
-- ---------------------------------------------------------------------------

/-- The digits are the characters from 0 to 9. -/
theorem isDigit_iff {c : Char} : c.isDigit = true ↔ '0' ≤ c ∧ c ≤ '9' := by
  rw [Char.isDigit, Bool.and_eq_true, decide_eq_true_eq, decide_eq_true_eq, Char.le_def,
    Char.le_def]

/-- The value of a digit is its distance from 0. -/
theorem digit?_of_isDigit {c : Char} (hDigit : c.isDigit = true) :
    digit? c = some (c.toNat - '0'.toNat) := if_pos (isDigit_iff.mp hDigit)

/-- Nothing else has a value. -/
theorem digit?_of_not_isDigit {c : Char} (hOther : c.isDigit = false) : digit? c = none :=
  if_neg fun hDigit => by simp [isDigit_iff.mpr hDigit] at hOther

/-- More digits do not make a number smaller. -/
theorem le_valueFrom (acc : Nat) (cs : List Char) : acc ≤ valueFrom acc cs := by
  induction cs generalizing acc with
  | nil => exact Nat.le_refl _
  | cons c rest ih =>
    have hRest := ih (acc * 10 + (c.toNat - '0'.toNat))
    rw [valueFrom, List.foldl_cons]
    rw [valueFrom] at hRest
    omega

/-- **Which digits are read as a number.** -/
theorem readDigits_eq_ok_iff (hAcc : acc ≤ bound) :
    readDigits bound beyond acc cs = .ok n ↔
      (∀ c ∈ cs, c.isDigit = true) ∧ valueFrom acc cs = n ∧ n ≤ bound := by
  induction cs generalizing acc with
  | nil =>
    simp only [readDigits, valueFrom, List.foldl_nil, Except.ok.injEq, List.not_mem_nil,
      false_implies, implies_true, true_and]
    exact ⟨fun hEq => ⟨hEq, hEq ▸ hAcc⟩, And.left⟩
  | cons c rest ih =>
    rw [readDigits]
    cases hDigit : c.isDigit with
    | false => simp [digit?_of_not_isDigit hDigit, hDigit]
    | true =>
      rw [digit?_of_isDigit hDigit]
      simp only [List.forall_mem_cons, hDigit, true_and]
      by_cases hWithin : acc * 10 + (c.toNat - '0'.toNat) ≤ bound
      · rw [if_pos hWithin, ih hWithin]
        rfl
      -- the value is beyond the bound already here, and it only grows
      · rw [if_neg hWithin]
        have hGrows := le_valueFrom (acc * 10 + (c.toNat - '0'.toNat)) rest
        refine iff_of_false (by simp) ?_
        rintro ⟨-, hValue, hBound⟩
        rw [valueFrom, List.foldl_cons] at hValue
        rw [valueFrom] at hGrows
        omega

/-- The reader accepts digits whose value is within the bound, and nothing else. -/
theorem readDigits_zero_eq_ok_iff (hSome : cs ≠ []) :
    readDigits bound beyond 0 cs = .ok n ↔ IsDigits cs n ∧ n ≤ bound := by
  rw [readDigits_eq_ok_iff (Nat.zero_le _)]
  exact ⟨fun ⟨hDigits, hValue, hBound⟩ => ⟨⟨hSome, hDigits, hValue⟩, hBound⟩,
    fun ⟨hDigits, hBound⟩ => ⟨hDigits.isDigit, hDigits.value, hBound⟩⟩

-- ---------------------------------------------------------------------------
-- Signs
-- ---------------------------------------------------------------------------

@[simp] theorem not_isDigits_nil : ¬IsDigits [] n := fun hDigits => hDigits.ne_nil rfl

/-- A text that begins with something else is not made of digits. -/
theorem not_isDigits_cons {c : Char} (hOther : c.isDigit = false) :
    ¬IsDigits (c :: cs) n := by
  intro hDigits
  have hDigit := hDigits.isDigit c (List.mem_cons_self ..)
  rw [hOther] at hDigit
  contradiction

/-- Behind a plus sign a numeral has digits only. -/
theorem numeral_plus_iff : Numeral ('+' :: cs) n ↔ IsDigits cs n := by
  refine ⟨fun hNumeral => ?_, .plus⟩
  cases hNumeral with
  | bare hDigits => exact absurd hDigits (not_isDigits_cons (by decide))
  | plus hDigits => exact hDigits

/-- Without a plus sign a numeral has digits only. -/
theorem numeral_bare_iff (hPlus : cs.head? ≠ some '+') : Numeral cs n ↔ IsDigits cs n := by
  refine ⟨fun hNumeral => ?_, .bare⟩
  cases hNumeral with
  | bare hDigits => exact hDigits
  | plus hDigits => simp at hPlus

/-- **Which texts are read as a natural number.** -/
theorem readNatural_eq_ok_iff : readNatural bound cs = .ok n ↔ Numeral cs n ∧ n ≤ bound := by
  unfold readNatural
  split
  · rw [numeral_bare_iff (by simp)]
    simp
  · rw [numeral_plus_iff]
    simp
  · rename_i rest hSome
    rw [numeral_plus_iff]
    exact readDigits_zero_eq_ok_iff hSome
  · rename_i hSome hOne hPlus
    rw [numeral_bare_iff fun hHead => ?_]
    · exact readDigits_zero_eq_ok_iff hSome
    · obtain ⟨rest, rfl⟩ := List.head?_eq_some_iff.mp hHead
      exact hPlus rest rfl

/-- What a numeral with a plus sign stands for. -/
theorem signedNumeral_plus_iff :
    SignedNumeral ('+' :: cs) i ↔ ∃ n : Nat, IsDigits cs n ∧ (n : Int) = i := by
  refine ⟨fun hNumeral => ?_, fun ⟨n, hDigits, hValue⟩ => hValue ▸ .plus hDigits⟩
  cases hNumeral with
  | bare hDigits => exact absurd hDigits (not_isDigits_cons (by decide))
  | plus hDigits => exact ⟨_, hDigits, rfl⟩

/-- What a numeral with a minus sign stands for. -/
theorem signedNumeral_minus_iff :
    SignedNumeral ('-' :: cs) i ↔ ∃ n : Nat, IsDigits cs n ∧ -(n : Int) = i := by
  refine ⟨fun hNumeral => ?_, fun ⟨n, hDigits, hValue⟩ => hValue ▸ .minus hDigits⟩
  cases hNumeral with
  | bare hDigits => exact absurd hDigits (not_isDigits_cons (by decide))
  | minus hDigits => exact ⟨_, hDigits, rfl⟩

/-- What a numeral without a sign stands for. -/
theorem signedNumeral_bare_iff (hPlus : cs.head? ≠ some '+') (hMinus : cs.head? ≠ some '-') :
    SignedNumeral cs i ↔ ∃ n : Nat, IsDigits cs n ∧ (n : Int) = i := by
  refine ⟨fun hNumeral => ?_, fun ⟨n, hDigits, hValue⟩ => hValue ▸ .bare hDigits⟩
  cases hNumeral with
  | bare hDigits => exact ⟨_, hDigits, rfl⟩
  | plus hDigits => simp at hPlus
  | minus hDigits => simp at hMinus

/-- The same for a reader whose number is changed afterwards. -/
theorem map_readDigits_eq_ok_iff (f : Nat → Int) (hSome : cs ≠ []) :
    (readDigits bound beyond 0 cs).map f = .ok i ↔
      ∃ n, IsDigits cs n ∧ n ≤ bound ∧ f n = i := by
  cases hRead : readDigits bound beyond 0 cs with
  | error fault =>
    refine iff_of_false (by simp [Except.map]) ?_
    rintro ⟨n, hDigits, hBound, -⟩
    rw [(readDigits_zero_eq_ok_iff hSome).mpr ⟨hDigits, hBound⟩] at hRead
    contradiction
  | ok m =>
    obtain ⟨hDigits, hBound⟩ := (readDigits_zero_eq_ok_iff hSome).mp hRead
    simp only [Except.map, Except.ok.injEq]
    refine ⟨fun hEq => ⟨m, hDigits, hBound, hEq⟩, ?_⟩
    rintro ⟨n, hDigits', -, rfl⟩
    rw [← hDigits.value, hDigits'.value]

/-- Without a minus sign only the upper bound counts. -/
theorem map_ofNat_readDigits_eq_ok_iff (low : Nat) (hSome : cs ≠ []) :
    (readDigits high beyond 0 cs).map Int.ofNat = .ok i ↔
      (∃ n : Nat, IsDigits cs n ∧ (n : Int) = i) ∧ -(low : Int) ≤ i ∧ i ≤ high := by
  rw [map_readDigits_eq_ok_iff _ hSome]
  constructor
  · rintro ⟨n, hDigits, hBound, rfl⟩
    exact ⟨⟨n, hDigits, rfl⟩, by simp only [Int.ofNat_eq_natCast]; omega⟩
  · rintro ⟨⟨n, hDigits, rfl⟩, -, hHigh⟩
    exact ⟨n, hDigits, by omega, rfl⟩

/-- With one only the lower bound counts. -/
theorem map_neg_readDigits_eq_ok_iff (high : Nat) (hSome : cs ≠ []) :
    (readDigits low beyond 0 cs).map (fun n => -(n : Int)) = .ok i ↔
      (∃ n : Nat, IsDigits cs n ∧ -(n : Int) = i) ∧ -(low : Int) ≤ i ∧ i ≤ high := by
  -- the number becomes an integer before the sign is put on, or together with it
  have hCast : (readDigits low beyond 0 cs).map (fun n => -(n : Int)) =
      (readDigits low beyond 0 cs).map fun n : Nat => -(n : Int) := by
    cases readDigits low beyond 0 cs <;> rfl
  rw [hCast, map_readDigits_eq_ok_iff _ hSome]
  constructor
  · rintro ⟨n, hDigits, hBound, rfl⟩
    exact ⟨⟨n, hDigits, rfl⟩, by omega⟩
  · rintro ⟨⟨n, hDigits, rfl⟩, hLow, -⟩
    exact ⟨n, hDigits, by omega, rfl⟩

/-- **Which texts are read as an integer.** -/
theorem readInteger_eq_ok_iff :
    readInteger low high cs = .ok i ↔ SignedNumeral cs i ∧ -(low : Int) ≤ i ∧ i ≤ high := by
  unfold readInteger
  split
  · rw [signedNumeral_bare_iff (by simp) (by simp)]
    simp
  · rw [signedNumeral_plus_iff]
    simp
  · rw [signedNumeral_minus_iff]
    simp
  · rename_i rest hSome
    rw [signedNumeral_plus_iff]
    exact map_ofNat_readDigits_eq_ok_iff low hSome
  · rename_i rest hSome
    rw [signedNumeral_minus_iff]
    exact map_neg_readDigits_eq_ok_iff high hSome
  · rename_i hSome hOnePlus hOneMinus hPlus hMinus
    rw [signedNumeral_bare_iff (fun hHead => ?_) (fun hHead => ?_)]
    · exact map_ofNat_readDigits_eq_ok_iff low hSome
    · obtain ⟨rest, rfl⟩ := List.head?_eq_some_iff.mp hHead
      exact hPlus rest rfl
    · obtain ⟨rest, rfl⟩ := List.head?_eq_some_iff.mp hHead
      exact hMinus rest rfl

end DueDispatch.Decimal
