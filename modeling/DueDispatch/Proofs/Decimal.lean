import DueDispatch.Account

/-!
# DueDispatch — ids read back

Ids travel as decimal text. `Decimal.digits` writes the most significant digit
first and `Decimal.readDigits` reads from the left, so the digits before the
last one are read first, as the quotient by ten.

## Results

* `readDigits_digits` — the digits of a number are read as that number.
* `readInteger_chars` — the text of an integer within the bounds is read as that
  integer.
* `read?_write` — every id is read back from its text.
-/

namespace DueDispatch

namespace Decimal

/-- A digit is read as it was written. -/
theorem digit?_digitChar {d : Nat} (hDigit : d < 10) : digit? (digitChar d) = some d := by
  have hAll : ∀ k : Fin 10, digit? (digitChar k) = some k.val := by decide
  exact hAll ⟨d, hDigit⟩

/-- A digit is no sign. -/
theorem digitChar_ne_sign {d : Nat} (hDigit : d < 10) :
    digitChar d ≠ '+' ∧ digitChar d ≠ '-' := by
  have hAll : ∀ k : Fin 10, digitChar k ≠ '+' ∧ digitChar k ≠ '-' := by decide
  exact hAll ⟨d, hDigit⟩

/-- What stands behind is read on from the value of what stands before. -/
theorem readDigits_append (bound : Nat) (beyond : Fault) (acc : Nat) (cs rest : List Char) :
    readDigits bound beyond acc (cs ++ rest) =
      (readDigits bound beyond acc cs).bind fun n => readDigits bound beyond n rest := by
  induction cs generalizing acc with
  | nil => rfl
  | cons c cs ih =>
    simp only [List.cons_append, readDigits]
    split
    · rfl
    · split
      · exact ih _
      · rfl

/-- The digits of a number within the bound are read as that number. -/
theorem readDigits_digits {bound n : Nat} (beyond : Fault) (hBound : n ≤ bound) :
    readDigits bound beyond 0 (digits n) = .ok n := by
  fun_induction digits n with
  | case1 n hSmall =>
    simp [readDigits, digit?_digitChar hSmall, hBound]
  | case2 n hLarge ih =>
    have hLast : n % 10 < 10 := Nat.mod_lt _ (by decide)
    have hValue : n / 10 * 10 + n % 10 = n := Nat.div_add_mod' n 10
    rw [readDigits_append, ih (by omega)]
    simp [Except.bind, readDigits, digit?_digitChar hLast, hValue, hBound]

/-- The text of a number begins with a digit. -/
theorem exists_digits_eq_cons (n : Nat) :
    ∃ d rest, d < 10 ∧ digits n = digitChar d :: rest := by
  fun_induction digits n with
  | case1 n hSmall => exact ⟨n, [], hSmall, rfl⟩
  | case2 n hLarge ih =>
    obtain ⟨d, rest, hDigit, hEq⟩ := ih
    exact ⟨d, rest ++ [digitChar (n % 10)], hDigit, by rw [hEq, List.cons_append]⟩

/-- The digits of a number are read as that number also where a sign may stand. -/
theorem readNatural_digits {bound n : Nat} (hBound : n ≤ bound) :
    readNatural bound (digits n) = .ok n := by
  obtain ⟨d, rest, hDigit, hEq⟩ := exists_digits_eq_cons n
  have hPlus := (digitChar_ne_sign hDigit).1
  have hRead : readDigits bound .tooLarge 0 (digits n) = .ok n := readDigits_digits _ hBound
  rw [hEq] at hRead ⊢
  unfold readNatural
  split <;> simp_all

/-- The text of an integer within the bounds is read as that integer. -/
theorem readInteger_chars {low high : Nat} {i : Int} (hLow : -(low : Int) ≤ i)
    (hHigh : i ≤ high) : readInteger low high (chars i) = .ok i := by
  obtain ⟨d, rest, hDigit, hEq⟩ := exists_digits_eq_cons i.natAbs
  obtain ⟨hPlus, hMinus⟩ := digitChar_ne_sign hDigit
  unfold chars
  split
  -- a minus sign: the digits of the magnitude follow, and there is at least one
  · have hRead : readDigits low .tooSmall 0 (digits i.natAbs) = .ok i.natAbs :=
      readDigits_digits _ (by omega)
    have hSign : -(i.natAbs : Int) = i := by omega
    rw [hEq] at hRead ⊢
    simp only [readInteger, hRead]
    exact congrArg Except.ok hSign
  -- no sign: the first character is a digit, so the text is not taken for a signed one
  · have hRead : readDigits high .tooLarge 0 (digits i.natAbs) = .ok i.natAbs :=
      readDigits_digits _ (by omega)
    have hUnsigned : readInteger low high (digitChar d :: rest) =
        (readDigits high .tooLarge 0 (digitChar d :: rest)).map Int.ofNat := by
      unfold readInteger
      split <;> simp_all
    have hSign : (i.natAbs : Int) = i := by omega
    rw [hEq] at hRead ⊢
    rw [hUnsigned, hRead]
    exact congrArg Except.ok hSign

end Decimal

namespace AccountId

/-- **Every id is read back from its text**, the least and the greatest included. -/
theorem read?_write (id : AccountId) : read? id.write = some id := by
  have hLow : -((0x8000000000000000 : Nat) : Int) ≤ id.toInt := id.le_toInt
  have hHigh : id.toInt ≤ ((0x7fffffffffffffff : Nat) : Int) := by
    have := id.toInt_lt
    omega
  unfold read? write Decimal.write Decimal.readInt64
  rw [String.toList_ofList, Decimal.readInteger_chars hLow hHigh]
  simp

/-- Ids are read as they were written. -/
theorem filterMap_read?_map_write (ids : List AccountId) :
    (ids.map write).filterMap read? = ids := by
  have hSome : read? ∘ write = some := funext read?_write
  rw [List.filterMap_map, hSome, List.filterMap_some]

end AccountId

end DueDispatch
