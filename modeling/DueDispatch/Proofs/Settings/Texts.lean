import DueDispatch.Proofs.Numerals
import DueDispatch.Settings.Setting

/-!
# DueDispatch — the texts of values

A value may have many texts, and `Means` lists them without the readers: any text stands
for itself, a number has its decimal texts, a layout of the log has its name. A number has
to fit its sort, and that is said by the type of the value.

## Results

* `Kind.read_eq_ok_iff` — the readers accept these texts and no others, and read each as
  the value that it means.
* `Setting.exists_means_default` — every default is a text of a value.
-/

namespace DueDispatch

/-- Whether a text stands for a value. -/
def Kind.Means : (k : Kind) → String → k.Value → Prop
  | .text, s, v => v = s
  | .number, s, v => Decimal.Numeral s.toList v.toNat
  | .small, s, v => Decimal.SignedNumeral s.toList v.toNat
  | .logFormat, s, v => s = v.name

/-- What is read as a number of 32 bits is a numeral for it. -/
theorem readSmall_eq_ok_iff {s : String} {v : UInt32} :
    readSmall s = .ok v ↔ Decimal.SignedNumeral s.toList v.toNat := by
  have hMax : maxSmall = 4294967295 := rfl
  have hFits := v.toNat_lt
  unfold readSmall
  constructor
  · intro hRead
    split at hRead
    · contradiction
    · rename_i i hInteger
      split at hRead
      · rename_i hWithin
        obtain ⟨hNumeral, -, -⟩ := Decimal.readInteger_eq_ok_iff.mp hInteger
        obtain rfl := Except.ok.inj hRead
        -- what was read is within the bounds, so the cast keeps it
        have hSmall : i.toNat < UInt32.size := by
          show i.toNat < 4294967296
          omega
        have hSame : (i.toNat.toUInt32.toNat : Int) = i := by
          rw [Nat.toUInt32_eq, UInt32.toNat_ofNat_of_lt' hSmall]
          omega
        rwa [hSame]
      · contradiction
  · intro hNumeral
    have hInteger : Decimal.readInt64 s.toList = .ok v.toNat :=
      Decimal.readInteger_eq_ok_iff.mpr ⟨hNumeral, by omega, by omega⟩
    rw [hInteger]
    refine (if_pos ⟨by omega, by omega⟩).trans (congrArg _ ?_)
    exact UInt32.ofNat_toNat ..

/-- What is read as a number of 64 bits is a numeral for it. -/
theorem readNumber_eq_ok_iff {s : String} {v : UInt64} :
    Kind.read .number s = .ok v ↔ Decimal.Numeral s.toList v.toNat := by
  simp only [Kind.read]
  constructor
  · intro hRead
    split at hRead
    · rename_i n hNatural
      obtain ⟨hNumeral, hFits⟩ := Decimal.readNatural_eq_ok_iff.mp hNatural
      obtain rfl := Except.ok.inj hRead
      have hSmall : n < UInt64.size := Nat.lt_succ_of_le hFits
      rwa [Nat.toUInt64_eq, UInt64.toNat_ofNat_of_lt' hSmall]
    · contradiction
  · intro hNumeral
    have hNatural : Decimal.readWord s.toList = .ok v.toNat := by
      have hFits := v.toNat_lt
      exact Decimal.readNatural_eq_ok_iff.mpr ⟨hNumeral, by omega⟩
    rw [hNatural]
    exact congrArg _ (UInt64.ofNat_toNat ..)

/-- A log format is read under its name. -/
theorem readLogFormat_eq_ok_iff {s : String} {v : LogFormat} :
    Kind.read .logFormat s = .ok v ↔ s = v.name := by
  simp only [Kind.read]
  constructor
  · intro hRead
    split at hRead
    · rename_i f hFind
      obtain rfl := Except.ok.inj hRead
      have hName := List.find?_some hFind
      exact (beq_iff_eq.mp hName).symm
    · contradiction
  · rintro rfl
    cases v <;> rfl

/-- **The readers accept the texts of values**, and no others. -/
theorem Kind.read_eq_ok_iff {k : Kind} {s : String} {v : k.Value} :
    k.read s = .ok v ↔ k.Means s v := by
  cases k with
  | text => exact ⟨fun hRead => (Except.ok.inj hRead).symm, fun hMeans => congrArg _ hMeans.symm⟩
  | number => exact readNumber_eq_ok_iff
  | small => exact readSmall_eq_ok_iff
  | logFormat => exact readLogFormat_eq_ok_iff

/-- A text stands for one value at most. -/
theorem Kind.Means.eq {k : Kind} {s : String} {v v' : k.Value} (hFirst : k.Means s v)
    (hSecond : k.Means s v') : v = v' := by
  have hRead := read_eq_ok_iff.mpr hFirst
  rw [read_eq_ok_iff.mpr hSecond] at hRead
  exact (Except.ok.inj hRead).symm

/-- Every default is a text of a value. -/
theorem Setting.exists_means_default {s : Setting} {text : String}
    (hDefault : s.default? = some text) : ∃ v, s.kind.Means text v := by
  have hAccepted : (s.read text).isOk = true := by
    cases s <;> simp only [default?, Option.some.injEq, reduceCtorEq] at hDefault <;>
      subst hDefault
    all_goals decide +kernel
  cases hRead : s.read text with
  | error fault => simp [hRead, Except.isOk, Except.toBool] at hAccepted
  | ok v => exact ⟨v, Kind.read_eq_ok_iff.mp hRead⟩

end DueDispatch
