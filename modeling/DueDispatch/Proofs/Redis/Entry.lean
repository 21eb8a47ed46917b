import DueDispatch.Proofs.Decimal
import DueDispatch.Redis.Entry
import DueDispatch.Cycle.Basic

/-!
# DueDispatch — ids in stream entries

An entry is a list of JSON strings. The texts of ids consist of digits and minus
signs, none of which is escaped, so the ids stand in the entry between quotes as they
were written.

## Results

* `idsIn_encode` — the ids of a message are read back from its entry.
-/

namespace DueDispatch

namespace Decimal

/-- A character that the text of an integer may contain. -/
def IsPlain (c : Char) : Prop := Redis.Entry.escaped c = [c] ∧ c ≠ '"'

/-- A digit needs no escape. -/
theorem isPlain_digitChar {d : Nat} (hDigit : d < 10) : IsPlain (digitChar d) := by
  have hAll : ∀ k : Fin 10,
      Redis.Entry.escaped (digitChar k) = [digitChar k] ∧ digitChar k ≠ '"' := by decide
  exact hAll ⟨d, hDigit⟩

/-- The digits of a number need no escape. -/
theorem isPlain_of_mem_digits {n : Nat} {c : Char} (hMem : c ∈ digits n) : IsPlain c := by
  fun_induction digits n with
  | case1 n hSmall =>
    rw [List.mem_singleton.mp hMem]
    exact isPlain_digitChar hSmall
  | case2 n hLarge ih =>
    rcases List.mem_append.mp hMem with hMem | hMem
    · exact ih hMem
    · rw [List.mem_singleton.mp hMem]
      exact isPlain_digitChar (Nat.mod_lt _ (by decide))

/-- Nothing in the decimal form of an id needs an escape. -/
theorem isPlain_of_mem_chars {i : Int} {c : Char} (hMem : c ∈ chars i) : IsPlain c := by
  unfold chars at hMem
  split at hMem
  · rcases List.mem_cons.mp hMem with rfl | hMem
    · exact ⟨by decide, by decide⟩
    · exact isPlain_of_mem_digits hMem
  · exact isPlain_of_mem_digits hMem

end Decimal

namespace Redis.Entry

/-- The texts between quotes. Inside of quotes `inside?` holds what was read of the
present one, the latest first. -/
def quoted (inside? : Option (List Char)) : List Char → List String
  | [] => []
  | c :: rest =>
    match inside? with
    | none => if c = '"' then quoted (some []) rest else quoted none rest
    | some done =>
      if c = '"' then String.ofList done.reverse :: quoted none rest
      else quoted (some (c :: done)) rest

/-- The ids that stand in an entry. -/
def idsIn (entry : String) : List AccountId :=
  (quoted none entry.toList).filterMap AccountId.read?

/-- A quoted text goes up to its quote. -/
theorem quoted_append {cs : List Char} (hPlain : ∀ c ∈ cs, c ≠ '"') (done rest : List Char) :
    quoted (some done) (cs ++ '"' :: rest) =
      String.ofList (done.reverse ++ cs) :: quoted none rest := by
  induction cs generalizing done with
  | nil => simp [quoted]
  | cons c cs ih =>
    obtain ⟨hFirst, hRest⟩ := List.forall_mem_cons.mp hPlain
    rw [List.cons_append, quoted, if_neg hFirst, ih hRest]
    simp

/-- A text that needs no escape is written as it is. -/
theorem flatMap_escaped {cs : List Char} (hPlain : ∀ c ∈ cs, Decimal.IsPlain c) :
    cs.flatMap escaped = cs := by
  induction cs with
  | nil => rfl
  | cons c cs ih =>
    obtain ⟨hFirst, hRest⟩ := List.forall_mem_cons.mp hPlain
    rw [List.flatMap_cons, hFirst.1, ih hRest, List.singleton_append]

/-- Such a text is read back from its JSON form. -/
theorem quoted_stringChars {s : String} (hPlain : ∀ c ∈ s.toList, Decimal.IsPlain c)
    (rest : List Char) : quoted none (stringChars s ++ rest) = s :: quoted none rest := by
  have hOpen : quoted none ('"' :: (s.toList ++ '"' :: rest)) =
      quoted (some []) (s.toList ++ '"' :: rest) := rfl
  rw [stringChars, flatMap_escaped hPlain, List.cons_append, List.append_assoc,
    List.singleton_append, hOpen, quoted_append (fun c hc => (hPlain c hc).2), List.reverse_nil,
    List.nil_append, String.ofList_toList]

/-- So is a list of them. -/
theorem quoted_listChars {texts : List String}
    (hPlain : ∀ s ∈ texts, ∀ c ∈ s.toList, Decimal.IsPlain c) :
    quoted none (listChars texts ++ [']']) = texts := by
  fun_induction listChars texts with
  | case1 => rfl
  | case2 s =>
    rw [quoted_stringChars (hPlain s (List.mem_singleton_self s))]
    rfl
  | case3 s rest _ ih =>
    obtain ⟨hFirst, hRest⟩ := List.forall_mem_cons.mp hPlain
    have hComma : quoted none (',' :: (listChars rest ++ [']'])) =
        quoted none (listChars rest ++ [']']) := rfl
    rw [List.append_assoc, quoted_stringChars hFirst, List.cons_append, hComma, ih hRest]

/-- **The ids of a message are read back from its entry.** -/
theorem idsIn_encode (ids : List AccountId) : idsIn (encode (payloads ids)) = ids := by
  have hPlain : ∀ s ∈ payloads ids, ∀ c ∈ s.toList, Decimal.IsPlain c := by
    intro s hs c hc
    obtain ⟨id, -, rfl⟩ := List.mem_map.mp hs
    rw [AccountId.write, Decimal.write, String.toList_ofList] at hc
    exact Decimal.isPlain_of_mem_chars hc
  have hOpen : quoted none ('[' :: (listChars (payloads ids) ++ [']'])) =
      quoted none (listChars (payloads ids) ++ [']']) := rfl
  rw [idsIn, encode, String.toList_ofList, hOpen, quoted_listChars hPlain, payloads,
    AccountId.filterMap_read?_map_write]

end Redis.Entry

end DueDispatch
