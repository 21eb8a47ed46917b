import DueDispatch.Proofs.Json
import DueDispatch.Proofs.Redis.Entry
import Mathlib.Data.List.Basic

/-!
# DueDispatch — what the text of an entry says

An entry is written as an array of strings. Whatever the strings contain, a reader of JSON
finds exactly this array in it: a quote or a backslash of a string cannot be taken for one
of the entry, because both are escaped, and a comma or a bracket of a string stands between
quotes.

The text is followed from its beginning. At every place the grammar leaves one way to go on,
so the entry says one value, and two lists with one text are one list.

## Results

* `piece_escaped`, `body_escaped` — a string is read as it was before it was escaped.
* `items_listChars_iff` — so are all strings of an entry.
* `encode_says` — what the text of an entry says, and that nothing in it is a control
  character.
-/

namespace DueDispatch.Redis.Entry

open Json (Blanks Body IsBlank IsText Items Padded Piece Reads Value)

variable {c x y : Char} {cs rest rest' : List Char} {v : Value} {s : String}

-- ---------------------------------------------------------------------------
-- Characters
-- ---------------------------------------------------------------------------

/-- A hexadecimal digit is read as it was written. -/
theorem hexValue?_digitChar {d : Nat} (hDigit : d < 16) :
    Json.hexValue? (Nat.digitChar d) = some d := by
  have hAll : ∀ k : Fin 16, Json.hexValue? (Nat.digitChar k) = some k.val := by decide
  exact hAll ⟨d, hDigit⟩

/-- The code of a control character is written in two digits behind two zeros. -/
theorem codeUnit?_control {n : Nat} (hControl : n < 0x20) :
    Json.codeUnit? '0' '0' (Nat.digitChar (n / 16)) (Nat.digitChar (n % 16)) = some n := by
  have hZero : Json.hexValue? '0' = some 0 := by decide
  have hValue : ((0 * 16 + 0) * 16 + n / 16) * 16 + n % 16 = n := by omega
  rw [Json.codeUnit?, hZero, hexValue?_digitChar (by omega), hexValue?_digitChar (by omega)]
  exact congrArg some hValue

/-- **A character is read as it was before it was escaped.** -/
theorem piece_escaped (c : Char) (rest : List Char) : Piece (escaped c ++ rest) c rest := by
  unfold escaped
  split
  -- seven characters have a short escape
  iterate 7
    · exact .short rfl
  · rename_i hQuote hBackslash _ _ _ _ _
    split
    · rename_i hControl
      have hPiece : Piece ('\\' :: 'u' :: '0' :: '0' :: Nat.digitChar (c.toNat / 16) ::
          Nat.digitChar (c.toNat % 16) :: rest) (Char.ofNat c.toNat) rest :=
        .unit (codeUnit?_control hControl) (Or.inl (by omega))
      rwa [Char.ofNat_toNat] at hPiece
    · exact .raw (by omega) hQuote hBackslash

/-- No control character is left in what a character is written as. -/
theorem le_of_mem_escaped (hMem : x ∈ escaped c) : 0x20 ≤ x.toNat := by
  have hDigits : ∀ k : Fin 16, 0x20 ≤ (Nat.digitChar k).toNat := by decide
  have hHex (d : Nat) (hDigit : d < 16) : 0x20 ≤ (Nat.digitChar d).toNat := hDigits ⟨d, hDigit⟩
  have hShort {letter : Char} (hLetter : 0x20 ≤ letter.toNat) (hMem : x ∈ ['\\', letter]) :
      0x20 ≤ x.toNat := by
    simp only [List.mem_cons, List.not_mem_nil, or_false] at hMem
    rcases hMem with rfl | rfl
    · decide
    · exact hLetter
  unfold escaped at hMem
  split at hMem
  iterate 7
    · exact hShort (by decide) hMem
  · split at hMem
    · rename_i hControl
      simp only [List.mem_cons, List.not_mem_nil, or_false] at hMem
      rcases hMem with rfl | rfl | rfl | rfl | rfl | rfl
      · decide
      · decide
      · decide
      · decide
      · exact hHex _ (by omega)
      · exact hHex _ (by omega)
    · rename_i hPrintable
      rw [List.mem_singleton.mp hMem]
      omega

-- ---------------------------------------------------------------------------
-- Strings
-- ---------------------------------------------------------------------------

/-- **A string is read as it was before it was escaped.** -/
theorem body_escaped (cs rest : List Char) : Body (cs.flatMap escaped ++ '"' :: rest) cs rest := by
  induction cs with
  | nil => exact .close
  | cons c cs ih =>
    rw [List.flatMap_cons, List.append_assoc]
    exact .piece (piece_escaped c _) ih

/-- A written text begins and ends with a quote. -/
theorem stringChars_append (s : String) (rest : List Char) :
    stringChars s ++ rest = '"' :: (s.toList.flatMap escaped ++ '"' :: rest) := by
  rw [stringChars, List.cons_append, List.append_assoc, List.singleton_append]

/-- Where an entry has a string, a value can only be that string, and ends with it. -/
theorem padded_stringChars_iff (hSolid : ¬IsBlank x) :
    Padded (stringChars s ++ x :: rest) v (y :: rest') ↔
      v = .string s ∧ x = y ∧ rest = rest' := by
  rw [stringChars_append, Json.padded_cons_iff (by simp [IsBlank])]
  constructor
  · rintro ⟨after, hReads, hAfter⟩
    obtain ⟨text, hBody, rfl⟩ := Json.reads_quote_iff.mp hReads
    obtain ⟨rfl, rfl⟩ := hBody.unique (body_escaped s.toList (x :: rest))
    obtain ⟨rfl, rfl⟩ := List.cons.inj ((Json.blanks_cons_iff hSolid).mp hAfter)
    exact ⟨by rw [String.ofList_toList], rfl, rfl⟩
  · rintro ⟨rfl, rfl, rfl⟩
    refine ⟨x :: rest, Json.reads_quote_iff.mpr ⟨_, body_escaped s.toList _, ?_⟩, .none⟩
    rw [String.ofList_toList]

-- ---------------------------------------------------------------------------
-- Entries
-- ---------------------------------------------------------------------------

theorem isBlank_comma : ¬IsBlank ',' := by simp [IsBlank]

theorem isBlank_close : ¬IsBlank ']' := by simp [IsBlank]

/-- **The items of an entry are its strings**, if there are any. -/
theorem items_listChars_iff {texts : List String} {items : List Value} :
    Items (listChars texts ++ ']' :: rest) items rest' ↔
      texts ≠ [] ∧ items = texts.map .string ∧ rest = rest' := by
  -- behind each string stands a comma or the end, which decides how the items go on
  fun_induction listChars texts generalizing items with
  | case1 => exact iff_of_false Json.not_items_closed (fun hSome => hSome.1 rfl)
  | case2 s =>
    constructor
    · intro hItems
      cases hItems with
      | last hLast =>
        obtain ⟨rfl, -, rfl⟩ := (padded_stringChars_iff isBlank_close).mp hLast
        exact ⟨List.cons_ne_nil _ _, rfl, rfl⟩
      | cons hFirst =>
        obtain ⟨-, hEnd, -⟩ := (padded_stringChars_iff isBlank_close).mp hFirst
        contradiction
    · rintro ⟨-, rfl, rfl⟩
      exact .last ((padded_stringChars_iff isBlank_close).mpr ⟨rfl, rfl, rfl⟩)
  | case3 s more hMore ih =>
    rw [List.append_assoc, List.cons_append]
    constructor
    · intro hItems
      cases hItems with
      | last hLast =>
        obtain ⟨-, hEnd, -⟩ := (padded_stringChars_iff isBlank_comma).mp hLast
        contradiction
      | cons hFirst hRest =>
        obtain ⟨rfl, -, rfl⟩ := (padded_stringChars_iff isBlank_comma).mp hFirst
        obtain ⟨-, rfl, rfl⟩ := ih.mp hRest
        exact ⟨List.cons_ne_nil _ _, rfl, rfl⟩
    · rintro ⟨-, rfl, rfl⟩
      refine .cons ((padded_stringChars_iff isBlank_comma).mpr ⟨rfl, rfl, rfl⟩) (ih.mpr ?_)
      exact ⟨hMore, rfl, rfl⟩

/-- The strings of an entry begin with a quote, if there are any. -/
theorem exists_listChars_eq_cons (s : String) (more : List String) :
    ∃ cs, listChars (s :: more) = '"' :: cs := by
  cases more with
  | nil => exact ⟨_, rfl⟩
  | cons t more => exact ⟨_, stringChars_append s (',' :: listChars (t :: more))⟩

/-- Behind the bracket of an entry the grammar finds the items of an array. -/
theorem reads_encode_iff {texts : List String} :
    Reads ('[' :: (listChars texts ++ [']'])) v rest ↔
      v = .array (texts.map .string) ∧ rest = [] := by
  rw [Json.reads_bracket_iff]
  simp only [items_listChars_iff]
  cases texts with
  | nil =>
    simp only [listChars, List.nil_append, Json.blanks_cons_iff isBlank_close]
    simp
  | cons s more =>
    -- an array that has a quote behind its bracket is not empty
    obtain ⟨cs, hQuote⟩ := exists_listChars_eq_cons s more
    have hSome : ¬Blanks (listChars (s :: more) ++ [']']) (']' :: rest) := by
      rw [hQuote, List.cons_append, Json.blanks_cons_iff (by simp [IsBlank])]
      simp
    constructor
    · rintro (⟨-, hEmpty⟩ | ⟨items, ⟨-, rfl, rfl⟩, rfl⟩)
      · exact absurd hEmpty hSome
      · exact ⟨rfl, rfl⟩
    · rintro ⟨rfl, rfl⟩
      exact Or.inr ⟨_, ⟨List.cons_ne_nil _ _, rfl, rfl⟩, rfl⟩

/-- **What the text of an entry says** is the array of its strings, and nothing else. -/
theorem isText_encode_iff (texts : List String) (v : Value) :
    IsText (encode texts) v ↔ v = .array (texts.map .string) := by
  rw [IsText, encode, String.toList_ofList, Json.padded_cons_iff (by simp [IsBlank])]
  constructor
  · rintro ⟨after, hReads, -⟩
    exact (reads_encode_iff.mp hReads).1
  · intro hValue
    exact ⟨[], reads_encode_iff.mpr ⟨hValue, rfl⟩, .none⟩

/-- A written list has no control characters. -/
theorem le_of_mem_listChars {texts : List String} (hMem : x ∈ listChars texts) :
    0x20 ≤ x.toNat := by
  have hString {s : String} (hMem : x ∈ stringChars s) : 0x20 ≤ x.toNat := by
    simp only [stringChars, List.mem_cons, List.mem_append, List.mem_flatMap, List.not_mem_nil,
      or_false] at hMem
    rcases hMem with rfl | ⟨c, -, hChar⟩ | rfl
    · decide
    · exact le_of_mem_escaped hChar
    · decide
  fun_induction listChars texts with
  | case1 => contradiction
  | case2 s => exact hString hMem
  | case3 s more hMore ih =>
    rcases List.mem_append.mp hMem with hFirst | hRest
    · exact hString hFirst
    · rcases List.mem_cons.mp hRest with rfl | hRest
      · decide
      · exact ih hRest

/-- **No control character is left in the text of an entry.** -/
theorem le_of_mem_encode {texts : List String} (hMem : x ∈ (encode texts).toList) :
    0x20 ≤ x.toNat := by
  rw [encode, String.toList_ofList, List.mem_cons, List.mem_append, List.mem_singleton] at hMem
  rcases hMem with rfl | hMem | rfl
  · decide
  · exact le_of_mem_listChars hMem
  · decide

/-- Different texts are different values. -/
theorem map_string_injective : Function.Injective (List.map Value.string) :=
  List.map_injective_iff.mpr fun _ _ hEq => by injection hEq

/-- **Two lists with one entry are one list.** -/
theorem encode_injective : Function.Injective encode := by
  intro texts texts' hEq
  have hText : IsText (encode texts') (.array (texts.map .string)) := by
    rw [← hEq, isText_encode_iff]
  have hArray := (isText_encode_iff texts' _).mp hText
  injection hArray with hItems
  exact map_string_injective hItems

/-- **What an entry says is read back from its text.**

* Any list of strings becomes a JSON text that says the array of these strings, and no other
  value.
* No control character stands in it.
* So two lists that become one text are the same.
* Where the strings are those of ids, each of the strings that the text says is read as the
  id that it was written for. -/
theorem encode_says :
    (∀ (texts : List String) (v : Value),
      IsText (encode texts) v ↔ v = .array (texts.map .string)) ∧
    (∀ (texts : List String), ∀ x ∈ (encode texts).toList, 0x20 ≤ x.toNat) ∧
    Function.Injective encode ∧
    ∀ ids : List AccountId, ∃ texts : List String,
      IsText (encode (payloads ids)) (.array (texts.map .string)) ∧
        texts.map AccountId.read? = ids.map some := by
  refine ⟨isText_encode_iff, fun texts x => le_of_mem_encode, encode_injective, fun ids => ?_⟩
  refine ⟨payloads ids, (isText_encode_iff _ _).mpr rfl, ?_⟩
  rw [payloads, List.map_map]
  exact List.map_congr_left fun id _ => AccountId.read?_write id

/-- A string that looks like the middle of an entry, a control character, and no character at
all. -/
theorem encode_says_tricky :
    encode ["\",\"", "\x01", ""] = "[\"\\\",\\\"\",\"\\u0001\",\"\"]" ∧
      IsText (encode ["\",\"", "\x01", ""])
        (.array [.string "\",\"", .string "\x01", .string ""]) ∧
      '\\' ∈ (encode ["\",\"", "\x01", ""]).toList ∧ 0x20 ≤ '\\'.toNat := by
  obtain ⟨hSays, hPrintable, -⟩ := encode_says
  have hText : encode ["\",\"", "\x01", ""] = "[\"\\\",\\\"\",\"\\u0001\",\"\"]" := by cbv
  have hMem : '\\' ∈ (encode ["\",\"", "\x01", ""]).toList := by
    rw [hText]
    decide
  exact ⟨hText, (hSays _ _).mpr rfl, hMem, hPrintable _ _ hMem⟩

end DueDispatch.Redis.Entry
