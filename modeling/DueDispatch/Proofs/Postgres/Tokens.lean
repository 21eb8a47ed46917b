import DueDispatch.Postgres.Statement
import DueDispatch.Proofs.Numerals
import Mathlib.Data.List.SplitBy

/-!
# DueDispatch — the tokens of a statement

The name of the table is written into SQL as it is, so what it does there is a matter of how
the whole text falls into tokens: the longest runs of letters, digits and underscores, and
each other character alone. An accepted name is one run. In both statements a blank stands
before the name, and a blank or nothing behind it, so it neither grows into its neighbours
nor comes apart. It is one token, and the others are those of the statement with any other
name, even if the name is a word that the statement uses itself.

## Results

* `isIdent_iff` — which names are accepted.
* `tokens_around` — a name between other characters is one token.
* `sameBut_claimSql`, `sameBut_countSql` — the statements of two tables differ in the tokens
  that are their names, and in no other.
-/

namespace DueDispatch.Postgres

variable {c : Char} {name name' : String}

-- ---------------------------------------------------------------------------
-- Accepted names
-- ---------------------------------------------------------------------------

/-- An ASCII letter. -/
def IsLetter (c : Char) : Prop := 'a' ≤ c ∧ c ≤ 'z' ∨ 'A' ≤ c ∧ c ≤ 'Z'

/-- An ASCII letter or digit, or an underscore. -/
def IsWordChar (c : Char) : Prop := IsLetter c ∨ '0' ≤ c ∧ c ≤ '9' ∨ c = '_'

instance : DecidablePred IsLetter := fun c =>
  inferInstanceAs (Decidable ('a' ≤ c ∧ c ≤ 'z' ∨ 'A' ≤ c ∧ c ≤ 'Z'))

instance : DecidablePred IsWordChar := fun c =>
  inferInstanceAs (Decidable (IsLetter c ∨ '0' ≤ c ∧ c ≤ '9' ∨ c = '_'))

/-- A letter or an underscore, and then any number of letters, digits and underscores. -/
def IsPlainName (name : String) : Prop :=
  ∃ first rest, name.toList = first :: rest ∧ (IsLetter first ∨ first = '_') ∧
    ∀ c ∈ rest, IsWordChar c

/-- The letters of an identifier are those from A to Z and from a to z. -/
theorem isAlpha_iff : c.isAlpha = true ↔ IsLetter c := by
  have hUpper : c.isUpper = true ↔ 'A' ≤ c ∧ c ≤ 'Z' := decide_eq_true_iff
  have hLower : c.isLower = true ↔ 'a' ≤ c ∧ c ≤ 'z' :=
    (Bool.and_eq_true_iff).trans (and_congr decide_eq_true_iff decide_eq_true_iff)
  have hEither : c.isAlpha = true ↔ c.isUpper = true ∨ c.isLower = true := Bool.or_eq_true_iff
  rw [hEither, hUpper, hLower, or_comm, IsLetter]

/-- What may follow in an identifier is what words are made of. -/
theorem isIdentRest_iff : isIdentRest c = true ↔ IsWordChar c := by
  rw [isIdentRest, Char.isAlphanum, Bool.or_eq_true, Bool.or_eq_true, isAlpha_iff,
    Decimal.isDigit_iff, beq_iff_eq, or_assoc, IsWordChar]

/-- **Which names are accepted.** -/
theorem isIdent_iff : isIdent name.toList = true ↔ IsPlainName name := by
  unfold IsPlainName isIdent
  cases name.toList with
  | nil => simp
  | cons first rest =>
    simp only [Bool.and_eq_true, List.all_eq_true, isIdentRest_iff, isIdentStart, Bool.or_eq_true,
      isAlpha_iff, beq_iff_eq, List.cons.injEq]
    constructor
    · rintro ⟨hFirst, hRest⟩
      exact ⟨first, rest, ⟨rfl, rfl⟩, hFirst, hRest⟩
    · rintro ⟨_, _, ⟨rfl, rfl⟩, hFirst, hRest⟩
      exact ⟨hFirst, hRest⟩

/-- An accepted name is a run of word characters. -/
theorem IsPlainName.isWord (hName : IsPlainName name) :
    name.toList ≠ [] ∧ ∀ c ∈ name.toList, IsWordChar c := by
  obtain ⟨first, rest, hChars, hFirst, hRest⟩ := hName
  rw [hChars]
  refine ⟨List.cons_ne_nil _ _, List.forall_mem_cons.mpr ⟨?_, hRest⟩⟩
  exact hFirst.elim Or.inl fun hUnderscore => Or.inr (Or.inr hUnderscore)

-- ---------------------------------------------------------------------------
-- Tokens
-- ---------------------------------------------------------------------------

/-- Neighbours that belong to one token. -/
def joins (a b : Char) : Bool := decide (IsWordChar a ∧ IsWordChar b)

/-- The tokens of a text: the longest runs of word characters, and the single other
characters. -/
def tokens (text : String) : List String := (text.toList.splitBy joins).map String.ofList

/-- Where two texts do not meet within a word, their tokens are those of both. -/
theorem tokens_append {before after : String}
    (hApart : ∀ a ∈ before.toList.getLast?, ∀ b ∈ after.toList.head?,
      ¬(IsWordChar a ∧ IsWordChar b)) :
    tokens (before ++ after) = tokens before ++ tokens after := by
  rw [tokens, String.toList_append, List.splitBy_append, List.map_append]
  · rfl
  · exact fun a hLast b hFirst => decide_eq_false (hApart a hLast b hFirst)

/-- An accepted name is one token. -/
theorem tokens_name (hName : IsPlainName name) : tokens name = [name] := by
  obtain ⟨hSome, hWord⟩ := hName.isWord
  have hJoins : ∀ a ∈ name.toList, ∀ b ∈ name.toList, joins a b = true := fun a hA b hB =>
    decide_eq_true ⟨hWord a hA, hWord b hB⟩
  have hRun : name.toList.IsChain fun a b => joins a b = true :=
    (List.pairwise_of_forall_mem_list hJoins).isChain
  rw [tokens, List.splitBy_of_isChain hSome hRun, List.map_singleton, String.ofList_toList]

/-- **A name between other characters is one token.** -/
theorem tokens_around {before after : String} (hName : IsPlainName name)
    (hBefore : ∀ a ∈ before.toList.getLast?, ¬IsWordChar a)
    (hAfter : ∀ b ∈ after.toList.head?, ¬IsWordChar b) :
    tokens (before ++ (name ++ after)) = tokens before ++ name :: tokens after := by
  rw [tokens_append fun a hLast b _ hBoth => hBefore a hLast hBoth.1,
    tokens_append fun a _ b hFirst hBoth => hAfter b hFirst hBoth.2, tokens_name hName,
    List.singleton_append]

example : tokens "FROM a_1 WHERE" = ["FROM", " ", "a_1", " ", "WHERE"] := by decide +kernel

-- ---------------------------------------------------------------------------
-- Templates
-- ---------------------------------------------------------------------------

/-- The tokens of a text with a name in place of each gap. -/
def fill (template : List (Option String)) (name : String) : List String :=
  template.map fun token? => token?.getD name

/-- A template without gaps is filled as it is. -/
theorem fill_map_some (ts : List String) (name : String) : fill (ts.map some) name = ts := by
  rw [fill, List.map_map]
  exact List.map_id ts

/-- The first gap of a template is filled with the name. -/
theorem fill_append_none (ts : List String) (template : List (Option String)) (name : String) :
    fill (ts.map some ++ none :: template) name = ts ++ name :: fill template name := by
  rw [fill, List.map_append]
  exact congrArg (· ++ name :: fill template name) (fill_map_some ts name)

/-- The places of the gaps. -/
def gaps (template : List (Option String)) : List Nat := template.findIdxs Option.isNone

/-- The gaps are the places without a token. -/
theorem mem_gaps_iff {template : List (Option String)} {i : Nat} :
    i ∈ gaps template ↔ template[i]? = some none := by
  rw [gaps, List.mem_findIdxs_iff_exists_getElem_pos, List.getElem?_eq_some_iff]
  simp only [Option.isNone_iff_eq_none]

theorem gaps_map_some (ts : List String) : gaps (ts.map some) = [] := by
  rw [gaps, List.findIdxs_eq_nil_iff, List.forall_mem_map]
  exact fun _ _ => rfl

/-- The gaps behind the first one are counted from there. -/
theorem gaps_append_none (ts : List String) (template : List (Option String)) :
    gaps (ts.map some ++ none :: template) =
      ts.length :: (gaps template).map (· + (ts.length + 1)) := by
  have hBefore : (ts.map some).findIdxs Option.isNone = [] := gaps_map_some ts
  rw [gaps, List.findIdxs_append, hBefore, List.nil_append, List.findIdxs_cons, List.length_map,
    Nat.zero_add, List.findIdxs_start]
  rfl

/-- As many tokens in one list as in the other, which are these names at these places and
the same ones everywhere else. -/
structure SameBut (places : List Nat) (name name' : String) (ts ts' : List String) : Prop where
  length : ts.length = ts'.length
  name : ∀ i ∈ places, ts[i]? = some name
  name' : ∀ i ∈ places, ts'[i]? = some name'
  other : ∀ i, i ∉ places → ts[i]? = ts'[i]?

/-- Every gap is filled with the name. -/
theorem getElem?_fill_of_mem {template : List (Option String)} {i : Nat}
    (hGap : i ∈ gaps template) (name : String) : (fill template name)[i]? = some name := by
  rw [fill, List.getElem?_map, mem_gaps_iff.mp hGap]
  rfl

/-- A template filled with two names differs at its gaps only. -/
theorem sameBut_fill (template : List (Option String)) (name name' : String) :
    SameBut (gaps template) name name' (fill template name) (fill template name') where
  length := by rw [fill, fill, List.length_map, List.length_map]
  name _ hGap := getElem?_fill_of_mem hGap name
  name' _ hGap := getElem?_fill_of_mem hGap name'
  other i hOther := by
    rw [mem_gaps_iff] at hOther
    rw [fill, fill, List.getElem?_map, List.getElem?_map]
    -- there is no token at this place, or one that is not left open
    rcases hToken : template[i]? with _ | _ | token
    · rfl
    · exact absurd hToken hOther
    · rfl

-- ---------------------------------------------------------------------------
-- The statements
-- ---------------------------------------------------------------------------

/-- A blank belongs to no word. -/
theorem not_isWordChar_of_blank {c? : Option Char} (hBlank : c? = some ' ') :
    ∀ c ∈ c?, ¬IsWordChar c := by
  intro c hMem
  obtain rfl : ' ' = c := Option.some.inj (hBlank.symm.trans hMem)
  decide

/-- What stands between the two names in the text of a claim. -/
def claimMiddle : String :=
  " AS a " ++
  ("SET last_enqueued_at = GREATEST(COALESCE(a.last_enqueued_at, 0), $4::float8) " ++
  ("FROM ( SELECT id, COALESCE(last_checked_at, 0)::float8 AS checked " ++ "FROM "))

/-- What stands behind the second one. -/
def claimEnd : String :=
  " " ++
  ("WHERE COALESCE(last_enqueued_at, 0) <= $1::float8 " ++
  ("OR COALESCE(last_checked_at, 0) < $2::float8 " ++
  ("ORDER BY COALESCE(last_checked_at, 0) ASC, id ASC LIMIT $3 ) AS due " ++
  "WHERE a.id = due.id RETURNING a.id, due.checked")))

/-- The statement that claims, with the places of the name laid open. -/
theorem claimSql_eq (name : String) :
    Statement.claimSql name = "UPDATE " ++ (name ++ (claimMiddle ++ (name ++ claimEnd))) := by
  unfold Statement.claimSql claimMiddle claimEnd
  repeat rw [String.append_assoc]

/-- The tokens of a claim, its table being left open. -/
def claimTemplate : List (Option String) :=
  (tokens "UPDATE ").map some ++
    none :: ((tokens claimMiddle).map some ++ none :: (tokens claimEnd).map some)

/-- The tokens of a count, its table being left open. -/
def countTemplate : List (Option String) := (tokens "SELECT count(*) FROM ").map some ++ [none]

theorem gaps_claimTemplate : gaps claimTemplate = [2, 60] := by
  have hBefore : (tokens "UPDATE ").length = 2 := by decide +kernel
  have hMiddle : (tokens claimMiddle).length = 57 := by decide +kernel
  rw [claimTemplate, gaps_append_none, gaps_append_none, gaps_map_some, hBefore, hMiddle]
  rfl

theorem gaps_countTemplate : gaps countTemplate = [9] := by
  have hBefore : (tokens "SELECT count(*) FROM ").length = 9 := by decide +kernel
  rw [countTemplate, gaps_append_none, hBefore]
  rfl

/-- **The tokens of a claim.** -/
theorem tokens_claimSql (hName : IsPlainName name) :
    tokens (Statement.claimSql name) = fill claimTemplate name := by
  -- the text between the names begins and ends with a blank, as does the one behind them
  have hFirst : claimMiddle.toList.head? = some ' ' := by
    rw [claimMiddle, String.toList_append, List.head?_append]
    rfl
  have hLast : claimMiddle.toList.getLast? = some ' ' := by
    rw [claimMiddle]
    repeat rw [String.toList_append, List.getLast?_append]
    rfl
  have hEnd : claimEnd.toList.head? = some ' ' := by
    rw [claimEnd, String.toList_append, List.head?_append]
    rfl
  have hInner : tokens (claimMiddle ++ (name ++ claimEnd)) =
      tokens claimMiddle ++ name :: tokens claimEnd :=
    tokens_around hName (not_isWordChar_of_blank hLast) (not_isWordChar_of_blank hEnd)
  have hOuter : tokens ("UPDATE " ++ (name ++ (claimMiddle ++ (name ++ claimEnd)))) =
      tokens "UPDATE " ++ name :: tokens (claimMiddle ++ (name ++ claimEnd)) := by
    refine tokens_around hName (not_isWordChar_of_blank rfl) (not_isWordChar_of_blank ?_)
    rw [String.toList_append, List.head?_append, hFirst, Option.some_or]
  rw [claimSql_eq, hOuter, hInner, claimTemplate, fill_append_none, fill_append_none,
    fill_map_some]

/-- **The tokens of a count.** -/
theorem tokens_countSql (hName : IsPlainName name) :
    tokens (Statement.countSql name) = fill countTemplate name := by
  have hLast : "SELECT count(*) FROM ".toList.getLast? = some ' ' := by decide +kernel
  have hBefore := not_isWordChar_of_blank hLast
  unfold Statement.countSql
  rw [tokens_append fun a hMem _ _ hBoth => hBefore a hMem hBoth.1, tokens_name hName,
    countTemplate, fill_append_none, fill, List.map_nil]

/-- The claims of two tables differ in the two tokens that name them. -/
theorem sameBut_claimSql (hName : IsPlainName name) (hName' : IsPlainName name') :
    SameBut [2, 60] name name' (tokens (Statement.claimSql name))
      (tokens (Statement.claimSql name')) := by
  rw [tokens_claimSql hName, tokens_claimSql hName', ← gaps_claimTemplate]
  exact sameBut_fill claimTemplate name name'

/-- The counts of two tables differ in the one token that names them. -/
theorem sameBut_countSql (hName : IsPlainName name) (hName' : IsPlainName name') :
    SameBut [9] name name' (tokens (Statement.countSql name))
      (tokens (Statement.countSql name')) := by
  rw [tokens_countSql hName, tokens_countSql hName', ← gaps_countTemplate]
  exact sameBut_fill countTemplate name name'

end DueDispatch.Postgres
