/-!
# DueDispatch — the grammar of JSON

What a JSON text says, without a reader of it. A relation of the grammar takes what is left
of a text, the value that stands at its front, and what is left behind that value. So the
rules are read from left to right, and a text as a whole leaves nothing.

A character inside a string can be written in several ways: as it is, with a short escape,
or by its code, for which it needs two units if it has more than 16 bits. A unit that is
only one half of such a pair stands for no character. A number is kept as it is written.

Blanks may stand around every value, and the parts of a list are told apart by what follows
them. That is why a text is not cut at its commas and quotes: where a string ends is known
only from its beginning, and from there it is known for certain (`Body.unique`).

## Results

* `Piece.unique`, `Body.unique` — what stands at the front of a string, and where it ends.
* `reads_quote_iff`, `reads_bracket_iff` — the first character tells what kind of value
  follows.
-/

namespace DueDispatch.Json

/-- A JSON value. The members of an object are kept in order, as they are written. -/
inductive Value
  | null
  | bool (b : Bool)
  /-- A number, as it is written. -/
  | number (literal : List Char)
  | string (text : String)
  | array (items : List Value)
  | object (members : List (String × Value))

-- ---------------------------------------------------------------------------
-- The grammar
-- ---------------------------------------------------------------------------

/-- A character that may stand around values. -/
def IsBlank (c : Char) : Prop := c = ' ' ∨ c = '\t' ∨ c = '\n' ∨ c = '\r'

/-- Any number of blanks. -/
inductive Blanks : List Char → List Char → Prop
  | none {rest : List Char} : Blanks rest rest
  | more {c : Char} {cs rest : List Char} (hBlank : IsBlank c) (hMore : Blanks cs rest) :
      Blanks (c :: cs) rest

/-- The value of a hexadecimal digit. -/
def hexValue? (c : Char) : Option Nat :=
  if '0' ≤ c ∧ c ≤ '9' then some (c.toNat - '0'.toNat)
  else if 'a' ≤ c ∧ c ≤ 'f' then some (c.toNat - 'a'.toNat + 10)
  else if 'A' ≤ c ∧ c ≤ 'F' then some (c.toNat - 'A'.toNat + 10)
  else none

/-- The unit of a code that four hexadecimal digits stand for. -/
def codeUnit? (a b c d : Char) : Option Nat :=
  (hexValue? a).bind fun a => (hexValue? b).bind fun b => (hexValue? c).bind fun c =>
    (hexValue? d).map fun d => ((a * 16 + b) * 16 + c) * 16 + d

/-- The character that a letter stands for after a backslash. -/
def shortEscape? : Char → Option Char
  | '"' => some '"'
  | '\\' => some '\\'
  | '/' => some '/'
  | 'b' => some '\x08'
  | 'f' => some '\x0c'
  | 'n' => some '\n'
  | 'r' => some '\r'
  | 't' => some '\t'
  | _ => none

/-- A character of a string. -/
inductive Piece : List Char → Char → List Char → Prop
  | raw {c : Char} {rest : List Char} (hCode : 0x20 ≤ c.toNat) (hQuote : c ≠ '"')
      (hBackslash : c ≠ '\\') : Piece (c :: rest) c rest
  | short {letter c : Char} {rest : List Char} (hShort : shortEscape? letter = some c) :
      Piece ('\\' :: letter :: rest) c rest
  | unit {a b c d : Char} {n : Nat} {rest : List Char} (hUnit : codeUnit? a b c d = some n)
      (hWhole : n < 0xd800 ∨ 0xdfff < n) :
      Piece ('\\' :: 'u' :: a :: b :: c :: d :: rest) (Char.ofNat n) rest
  | pair {a b c d a' b' c' d' : Char} {high low : Nat} {rest : List Char}
      (hHigh : codeUnit? a b c d = some high) (hFirst : 0xd800 ≤ high ∧ high ≤ 0xdbff)
      (hLow : codeUnit? a' b' c' d' = some low) (hSecond : 0xdc00 ≤ low ∧ low ≤ 0xdfff) :
      Piece ('\\' :: 'u' :: a :: b :: c :: d :: '\\' :: 'u' :: a' :: b' :: c' :: d' :: rest)
        (Char.ofNat (0x10000 + (high - 0xd800) * 0x400 + (low - 0xdc00))) rest

/-- A string from behind its first quote to its last one. -/
inductive Body : List Char → List Char → List Char → Prop
  | close {rest : List Char} : Body ('"' :: rest) [] rest
  | piece {c : Char} {cs mid text rest : List Char} (hPiece : Piece cs c mid)
      (hBody : Body mid text rest) : Body cs (c :: text) rest

/-- One or more ASCII digits. -/
def AreDigits (cs : List Char) : Prop := cs ≠ [] ∧ ∀ c ∈ cs, c.isDigit = true

/-- How a number is written: leading zeros are not allowed, and digits have to stand on both
sides of a point. -/
inductive IsNumber : List Char → Prop
  | mk {sign whole fraction exponent : List Char} (hSign : sign = [] ∨ sign = ['-'])
      (hWhole : whole = ['0'] ∨ AreDigits whole ∧ whole.head? ≠ some '0')
      (hFraction : fraction = [] ∨ ∃ ds, AreDigits ds ∧ fraction = '.' :: ds)
      (hExponent : exponent = [] ∨ ∃ letter sign ds, (letter = 'e' ∨ letter = 'E') ∧
        (sign = [] ∨ sign = ['+'] ∨ sign = ['-']) ∧ AreDigits ds ∧
        exponent = letter :: (sign ++ ds)) :
      IsNumber (sign ++ whole ++ fraction ++ exponent)

/-- The name of a member of an object, with its colon. -/
inductive Label : List Char → String → List Char → Prop
  | mk {cs body name after rest : List Char} (hBefore : Blanks cs ('"' :: body))
      (hName : Body body name after) (hAfter : Blanks after (':' :: rest)) :
      Label cs (String.ofList name) rest

mutual

/-- A value. The braces of an object are written by their codes here. -/
inductive Reads : List Char → Value → List Char → Prop
  | null {rest : List Char} : Reads ('n' :: 'u' :: 'l' :: 'l' :: rest) .null rest
  | yes {rest : List Char} : Reads ('t' :: 'r' :: 'u' :: 'e' :: rest) (.bool true) rest
  | no {rest : List Char} : Reads ('f' :: 'a' :: 'l' :: 's' :: 'e' :: rest) (.bool false) rest
  | number {cs literal rest : List Char} (hNumber : IsNumber literal)
      (hText : cs = literal ++ rest) : Reads cs (.number literal) rest
  | string {cs text rest : List Char} (hBody : Body cs text rest) :
      Reads ('"' :: cs) (.string (String.ofList text)) rest
  | emptyArray {cs rest : List Char} (hEmpty : Blanks cs (']' :: rest)) :
      Reads ('[' :: cs) (.array []) rest
  | array {cs rest : List Char} {items : List Value} (hItems : Items cs items rest) :
      Reads ('[' :: cs) (.array items) rest
  | emptyObject {cs rest : List Char} (hEmpty : Blanks cs ('\x7d' :: rest)) :
      Reads ('\x7b' :: cs) (.object []) rest
  | object {cs rest : List Char} {members : List (String × Value)}
      (hMembers : Members cs members rest) : Reads ('\x7b' :: cs) (.object members) rest

/-- A value with the blanks around it. -/
inductive Padded : List Char → Value → List Char → Prop
  | mk {cs inner after rest : List Char} {v : Value} (hBefore : Blanks cs inner)
      (hValue : Reads inner v after) (hAfter : Blanks after rest) : Padded cs v rest

/-- The items of an array up to its end, one at least. -/
inductive Items : List Char → List Value → List Char → Prop
  | last {cs rest : List Char} {v : Value} (hLast : Padded cs v (']' :: rest)) :
      Items cs [v] rest
  | cons {cs mid rest : List Char} {v : Value} {items : List Value}
      (hFirst : Padded cs v (',' :: mid)) (hMore : Items mid items rest) :
      Items cs (v :: items) rest

/-- The members of an object up to its end, one at least. -/
inductive Members : List Char → List (String × Value) → List Char → Prop
  | last {cs mid rest : List Char} {name : String} {v : Value} (hName : Label cs name mid)
      (hLast : Padded mid v ('\x7d' :: rest)) : Members cs [(name, v)] rest
  | cons {cs mid mid' rest : List Char} {name : String} {v : Value}
      {members : List (String × Value)} (hName : Label cs name mid)
      (hFirst : Padded mid v (',' :: mid')) (hMore : Members mid' members rest) :
      Members cs ((name, v) :: members) rest

end

/-- A text that says this value, and nothing else. -/
def IsText (text : String) (v : Value) : Prop := Padded text.toList v []

-- ---------------------------------------------------------------------------
-- Blanks
-- ---------------------------------------------------------------------------

variable {c c' : Char} {cs rest rest' text text' : List Char} {v : Value}

/-- Nothing is passed over before a character that is not blank. -/
theorem blanks_cons_iff (hSolid : ¬IsBlank c) : Blanks (c :: cs) rest ↔ rest = c :: cs := by
  constructor
  · intro hBlanks
    cases hBlanks with
    | none => rfl
    | more hBlank => exact absurd hBlank hSolid
  · rintro rfl
    exact .none

-- ---------------------------------------------------------------------------
-- Strings
-- ---------------------------------------------------------------------------

/-- **What stands at the front of a string is known**, and what is left behind it. -/
theorem Piece.unique (hPiece : Piece cs c rest) (hPiece' : Piece cs c' rest') :
    c = c' ∧ rest = rest' := by
  -- the first characters tell the four kinds of pieces apart
  cases hPiece with
  | raw hCode hQuote hBackslash =>
    cases hPiece' with
    | raw => exact ⟨rfl, rfl⟩
    | short | unit | pair => exact absurd rfl hBackslash
  | short hShort =>
    cases hPiece' with
    | raw hCode hQuote hBackslash => exact absurd rfl hBackslash
    | short hShort' => exact ⟨Option.some.inj (hShort.symm.trans hShort'), rfl⟩
    | unit | pair => exact absurd hShort (by simp [shortEscape?])
  | unit hUnit hWhole =>
    cases hPiece' with
    | raw hCode hQuote hBackslash => exact absurd rfl hBackslash
    | short hShort => exact absurd hShort (by simp [shortEscape?])
    | unit hUnit' => exact ⟨by rw [Option.some.inj (hUnit.symm.trans hUnit')], rfl⟩
    | pair hHigh hFirst =>
      obtain rfl := Option.some.inj (hUnit.symm.trans hHigh)
      omega
  | pair hHigh hFirst hLow =>
    cases hPiece' with
    | raw hCode hQuote hBackslash => exact absurd rfl hBackslash
    | short hShort => exact absurd hShort (by simp [shortEscape?])
    | unit hUnit hWhole =>
      obtain rfl := Option.some.inj (hHigh.symm.trans hUnit)
      omega
    | pair hHigh' hFirst' hLow' =>
      obtain rfl := Option.some.inj (hHigh.symm.trans hHigh')
      obtain rfl := Option.some.inj (hLow.symm.trans hLow')
      exact ⟨rfl, rfl⟩

/-- A closing quote is no part of a text. -/
theorem not_piece_quote : ¬Piece ('"' :: cs) c rest := by
  intro hPiece
  cases hPiece with
  | raw hCode hQuote => exact hQuote rfl

/-- **Where a string ends is known**, and what it says. -/
theorem Body.unique (hBody : Body cs text rest) (hBody' : Body cs text' rest') :
    text = text' ∧ rest = rest' := by
  induction hBody generalizing text' with
  | close =>
    cases hBody' with
    | close => exact ⟨rfl, rfl⟩
    | piece hPiece => exact absurd hPiece not_piece_quote
  | piece hPiece _ ih =>
    cases hBody' with
    | close => exact absurd hPiece not_piece_quote
    | piece hPiece' hRest' =>
      obtain ⟨rfl, rfl⟩ := hPiece.unique hPiece'
      obtain ⟨rfl, rfl⟩ := ih hRest'
      exact ⟨rfl, rfl⟩

-- ---------------------------------------------------------------------------
-- Values
-- ---------------------------------------------------------------------------

/-- A number begins with a digit or a minus sign. -/
theorem IsNumber.exists_cons {literal : List Char} (hNumber : IsNumber literal) :
    ∃ c cs, literal = c :: cs ∧ (c = '-' ∨ c.isDigit = true) := by
  obtain ⟨rfl | rfl, hWhole, -, -⟩ := hNumber
  · rcases hWhole with rfl | ⟨⟨hSome, hDigits⟩, -⟩
    · exact ⟨'0', _, rfl, Or.inr rfl⟩
    · obtain ⟨d, ds, rfl⟩ := List.exists_cons_of_ne_nil hSome
      exact ⟨d, _, rfl, Or.inr (hDigits d (List.mem_cons_self ..))⟩
  · exact ⟨'-', _, rfl, Or.inl rfl⟩

/-- No number begins with another character. -/
theorem not_reads_number {literal : List Char} (hMinus : c ≠ '-') (hDigit : c.isDigit = false)
    (hNumber : IsNumber literal) : c :: cs ≠ literal ++ rest := by
  obtain ⟨d, ds, rfl, hFirst⟩ := hNumber.exists_cons
  intro hText
  obtain rfl : c = d := (List.cons.inj hText).1
  rcases hFirst with hFirst | hFirst
  · exact hMinus hFirst
  · rw [hDigit] at hFirst
    contradiction

/-- **After a quote there is a string.** -/
theorem reads_quote_iff :
    Reads ('"' :: cs) v rest ↔ ∃ text, Body cs text rest ∧ v = .string (String.ofList text) := by
  constructor
  · intro hReads
    cases hReads with
    | number hNumber hText => exact absurd hText (not_reads_number (by decide) (by decide) hNumber)
    | string hBody => exact ⟨_, hBody, rfl⟩
  · rintro ⟨text, hBody, rfl⟩
    exact .string hBody

/-- **After a bracket there are the items of an array**, if there are any. -/
theorem reads_bracket_iff :
    Reads ('[' :: cs) v rest ↔
      v = .array [] ∧ Blanks cs (']' :: rest) ∨
        ∃ items, Items cs items rest ∧ v = .array items := by
  constructor
  · intro hReads
    cases hReads with
    | number hNumber hText => exact absurd hText (not_reads_number (by decide) (by decide) hNumber)
    | emptyArray hEmpty => exact Or.inl ⟨rfl, hEmpty⟩
    | array hItems => exact Or.inr ⟨_, hItems, rfl⟩
  · rintro (⟨rfl, hEmpty⟩ | ⟨items, hItems, rfl⟩)
    · exact .emptyArray hEmpty
    · exact .array hItems

/-- No value begins with the end of an array. -/
theorem not_reads_closed : ¬Reads (']' :: cs) v rest := by
  intro hReads
  cases hReads with
  | number hNumber hText => exact not_reads_number (by decide) (by decide) hNumber hText

/-- A value that begins with no blank has blanks only behind it. -/
theorem padded_cons_iff (hSolid : ¬IsBlank c) :
    Padded (c :: cs) v rest ↔ ∃ after, Reads (c :: cs) v after ∧ Blanks after rest := by
  constructor
  · rintro ⟨hBefore, hValue, hAfter⟩
    obtain rfl := (blanks_cons_iff hSolid).mp hBefore
    exact ⟨_, hValue, hAfter⟩
  · rintro ⟨after, hValue, hAfter⟩
    exact .mk .none hValue hAfter

/-- After a comma, or where there are items at all, an array cannot end at once. -/
theorem not_items_closed {items : List Value} : ¬Items (']' :: cs) items rest := by
  have hNone {v : Value} {rest : List Char} : ¬Padded (']' :: cs) v rest := by
    rw [padded_cons_iff (by simp [IsBlank])]
    rintro ⟨after, hReads, -⟩
    exact not_reads_closed hReads
  intro hItems
  cases hItems with
  | last hLast => exact hNone hLast
  | cons hFirst => exact hNone hFirst

end DueDispatch.Json
