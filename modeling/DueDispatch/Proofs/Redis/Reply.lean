import DueDispatch.Proofs.Numerals
import DueDispatch.Proofs.Redis.Grant
import Mathlib.Data.List.Forall2

/-!
# DueDispatch — which replies name ids

`Reply.granted` goes through an array from left to right and stops at the first element
that it cannot read. Here is what it reads, said without it: `Denotes` is the grammar of one
element, an integer or the text of one, in bytes or as a line. A text may have a sign and
leading zeros, so an id has many texts; what counts is the number, and that it is one of
64 bits.

## Results

* `read?_eq_some_iff` — which texts are read as an id.
* `id?_eq_some_iff` — which elements stand for an id.
* `idsFrom_eq_ok_iff`, `idsFrom_eq_error_iff` — which elements are read one after another,
  and which of the others is reported.
* `granted_iff` — which replies grant ids, and what is reported of the others.
-/

namespace DueDispatch

namespace AccountId

/-- **Which texts are read as an id.** The ids are the integers of 64 bits, so the bounds of
the reader leave out no numeral of an id, and let no other one pass. -/
theorem read?_eq_some_iff {text : String} {id : AccountId} :
    read? text = some id ↔ Decimal.SignedNumeral text.toList id.toInt := by
  have hLow : -((0x8000000000000000 : Nat) : Int) ≤ id.toInt := id.le_toInt
  have hHigh : id.toInt ≤ ((0x7fffffffffffffff : Nat) : Int) := by
    have := id.toInt_lt
    omega
  unfold read? Decimal.readInt64
  constructor
  · intro hRead
    split at hRead
    · rename_i i hOk
      obtain ⟨hNumeral, hLeast, hMost⟩ := Decimal.readInteger_eq_ok_iff.mp hOk
      obtain rfl : Int64.ofInt i = id := Option.some.inj hRead
      rwa [Int64.toInt_ofInt_of_le (by omega) (by omega)]
    · contradiction
  · intro hNumeral
    rw [Decimal.readInteger_eq_ok_iff.mpr ⟨hNumeral, hLow, hHigh⟩]
    exact congrArg some (Int64.ofInt_toInt id)

end AccountId

namespace Redis.Reply

-- ---------------------------------------------------------------------------
-- One element
-- ---------------------------------------------------------------------------

/-- An element that stands for an id: the integer, or a text of it, which may come as
bytes. -/
inductive Denotes : Reply → AccountId → Prop
  | integer (id : AccountId) : Denotes (.integer id) id
  | bulk {text : String} {id : AccountId}
      (hNumeral : Decimal.SignedNumeral text.toList id.toInt) : Denotes (.bulk text.toUTF8) id
  | simple {text : String} {id : AccountId}
      (hNumeral : Decimal.SignedNumeral text.toList id.toInt) : Denotes (.simple text) id

/-- Bytes are read as the text of which they are the UTF-8. -/
theorem fromUTF8?_eq_some_iff {bytes : ByteArray} {text : String} :
    String.fromUTF8? bytes = some text ↔ text.toUTF8 = bytes := by
  constructor
  · intro hRead
    unfold String.fromUTF8? at hRead
    split at hRead
    · obtain rfl := Option.some.inj hRead
      rfl
    · contradiction
  · rintro rfl
    exact fromUTF8?_toUTF8 text

/-- **Which elements stand for an id.** -/
theorem id?_eq_some_iff {item : Reply} {id : AccountId} : item.id? = some id ↔ Denotes item id := by
  constructor
  · intro hId
    cases item with
    | integer n =>
      obtain rfl : n = id := Option.some.inj hId
      exact .integer n
    | bulk bytes =>
      obtain ⟨text, hText, hRead⟩ := Option.bind_eq_some_iff.mp hId
      rw [← fromUTF8?_eq_some_iff.mp hText]
      exact .bulk (AccountId.read?_eq_some_iff.mp hRead)
    | simple text => exact .simple (AccountId.read?_eq_some_iff.mp hId)
    | _ => contradiction
  · intro hDenotes
    cases hDenotes with
    | integer id => rfl
    | bulk hNumeral =>
      rw [id?, fromUTF8?_toUTF8]
      exact AccountId.read?_eq_some_iff.mpr hNumeral
    | simple hNumeral => exact AccountId.read?_eq_some_iff.mpr hNumeral

/-- The number that follows the greatest id is none. -/
example : (Reply.simple "9223372036854775808").id? = none := by cbv

/-- An element is read as no id exactly when it stands for none. -/
theorem id?_eq_none_iff {item : Reply} : item.id? = none ↔ ∀ id, ¬Denotes item id := by
  rw [Option.eq_none_iff_forall_ne_some]
  exact forall_congr' fun id => not_congr id?_eq_some_iff

-- ---------------------------------------------------------------------------
-- The elements of an array
-- ---------------------------------------------------------------------------

/-- The first element that stands for no id, and its place. -/
structure FirstBad (items : List Reply) (place : Nat) (bad : Reply) : Prop where
  found : items[place]? = some bad
  noId : ∀ id, ¬Denotes bad id
  least : ∀ earlier < place, ∀ item, items[earlier]? = some item → ∃ id, Denotes item id

variable {index place : Nat} {item bad : Reply} {items : List Reply} {ids : List AccountId}
  {cause : GrantError}

/-- An element at the head that stands for no id is the first bad one. -/
theorem FirstBad.head (hNone : ∀ id, ¬Denotes item id) : FirstBad (item :: items) 0 item :=
  ⟨rfl, hNone, fun _ hEarlier => absurd hEarlier (Nat.not_lt_zero _)⟩

/-- And no other one is. -/
theorem FirstBad.eq_of_head (hFirst : FirstBad (item :: items) place bad)
    (hNone : ∀ id, ¬Denotes item id) : place = 0 ∧ bad = item := by
  cases place with
  | zero => exact ⟨rfl, (Option.some.inj hFirst.found).symm⟩
  | succ place =>
    obtain ⟨id, hId⟩ := hFirst.least 0 (Nat.succ_pos _) item rfl
    exact absurd hId (hNone id)

/-- An element that stands for an id moves the first bad one by a place. -/
theorem firstBad_succ_iff {id : AccountId} (hId : Denotes item id) :
    FirstBad (item :: items) (place + 1) bad ↔ FirstBad items place bad := by
  constructor
  · rintro ⟨hFound, hNone, hLeast⟩
    exact ⟨hFound, hNone, fun earlier hEarlier => hLeast (earlier + 1) (Nat.succ_lt_succ hEarlier)⟩
  · rintro ⟨hFound, hNone, hLeast⟩
    refine ⟨hFound, hNone, fun earlier hEarlier other hOther => ?_⟩
    cases earlier with
    | zero =>
      obtain rfl : item = other := Option.some.inj hOther
      exact ⟨id, hId⟩
    | succ earlier => exact hLeast earlier (Nat.lt_of_succ_lt_succ hEarlier) other hOther

/-- An element that stands for an id is not bad. -/
theorem not_firstBad_zero {id : AccountId} (hId : Denotes item id) :
    ¬FirstBad (item :: items) 0 bad := by
  rintro ⟨hFound, hNone, -⟩
  obtain rfl : item = bad := Option.some.inj hFound
  exact hNone id hId

/-- **Which elements are read one after another**, whatever place the first of them has. -/
theorem idsFrom_eq_ok_iff : idsFrom index items = .ok ids ↔ List.Forall₂ Denotes items ids := by
  induction items generalizing index ids with
  | nil => simp [idsFrom, eq_comm]
  | cons item rest ih =>
    rw [idsFrom]
    -- the head is read first; a rest that cannot be read makes the whole fail
    cases hId : item.id? with
    | none =>
      refine iff_of_false (by simp) fun hAll => ?_
      obtain ⟨id, _, hHead, -, -⟩ := List.forall₂_cons_left_iff.mp hAll
      exact id?_eq_none_iff.mp hId id hHead
    | some id =>
      have hHead := id?_eq_some_iff.mp hId
      cases hRest : idsFrom (index + 1) rest with
      | error fault =>
        refine iff_of_false (by simp [Except.map]) fun hAll => ?_
        obtain ⟨_, more, -, hMore, -⟩ := List.forall₂_cons_left_iff.mp hAll
        rw [ih.mpr hMore] at hRest
        contradiction
      | ok more =>
        simp only [Except.map, Except.ok.injEq]
        constructor
        · rintro rfl
          exact .cons hHead (ih.mp hRest)
        · intro hAll
          obtain ⟨id', more', hHead', hMore', rfl⟩ := List.forall₂_cons_left_iff.mp hAll
          obtain rfl : id = id' := Option.some.inj (hId.symm.trans (id?_eq_some_iff.mpr hHead'))
          rw [← Except.ok.inj (hRest.symm.trans (ih.mpr hMore'))]

/-- **Of the others the first bad one is reported**, with its place. -/
theorem idsFrom_eq_error_iff :
    idsFrom index items = .error cause ↔
      ∃ place bad, FirstBad items place bad ∧ cause = .invalidElement (index + place) bad.text := by
  induction items generalizing index with
  | nil =>
    refine iff_of_false (by simp [idsFrom]) ?_
    rintro ⟨place, bad, hFirst, -⟩
    have hFound := hFirst.found
    simp at hFound
  | cons item rest ih =>
    rw [idsFrom]
    -- a bad head is the first bad element, and behind a good one its place moves by one
    cases hId : item.id? with
    | none =>
      have hNone := id?_eq_none_iff.mp hId
      simp only [Except.error.injEq]
      constructor
      · rintro rfl
        exact ⟨0, item, .head hNone, rfl⟩
      · rintro ⟨place, bad, hFirst, rfl⟩
        obtain ⟨rfl, rfl⟩ := hFirst.eq_of_head hNone
        rfl
    | some id =>
      have hHead := id?_eq_some_iff.mp hId
      have hRest : (idsFrom (index + 1) rest).map (id :: ·) = .error cause ↔
          idsFrom (index + 1) rest = .error cause := by
        cases idsFrom (index + 1) rest <;> simp [Except.map]
      simp only [hRest, ih]
      constructor
      · rintro ⟨place, bad, hFirst, rfl⟩
        exact ⟨place + 1, bad, (firstBad_succ_iff hHead).mpr hFirst,
          by rw [Nat.add_assoc, Nat.add_comm 1]⟩
      · rintro ⟨place, bad, hFirst, rfl⟩
        cases place with
        | zero => exact absurd hFirst (not_firstBad_zero hHead)
        | succ place =>
          exact ⟨place, bad, (firstBad_succ_iff hHead).mp hFirst,
            by rw [Nat.add_assoc, Nat.add_comm 1]⟩

-- ---------------------------------------------------------------------------
-- Whole replies
-- ---------------------------------------------------------------------------

/-- The ways in which a server may write an id. -/
inductive Form
  | integer
  | bulk
  | simple

/-- An id in one of these ways, its text being the decimal one. -/
def Form.write : Form → AccountId → Reply
  | .integer, id => .integer id
  | .bulk, id => .bulk id.write.toUTF8
  | .simple, id => .simple id.write

/-- In each of its forms an id stands for itself. -/
theorem Form.denotes_write (form : Form) (id : AccountId) : Denotes (form.write id) id := by
  have hNumeral := AccountId.read?_eq_some_iff.mp (AccountId.read?_write id)
  cases form with
  | integer => exact .integer id
  | bulk => exact .bulk hNumeral
  | simple => exact .simple hNumeral

/-- **Which replies grant ids.** A reply grants ids if and only if it is an array, each
element of which stands for one, and then it grants these in their order. Of an array with
other elements the first of those is reported, with its place and spelling; of a reply that
is no array, that it is none. So ids are read back from every reply that lists them, each
as an integer or as its decimal text. -/
theorem granted_iff :
    (∀ (reply : Reply) (ids : List AccountId), reply.granted = .ok ids ↔
      ∃ items, reply = .array items ∧ List.Forall₂ Denotes items ids) ∧
    (∀ (items : List Reply) (cause : GrantError), (Reply.array items).granted = .error cause ↔
      ∃ place bad, FirstBad items place bad ∧ cause = .invalidElement place bad.text) ∧
    (∀ (reply : Reply) (found : String), reply.granted = .error (.notAnArray found) ↔
      (∀ items, reply ≠ .array items) ∧ found = reply.text) ∧
    ∀ written : List (Form × AccountId),
      (Reply.array (written.map fun entry => entry.1.write entry.2)).granted =
        .ok (written.map Prod.snd) := by
  have hOk (items : List Reply) (ids : List AccountId) :
      (Reply.array items).granted = .ok ids ↔ List.Forall₂ Denotes items ids :=
    idsFrom_eq_ok_iff
  have hError (items : List Reply) (cause : GrantError) :
      (Reply.array items).granted = .error cause ↔
        ∃ place bad, FirstBad items place bad ∧ cause = .invalidElement place bad.text := by
    have hFaults : idsFrom 0 items = .error cause ↔
        ∃ place bad, FirstBad items place bad ∧ cause = .invalidElement (0 + place) bad.text :=
      idsFrom_eq_error_iff
    simp only [Nat.zero_add] at hFaults
    exact hFaults
  refine ⟨?_, hError, ?_, ?_⟩
  · intro reply ids
    cases reply with
    | array items => simp [hOk]
    | _ => simp [granted]
  · intro reply found
    cases reply with
    | array items => simp [hError]
    | _ => simp [granted, eq_comm]
  · intro written
    rw [hOk, List.forall₂_map_left_iff, List.forall₂_map_right_iff, List.forall₂_same]
    exact fun entry _ => entry.1.denotes_write entry.2

/-- Leading zeros do no harm; the first element that is no id is reported, by its place. -/
example : (Reply.array [.simple "-0042", .boolean true, .null]).granted =
    .error (.invalidElement 1 "boolean(true)") := by cbv

end Redis.Reply

end DueDispatch
