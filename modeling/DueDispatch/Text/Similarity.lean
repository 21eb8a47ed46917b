/-!
# DueDispatch — similar words

`similarity` is the Jaro similarity of two words: it grows with the number of
characters that they share at nearby places, and falls with the number of those
that stand in another order. `mostSimilar?` picks a word to suggest in place of
one that is unknown.
-/

namespace DueDispatch.Text

/-- Takes the first position from `places` that lies in the window from `low`
below `high` and holds the character `c`. Returns what is left, if there is
one. -/
def takeMatch (c : Char) (low high : Nat) :
    List (Nat × Char) → Option ((Nat × Char) × List (Nat × Char))
  | [] => none
  | p :: rest =>
    if low ≤ p.1 ∧ p.1 < high ∧ p.2 = c then some (p, rest)
    else (takeMatch c low high rest).map fun (found, others) => (found, p :: others)

/-- Pairs the characters of a word, from place `i` on, with characters of
another word at most `reach` places away, each used once. -/
def matchedPairs (reach i : Nat) : List Char → List (Nat × Char) → List (Char × (Nat × Char))
  | [], _ => []
  | c :: rest, places =>
    match takeMatch c (i - reach) (i + reach + 1) places with
    | some (found, others) => (c, found) :: matchedPairs reach (i + 1) rest others
    | none => matchedPairs reach (i + 1) rest places

/-- The Jaro similarity of two words, from 0 to 1. -/
def similarity (a b : List Char) : Float :=
  if a.isEmpty && b.isEmpty then 1.0
  else
    let reach := max a.length b.length / 2 - 1
    let pairs := matchedPairs reach 0 a (b.zipIdx.map fun (c, i) => (i, c))
    if pairs.isEmpty then 0.0
    else
      let inOrder := (pairs.map Prod.snd).mergeSort fun p q => p.1 ≤ q.1
      let displaced := ((pairs.zip inOrder).filter fun (p, q) => p.1 != q.2).length / 2
      let shared := pairs.length.toFloat
      (shared / a.length.toFloat + shared / b.length.toFloat +
        (pairs.length - displaced).toFloat / shared) / 3.0

/-- The word most similar to `word`, the last of several. Words that share too
little are left out. -/
def mostSimilar? (word : String) (words : List String) : Option String :=
  let rated := words.map fun w => (similarity word.toList w.toList, w)
  let better (best : Option (Float × String)) (entry : Float × String) :
      Option (Float × String) :=
    if entry.1 > 0.7 then
      match best with
      | some b => if entry.1 < b.1 then some b else some entry
      | none => some entry
    else best
  (rated.foldl better none).map Prod.snd

end DueDispatch.Text
