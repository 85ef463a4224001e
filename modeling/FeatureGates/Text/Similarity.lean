namespace FeatureGates

/-!
# How much alike two words are

Two equal letters correspond when their places are not too far apart. The similarity is the mean of
three shares: of either word, the letters that have a counterpart, and of these, the ones that
stand in the same order.
-/

namespace Similarity

/-- How far apart the places of corresponding letters may be. -/
def reach (a b : List Char) : Nat := max a.length b.length / 2 - 1

/-- Marks the first unmarked `c` among the `count` letters behind the first `skip` ones. -/
def mark? (c : Char) : Nat → Nat → List (Char × Bool) → Option (List (Char × Bool))
  | _, _, [] => none
  | skip + 1, count, x :: xs => (mark? c skip count xs).map (x :: ·)
  | 0, 0, _ => none
  | 0, count + 1, x :: xs =>
    if x = (c, false) then some ((c, true) :: xs) else (mark? c 0 count xs).map (x :: ·)

/-- The letters of the first word that have a counterpart, and the second word with the
counterparts marked. The first argument is the place of the next letter. -/
def correspond (reach : Nat) :
    Nat → List Char → List (Char × Bool) → List Char × List (Char × Bool)
  | _, [], marked => ([], marked)
  | i, c :: cs, marked =>
    match mark? c (i - reach) (i + reach + 1 - (i - reach)) marked with
    | none => correspond reach (i + 1) cs marked
    | some marked =>
      let rest := correspond reach (i + 1) cs marked
      (c :: rest.1, rest.2)

/-- The letters with a counterpart, word by word, each in its own order. -/
def counterparts (a b : List Char) : List Char × List Char :=
  let (xs, marked) := correspond (reach a b) 0 a (b.map fun c => (c, false))
  (xs, (marked.filter Prod.snd).map Prod.fst)

/-- Half of the places at which two words have different letters. -/
def transpositions (xs ys : List Char) : Nat :=
  ((xs.zip ys).filter fun p => p.1 ≠ p.2).length / 2

def share (part whole : Nat) : Float := part.toFloat / whole.toFloat

end Similarity

open Similarity in
/-- From zero for words without a common letter to one for equal words. -/
def similarity (a b : List Char) : Float :=
  let (xs, ys) := counterparts a b
  let n := xs.length
  if a = [] ∧ b = [] then 1
  else if n = 0 then 0
  else (share n a.length + share n b.length + share (n - transpositions xs ys) n) / 3

/-- The names that are much like a word, the one most like it last. -/
def similarTo (word : String) (names : List String) : List String :=
  let scored := names.map fun name => (similarity word.toList name.toList, name)
  ((scored.filter fun s => 0.7 < s.1).mergeSort fun s t => s.1 ≤ t.1).map Prod.snd

def mostSimilar? (word : String) (names : List String) : Option String :=
  (similarTo word names).getLast?

end FeatureGates
