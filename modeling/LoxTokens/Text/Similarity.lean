import LoxTokens.Text.Basic

/-!
# Similar texts

Characters of two texts are paired if they are equal and stand near the same place, where the reach
of a place grows with the longer text. The similarity of the texts is the mean of three shares: of
the paired characters in either text, and of those among the pairs that stand in the same order. It
is 1 for equal texts and 0 for texts without a pair, and a slip of the pen costs little. The mean is
taken in floating point, whose rounding decides between candidates that are otherwise equal.
-/

namespace LoxTokens.Text

/-- Marks the first free occurrence of `c` among the `count` places after the first `skipped`. -/
def mark? (c : Char) : (skipped count : Nat) → List (Char × Bool) → Option (List (Char × Bool))
  | _, _, [] => none
  | skipped + 1, count, place :: places => (mark? c skipped count places).map (place :: ·)
  | 0, 0, _ => none
  | 0, count + 1, (d, marked) :: places =>
      if d = c ∧ !marked then
        some ((d, true) :: places)
      else
        (mark? c 0 count places).map ((d, marked) :: ·)

/-- Pairs the characters of a text, whose first one stands at `place`, with free places at most
`reach` away. What comes out are the paired characters and the places that are left. -/
def pair (reach place : Nat) : Text → List (Char × Bool) → Text × List (Char × Bool)
  | [], places => ([], places)
  | c :: s, places =>
      match mark? c (place - reach) (place + reach + 1 - (place - reach)) places with
      | none => pair reach (place + 1) s places
      | some places =>
          let (paired, places) := pair reach (place + 1) s places
          (c :: paired, places)

/-- How similar two texts are, from 0 to 1. -/
def similarity (s t : Text) : Float :=
  let reach := max s.length t.length / 2 - 1
  let (paired, places) := pair reach 0 s (t.map (·, false))
  let partners := (places.filter (·.2)).map (·.1)
  let misplaced := (paired.zip partners).countP (fun (c, d) => c ≠ d) / 2
  let share (part whole : Nat) : Float := part.toFloat / whole.toFloat
  if paired = [] then
    0
  else
    (share paired.length s.length + share paired.length t.length +
      share (paired.length - misplaced) paired.length) / 3

/-- Two texts are alike if one of them may have been meant by the other. -/
def isLike (s t : Text) : Bool :=
  0.7 < similarity s t

/-- The candidate whose name is most similar to a text, among those that are like it. Of equally
similar ones it is the last. -/
def closest? {α : Type} (name : α → Text) (candidates : List α) (s : Text) : Option α :=
  (candidates.filter fun candidate => isLike s (name candidate)).foldl
    (fun best? candidate =>
      match best? with
      | none => some candidate
      | some best =>
          if similarity s (name best) ≤ similarity s (name candidate) then
            some candidate
          else
            some best)
    none

end LoxTokens.Text
