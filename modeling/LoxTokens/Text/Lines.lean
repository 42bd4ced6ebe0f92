import LoxTokens.Text.Basic

/-!
# Lines

A sequence is cut after every occurrence of a stop item, so each cut piece but the last ends in the
stop item and no piece is empty. The lines of a text are those pieces without their ends. Bytes and
characters are cut by one function, which is what makes the two views of a line comparable.
-/

namespace LoxTokens

/-- The pieces of a sequence, each of them ended by `stop` except that the last need not be. -/
def cutAfter {α : Type} [DecidableEq α] (stop : α) : List α → List (List α)
  | [] => []
  | a :: rest =>
      if a = stop then
        [a] :: cutAfter stop rest
      else
        match cutAfter stop rest with
        | [] => [[a]]
        | piece :: pieces => (a :: piece) :: pieces

/-- Cutting loses nothing. -/
@[simp]
theorem flatten_cutAfter {α : Type} [DecidableEq α] (stop : α) (items : List α) :
    (cutAfter stop items).flatten = items := by
  induction items with
  | nil => rfl
  | cons a rest ih =>
      rw [cutAfter]
      split
      · simp [ih]
      · cases hpieces : cutAfter stop rest with
        | nil => simpa [hpieces] using ih
        | cons piece pieces => simpa [hpieces] using ih

namespace Text

/-- A piece without the line feed that ends it, nor the carriage return before that line feed. A
carriage return that no line feed follows belongs to the line. -/
def withoutLineEnd (piece : Text) : Text :=
  match piece.reverse with
  | '\n' :: '\r' :: line => line.reverse
  | '\n' :: line => line.reverse
  | _ => piece

/-- The lines of a text. A line feed at the very end starts no further line. -/
def lines (s : Text) : List Text :=
  (cutAfter '\n' s).map withoutLineEnd

/-- A text whose lines but the first start at a column. -/
def hang (column : Nat) (s : Text) : Text :=
  s.flatMap fun c => if c = '\n' then c :: List.replicate column ' ' else [c]

end Text

end LoxTokens
