import LoxTokens.Text.Basic

/-!
# Numerals

A numeral is a decimal number with an optional sign, fraction and exponent, or a word for an
infinite or undefined number, in letters of any case.
-/

namespace LoxTokens

/-- A text without the sign in front of it. -/
def withoutSign : Text → Text
  | '+' :: s => s
  | '-' :: s => s
  | s => s

/-- The text is the end of a numeral, from its exponent on. -/
def isExponent : Text → Bool
  | [] => true
  | e :: s => e.toLower = 'e' && withoutSign s ≠ [] && (withoutSign s).all Char.isDigit

def isNumeral (s : Text) : Bool :=
  let magnitude := (withoutSign s).map Char.toLower
  let whole := magnitude.takeWhile Char.isDigit
  if magnitude ∈ ["inf".toList, "infinity".toList, "nan".toList] then
    true
  else
    match magnitude.dropWhile Char.isDigit with
    | '.' :: rest =>
        (whole ≠ [] || (rest.takeWhile Char.isDigit) ≠ []) && isExponent (rest.dropWhile Char.isDigit)
    | rest => whole ≠ [] && isExponent rest

end LoxTokens
