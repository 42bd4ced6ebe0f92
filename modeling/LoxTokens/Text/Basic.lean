/-!
# Texts

Everything the library reads and writes is a list of Unicode scalar values. Lines are counted by
line feeds alone: a carriage return is a character like any other.
-/

namespace LoxTokens

/-- A text, in reading order. -/
abbrev Text := List Char

namespace Text

instance : LawfulBEq Text :=
  inferInstanceAs (LawfulBEq (List Char))

/-- The line feeds of a text. A place that has `n` of them before it is on line `n + 1`. -/
def newlines (s : Text) : Nat :=
  s.count '\n'

@[simp]
theorem newlines_nil : newlines [] = 0 := rfl

@[simp]
theorem newlines_append (s t : Text) : newlines (s ++ t) = newlines s + newlines t :=
  List.count_append

/-- The decimal numeral of a number, without leading zeros. -/
def decimal (n : Nat) : Text :=
  Nat.toDigits 10 n

/-- A decimal numeral names one number only. -/
theorem decimal_injective {m n : Nat} (hdecimal : decimal m = decimal n) : m = n := by
  calc
    m = Nat.ofDigitChars 10 (decimal m) 0 := Nat.ofDigitChars_ten_toDigits.symm
    _ = Nat.ofDigitChars 10 (decimal n) 0 := by rw [hdecimal]
    _ = n := Nat.ofDigitChars_ten_toDigits

end Text

end LoxTokens
