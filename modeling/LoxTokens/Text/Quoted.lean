import LoxTokens.Text.Basic
import LoxTokens.Text.Visible

/-!
# Quoted texts

A quoted text stands between two delimiters. A backslash and the delimiter itself are written after
a backslash, and so are the characters that a reader could not see. The first delimiter without a
backslash before it therefore ends the quotation, whatever the text holds.
-/

namespace LoxTokens.Quoted

/-- One character of a text quoted between `delimiter`s. -/
def escape (delimiter c : Char) : Text :=
  if c = '\x00' then ['\\', '0']
  else if c = '\t' then ['\\', 't']
  else if c = '\n' then ['\\', 'n']
  else if c = '\r' then ['\\', 'r']
  else if c = '\\' then ['\\', '\\']
  else if c = delimiter then ['\\', delimiter]
  else if isVisible c then [c]
  else ['\\', 'u', '\x7b'] ++ Nat.toDigits 16 c.toNat ++ ['\x7d']

/-- A text between `delimiter`s. -/
def between (delimiter : Char) (s : Text) : Text :=
  delimiter :: (s.flatMap (escape delimiter) ++ [delimiter])

/-- A text as it is quoted in a description. -/
def text (s : Text) : Text :=
  between '"' s

/-- A single character as it is quoted in a description. -/
def char (c : Char) : Text :=
  between '\'' [c]

end LoxTokens.Quoted
