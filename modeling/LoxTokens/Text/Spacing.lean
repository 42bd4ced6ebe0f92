import LoxTokens.Text.Basic
import LoxTokens.Text.Ranges

/-!
# Spacing characters

Spaces of all kinds, tabs, and the controls and separators that end a line or a page.
-/

namespace LoxTokens

/-- The numbers of spacing characters, by ranges in rising order, ends included. -/
def spacings : List (Nat × Nat) :=
  [(0x9, 0xD), (0x20, 0x20), (0x85, 0x85), (0xA0, 0xA0), (0x1680, 0x1680), (0x2000, 0x200A),
    (0x2028, 0x2029), (0x202F, 0x202F), (0x205F, 0x205F), (0x3000, 0x3000)]

def isSpacing (c : Char) : Bool :=
  inRanges c.toNat spacings

/-- A text without the spacing at its ends. -/
def Text.trim (s : Text) : Text :=
  ((s.dropWhile isSpacing).reverse.dropWhile isSpacing).reverse

end LoxTokens
