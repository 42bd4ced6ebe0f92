import LoxTokens.Text.Ranges
import LoxTokens.Text.Visible.Extending
import LoxTokens.Text.Visible.Unprintable

/-!
# Visible characters

A character is shown as it is when it can be printed and takes up a place of its own on the page.
-/

namespace LoxTokens

/-- The character is shown as it is. -/
def isVisible (c : Char) : Bool :=
  !inRanges c.toNat Visible.unprintable && !inRanges c.toNat Visible.extending

end LoxTokens
