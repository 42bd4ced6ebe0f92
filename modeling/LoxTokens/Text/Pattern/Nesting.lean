/-!
# Nesting

Parts that stand side by side make up a whole that is one level deeper than the deepest of them; a
part that stands alone is its own whole. A group, a class or a repetition is one level deeper than
what it is made of. So the depth of a pattern can be kept while it is read: an open group needs only
the depths of its parts, and an open class those of its items.
-/

namespace LoxTokens.Pattern

/-- The depth of a whole whose parts have these depths. -/
def depthOfWhole : List Nat → Nat
  | [] => 0
  | [depth] => depth
  | depths => depths.foldl max 0 + 1

/-- How the parts of a pattern are read. -/
structure Flags where
  /-- Sets are sets of characters. Without this they are sets of bytes, all of which are ASCII. -/
  unicode : Bool
  /-- Spacing and comments are left out. -/
  spaced : Bool
deriving DecidableEq

/-- A part of a pattern. -/
structure Part where
  depth : Nat
  /-- The part can be repeated; a change of flags cannot. -/
  repeatable : Bool
deriving DecidableEq

/-- A group that is not closed yet, or the whole pattern. -/
structure OpenGroup where
  /-- The flags that hold from here on. -/
  flags : Flags
  /-- The depths of the alternatives that are complete. -/
  alternatives : List Nat
  /-- The parts of the last alternative, the newest first. -/
  parts : List Part
deriving DecidableEq

namespace OpenGroup

/-- A group without parts. -/
def empty (flags : Flags) : OpenGroup :=
  ⟨flags, [], []⟩

/-- The depth of the alternative that is being read. -/
def depthOfLast (group : OpenGroup) : Nat :=
  depthOfWhole (group.parts.map (·.depth))

/-- The depth of what stands between the parentheses. -/
def depth (group : OpenGroup) : Nat :=
  depthOfWhole (group.depthOfLast :: group.alternatives)

def push (group : OpenGroup) (part : Part) : OpenGroup :=
  { group with parts := part :: group.parts }

/-- The next alternative begins. -/
def divide (group : OpenGroup) : OpenGroup :=
  { group with alternatives := group.depthOfLast :: group.alternatives, parts := [] }

/-- Repeats the newest part, if it can be repeated. -/
def repeatLast? (group : OpenGroup) : Option OpenGroup :=
  match group.parts with
  | ⟨depth, true⟩ :: parts => some { group with parts := ⟨depth + 1, true⟩ :: parts }
  | _ => none

end OpenGroup

/-- A class that is not closed yet. -/
structure OpenClass where
  /-- The depth of what stands before the last operator. -/
  left : Option Nat
  /-- The depths of the items after it. -/
  items : List Nat
deriving DecidableEq

namespace OpenClass

/-- A class without items. -/
def empty : OpenClass :=
  ⟨none, []⟩

/-- The depth of what stands between the brackets. -/
def depth (c : OpenClass) : Nat :=
  depthOfWhole (depthOfWhole c.items :: c.left.toList)

def push (c : OpenClass) (depth : Nat) : OpenClass :=
  { c with items := depth :: c.items }

/-- An operator follows. -/
def operate (c : OpenClass) : OpenClass :=
  ⟨some c.depth, []⟩

end OpenClass

end LoxTokens.Pattern
