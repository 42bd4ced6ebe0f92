import LoxTokens.Text.Basic
import LoxTokens.Text.Pattern.Nesting
import LoxTokens.Text.Spacing

/-!
# The reader of patterns

A pattern is read once from left to right. The reader is in one of a few modes and remembers the
groups and classes that are open. Some characters are settled only by what follows them, so that the
reader may look ahead, and characters that have been settled in this way are passed over.
-/

namespace LoxTokens.Pattern

/-- An item of a class, or a part that could be one. -/
inductive Item where
  | char (c : Char)
  /-- More than one character. -/
  | set
deriving DecidableEq

/-- Where an escape stands. -/
inductive Place where
  | outside
  | inClass
  /-- At the end of a range in a class. -/
  | inRange (low : Char)
deriving DecidableEq

/-- What the reader is in. -/
inductive Mode where
  | outside
  /-- After a repetition, which a question mark makes reluctant. -/
  | repetition
  /-- After the parenthesis that opens a group. -/
  | group
  /-- After the question mark that follows it. -/
  | groupMark
  /-- After the letter `P` that follows them. -/
  | groupLetter
  /-- Inside the name of a group, of which so much has been read, the last character first. -/
  | groupName (soFar : Text)
  | groupFlags (seen : Text)
  /-- After the bracket that opens a class, and perhaps a caret and hyphens. -/
  | classStart (caret hyphen : Bool)
  /-- After an item of a class; `last` is the item if it can begin a range. -/
  | inClass (last : Option Item)
  /-- After the hyphen of a range. -/
  | inRange (low : Char)
  /-- After a backslash. -/
  | escape (place : Place)
  /-- Before one of the digits that give the number of a character; two of them give a byte. -/
  | digits (place : Place) (isByte : Bool) (owed value : Nat)
  /-- Before the letter of a general category. -/
  | category (place : Place)
deriving DecidableEq

/-- Whether spacing may stand here if it does not count. -/
def Mode.admitsSpacing : Mode → Bool
  | outside | repetition | group | classStart .. | inClass _ | inRange _ | digits .. | category _ =>
      true
  | groupMark | groupLetter | groupName _ | groupFlags _ | escape _ => false

/-- What the reader remembers. -/
structure State where
  mode : Mode
  /-- The innermost group that is open, which may be the whole pattern. -/
  group : OpenGroup
  /-- The groups around it, the innermost first. -/
  outer : List OpenGroup
  /-- The names of the groups so far, from their ends. -/
  names : List Text
  /-- The classes that are open, the innermost first. -/
  classes : List OpenClass
  /-- The number of characters to pass over. -/
  settled : Nat
  /-- The reader is inside a comment. -/
  comment : Bool
deriving DecidableEq

namespace State

def start : State :=
  ⟨.outside, .empty ⟨true, false⟩, [], [], [], 0, false⟩

def flags (state : State) : Flags :=
  state.group.flags

/-- Goes on in another mode. -/
def enter (state : State) (mode : Mode) : State :=
  { state with mode := mode }

/-- Goes on outside, in a group that has changed. -/
def within (state : State) (group : OpenGroup) : State :=
  { state with mode := .outside, group := group }

/-- After a part of a given depth that can be repeated. -/
def part (state : State) (depth : Nat) : State :=
  state.within (state.group.push ⟨depth, true⟩)

/-- After an item of the innermost class that has a given depth. -/
def item (state : State) (depth : Nat) (last : Option Item) : State :=
  let classes := match state.classes with
    | [] => []
    | c :: outer => c.push depth :: outer
  { state with mode := .inClass last, classes := classes }

/-- Classes of bytes hold ASCII characters only. -/
def admits (state : State) (c : Char) : Bool :=
  state.flags.unicode || c ≤ '\x7f'

/-- After a character or a set of characters. A range goes up and has a character at either end. -/
def accept (state : State) (place : Place) (item : Item) : Option State :=
  match place, item with
  | .outside, _ => some (state.part 0)
  | .inClass, .char c => if state.admits c then some (state.item 0 (some item)) else none
  | .inClass, .set => some (state.item 0 (some item))
  | .inRange low, .char high =>
      if state.admits high ∧ low ≤ high then some (state.enter (.inClass none)) else none
  | .inRange _, .set => none

/-- The next character that is not spacing, where spacing counts for nothing. The sign that begins a
comment is looked over as well, but not the comment. -/
def ahead? (state : State) (rest : Text) : Option Char :=
  if state.flags.spaced then
    match rest.dropWhile isSpacing with
    | '#' :: rest => (rest.dropWhile isSpacing).head?
    | rest => rest.head?
  else
    rest.head?

end State

end LoxTokens.Pattern
