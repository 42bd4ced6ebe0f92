import LoxTokens.Text.Alphabetic
import LoxTokens.Text.Numeric
import LoxTokens.Text.Pattern.State

/-!
# Reading a character of a pattern

Each function reads one character in some of the modes, and gives nothing if no pattern has it
there. Braces are never closed here, so that no counted repetition and no escape with braces can be
complete.
-/

namespace LoxTokens.Pattern.State

/-- Reads a character that stands neither in a class nor in an escape. Among bytes a point would
stand for some that are not ASCII. -/
def readOutside (state : State) (c : Char) : Option State :=
  match c with
  | '(' => some (state.enter .group)
  | ')' =>
      match state.outer with
      | [] => none
      | group :: outer =>
          let depth := state.group.depth + 1
          some ({ state with group := group, outer := outer }.part depth)
  | '|' => some (state.within state.group.divide)
  | '[' => some { state with mode := .classStart false false, classes := [.empty] }
  | '\\' => some (state.enter (.escape .outside))
  | '*' | '+' | '?' => state.group.repeatLast?.map fun group => (state.within group).enter .repetition
  | '\x7b' => none
  | '.' => if state.flags.unicode then some (state.part 0) else none
  | _ => some (state.part 0)

/-! ### Groups -/

/-- After the opening of a group in which flags hold. -/
def openGroup (state : State) (flags : Flags) : State :=
  { state with mode := .outside, group := .empty flags, outer := state.group :: state.outer }

/-- Whether a character can stand in the name of a group. -/
def isNameChar (first : Bool) (c : Char) : Bool :=
  c == '_' || isAlphabetic c ||
    (!first && (c == '.' || c == '[' || c == ']' || isNumeric c))

/-- Reads a character of the name of a group, which no other group may have. -/
def readName (state : State) (soFar : Text) (c : Char) : Option State :=
  if c = '>' then
    if soFar = [] ∨ soFar ∈ state.names then none
    else some { state.openGroup state.flags with names := soFar :: state.names }
  else if isNameChar (soFar = []) c then
    some (state.enter (.groupName (c :: soFar)))
  else
    none

/-- Whether letters turn a flag on or, after a hyphen, off; otherwise it stays as it is. -/
def flagAfter (seen : Text) (letter : Char) (now : Bool) : Bool :=
  if letter ∈ seen then letter ∈ seen.takeWhile (· ≠ '-') else now

/-- The flags that hold after a change. -/
def flagsAfter (state : State) (seen : Text) : Flags :=
  ⟨flagAfter seen 'u' state.flags.unicode, flagAfter seen 'x' state.flags.spaced⟩

/-- Reads a character among the flags of a group. Each flag stands there once, and so does the
hyphen that turns the flags after it off. Flags without a group hold up to the end of the group
around them. -/
def readFlags (state : State) (seen : Text) (c : Char) : Option State :=
  let flags := state.flagsAfter seen
  if c = ':' then
    if seen.getLast? = some '-' then none else some (state.openGroup flags)
  else if c = ')' then
    if seen = [] ∨ seen.getLast? = some '-' then none
    else some (state.within { state.group.push ⟨0, false⟩ with flags := flags })
  else if c ∈ "-imsUuRx".toList ∧ c ∉ seen then
    some (state.enter (.groupFlags (seen ++ [c])))
  else
    none

/-- Reads the character after the question mark of a group. -/
def readGroupMark (state : State) (c : Char) : Option State :=
  if c = 'P' then some (state.enter .groupLetter)
  else if c = '<' then some (state.enter (.groupName []))
  else state.readFlags [] c

/-! ### Classes -/

/-- The names of classes of ASCII characters. -/
def classNames : List Text :=
  ["alnum".toList, "alpha".toList, "ascii".toList, "blank".toList, "cntrl".toList, "digit".toList,
    "graph".toList, "lower".toList, "print".toList, "punct".toList, "space".toList, "upper".toList,
    "word".toList, "xdigit".toList]

/-- A named class at the beginning of a text, after its opening bracket: whether it is negated and
the number of its characters. -/
def namedClass? (rest : Text) : Option (Bool × Nat) :=
  match rest with
  | ':' :: inside =>
      let negated := inside.head? = some '^'
      let inside := if negated then inside.tail else inside
      let name := inside.takeWhile (· ≠ ':')
      if name ∈ classNames ∧ ":]".toList.isPrefixOf (inside.drop name.length) then
        some (negated, name.length + if negated then 4 else 3)
      else
        none
  | _ => none

/-- After the bracket that opens a class. -/
def openClass (state : State) : State :=
  { state with mode := .classStart false false, classes := .empty :: state.classes }

/-- After the bracket that closes the innermost class, which is a part of the pattern or an item of
the class around it. -/
def closeClass (state : State) : State :=
  match state.classes with
  | [] => state
  | [c] => { state with classes := [] }.part (c.depth + 1)
  | c :: outer => { state with classes := outer }.item (c.depth + 1) none

/-- After an operator of two equal characters, the first of which has been read. -/
def operate (state : State) : State :=
  let classes := match state.classes with
    | [] => []
    | c :: outer => c.operate :: outer
  { state with mode := .inClass none, classes := classes, settled := 1 }

/-- Reads a character of a class. A hyphen after an item makes a range of it, unless the class ends
there or another hyphen follows. -/
def readClass (state : State) (last : Option Item) (c : Char) (rest : Text) : Option State :=
  let begins := c = '-' ∧ state.ahead? rest ≠ some ']' ∧ state.ahead? rest ≠ some '-'
  match last with
  | some (.char low) => if begins then some (state.enter (.inRange low)) else single
  | some .set => if begins then none else single
  | none => single
where
  /-- Reads a character that is not the hyphen of a range. -/
  single : Option State :=
    if c = '[' then
      match namedClass? rest with
      | none => some state.openClass
      | some (negated, length) =>
          if negated ∧ !state.flags.unicode then none
          else some { state.item 0 none with settled := length }
    else if c = ']' then
      some state.closeClass
    else if c = '\\' then
      some (state.enter (.escape .inClass))
    else if c ∈ ['-', '&', '~'] ∧ rest.head? = some c then
      some state.operate
    else
      state.accept .inClass (.char c)

/-- Reads a character after the bracket that opens a class. A caret and hyphens may come first, and
a closing bracket that comes first stands for itself. A negated class has bytes that are not ASCII. -/
def readClassStart (state : State) (caret hyphen : Bool) (c : Char) (rest : Text) : Option State :=
  if c = '^' ∧ !caret ∧ !hyphen then
    if state.flags.unicode then some (state.enter (.classStart true false)) else none
  else if c = '-' then
    some ((state.item 0 none).enter (.classStart caret true))
  else if c = ']' ∧ !hyphen then
    some (state.item 0 none)
  else
    state.readClass none c rest

/-! ### Escapes -/

/-- After an escape for a place in the text, such as its start. No class can hold one. -/
def anchor (state : State) (place : Place) : Option State :=
  if place = .outside then some (state.part 0) else none

/-- Reads the character after a backslash. The complement of a class has bytes that are not ASCII,
and boundaries of words can be searched for among bytes only. -/
def readEscape (state : State) (place : Place) (c : Char) : Option State :=
  let unicode := state.flags.unicode
  match c with
  | 'x' => some (state.enter (.digits place true 2 0))
  | 'u' => some (state.enter (.digits place false 4 0))
  | 'U' => some (state.enter (.digits place false 8 0))
  | 'p' | 'P' => if unicode then some (state.enter (.category place)) else none
  | 'd' | 's' | 'w' => state.accept place .set
  | 'D' | 'S' | 'W' => if unicode then state.accept place .set else none
  | 'a' => state.accept place (.char '\x07')
  | 'f' => state.accept place (.char '\x0c')
  | 't' => state.accept place (.char '\t')
  | 'n' => state.accept place (.char '\n')
  | 'r' => state.accept place (.char '\r')
  | 'v' => state.accept place (.char '\x0b')
  | 'A' | 'z' => state.anchor place
  | 'b' | 'B' | '<' | '>' => if unicode then none else state.anchor place
  | _ => if c ≤ '\x7f' ∧ !c.isAlphanum then state.accept place (.char c) else none

/-- The value of a hexadecimal digit. -/
def digit? (c : Char) : Option Nat :=
  if '0' ≤ c ∧ c ≤ '9' then some (c.toNat - '0'.toNat)
  else if 'a' ≤ c ∧ c ≤ 'f' then some (c.toNat - 'a'.toNat + 10)
  else if 'A' ≤ c ∧ c ≤ 'F' then some (c.toNat - 'A'.toNat + 10)
  else none

/-- Reads one of the digits that give the number of a character. -/
def readDigit (state : State) (place : Place) (isByte : Bool) (owed value : Nat) (c : Char) :
    Option State := do
  let value := value * 16 + (← digit? c)
  if 1 < owed then
    some (state.enter (.digits place isByte (owed - 1) value))
  else if value.isValidChar ∧ (!isByte ∨ state.admits (Char.ofNat value)) then
    state.accept place (.char (Char.ofNat value))
  else
    none

/-- Reads the letter of a general category. -/
def readCategory (state : State) (place : Place) (c : Char) : Option State :=
  if c.toLower ∈ "lmnpszc".toList then state.accept place .set else none

/-! ### Any character -/

/-- Reads a character that counts. -/
def read (state : State) (c : Char) (rest : Text) : Option State :=
  match state.mode with
  | .outside => state.readOutside c
  | .repetition => if c = '?' then some (state.enter .outside) else state.readOutside c
  | .group =>
      if c = '?' then some (state.enter .groupMark) else (state.openGroup state.flags).readOutside c
  | .groupMark => state.readGroupMark c
  | .groupLetter => if c = '<' then some (state.enter (.groupName [])) else none
  | .groupName soFar => state.readName soFar c
  | .groupFlags seen => state.readFlags seen c
  | .classStart caret hyphen => state.readClassStart caret hyphen c rest
  | .inClass last => state.readClass last c rest
  | .inRange low =>
      if c = '\\' then some (state.enter (.escape (.inRange low)))
      else state.accept (.inRange low) (.char c)
  | .escape place => state.readEscape place c
  | .digits place isByte owed value => state.readDigit place isByte owed value c
  | .category place => state.readCategory place c

/-- After spacing, which stands between a repetition and a question mark. -/
def afterSpacing (state : State) : State :=
  if state.mode = .repetition then state.enter .outside else state

/-- Reads a character with `rest` behind it. -/
def step (state : State) (c : Char) (rest : Text) : Option State :=
  if state.settled ≠ 0 then
    some { state with settled := state.settled - 1 }
  else if state.comment then
    some { state with comment := c ≠ '\n' }
  else if state.flags.spaced ∧ state.mode.admitsSpacing ∧ isSpacing c then
    some state.afterSpacing
  else if state.flags.spaced ∧ state.mode.admitsSpacing ∧ c = '#' then
    some { state.afterSpacing with comment := true }
  else
    state.read c rest

end LoxTokens.Pattern.State
