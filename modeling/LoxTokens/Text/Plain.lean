import LoxTokens.Text.Utf8

/-!
# Plain texts

A terminal takes some characters as commands. An escape character begins a control sequence, whose
form says how far it reaches; other controls act alone. A plain text holds none of this: it is what
a page would show. Tabs, line feeds, form feeds and carriage returns count as text, even where they
interrupt an escape or a control sequence. After such an interruption characters are text again up
to the next control, and from there on the sequence goes on.
-/

namespace LoxTokens

/-- What a terminal is reading. -/
inductive Reading where
  | text
  /-- What an escape character introduces. -/
  | escape
  /-- An escape of several characters, whose last one is owed. -/
  | designation
  /-- A control sequence, up to a character from `@` to `~`. -/
  | sequence
  /-- What introduces a string for a device. -/
  | device
  /-- The parameters of that introduction. -/
  | deviceParameters
  /-- The end of that introduction, whose last character is owed. -/
  | deviceDesignation
  /-- A string that no page shows, up to a character whose encoding has the byte 9C. -/
  | string
  /-- A command to the operating system, up to a bell. -/
  | command
deriving DecidableEq

namespace Reading

/-- The controls that move the place of writing as spaces and line ends do. -/
def isLayout (c : Char) : Bool :=
  c == '\t' || c == '\n' || c == '\x0c' || c == '\r'

/-- Whether a page shows a character that is read as text. -/
def isShown (c : Char) : Bool :=
  isLayout c || ('\x20' ≤ c && c ≠ '\x7f')

/-- Whether a page shows a character that is read here. -/
def shows (reading : Reading) (c : Char) : Bool :=
  match reading with
  | text => isShown c
  | escape | designation | sequence => isLayout c
  | device | deviceParameters | deviceDesignation | string | command => false

/-- What an escape character and `c` begin. -/
def introducedBy (c : Char) : Reading :=
  if c = '[' then sequence
  else if c = ']' then command
  else if c = 'P' then device
  else if c = 'X' ∨ c = '^' ∨ c = '_' then string
  else if '\x20' ≤ c ∧ c ≤ '/' then designation
  else if '0' ≤ c ∧ c ≤ '~' then text
  else escape

/-- What is being read after `c`. An escape character begins anew anywhere, and the controls 18 and
1A break off anything. -/
def next (reading : Reading) (c : Char) : Reading :=
  if c = '\x1b' then escape
  else if c = '\x18' ∨ c = '\x1a' then text
  else
    match reading with
    | text => text
    | escape => introducedBy c
    | designation => if '0' ≤ c ∧ c ≤ '~' then text else designation
    | sequence => if '@' ≤ c ∧ c ≤ '~' then text else sequence
    | device =>
        if '\x20' ≤ c ∧ c ≤ '/' then deviceDesignation
        else if '0' ≤ c ∧ c ≤ '?' then deviceParameters
        else if '@' ≤ c ∧ c ≤ '~' then string
        else device
    | deviceParameters =>
        if '\x20' ≤ c ∧ c ≤ '/' then deviceDesignation
        else if '<' ≤ c ∧ c ≤ '~' then string
        else deviceParameters
    | deviceDesignation => if '0' ≤ c ∧ c ≤ '~' then string else deviceDesignation
    | string => if 0x9C ∈ Utf8.encode [c] then text else string
    | command => if c = '\x07' then text else command

end Reading

namespace Text

/-- What a page shows of a text. The flag says that it shows the character before: then it goes on
as long as characters can be read as text, whatever sequence they interrupt. -/
def shownAfter (flowing : Bool) (reading : Reading) : Text → Text
  | [] => []
  | c :: s =>
      if flowing && Reading.isShown c then
        c :: shownAfter true (if c ≤ '\x7f' then reading else .text) s
      else if reading.shows c then
        c :: shownAfter true (reading.next c) s
      else
        shownAfter false (reading.next c) s

/-- A text without control sequences and other controls. -/
def plain (s : Text) : Text :=
  shownAfter true .text s

end Text

end LoxTokens
