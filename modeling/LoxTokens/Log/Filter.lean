import LoxTokens.Log
import LoxTokens.Text.Numeral
import LoxTokens.Text.Pattern
import LoxTokens.Text.Spacing
import LoxTokens.Text.Utf8

/-!
# Log filters

A filter is a list of directives. Each of them says from which level on records are shown, and may
be about some origins only or about records that carry a certain field. Of the directives that
concern a record the narrowest decides, and a record that none concerns is hidden. A filter only
hides records: it has no say in what is scanned, printed or reported.
-/

namespace LoxTokens.Log

/-- From which level on records of some kind are shown. -/
structure Directive where
  /-- The beginning of the names of the origins. -/
  target : Text
  /-- A field that the records carry, if it is about such records only. -/
  field : Option Text
  /-- The least level that is shown, or none to hide the records. -/
  least : Option Level
deriving DecidableEq

namespace Directive

def concerns (directive : Directive) (record : Record) : Bool :=
  directive.target.isPrefixOf origin && directive.field.all fun name => name ∈ record.fieldNames

def shows (directive : Directive) (record : Record) : Bool :=
  match directive.least with
  | none => false
  | some least => least.rank ≤ record.level.rank

/-- Whether a directive is as narrow as another one, both of which concern a record: its target is
longer, or it is equally long and its field does not come earlier in the order of words. -/
def isAsNarrowAs (directive other : Directive) : Bool :=
  other.target.length < directive.target.length ||
    (other.target.length == directive.target.length &&
      !(directive.field.getD []).lex (other.field.getD []) (· < ·))

/-! ### Reading a directive

Spacing around a directive does not count when its parts are looked for. The parts are then cut out
of the whole directive, at the places at which they were found without the spacing in front. A place
is the number of bytes before it.
-/

/-- The level that a word names, in letters of any case or as a number from 1 for errors to 5 for
everything; `off` and 0 stand for no level. -/
def readLevel? (word : Text) : Option (Option Level) :=
  let digits := match word with
    | '+' :: digits => digits
    | digits => digits
  if digits ≠ [] ∧ digits.all Char.isDigit then
    match Nat.ofDigitChars 10 digits 0 with
    | 0 => some none
    | n + 1 => (Level.all.find? fun level => level.rank + n = 4).map some
  else
    let word := word.map Char.toLower
    if word = "off".toList then
      some none
    else
      (Level.all.find? fun level => level.word.toList = word).map some

/-- The level at the end of a directive, where `rest` was found at `place`. All levels are meant if
there is none. -/
def readLeast? (directive : Text) (place : Nat) (rest : Text) : Option (Option Level) :=
  match rest with
  | [] => some (some .trace)
  | '=' :: _ =>
      match Utf8.dropBytes (place + 1) directive with
      | [] => some (some .trace)
      | word => readLevel? word
  | _ => none

/-- Reads the end of a directive, where `inside` was found at `place` after an opening bracket. One
about a span, or about the value of a field, concerns no record of a scan: nothing is left of it. A
value is a numeral or a regular expression. -/
def readBracket? (directive target : Text) (place : Nat) (inside : Text) :
    Option (Option Directive) :=
  let span := inside.takeWhile fun c => c != ']' && c != '\x7b'
  let place := place + Utf8.size span + 1
  match inside.drop span.length with
  | ']' :: rest => (readLeast? directive place rest).map fun _ => none
  | '\x7b' :: rest =>
      let inner := rest.takeWhile (· != '\x7d')
      let field := Utf8.takeBytes (Utf8.size inner) (Utf8.dropBytes place directive)
      match rest.drop inner.length, field.splitOn '=' with
      | '\x7d' :: ']' :: rest, field :: values =>
          if inner = [] ∨ !values.head?.all fun value => isNumeral value || isPattern value then
            none
          else
            (readLeast? directive (place + Utf8.size inner + 2) rest).map fun least =>
              if span = [] ∧ values = [] then some ⟨target, some field, least⟩ else none
      | _, _ => none
  | _ => none

/-- Whether a directive can begin with a character, apart from the opening bracket. -/
def canBegin (c : Char) : Bool :=
  isAlphabetic c || isNumeric c || c == '-' || c == ':' || c == '_'

/-- Reads a directive: a level, a target, or a target and a level with an equals sign between them.
A bracket may stand after the target or in its place. -/
def read? (directive : Text) : Option (Option Directive) :=
  match directive.trim with
  | [] => none
  | '[' :: inside => readBracket? directive [] 1 inside
  | c :: s =>
      if canBegin c then
        let first := (c :: s).takeWhile fun c => c != '=' && c != '['
        let place := Utf8.size first
        let target := Utf8.takeBytes place directive
        match (c :: s).drop first.length with
        | [] =>
            match readLevel? directive with
            | some least => some (some ⟨[], none, least⟩)
            | none => some (some ⟨directive, none, some .trace⟩)
        | '[' :: inside => readBracket? directive target (place + 1) inside
        | rest => (readLeast? directive place rest).map fun least => some ⟨target, none, least⟩
      else
        none

end Directive

structure Filter where
  directives : List Directive
deriving DecidableEq

namespace Filter

/-- The filter of all origins from a level on. -/
def atLeast (level : Level) : Filter :=
  ⟨[⟨[], none, some level⟩]⟩

/-- The narrowest directive that concerns a record; of equally narrow ones the last. -/
def decisive? (filter : Filter) (record : Record) : Option Directive :=
  (filter.directives.filter (·.concerns record)).foldl
    (fun best? directive => if best?.all directive.isAsNarrowAs then some directive else best?) none

/-- The record is shown. -/
def shows (filter : Filter) (record : Record) : Bool :=
  match filter.decisive? record with
  | none => false
  | some directive => directive.shows record

/-- A filter from a level on shows the records from this level on. -/
@[simp]
theorem shows_atLeast (level : Level) (record : Record) :
    (atLeast level).shows record = decide (level.rank ≤ record.level.rank) := by
  simp [atLeast, shows, decisive?, Directive.concerns, Directive.shows]

/-- Reads a filter: directives between commas. -/
def read? (s : Text) : Option Filter := do
  let directives ← ((s.splitOn ',').filter (· ≠ [])).mapM Directive.read?
  return ⟨directives.filterMap id⟩

/-- The filter of a run. A setting that cannot be read counts as absent; without one, a run in debug
mode shows everything and any other run shows warnings. -/
def ofSetting (debug : Bool) (setting : Option Text) : Filter :=
  (setting.bind read?).getD (atLeast (if debug then .trace else .warn))

end Filter

end LoxTokens.Log
