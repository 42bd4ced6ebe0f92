import LoxTokens.Run.Outcome
import LoxTokens.Text.Lines

/-!
# Expectations

A golden test says in its own comments what a run over it prints. On each line, what follows the
first marker for the first stream is a line expected there, and likewise for the second stream; the
two markers are looked for independently, so one can stand inside the other's text. The reader does
not know where comments begin: a marker counts wherever it stands.
-/

namespace LoxTokens.Golden

/-- What follows the first occurrence of a marker. -/
def textAfter? (marker : Text) : Text → Option Text
  | [] => if marker = [] then some [] else none
  | c :: rest =>
      if marker.isPrefixOf (c :: rest) then
        some ((c :: rest).drop marker.length)
      else
        textAfter? marker rest

/-- Announces a line of the first stream. -/
def outputMarker : Text :=
  "// expect: ".toList

/-- Announces a line of the second stream. -/
def errorMarker : Text :=
  "// expect error: ".toList

/-- The lines that a run is expected to write to its two streams. -/
structure Expectations where
  stdout : List Text
  stderr : List Text
deriving DecidableEq

namespace Expectations

/-- The expectations that a test states about itself. -/
def ofText (content : Text) : Expectations :=
  { stdout := content.lines.filterMap (textAfter? outputMarker)
    stderr := content.lines.filterMap (textAfter? errorMarker) }

/-- The expected exit status: lexical errors are expected if anything is on the second stream. -/
def status (expected : Expectations) : ExitStatus :=
  if expected.stderr = [] then .success else .lexicalErrors

end Expectations

end LoxTokens.Golden
