import LoxTokens.Golden.Comparison
import LoxTokens.Run.Script

/-!
# Golden tests

A golden test is a script that is run as it stands, without logging, and held against what it says
about itself. Both streams are compared before the exit status is. The program that runs it is one
that is broken off where lines run out of numbers.
-/

namespace LoxTokens.Golden

/-- The log filter of a test run: nothing below a warning, which a scan never gives. -/
def quiet : Log.Filter :=
  .atLeast .warn

/-- What a run over a test falls short of, as it is shown. -/
def failures (expected : Expectations) (outcome : Outcome) : List Text :=
  let found := compare "stdout".toList expected.stdout outcome.stdout []
  let found := compare "stderr".toList expected.stderr outcome.stderr found
  if outcome.status = expected.status then
    found
  else
    found ++ [(Mismatch.exitStatus expected.status outcome.status).listing]

/-- Runs a test. Its bytes must be a text, or there is nothing to expect. -/
def test (lastWords : Text → Text) (content : Bytes) : Except Failure (List Text) :=
  match Utf8.decode content with
  | .error _ => .error .notText
  | .ok text =>
      .ok (failures (.ofText text) (Run.scriptBy (.debug lastWords) quiet content))

end LoxTokens.Golden
