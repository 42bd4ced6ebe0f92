import LoxTokens.Golden.Expectations

/-!
# Comparisons

The lines of a stream are held against the expected ones place by place. Where both have a line, the
two must be equal; what is left over on either side is a mismatch of its own. So a comparison finds
nothing exactly if the two lists are the same.
-/

namespace LoxTokens.Golden

/-- How a run can fall short of what was expected of it. -/
inductive Mismatch where
  /-- Another line stands where a line is expected. -/
  | differs (stream want line : Text)
  /-- A line stands where nothing is expected. -/
  | unexpected (stream line : Text)
  /-- Nothing stands where a line is expected. -/
  | missing (stream want : Text)
  /-- The run ended differently. -/
  | exitStatus (want got : ExitStatus)
deriving DecidableEq

namespace Mismatch

/-- A mismatch in a test report, without a line end. -/
def listing : Mismatch → Text
  | differs stream want line =>
      stream ++ ": Expected: ".toList ++ want ++ ", Actual: ".toList ++ line
  | unexpected stream line => stream ++ ": Unexpected output: ".toList ++ line
  | missing stream want => stream ++ ": Expected, not found: ".toList ++ want
  | exitStatus want got =>
      "Expected exit code ".toList ++ Text.decimal want.code ++ ", got Some(".toList ++
        Text.decimal got.code ++ [')']

/-- The mismatches between expected lines and those of a stream. -/
def between (stream : Text) : List Text → List Text → List Mismatch
  | want :: wants, line :: lines =>
      if want = line then
        between stream wants lines
      else
        .differs stream want line :: between stream wants lines
  | [], lines => lines.map (.unexpected stream)
  | wants, [] => wants.map (.missing stream)

end Mismatch

/-- Adds the mismatches of a stream's text to the failures found earlier. -/
def compare (stream : Text) (expected : List Text) (actual : Text) (earlier : List Text) :
    List Text :=
  earlier ++ (Mismatch.between stream expected actual.lines).map Mismatch.listing

end LoxTokens.Golden
