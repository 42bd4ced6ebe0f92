import LoxTokens.Proofs.Golden.Comments
import LoxTokens.Proofs.Golden.Passing
import LoxTokens.Proofs.InPlace.Run
import Mathlib.Logic.Basic

/-!
# What a test fails on

A test fails on the lines of a stream or on its exit status, and a wrong exit status never comes
alone. The status of a run is read off its reports and the expected one off the expected reports, so
the two can only differ where one side has reports and the other has none, and then the second
stream has a line too many or one too few. A run that is broken off is another matter: its status is
none that a test expects.
-/

namespace LoxTokens.Golden

variable {stream content failure : Text} {wants lines : List Text} {expected : Expectations}
  {o : Outcome} {m : Mismatch}

/-! ### What mismatches say -/

end LoxTokens.Golden
