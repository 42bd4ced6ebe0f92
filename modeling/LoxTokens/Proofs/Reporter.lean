import LoxTokens.Reporter

/-!
# What a reporter remembers

A console remembers whether it has heard a diagnostic, a collector and a callback which ones they have
heard.
-/

namespace LoxTokens.Reporter

theorem foldl_report_console (hadError : Bool) (heard : List Diagnostic) :
    heard.foldl report (console hadError) = console (hadError || !heard.isEmpty) := by
  induction heard generalizing hadError with
  | nil => exact congrArg console (Bool.or_false hadError).symm
  | cons d heard ih =>
      rw [List.foldl_cons, report, ih, Bool.true_or, List.isEmpty_cons, Bool.not_false,
        Bool.or_true]

/-- A reporter that keeps whatever it is handed, and has nothing to reset. -/
structure Keeps (keep : List Diagnostic → Reporter) : Prop where
  report_eq : ∀ kept d, (keep kept).report d = keep (kept ++ [d])
  reset_eq : ∀ kept, (keep kept).reset = keep kept

theorem keeps_collecting : Keeps collecting :=
  ⟨fun _ _ => rfl, fun _ => rfl⟩

theorem keeps_callback : Keeps callback :=
  ⟨fun _ _ => rfl, fun _ => rfl⟩

theorem Keeps.foldl_report {keep : List Diagnostic → Reporter} (hkeeps : Keeps keep)
    (kept heard : List Diagnostic) : heard.foldl report (keep kept) = keep (kept ++ heard) := by
  induction heard generalizing kept with
  | nil => simp
  | cons d heard ih => simp [hkeeps.report_eq, ih]

theorem hadError_hear_console (emissions : List Emission) :
    ((console false).hear emissions).hadError =
      !(emissions.filterMap Emission.diagnostic?).isEmpty := by
  rw [hear, foldl_report_console, Bool.false_or, hadError]

theorem hear_collecting (earlier : List Diagnostic) (emissions : List Emission) :
    (collecting earlier).hear emissions =
      collecting (earlier ++ emissions.filterMap Emission.diagnostic?) :=
  keeps_collecting.foldl_report earlier _

end LoxTokens.Reporter
