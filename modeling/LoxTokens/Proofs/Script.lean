import LoxTokens.Proofs.InPlace.Run
import LoxTokens.Proofs.Reporter
import LoxTokens.Proofs.Utf8
import LoxTokens.Run.Script

/-!
# Runs over a text

A script that is the bytes of a text is run as the text, and it succeeds if and only if there is
nothing to report. Where only warnings are logged, the reports are all that the second stream shows. As
long as every line has a number, all this is the same for any build; with one line more a program that
checks its lines is broken off, and has shown the first of what there was to be shown.
-/

namespace LoxTokens

namespace InPlace.State

variable {counting : Counting} {source : String} {s : State}

end InPlace.State

namespace Run

variable {b : Build} {filter : Log.Filter} {source : Text}

/-- What a run over a text comes to if it is not broken off. -/
def ofText (filter : Log.Filter) (source : Text) : Outcome :=
  { stdout := listing source
    notices := notices filter source
    status :=
      if (freshReporter.hear (Scan.emissions source)).hadError then .lexicalErrors else .success }

theorem ofTextBy_of_numbered
    (hlines : b.counting = .wrapping ∨ 1 + source.newlines < UInt32.size) :
    ofTextBy b filter source = ofText filter source := by
  rw [ofTextBy, InPlace.scanCounting_ofList_of_numbered b.counting hlines]
  rfl

theorem scriptBy_encode (b : Build) (filter : Log.Filter) (source : Text) :
    scriptBy b filter (Utf8.encode source) = ofTextBy b filter source := by
  rw [scriptBy, Utf8.decode_encode]

theorem scriptBy_of_error {bytes : Bytes} {fault : Utf8.Malformed}
    (hread : Utf8.decode bytes = .error fault) :
    scriptBy b filter bytes = .broken [] (.undecodable bytes fault) := by
  rw [scriptBy, hread]

theorem script_encode (filter : Log.Filter) (source : Text) :
    script filter (Utf8.encode source) = ofText filter source := by
  rw [script, scriptBy_encode, ofTextBy_of_numbered (Or.inl rfl)]

/-- A run over bytes is a run over a text, or there is no text to be run. -/
theorem script_cases (bytes : Bytes) :
    (∃ source, Utf8.decode bytes = .ok source ∧ ∀ filter, script filter bytes = ofText filter source) ∨
      ∃ fault, Utf8.decode bytes = .error fault ∧
        ∀ filter, script filter bytes = .broken [] (.undecodable bytes fault) := by
  cases hread : Utf8.decode bytes with
  | ok source =>
      refine Or.inl ⟨source, rfl, fun filter => ?_⟩
      rw [script, scriptBy, hread]
      exact ofTextBy_of_numbered (Or.inl rfl)
  | error fault => exact Or.inr ⟨fault, rfl, fun filter => scriptBy_of_error hread⟩

theorem status_ofText (filter : Log.Filter) (source : Text) :
    (ofText filter source).status =
      if Scan.diagnostics source = [] then .success else .lexicalErrors := by
  rw [ofText, freshReporter, Reporter.hadError_hear_console, Scan.filterMap_diagnostic?_emissions]
  by_cases hclean : Scan.diagnostics source = []
  · rw [if_pos hclean, hclean]
    rfl
  · have hempty := mt List.isEmpty_iff.mp hclean
    rw [if_neg hclean, Bool.eq_false_iff.mpr hempty]
    rfl

theorem ofEmission?_atLeast_warn (e : Emission) :
    Notice.ofEmission? (.atLeast .warn) e = e.diagnostic?.map .diagnostic := by
  cases e with
  | report d => rfl
  | log record =>
      have hhidden : (Log.Filter.atLeast .warn).shows record = false := by
        rw [Log.Filter.shows_atLeast]
        cases record <;> rfl
      rw [Notice.ofEmission?, hhidden]
      rfl

theorem notices_atLeast_warn (source : Text) :
    notices (.atLeast .warn) source = (Scan.diagnostics source).map .diagnostic := by
  have hreports : Notice.ofEmission? (.atLeast .warn) = fun e => e.diagnostic?.map .diagnostic :=
    funext ofEmission?_atLeast_warn
  rw [notices, hreports, ← List.map_filterMap, Scan.filterMap_diagnostic?_emissions]

theorem stderr_atLeast_warn (source : Text) :
    (ofText (.atLeast .warn) source).stderr =
      (Scan.diagnostics source).flatMap fun d => d.listing ++ ['\n'] := by
  rw [Outcome.stderr, ofText, notices_atLeast_warn, List.flatMap_map]
  rfl

end Run

end LoxTokens
