import LoxTokens.Proofs.InPlace.Listening
import LoxTokens.Proofs.Placement
import LoxTokens.Proofs.Reporter
import Mathlib.Data.List.DropRight

/-!
# Sessions of the three reporters

What a step hands to a reporter is the same for all reporters, and so is what comes back to the one who
takes the step. Only what a reporter makes of it differs: a collector and a callback keep the whole
session, a console keeps whether there was anything since it was last reset.
-/

namespace LoxTokens

namespace Step

/-- What a step hands to the reporter. -/
def handed : Step → List Diagnostic
  | report d => [d]
  | scan source => Scan.diagnostics source
  | reset => []

def tokens? : Step → Option (List Token)
  | scan source => some (Scan.tokens source)
  | _ => none

/-- The last steps of a session, as far back as there is no reset. -/
def sinceReset (steps : List Step) : List Step :=
  steps.rtakeWhile (· ≠ reset)

theorem sinceReset_concat (steps : List Step) (step : Step) :
    sinceReset (steps ++ [step]) = if step = reset then [] else sinceReset steps ++ [step] := by
  rw [sinceReset, List.rtakeWhile_concat]
  by_cases hreset : step = reset <;> simp [hreset, sinceReset]

end Step

namespace Reporter

variable {keep : List Diagnostic → Reporter}

/-! ### One step -/

theorem hear_emissions (reporter : Reporter) (source : Text) :
    reporter.hear (Scan.emissions source) = (Scan.diagnostics source).foldl report reporter := by
  rw [hear, Scan.filterMap_diagnostic?_emissions]

theorem printedOf_emissions (reporter : Reporter) (source : Text) :
    reporter.printedOf (Scan.emissions source) =
      (Scan.diagnostics source).flatMap reporter.printed := by
  rw [printedOf, Scan.filterMap_diagnostic?_emissions]

/-- All that a step does to a reporter goes through what it is handed, unless it is a reset. -/
theorem perform_eq (reporter : Reporter) (step : Step) :
    reporter.perform step =
      { tokens := step.tokens?
        printed := step.handed.flatMap reporter.printed
        reporter := if step = .reset then reporter.reset else step.handed.foldl report reporter } := by
  cases step with
  | report d => simp [perform, Step.tokens?, Step.handed]
  | scan source =>
      simp [perform, Step.tokens?, Step.handed, hear_emissions, printedOf_emissions]
  | reset => simp [perform, Step.tokens?, Step.handed]

/-- A reporter is handed a diagnostic while it is at work, with what it has printed so far. -/
def take (work : Reporter × Text) (d : Diagnostic) : Reporter × Text :=
  (work.1.report d, work.2 ++ work.1.printed d)

theorem printed_report (reporter : Reporter) (d : Diagnostic) :
    (reporter.report d).printed = reporter.printed := by
  funext e
  cases reporter <;> rfl

theorem foldl_take (reporter : Reporter) (shown : Text) (heard : List Diagnostic) :
    heard.foldl take (reporter, shown) =
      (heard.foldl report reporter, shown ++ heard.flatMap reporter.printed) := by
  induction heard generalizing reporter shown with
  | nil => simp
  | cons d heard ih => simp [take, ih, printed_report]

/-- The reporter can as well be at work while the source is scanned. -/
theorem scanOn_take (reporter : Reporter) (source : Text) :
    InPlace.scanOn take .wrapping (.ofList source) (reporter, []) =
      .ok (Scan.tokens source, (reporter.perform (.scan source)).reporter,
        (reporter.perform (.scan source)).printed) := by
  calc
    InPlace.scanOn take .wrapping (.ofList source) (reporter, [])
      = .ok (Scan.tokens source, ((Scan.emissions source).filterMap Emission.diagnostic?).foldl take
          (reporter, [])) := by
        rw [InPlace.scanOn_eq, InPlace.scanCounting_wrapping, String.toList_ofList]
        rfl
    _ = .ok (Scan.tokens source, reporter.hear (Scan.emissions source),
          reporter.printedOf (Scan.emissions source)) := by
        rw [foldl_take]
        rfl

theorem Keeps.reporter_perform (hkeeps : Keeps keep) (kept : List Diagnostic) (step : Step) :
    ((keep kept).perform step).reporter = keep (kept ++ step.handed) := by
  rw [perform_eq]
  by_cases hreset : step = .reset
  · simp [hreset, hkeeps.reset_eq, Step.handed]
  · simp [hreset, hkeeps.foldl_report]

theorem reporter_perform_console (hadError : Bool) (step : Step) :
    ((console hadError).perform step).reporter =
      console (step ≠ .reset && (hadError || !step.handed.isEmpty)) := by
  rw [perform_eq]
  by_cases hreset : step = .reset
  · simp [hreset, reset]
  · simp [hreset, foldl_report_console]

/-! ### Whole sessions -/

/-- The reporter at the end of a session. -/
def through (reporter : Reporter) (steps : List Step) : Reporter :=
  steps.foldl (fun reporter step => (reporter.perform step).reporter) reporter

theorem through_concat (reporter : Reporter) (steps : List Step) (step : Step) :
    reporter.through (steps ++ [step]) = ((reporter.through steps).perform step).reporter := by
  simp [through]

theorem getElem?_session (reporter : Reporter) (before after : List Step) (step : Step) :
    (reporter.session (before ++ step :: after))[before.length]? =
      some ((reporter.through before).perform step) := by
  induction before generalizing reporter with
  | nil => rfl
  | cons first before ih =>
      simp only [List.cons_append, session, List.length_cons, List.getElem?_cons_succ, ih]
      rfl

theorem Keeps.through (hkeeps : Keeps keep) (kept : List Diagnostic) (steps : List Step) :
    (keep kept).through steps = keep (kept ++ steps.flatMap Step.handed) := by
  induction steps using List.reverseRecOn with
  | nil => simp [Reporter.through]
  | append_singleton steps step ih =>
      rw [through_concat, ih, hkeeps.reporter_perform]
      simp

theorem through_console (steps : List Step) :
    (console false).through steps =
      console (!((Step.sinceReset steps).flatMap Step.handed).isEmpty) := by
  induction steps using List.reverseRecOn with
  | nil => simp [through, Step.sinceReset]
  | append_singleton steps step ih =>
      rw [through_concat, ih, reporter_perform_console, Step.sinceReset_concat]
      by_cases hreset : step = .reset
      · simp [hreset]
      · rw [if_neg hreset, List.flatMap_append]
        cases (Step.sinceReset steps).flatMap Step.handed <;> simp [hreset]

/-- Whatever a reporter is and whatever it has been handed before, a scan comes to the same tokens and
hands over the same reports as a scan that nobody listens to. The three reporters have kept or printed
what they were handed, and each answers for as much of the session as it remembers. -/
theorem sessions_agree (before after : List Step) (step : Step) :
    ∃ console collecting callback : Stage,
      ((Reporter.console false).session (before ++ step :: after))[before.length]? = some console ∧
      ((Reporter.collecting []).session (before ++ step :: after))[before.length]? =
        some collecting ∧
      ((Reporter.callback []).session (before ++ step :: after))[before.length]? =
        some callback ∧
      (∀ d, step = .report d → step.handed = [d]) ∧ (step = .reset → step.handed = []) ∧
      (∀ source, step = .scan source → ∃ result,
        InPlace.Yields (.ofList source) result ∧ step.handed = result.diagnostics ∧
        console.tokens = some result.tokens ∧ collecting.tokens = some result.tokens ∧
        callback.tokens = some result.tokens ∧
        (∀ reporter : Reporter,
          InPlace.scanOn take .wrapping (.ofList source) (reporter, []) =
            .ok (result.tokens, (reporter.perform step).reporter,
              (reporter.perform step).printed)) ∧
        ∀ {α : Type} (hand : α → Diagnostic → α) (counting : InPlace.Counting) (listener : α),
          InPlace.scanOn hand counting (.ofList source) listener =
            (InPlace.scanCounting counting (.ofList source)).map fun result =>
              (result.tokens, result.diagnostics.foldl hand listener)) ∧
      collecting.reporter = .collecting ((before ++ [step]).flatMap Step.handed) ∧
      callback.reporter = .callback ((before ++ [step]).flatMap Step.handed) ∧
      (console.printed = step.handed.flatMap fun d =>
        "[line ".toList ++ Text.decimal d.line.toNat ++ "] Error: ".toList ++ d.message ++ ['\n']) ∧
      collecting.printed = [] ∧ callback.printed = [] ∧
      (console.reporter.hadError = true ↔
        (Step.sinceReset (before ++ [step])).flatMap Step.handed ≠ []) ∧
      (collecting.reporter.hadError = true ↔ (before ++ [step]).flatMap Step.handed ≠ []) ∧
      callback.reporter.hadError = false := by
  have hconsole := through_console (before ++ [step])
  have hcollecting := keeps_collecting.through [] (before ++ [step])
  have hcallback := keeps_callback.through [] (before ++ [step])
  rw [through_concat] at hconsole hcollecting hcallback
  rw [List.nil_append] at hcollecting hcallback
  refine ⟨_, _, _, getElem?_session _ before after step, getElem?_session _ before after step,
    getElem?_session _ before after step, ?_, ?_, ?_, hcollecting, hcallback, ?_, ?_, ?_, ?_, ?_, ?_⟩
  · rintro d rfl
    rfl
  · rintro rfl
    rfl
  · rintro source rfl
    have hyields := InPlace.yields_scan (.ofList source)
    rw [String.toList_ofList] at hyields
    refine ⟨_, hyields, ?_, rfl, rfl, rfl, fun reporter => scanOn_take reporter source, ?_⟩
    · exact (Scan.filterMap_diagnostic?_emissions source).symm
    · intro α hand counting listener
      exact InPlace.scanOn_eq hand counting (.ofList source) listener
  · rw [perform_eq, through_console]
    rfl
  · rw [perform_eq, keeps_collecting.through]
    exact List.flatMap_eq_nil_iff.mpr fun _ _ => rfl
  · rw [perform_eq, keeps_callback.through]
    exact List.flatMap_eq_nil_iff.mpr fun _ _ => rfl
  · rw [hconsole]
    simp [hadError]
  · rw [hcollecting]
    simp [hadError]
  · rw [hcallback, hadError]

end Reporter

end LoxTokens
