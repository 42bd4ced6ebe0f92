import LoxTokens.Scan

/-!
# Reporters

A reporter takes the diagnostics of a scan. A console prints each one and remembers only that there
was one, until it is reset; a collector keeps them all; a callback is called with each and has no
opinion on whether there was an error. What a reporter has taken before has no bearing on what it is
handed next.
-/

namespace LoxTokens

/-- A reporter with what it remembers. -/
inductive Reporter where
  /-- Prints; remembers whether it has printed since the last reset. -/
  | console (hadError : Bool)
  /-- Keeps every diagnostic, oldest first. -/
  | collecting (diagnostics : List Diagnostic)
  /-- Calls a function; `calls` are the calls made so far, oldest first. -/
  | callback (calls : List Diagnostic)
deriving DecidableEq

namespace Reporter

/-- A reporter after it has taken a diagnostic. -/
def report : Reporter → Diagnostic → Reporter
  | console _, _ => console true
  | collecting diagnostics, d => collecting (diagnostics ++ [d])
  | callback calls, d => callback (calls ++ [d])

/-- What a reporter answers when asked whether there was an error. -/
def hadError : Reporter → Bool
  | console hadError => hadError
  | collecting diagnostics => !diagnostics.isEmpty
  | callback _ => false

/-- Makes a console forget its errors. The other reporters have nothing to reset. -/
def reset : Reporter → Reporter
  | console _ => console false
  | other => other

/-- What a reporter prints when it takes a diagnostic. -/
def printed : Reporter → Diagnostic → Text
  | console _, d => d.listing ++ ['\n']
  | _, _ => []

/-- A reporter after everything that was said; log records are not meant for it. -/
def hear (reporter : Reporter) (emissions : List Emission) : Reporter :=
  (emissions.filterMap Emission.diagnostic?).foldl report reporter

/-- What a reporter prints of everything that was said. -/
def printedOf (reporter : Reporter) (emissions : List Emission) : Text :=
  (emissions.filterMap Emission.diagnostic?).flatMap reporter.printed

def describeConsole (hadError : Bool) : Description :=
  .record "ConsoleReporter" [("had_error", .word (if hadError then "true" else "false").toList)]

end Reporter

/-! ### Sessions -/

/-- Something that is done with a reporter. -/
inductive Step where
  /-- A diagnostic is handed to it directly. -/
  | report (d : Diagnostic)
  /-- A source is scanned on it. -/
  | scan (source : Text)
  /-- It is reset. -/
  | reset
deriving DecidableEq

/-- What a step has come to. -/
structure Stage where
  /-- The tokens, if the step was a scan. -/
  tokens : Option (List Token)
  /-- What the reporter printed during the step. -/
  printed : Text
  /-- The reporter after the step. -/
  reporter : Reporter
deriving DecidableEq

namespace Reporter

/-- A reporter goes through one step. -/
def perform (reporter : Reporter) : Step → Stage
  | .report d => ⟨none, reporter.printed d, reporter.report d⟩
  | .scan source =>
      let emissions := Scan.emissions source
      ⟨some (Scan.tokens source), reporter.printedOf emissions, reporter.hear emissions⟩
  | .reset => ⟨none, [], reporter.reset⟩

/-- A reporter goes through several steps; the stages, one for each step. -/
def session (reporter : Reporter) : List Step → List Stage
  | [] => []
  | step :: steps =>
      let stage := reporter.perform step
      stage :: stage.reporter.session steps

end Reporter

end LoxTokens
