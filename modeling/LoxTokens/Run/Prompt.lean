import LoxTokens.Run.Script
import LoxTokens.Text.Lines

/-!
# Prompt runs

The prompt reads its input line by line and scans each line as a source of its own, line feed
included. The reporter lives through all lines and is reset after each, so a line does not inherit
the errors of another. A line that is not a text ends the run, but its prompt has been shown by then.
-/

namespace LoxTokens.Run

/-- What is shown before a line is read. -/
def promptMark : Text :=
  ['>', ' ']

/-- What a line comes to, and the reporter as the next line finds it. -/
structure Answer where
  stdout : Text
  notices : List Notice
  reporter : Reporter
deriving DecidableEq

/-- Answers one line. -/
def answerLine (filter : Log.Filter) (reporter : Reporter) (line : Bytes) :
    Except Failure Answer :=
  match Utf8.decode line with
  | .error _ => .error .notText
  | .ok source =>
      .ok ⟨listing source, notices filter source, (reporter.hear (Scan.emissions source)).reset⟩

/-- Goes through lines with a reporter. -/
def promptLines (filter : Log.Filter) (reporter : Reporter) : List Bytes → Outcome
  | [] => ⟨promptMark, [], .success⟩
  | line :: lines =>
      match answerLine filter reporter line with
      | .error reason => .broken promptMark reason
      | .ok answer =>
          (promptLines filter answer.reporter lines).after
            (promptMark ++ answer.stdout) answer.notices

/-- A run over the bytes of the standard input. -/
def prompt (filter : Log.Filter) (input : Bytes) : Outcome :=
  promptLines filter freshReporter (cutAfter 0x0A input)

end LoxTokens.Run
