import LoxTokens.Command.Run

/-!
# The program

Reads the command line, the environment and the files, and writes what the library decides. At the
prompt every line is answered before the next one is read.
-/

namespace LoxTokens.Program

/-- Writes what a run has left behind and returns its exit code. -/
def write (outcome : Outcome) : IO UInt32 := do
  (← IO.getStderr).putStr (String.ofList outcome.stderr)
  (← IO.getStdout).putStr (String.ofList outcome.stdout)
  (← IO.getStdout).flush
  return UInt32.ofNat outcome.status.code

/-- The fault of a path that could not be read, if it is one that a run accounts for. The system
gives the number of a fault with either sign. -/
def pathFault? (error : IO.Error) : Option PathFault :=
  let withCode (code : UInt32) : Option PathFault :=
    PathFault.all.find? fun fault => fault.code = code.toNat ∨ fault.code = (-code).toNat
  match error with
  | .noFileOrDirectory _ code _ => withCode code
  | .inappropriateType _ code _ => withCode code
  | .invalidArgument _ code _ => withCode code
  | _ => none

def readFile (path : Text) : IO (Except PathFault Bytes) := do
  try
    return .ok (← IO.FS.readBinFile (String.ofList path)).toList
  catch error =>
    match pathFault? error with
    | some fault => return .error fault
    | none => throw error

/-- The bytes up to and including the next line feed, newest first. -/
partial def readLine (input : IO.FS.Stream) (taken : Bytes) : IO Bytes := do
  match (← input.read 1).toList with
  | [] => return taken
  | b :: _ => if b = 0x0A then return b :: taken else readLine input (b :: taken)

/-- The prompt: shows its mark, reads a line, answers it, and starts again. -/
partial def prompt (filter : Log.Filter) (reporter : Reporter) : IO UInt32 := do
  let output ← IO.getStdout
  output.putStr (String.ofList Run.promptMark)
  output.flush
  match ← readLine (← IO.getStdin) [] with
  | [] => return 0
  | line =>
      match Run.answerLine filter reporter line.reverse with
      | .error reason => write (.broken [] reason)
      | .ok answer =>
          discard <| write ⟨answer.stdout, answer.notices, .success⟩
          prompt filter answer.reporter

def setting? (name : String) : IO (Option Text) := do
  return (← IO.getEnv name).map String.toList

end LoxTokens.Program

open LoxTokens in
/-- Lists the tokens of a script, or of every line at the prompt. -/
def main (arguments : List String) : IO UInt32 := do
  let environment : Command.Environment :=
    ⟨← Program.setting? "LOXSCAN_DEBUG", ← Program.setting? "RUST_LOG"⟩
  match Command.plan environment (arguments.map String.toList) with
  | .error halt => Program.write (Command.answer environment halt)
  | .ok ⟨some path, filter⟩ =>
      Program.write (Command.runFile filter (← Program.readFile path))
  | .ok ⟨none, filter⟩ => Program.prompt filter Run.freshReporter
