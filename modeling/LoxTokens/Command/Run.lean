import LoxTokens.Run.Prompt

/-!
# Commands

A command line either is answered at once or leads to a run: over the script it names, or at the
prompt when it names none. The plan of a run is settled before any file is touched.
-/

namespace LoxTokens.Command

/-- The settings that a command finds in its environment. -/
structure Environment where
  /-- Stands in for the debug flag. -/
  debug : Option Text
  /-- Names the log records to show. -/
  logFilter : Option Text
deriving DecidableEq

/-- What a command is going to do. -/
structure Plan where
  filename : Option Text
  filter : Log.Filter
deriving DecidableEq

/-- The plan of a command, unless its line is answered at once. -/
def plan (environment : Environment) (arguments : List Text) : Except Halt Plan := do
  let wishes ← Wishes.nothing.readAll arguments
  let debug ← wishes.debugMode environment.debug
  return ⟨wishes.filename, .ofSetting debug environment.logFilter⟩

/-- The outcome of a command line that is answered at once. -/
def answer (environment : Environment) : Halt → Outcome
  | .help => ⟨helpText environment.debug, [], .success⟩
  | .version => ⟨versionText, [], .success⟩
  | .misuse fault => ⟨[], [.misuse fault], .misuse⟩

/-- A run over the file to which a path has led, if it has. -/
def runFile (filter : Log.Filter) : Except PathFault Bytes → Outcome
  | .ok bytes => Run.script filter bytes
  | .error fault => .broken [] (.path fault)

/-- What a command does in a folder, with bytes waiting on its standard input. -/
def run (environment : Environment) (folder : Folder) (input : Bytes) (arguments : List Text) :
    Outcome :=
  match plan environment arguments with
  | .error halt => answer environment halt
  | .ok ⟨some path, filter⟩ => runFile filter (folder.read input path)
  | .ok ⟨none, filter⟩ => Run.prompt filter input

end LoxTokens.Command
