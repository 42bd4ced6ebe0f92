import LoxTokens.Golden.Test

/-!
# Suites

The tests of a folder are run in the order of their names' bytes, so the report does not depend on
the order in which the folder lists them. A test that cannot be run ends the suite where it stands:
its heading has been written, nothing after it is.
-/

namespace LoxTokens.Golden

/-- What is written before a test is run. -/
def heading (name : Text) : Text :=
  "Running test: ".toList ++ name ++ " ... ".toList

/-- What is written after a test was run. -/
def verdict : List Text → Text
  | [] => "pass!\n".toList
  | found => "\x1b[0;31mfail!\x1b[0m\n".toList ++ found.flatMap (· ++ ['\n'])

variable (lastWords : Text → Text)

/-- Runs what a name in the folder stands for. -/
def testItem : Item → Except Failure (List Text)
  | .file content => test lastWords content
  | .folder => .error (.path .isADirectory)

/-- Runs the tests in the given order; `failed` tells whether one has failed before. -/
def runInOrder (failed : Bool) : List Entry → Outcome
  | [] => ⟨[], [], if failed then .failure else .success⟩
  | entry :: entries =>
      match testItem lastWords entry.item with
      | .error reason => .broken (heading entry.name) reason
      | .ok found =>
          (runInOrder (failed || !found.isEmpty) entries).after
            (heading entry.name ++ verdict found) []

/-- The entries of a folder in the order of their names' bytes. -/
def sorted (folder : Folder) : List Entry :=
  folder.mergeSort fun a b => Utf8.encode a.name ≤ Utf8.encode b.name

/-- Runs the tests of a folder, if it exists. -/
def suite : Option Folder → Outcome
  | none => .broken [] (.path .notFound)
  | some folder => runInOrder lastWords false (sorted folder)

end LoxTokens.Golden
