import LoxTokens.Command.Answer
import LoxTokens.Folder
import LoxTokens.Log.Filter
import LoxTokens.Scan

/-!
# Outcomes

A run leaves behind what it wrote to its two streams and an exit status. The second stream is kept as
a sequence of notices, so that log lines, diagnostics and the reason of a failure can be told apart
after the fact; the text of the stream is their listings one after another.
-/

namespace LoxTokens

inductive ExitStatus where
  | success
  | failure
  | misuse
  | lexicalErrors
  /-- The runtime has broken the run off. -/
  | aborted
deriving DecidableEq

/-- The number that an exit status stands for. -/
def ExitStatus.code : ExitStatus → Nat
  | success => 0
  | failure => 1
  | misuse => 2
  | lexicalErrors => 65
  | aborted => 101

/-- Why a run broke off. -/
inductive Failure where
  /-- A path could not be read. -/
  | path (fault : PathFault)
  /-- Bytes that are read as a text are not one. -/
  | notText
  /-- The bytes of a script are not a text. -/
  | undecodable (bytes : Bytes) (fault : Utf8.Malformed)
deriving DecidableEq

/-- The place and extent of malformed bytes, by their parts. -/
def Utf8.Malformed.describe (fault : Utf8.Malformed) : Description :=
  .record "Utf8Error"
    [("valid_up_to", .number fault.validUpTo),
      ("error_len", .optional (fault.badLength.map .number))]

namespace Failure

def describe : Failure → Description
  | path fault =>
      .record "Os"
        [("code", .number fault.code),
          ("kind", .word fault.kind.toList),
          ("message", .quoted fault.message.toList)]
  | notText =>
      .record "Error"
        [("kind", .word "InvalidData".toList),
          ("message", .quoted "stream did not contain valid UTF-8".toList)]
  | undecodable bytes fault =>
      .record "FromUtf8Error"
        [("bytes", .list (bytes.map fun b => .number b.toNat)),
          ("error", fault.describe)]

end Failure

/-- Something written to the second stream of a run. -/
inductive Notice where
  | log (record : Log.Record)
  | diagnostic (d : Diagnostic)
  | failure (reason : Failure)
  | misuse (fault : Command.Misuse)
  /-- What the runtime writes when it breaks the run off. -/
  | lastWords (text : Text)
deriving DecidableEq

namespace Notice

def listing : Notice → Text
  | log record => record.listing ++ ['\n']
  | diagnostic d => d.listing ++ ['\n']
  | failure reason => "Error: ".toList ++ reason.describe.inline ++ ['\n']
  | misuse fault => fault.message
  | lastWords text => text

/-- What a console shows of something that is said during a scan. -/
def ofEmission? (filter : Log.Filter) : Emission → Option Notice
  | .log record => if filter.shows record then some (log record) else none
  | .report d => some (diagnostic d)

end Notice

/-- What a run leaves behind. -/
structure Outcome where
  stdout : Text
  notices : List Notice
  status : ExitStatus
deriving DecidableEq

namespace Outcome

def stderr (outcome : Outcome) : Text :=
  outcome.notices.flatMap Notice.listing

/-- A run that breaks off after it has written something. -/
def broken (stdout : Text) (reason : Failure) : Outcome :=
  ⟨stdout, [.failure reason], .failure⟩

/-- A run that has written something before. -/
def after (stdout : Text) (notices : List Notice) (outcome : Outcome) : Outcome :=
  { outcome with stdout := stdout ++ outcome.stdout, notices := notices ++ outcome.notices }

end Outcome

end LoxTokens
