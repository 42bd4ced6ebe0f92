import LoxTokens.Diagnostic
import LoxTokens.Token.Basic

/-!
# The log

A scan notes every token, every fault and its own end. Each note is a record with a level, a message
and the values that it carries.
-/

namespace LoxTokens.Log

/-- How much a record matters, least first. -/
inductive Level where
  | trace
  | debug
  | info
  | warn
  | error
deriving DecidableEq

namespace Level

def rank : Level → Nat
  | trace => 0
  | debug => 1
  | info => 2
  | warn => 3
  | error => 4

/-- A level as a filter names it. -/
def word : Level → String
  | trace => "trace"
  | debug => "debug"
  | info => "info"
  | warn => "warn"
  | error => "error"

/-- A level as it is shown in front of a record. -/
def name : Level → String
  | trace => "TRACE"
  | debug => "DEBUG"
  | info => "INFO"
  | warn => "WARN"
  | error => "ERROR"

def all : List Level :=
  [trace, debug, info, warn, error]

end Level

/-- A note that a scan takes. -/
inductive Record where
  /-- A token was found. The end of the source is not noted. -/
  | token (t : Token)
  /-- A fault is about to be reported. -/
  | lexicalError (line : UInt32) (fault : Fault)
  /-- The scan is over: the number of its tokens, of its faults and of the lines it has seen. -/
  | finished (tokens errors : Nat) (lines : UInt32)
deriving DecidableEq

namespace Record

def level : Record → Level
  | token _ => .trace
  | lexicalError _ _ => .debug
  | finished _ _ _ => .debug

/-- What a record is about. -/
def message : Record → String
  | token _ => "token"
  | lexicalError _ _ => "lexical error"
  | finished _ _ _ => "scan finished"

/-- The values that a record carries, in the order in which they are shown. -/
def fields : Record → List (String × Text)
  | token t => [("token", t.listing), ("line", Text.decimal t.line.toNat)]
  | lexicalError line fault =>
      [("line", Text.decimal line.toNat), ("error", fault.describe.inline)]
  | finished tokens errors lines =>
      [("tokens", Text.decimal tokens), ("errors", Text.decimal errors),
        ("lines", Text.decimal lines.toNat)]

/-- The names of what a record carries. The message counts as a field. -/
def fieldNames (record : Record) : List Text :=
  "message".toList :: record.fields.map (·.1.toList)

/-- A record as it is shown, without a line end. Values stand there as they are. -/
def listing (record : Record) : Text :=
  record.level.name.toList ++ [' '] ++ record.message.toList ++
    record.fields.flatMap fun field => [' '] ++ field.1.toList ++ ['='] ++ field.2

end Record

/-- The name under which a filter can ask for the records of a scan. -/
def origin : Text :=
  "loxscan::lexer".toList

end LoxTokens.Log
