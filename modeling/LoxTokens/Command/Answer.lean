import LoxTokens.Command.Line
import LoxTokens.Text.Lines
import LoxTokens.Text.Plain
import LoxTokens.Text.Similarity

/-!
# Answers

Help, the version and the complaint about a misuse are given at once, without a run. They are for a
page: arguments and settings are shown in them as plain texts. A complaint about a name or a value
that nearly makes sense says what was perhaps meant, and one that comes late on the line shows the
usage that is left.
-/

namespace LoxTokens.Command

/-- The answer to a request for the version. -/
def versionText : Text :=
  "loxscan 0.1.0\n".toList

/-- The column at which the explanations of the options start. -/
def explanationColumn : Nat :=
  17

/-- The explanation of the debug option, which shows the value of the debug setting. -/
def debugExplanation (setting : Option Text) : Text :=
  Text.hang explanationColumn
    ("Log every token and diagnostic to stderr [env: LOXSCAN_DEBUG=".toList ++
      setting.getD [] ++ [']'])

/-- The answer to a request for help. A control sequence that the debug setting leaves open takes in
the line end and the indent before the next option. -/
def helpText (setting : Option Text) : Text :=
  "Print the tokens of a Lox script\n\n".toList ++
  "Usage: loxscan [OPTIONS] [FILENAME]\n\n".toList ++
  "Arguments:\n".toList ++
  "  [FILENAME]  Script to tokenize; starts a prompt when omitted\n\n".toList ++
  "Options:\n".toList ++
  "  -d, --debug    ".toList ++ Text.plain (debugExplanation setting ++ "\n  ".toList) ++
  "-h, --help     Print help\n".toList ++
  "  -V, --version  Print version\n".toList

/-! ### Usage lines -/

/-- The line that says how the command is used. -/
def usage (parts : List Text) : Text :=
  "\nUsage: loxscan".toList ++ parts.flatMap (' ' :: ·) ++ ['\n']

def generalUsage : Text :=
  usage ["[OPTIONS]".toList, "[FILENAME]".toList]

/-- The usage around a flag that takes no value. Once debug mode has been asked for, whatever else
can be given is shown as one choice. -/
def Flag.usage (flag : Flag) (before : Wishes) : Text :=
  if before.debug then
    let choice := "<FILENAME|--debug>".toList
    Command.usage (if flag = .debug then [choice] else [flag.spelling, choice])
  else
    Command.usage [flag.spelling, "[FILENAME]".toList]

/-- The usage that keeps to what the line has asked for, with the flag that was perhaps meant. -/
def Wishes.usage (before : Wishes) (meant : Option Flag) : Text :=
  let flags := Flag.all.filter fun flag => (flag = .debug ∧ before.debug) ∨ meant = some flag
  match flags, before.filename with
  | [], none => generalUsage
  | _, none => Command.usage (flags.map Flag.spelling ++ ["[FILENAME]".toList])
  | _, some _ => Command.usage (flags.map Flag.spelling ++ ["<FILENAME>".toList])

/-! ### Complaints -/

namespace Misuse

/-- A text between apostrophes, without its controls. -/
def named (s : Text) : Text :=
  ['\''] ++ Text.plain s ++ ['\'']

/-- The hint that something similar exists. -/
def similarHint (what s : Text) : Text :=
  "\n  tip: a similar ".toList ++ what ++ " exists: ".toList ++ named s ++ ['\n']

/-- The complaint about an option that does not exist. If no flag was meant, the argument may have
been meant as a file name. -/
def unknown (option : Text) (meant : Option Flag) (usage : Text) : Text :=
  "unexpected argument ".toList ++ named option ++ " found\n".toList ++
    (match meant with
    | some flag => similarHint "argument".toList flag.spelling
    | none =>
        "\n  tip: to pass ".toList ++ named option ++ " as a value, use ".toList ++
          named ("-- ".toList ++ option) ++ ['\n']) ++
    usage

/-- The values that the debug setting can have. -/
def settingValues : List Text :=
  ["true".toList, "false".toList]

/-- The line that says which values the debug setting can have. -/
def possibleValues : Text :=
  "  [possible values: true, false]\n".toList

/-- What is wrong, without the closing hint. -/
def complaint : Misuse → Text
  | surplus argument =>
      "unexpected argument ".toList ++ named argument ++ " found\n".toList ++ generalUsage
  | unknownLetter letter => unknown ['-', letter] none generalUsage
  | unknownName name before =>
      let meant := Text.closest? Flag.name Flag.all name
      unknown (['-', '-'] ++ name) meant (before.usage meant)
  | repeatedDebug =>
      "the argument '--debug' cannot be used multiple times\n".toList ++ generalUsage
  | valueGiven flag value before =>
      "unexpected value ".toList ++ named value ++ " for ".toList ++ named flag.spelling ++
        " found; no more were expected\n".toList ++ flag.usage before
  | invalidDebug value =>
      "invalid value ".toList ++ named value ++ " for '--debug'\n".toList ++ possibleValues ++
        (match Text.closest? id settingValues value with
        | some meant => similarHint "value".toList meant
        | none => [])
  | emptyDebug =>
      "a value is required for '--debug' but none was supplied\n".toList ++ possibleValues

def message (fault : Misuse) : Text :=
  "error: ".toList ++ fault.complaint ++ "\nFor more information, try '--help'.\n".toList

end Misuse

end LoxTokens.Command
