import LoxTokens.Command.Flag

/-!
# The command line

Arguments are read from left to right, and the first one that settles the matter wins: a request for
help, a request for the version, or an argument that makes no sense. Only a line that is read to its
end lets the environment have a say, and only if the line itself does not ask for debug mode.
-/

namespace LoxTokens.Command

/-- What a command line asks for, as far as it has been read. -/
structure Wishes where
  debug : Bool
  filename : Option Text
deriving DecidableEq

/-- What can be wrong with a command line or with the setting that stands in for its flag. -/
inductive Misuse where
  /-- A second file name. -/
  | surplus (argument : Text)
  /-- A one-letter option that does not exist. -/
  | unknownLetter (letter : Char)
  /-- A long option that does not exist, after what the line has asked for before it. -/
  | unknownName (name : Text) (before : Wishes)
  /-- Debug mode asked for twice. -/
  | repeatedDebug
  /-- A value for a flag, after what the line has asked for before it. -/
  | valueGiven (flag : Flag) (value : Text) (before : Wishes)
  /-- A debug setting that is neither true nor false. -/
  | invalidDebug (value : Text)
  /-- A debug setting without a value. -/
  | emptyDebug
deriving DecidableEq

/-- Why the reading of a command line stops early. -/
inductive Halt where
  | help
  | version
  | misuse (fault : Misuse)
deriving DecidableEq

namespace Wishes

def nothing : Wishes :=
  ⟨false, none⟩

/-- Asks for debug mode, which can be done once. -/
def askDebug (wishes : Wishes) : Except Halt Wishes :=
  if wishes.debug then
    .error (.misuse .repeatedDebug)
  else
    .ok { wishes with debug := true }

/-- Names the file, which can be done once. -/
def nameFile (wishes : Wishes) (argument : Text) : Except Halt Wishes :=
  match wishes.filename with
  | none => .ok { wishes with filename := some argument }
  | some _ => .error (.misuse (.surplus argument))

/-- Reads a cluster of one-letter options. -/
def readCluster (wishes : Wishes) : Text → Except Halt Wishes
  | [] => .ok wishes
  | 'd' :: letters => do (← wishes.askDebug).readCluster letters
  | 'h' :: _ => .error .help
  | 'V' :: _ => .error .version
  | letter :: _ => .error (.misuse (.unknownLetter letter))

/-- Reads an option by its long name, with the value attached to it if there is one. -/
def readLong (wishes : Wishes) (name : Text) (value : Option Text) : Except Halt Wishes :=
  match Flag.ofName? name, value with
  | none, _ => .error (.misuse (.unknownName name wishes))
  | some flag, some value => .error (.misuse (.valueGiven flag value wishes))
  | some .debug, none => wishes.askDebug
  | some .help, none => .error .help
  | some .version, none => .error .version

/-- Reads one argument. A lone hyphen and the empty argument are file names. -/
def readArgument (wishes : Wishes) (argument : Text) : Except Halt Wishes :=
  match argument with
  | '-' :: '-' :: option =>
      match option.span (· != '=') with
      | (name, []) => wishes.readLong name none
      | (name, _ :: value) => wishes.readLong name (some value)
  | '-' :: letter :: letters => wishes.readCluster (letter :: letters)
  | _ => wishes.nameFile argument

/-- Reads arguments up to the end. After two hyphens alone, every argument is a file name. -/
def readAll (wishes : Wishes) : List Text → Except Halt Wishes
  | [] => .ok wishes
  | argument :: arguments =>
      if argument = ['-', '-'] then
        arguments.foldlM nameFile wishes
      else do
        (← wishes.readArgument argument).readAll arguments

/-- Whether debug mode is on. The setting counts only if the command line does not ask for it. -/
def debugMode (wishes : Wishes) (setting : Option Text) : Except Halt Bool :=
  if wishes.debug then
    .ok true
  else
    match setting with
    | none => .ok false
    | some value =>
        if value = "true".toList then .ok true
        else if value = "false".toList then .ok false
        else if value = [] then .error (.misuse .emptyDebug)
        else .error (.misuse (.invalidDebug value))

end Wishes

end LoxTokens.Command
