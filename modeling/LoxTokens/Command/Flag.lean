import LoxTokens.Text.Basic

/-!
# Flags

A flag is an option that stands for itself and takes no value.
-/

namespace LoxTokens.Command

inductive Flag where
  | debug
  | help
  | version
deriving DecidableEq

namespace Flag

/-- The long name of a flag. -/
def name : Flag → Text
  | debug => "debug".toList
  | help => "help".toList
  | version => "version".toList

def all : List Flag :=
  [debug, help, version]

def ofName? (name : Text) : Option Flag :=
  all.find? (·.name = name)

/-- A flag as it stands on a command line. -/
def spelling (flag : Flag) : Text :=
  ['-', '-'] ++ flag.name

end Flag

end LoxTokens.Command
