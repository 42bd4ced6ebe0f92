import LoxTokens.Text.Quoted

/-!
# Descriptions

A description names a value by its parts: words, and named groups of parts in brackets. It has two
layouts. On one line, parts are separated by a comma and a blank; spread out, every part of a group
has a line of its own, four blanks deeper than the group, and ends in a comma.
-/

namespace LoxTokens

inductive Brackets where
  /-- Positional parts: `Some(1)`. -/
  | round
  /-- Items of a list: `[1, 2]`. -/
  | square
  /-- Labelled parts: `Point { x: 1 }`. -/
  | curly
deriving DecidableEq

/-- What stands between a group's name and its parts. -/
def Brackets.opening : Brackets → Text
  | .round => ['(']
  | .square => ['[']
  | .curly => [' ', '\x7b']

def Brackets.closing : Brackets → Text
  | .round => [')']
  | .square => [']']
  | .curly => ['\x7d']

/-- What separates the brackets from the parts when all stand on one line. -/
def Brackets.padding : Brackets → Text
  | .curly => [' ']
  | _ => []

/-- A value by its parts. -/
inductive Description where
  /-- A word, a number or a quotation. -/
  | word (text : Text)
  /-- A part under its label. -/
  | labelled (label : Text) (value : Description)
  /-- A named group of parts. -/
  | group (name : Text) (brackets : Brackets) (parts : List Description)

namespace Description

def number (n : Nat) : Description :=
  .word (Text.decimal n)

def quoted (s : Text) : Description :=
  .word (Quoted.text s)

def applied (name : String) (part : Description) : Description :=
  .group name.toList .round [part]

def list (items : List Description) : Description :=
  .group [] .square items

def record (name : String) (fields : List (String × Description)) : Description :=
  .group name.toList .curly (fields.map fun field => .labelled field.1.toList field.2)

/-- A value that may be missing. -/
def optional : Option Description → Description
  | none => .word "None".toList
  | some part => applied "Some" part

/-! ### The two layouts -/

mutual

/-- The description on one line. -/
def inline : Description → Text
  | .word text => text
  | .labelled label value => label ++ ": ".toList ++ inline value
  | .group name brackets parts =>
      name ++ brackets.opening ++ brackets.padding ++ inlineParts parts ++ brackets.padding
        ++ brackets.closing

/-- Parts of a group on one line. -/
def inlineParts : List Description → Text
  | [] => []
  | [part] => inline part
  | part :: next :: parts => inline part ++ ", ".toList ++ inlineParts (next :: parts)

end

def indentation (depth : Nat) : Text :=
  List.replicate (4 * depth) ' '

mutual

/-- The description spread out, its first line being at `depth` already. -/
def spread (depth : Nat) : Description → Text
  | .word text => text
  | .labelled label value => label ++ ": ".toList ++ spread depth value
  | .group name brackets [] => name ++ brackets.opening ++ brackets.closing
  | .group name brackets (part :: parts) =>
      name ++ brackets.opening ++ ['\n'] ++ spreadParts (depth + 1) (part :: parts)
        ++ indentation depth ++ brackets.closing

/-- Parts of a group, each on lines of its own. -/
def spreadParts (depth : Nat) : List Description → Text
  | [] => []
  | part :: parts => indentation depth ++ spread depth part ++ [',', '\n'] ++ spreadParts depth parts

end

/-- The description spread out over several lines. -/
def outline (d : Description) : Text :=
  spread 0 d

end Description

end LoxTokens
