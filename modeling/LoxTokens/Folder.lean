import LoxTokens.Text.Utf8

/-!
# Folders

A folder holds files and empty folders under distinct names, and lies in a folder of the root. A
path is followed step by step from the folder or from the root. Outside the folder only what every
system has is known: the standard folders of the root, and the files and links through which a
process reaches the null device, its standard input and its own folder. Only a file can be read, and
neither a path nor a step of it may be too long to be followed.
-/

namespace LoxTokens

/-- What a name in a folder stands for. -/
inductive Item where
  | file (content : Bytes)
  | folder
deriving DecidableEq

/-- A name in a folder and what it stands for. -/
structure Entry where
  name : Text
  item : Item
deriving DecidableEq

/-- The contents of a folder, in any order. -/
abbrev Folder := List Entry

/-- Why a path could not be read. -/
inductive PathFault where
  | notFound
  | notADirectory
  | isADirectory
  | nameTooLong
deriving DecidableEq

namespace PathFault

def all : List PathFault :=
  [notFound, notADirectory, isADirectory, nameTooLong]

/-- The number by which a system knows a fault. -/
def code : PathFault → Nat
  | notFound => 2
  | notADirectory => 20
  | isADirectory => 21
  | nameTooLong => 36

def kind : PathFault → String
  | notFound => "NotFound"
  | notADirectory => "NotADirectory"
  | isADirectory => "IsADirectory"
  | nameTooLong => "InvalidFilename"

def message : PathFault → String
  | notFound => "No such file or directory"
  | notADirectory => "Not a directory"
  | isADirectory => "Is a directory"
  | nameTooLong => "File name too long"

end PathFault

namespace Folder

/-- Where a path has led to. -/
inductive Place where
  /-- The folder from which paths start. -/
  | here
  /-- One of the folders in it. -/
  | inner
  /-- A folder of the root of which no more is known, such as the one around the folder itself. -/
  | outer
  | root
  | devices
  | processes
  /-- What the system tells a process about itself. -/
  | process
  /-- The open files of the process. -/
  | descriptors
  | file (content : Bytes)
deriving DecidableEq

/-- The number of bytes that a step of a path may have. -/
def stepLimit : Nat :=
  255

/-- The number of bytes that a path may have. -/
def pathLimit : Nat :=
  4095

/-- The folders that every root has and of which no more is known. -/
def standardNames : List Text :=
  ["bin".toList, "boot".toList, "etc".toList, "home".toList, "lib".toList, "media".toList,
    "mnt".toList, "opt".toList, "root".toList, "run".toList, "sbin".toList, "srv".toList,
    "sys".toList, "tmp".toList, "usr".toList, "var".toList]

/-- What has a name in a place that is no file, for a process with `input` on its standard input. -/
def lookUp (folder : Folder) (input : Bytes) (place : Place) (name : Text) : Option Place :=
  match place with
  | .here =>
      (folder.find? (·.name = name)).map fun entry =>
        match entry.item with
        | .file content => .file content
        | .folder => .inner
  | .root =>
      if name = "dev".toList then some .devices
      else if name = "proc".toList then some .processes
      else if name ∈ standardNames then some .outer
      else none
  | .devices =>
      if name = "null".toList then some (.file [])
      else if name = "stdin".toList then some (.file input)
      else if name = "fd".toList then some .descriptors
      else none
  | .processes => if name = "self".toList then some .process else none
  | .process =>
      if name = "fd".toList then some .descriptors
      else if name = "cwd".toList then some .here
      else if name = "root".toList then some .root
      else none
  | .descriptors => if name = ['0'] then some (.file input) else none
  | .inner | .outer | .file _ => none

/-- The folder around a place. -/
def parent : Place → Place
  | .inner => .here
  | .here => .outer
  | .descriptors => .process
  | .process => .processes
  | _ => .root

/-- Follows one step of a path. An empty step stays, but only in a folder. -/
def step (folder : Folder) (input : Bytes) (place : Place) (name : Text) :
    Except PathFault Place :=
  match place with
  | .file _ => .error .notADirectory
  | _ =>
      if name = [] ∨ name = ['.'] then
        .ok place
      else if name = ['.', '.'] then
        .ok (parent place)
      else if stepLimit < Utf8.size name then
        .error .nameTooLong
      else
        match folder.lookUp input place name with
        | some found => .ok found
        | none => .error .notFound

def steps (path : Text) : List Text :=
  path.splitOn '/'

/-- Follows a path. The empty path leads nowhere, and one that begins with a slash starts at the
root. -/
def follow (folder : Folder) (input : Bytes) (path : Text) : Except PathFault Place :=
  match path with
  | [] => .error .notFound
  | c :: _ =>
      if pathLimit < Utf8.size path then
        .error .nameTooLong
      else
        (steps path).foldlM (folder.step input) (if c = '/' then .root else .here)

/-- The content of the file to which a path leads. -/
def read (folder : Folder) (input : Bytes) (path : Text) : Except PathFault Bytes := do
  match ← folder.follow input path with
  | .file content => .ok content
  | _ => .error .isADirectory

end Folder

end LoxTokens
