import RecordSchema.Path
import RecordSchema.Text.Utf8

/-! # Files

A tree of directories and files, with one directory to work in. Every lookup goes along the path
step by step, so a step upwards out of something that is no directory fails as any other step would.
What is locked is closed to the program: it may neither read nor write a locked file, and in a locked
directory it can neither find nor make anything.
-/
namespace RecordSchema

inductive Content where
  | text (s : String)
  | binary (bytes : List UInt8)
deriving DecidableEq, Repr

def Content.decode : Content → Except Text.Utf8.Fault String
  | .text s => .ok s
  | .binary bytes => Text.Utf8.decode bytes

inductive FileError where
  | noEntry
  | denied
  | isDirectory
  | notDirectory
  | nameTooLong
deriving DecidableEq, Repr

namespace FileError

def number : FileError → Nat
  | noEntry => 2
  | denied => 13
  | notDirectory => 20
  | isDirectory => 21
  | nameTooLong => 36

def cause : FileError → String
  | noEntry => "No such file or directory"
  | denied => "Permission denied"
  | notDirectory => "Not a directory"
  | isDirectory => "Is a directory"
  | nameTooLong => "File name too long"

end FileError

/-- A place in the tree: the names from the root down. -/
abbrev Place := List String

structure FileTree where
  files : List (Place × Content)
  directories : List Place
  work : Place
  locked : List Place := []
deriving Repr

inductive FileNode where
  | file (c : Content)
  | lockedFile
  | directory
deriving DecidableEq, Repr

namespace FileTree

/-- A directory is one that was made, or that something lies in. -/
def isDirectoryAt (t : FileTree) (p : Place) : Bool :=
  p.isPrefixOf t.work || t.directories.any p.isPrefixOf ||
    t.files.any fun f => p.isPrefixOf f.1 && p != f.1

def nodeAt? (t : FileTree) (p : Place) : Option FileNode :=
  match t.files.lookup p with
  | some c => some (if t.locked.contains p then .lockedFile else .file c)
  | none => if t.isDirectoryAt p then some .directory else none

/-- The most bytes of one name. -/
def nameLimit : Nat := 255

/-- The most bytes of a whole path. -/
def pathLimit : Nat := 4095

/-- The place that a path leads to from another place; only the last name may be missing. -/
def follow (t : FileTree) : Place → List String → Except FileError Place
  | p, [] => .ok p
  | p, part :: parts =>
    match t.nodeAt? p with
    | none => .error .noEntry
    | some (.file _) | some .lockedFile => .error .notDirectory
    | some .directory =>
      if t.locked.contains p then .error .denied
      else if part = ".." then follow t p.dropLast parts
      else if nameLimit < part.utf8ByteSize then .error .nameTooLong
      else follow t (p ++ [part]) parts

def locate (t : FileTree) (p : Path) : Except FileError Place :=
  if pathLimit < p.text.utf8ByteSize then .error .nameTooLong
  else t.follow (if p.root = "" then t.work else []) p.parts

def node? (t : FileTree) (p : Path) : Option FileNode :=
  match t.locate p with
  | .ok place => t.nodeAt? place
  | .error _ => none

/-- Whether a path is written as that of a directory. -/
def asksForDirectory (s : String) : Bool :=
  decide (s.toList.getLast? = some '/') || decide ((Text.splitAtChar '/' s).getLast? = some ".")

/-- The node that a path names as it is written. -/
def nodeOfText? (t : FileTree) (s : String) : Option FileNode :=
  if s = "" then none
  else match t.node? (.ofText s) with
    | some .directory => some .directory
    | some node => if asksForDirectory s then none else some node
    | none => none

/-- Whether a path leads to a file. Only a locked directory on the way and a name that is too long
make the question an error. -/
def isFile (t : FileTree) (p : Path) : Except FileError Bool :=
  match t.locate p with
  | .ok place =>
    match t.nodeAt? place with
    | some (.file _) | some .lockedFile => .ok true
    | _ => .ok false
  | .error .denied => .error .denied
  | .error .nameTooLong => .error .nameTooLong
  | .error _ => .ok false

def read (t : FileTree) (p : Path) : Except FileError Content := do
  match t.nodeAt? (← t.locate p) with
  | some (.file c) => .ok c
  | some .lockedFile => .error .denied
  | some .directory => .error .isDirectory
  | none => .error .noEntry

/-- Put a text into a file, which is made if it is not there, and open then. -/
def write (t : FileTree) (p : Path) (s : String) : Except FileError FileTree := do
  let place ← t.locate p
  match t.nodeAt? place with
  | some .directory => .error .isDirectory
  | some .lockedFile => .error .denied
  | some (.file _) =>
    .ok { t with files := t.files.map fun f => if f.1 = place then (place, .text s) else f }
  | none =>
    .ok { t with
      files := t.files ++ [(place, .text s)]
      locked := t.locked.filter fun q => q != place }

/-- The texts that one tree holds and another does not hold in the same place. -/
def newTexts (old new : FileTree) : List (Place × String) :=
  new.files.filterMap fun f =>
    match f.2 with
    | .text s => if old.files.lookup f.1 = some (.text s) then none else some (f.1, s)
    | .binary _ => none

end FileTree

end RecordSchema
