import FleetWatch.Text.Split
import FleetWatch.Text.Utf8

/-!
# File trees

The files and folders below a working folder, and what a path leads to.
-/

namespace FleetWatch

inductive FileState where
  | absent
  /-- Something is there, but a look at the path does not get as far. -/
  | hidden (reason : String)
  /-- A look finds it, and reading fails. -/
  | unreadable (reason : String)
  | file (content : Bytes)
deriving DecidableEq, Repr, Inhabited

namespace FileState

/-- A folder can neither be read nor written as a file is. -/
def folder : FileState := .unreadable "Is a directory (os error 21)"

/-- A look at the path finds something; what it does not get to is to it as if nothing were there. -/
def isSeen : FileState → Bool
  | absent | hidden _ => false
  | unreadable _ | file _ => true

def read : FileState → Except String Bytes
  | absent => .error "No such file or directory (os error 2)"
  | hidden reason | unreadable reason => .error reason
  | file content => .ok content

end FileState

/-- The entries of a working folder; the folders above an entry exist too. -/
structure FileTree where
  files : List (List String × Bytes) := []
  folders : List (List String) := []
deriving Inhabited

namespace FileTree

def names (path : String) : List String := (splitAtChar '/' path.toList).map String.ofList

def isFolder (tree : FileTree) (place : List String) : Bool :=
  place.isEmpty || tree.folders.any (place.isPrefixOf ·) ||
    tree.files.any fun f => place.isPrefixOf f.1 && place ≠ f.1

def file? (tree : FileTree) (place : List String) : Option Bytes :=
  (tree.files.reverse.find? (·.1 = place)).map (·.2)

def follow (tree : FileTree) : List String → List String → Option (List String)
  | place, [] => some place
  | place, name :: rest =>
    if !tree.isFolder place then none
    else if name = "" ∨ name = "." then follow tree place rest
    else if name = ".." then follow tree place.dropLast rest
    else follow tree (place ++ [name]) rest

/-- What stands at a place; a path that leads to no place leads to nothing. -/
def stateAt (tree : FileTree) : Option (List String) → FileState
  | none => .absent
  | some place =>
    if tree.isFolder place then .folder
    else
      match tree.file? place with
      | some content => .file content
      | none => .absent

/-- What a path names; a path from the root leads out of the tree. -/
def find (tree : FileTree) (path : String) : FileState :=
  tree.stateAt (if path = "" ∨ path.startsWith "/" then none else tree.follow [] (names path))

/-- The bytes of the longest path that is followed. -/
def maxPathBytes : Nat := 4095

def isTooLong (path : String) : Bool := maxPathBytes < (Utf8.encode path).length

def tooLong : String := "File name too long (os error 36)"

/-- What a path leads to. -/
def look (tree : FileTree) (path : String) : FileState :=
  match tree.find path with
  | .absent => .absent
  | state => if isTooLong path then .hidden tooLong else state

/-- The lines of a text; a line end at the very end begins no line. -/
def linesOf (s : String) : List String :=
  let lines := (splitAtChar '\n' s.toList).map String.ofList
  if lines.getLast? = some "" then lines.dropLast else lines

end FileTree
end FleetWatch
