import SchemaDeref.Files.Basic
import SchemaDeref.Files.Path

/-!
# Files in memory

A directory with what lies below it, given by its files alone: a directory is where
a file lies below. Relative paths start at the directory. Of what is above it, and
of the root, nothing is known but that these are directories.

A path is walked step by step, and every step but the last must lead to a directory.
A slash at the end asks for a directory too; where a file is to be written, nothing
else is found then.
-/

namespace SchemaDeref

/-- Files by the steps from the directory to them. -/
abbrev Tree := List (List String × ByteArray)

namespace Tree

/-! ## Places -/

/-- What is at a place. -/
inductive Spot where
  | file (content : ByteArray)
  | directory
  /-- Nothing is there, in a directory that is. -/
  | free

/-- The step to the root, at the front of a place. -/
def root : String := "/"

/-- The step to the directory above. -/
def up : String := ".."

/-- Directories that need no file below them. -/
def isGiven (place : List String) : Bool :=
  place.all fun step => step == up || step == root

def spot (tree : Tree) (place : List String) : Spot :=
  match tree.lookup place with
  | some content => .file content
  | none =>
    if isGiven place || tree.any fun (p, _) => place.isPrefixOf p then .directory
    else .free

/-- The place a step leads to. Above the root is the root. -/
def step (place : List String) (part : String) : List String :=
  if part == "." then place
  else if part == up then
    if place == [root] then place
    else if isGiven place then place ++ [up]
    else place.dropLast
  else place ++ [part]

/-! ## Walking -/

/-- The longest name, in bytes. -/
def longestName : Nat := 255

/-- The longest path, in bytes. -/
def longestPath : Nat := 4095

/-- Why a text cannot be a path at all. -/
def pathFault (path : String) : Option FileFault :=
  if path.toList.contains '\x00' then some .zeroInPath
  else if path.isEmpty then some .missing
  else if path.utf8ByteSize > longestPath then some .nameTooLong
  else none

/-- The place behind steps, with what is there. -/
def lookup? (tree : Tree) (place : List String) (part : String) :
    Except FileFault (List String × Spot) :=
  if part.utf8ByteSize > longestName then .error .nameTooLong
  else .ok (step place part, tree.spot (step place part))

/-- Walks on from a directory to another one. -/
def walk (tree : Tree) (place : List String) :
    List String → Except FileFault (List String)
  | [] => .ok place
  | part :: rest => do
    match ← tree.lookup? place part with
    | (next, .directory) => walk tree next rest
    | (_, .file _) => throw .notADirectory
    | (_, .free) => throw .missing

/-- The directory in which a path ends, and the last step in there; the root has
none. -/
def approach (tree : Tree) (path : String) :
    Except FileFault (List String × Option String) := do
  if let some fault := pathFault path then throw fault
  let start := if Path.isAbsolute path then [root] else []
  let steps := Path.steps path
  return (← tree.walk start steps.dropLast, steps.getLast?)

/-! ## Reading and writing -/

def read (tree : Tree) (path : String) : Except FileFault ByteArray := do
  match ← tree.approach path with
  | (_, none) => throw .directory
  | (place, some last) =>
    match ← tree.lookup? place last with
    | (_, .file content) =>
      if Path.endsInSlash path then throw .notADirectory else return content
    | (_, .directory) => throw .directory
    | (_, .free) => throw .missing

/-- The place of a file that a path can be written to. -/
def target (tree : Tree) (path : String) : Except FileFault (List String) := do
  match ← tree.approach path with
  | (_, none) => throw .directory
  | (place, some last) =>
    if Path.endsInSlash path || last == "." || last == up then throw .directory
    match ← tree.lookup? place last with
    | (_, .directory) => throw .directory
    | (next, _) => return next

/-- Why a path cannot be written to. -/
def refusal (tree : Tree) (path : String) : Option FileFault :=
  match tree.target path with
  | .ok _ => none
  | .error fault => some fault

/-- Puts a content in the place of a file. -/
def put (tree : Tree) (place : List String) (content : ByteArray) : Tree :=
  (place, content) :: tree.filter fun (p, _) => p != place

/-- Puts a text into the file at a path, if it can be written to. -/
def write (tree : Tree) (path text : String) : Tree :=
  match tree.target path with
  | .ok place => tree.put place text.toUTF8
  | .error _ => tree

/-- Adds a file by its path. -/
def add (tree : Tree) (path : String) (content : ByteArray) : Tree :=
  tree.put (Path.parts path) content

/-- The tree as a view of files. -/
def files (tree : Tree) : Files := ⟨tree.read, tree.refusal⟩

end Tree

end SchemaDeref
