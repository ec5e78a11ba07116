import SchemaDeref.Text.Basic

/-!
# Paths

Paths are texts with slashes. What counts of a path are its parts: an empty part and
a dot stand for nothing, two dots for the directory above.
-/

namespace SchemaDeref.Path

/-! ## Parts -/

def isPart (piece : List Char) : Bool := piece != [] && piece != ['.']

/-- The pieces that stand for something. -/
def parts (path : String) : List String :=
  ((Text.splitOn '/' path.toList).filter isPart).map String.ofList

def isAbsolute (path : String) : Bool := path.toList.head? == some '/'

/-- The steps of a path, lone dots among them. -/
def steps (path : String) : List String :=
  ((Text.splitOn '/' path.toList).filter (!·.isEmpty)).map String.ofList

/-- A slash at the end says that the path leads to a directory. -/
def endsInSlash (path : String) : Bool := path.toList.getLast? == some '/'

/-! ## Names -/

/-- The last part, if it is a name. -/
def name? (path : String) : Option String := (parts path).getLast?.filter (· != "..")

/-- What follows the last dot of a name, unless nothing stands before that dot. -/
def extension? (path : String) : Option String := do
  let name := (← name? path).toList
  let ending := name.reverse.takeWhile (· != '.')
  let stem := (name.reverse.drop ending.length).drop 1
  if stem.isEmpty then none else return String.ofList ending.reverse

/-! ## Building paths -/

/-- Drops slashes and lone dots from the front of a reversed path. A dot at the
beginning of the path and its first slash stay. -/
def dropEnd : List Char → List Char
  | ['/'] => ['/']
  | '/' :: rest => dropEnd rest
  | ['.', '/'] => ['/']
  | '.' :: '/' :: rest => dropEnd rest
  | rest => rest

/-- The text of a path without the slashes and the lone dots at its end. -/
def trimEnd (path : List Char) : List Char := (dropEnd path.reverse).reverse

/-- The path without its last part; empty for a single part. -/
def parent (path : String) : String :=
  let front := ((trimEnd path.toList).reverse.dropWhile (· != '/')).reverse
  String.ofList (trimEnd front)

/-- A path inside of a directory; an absolute one stays as it is. -/
def join (directory path : String) : String :=
  if isAbsolute path || directory.isEmpty then path
  else if directory.toList.getLast? == some '/' then directory ++ path
  else directory ++ "/" ++ path

end SchemaDeref.Path
