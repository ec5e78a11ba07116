/-!
# Files

What a program sees of the files around it, as functions of their paths, and the
wording of what can go wrong with a file.
-/

namespace SchemaDeref

/-- Why a file cannot be read or written. -/
inductive FileFault where
  | missing
  /-- A directory is no file. -/
  | directory
  /-- The path leads on behind a file. -/
  | notADirectory
  | denied
  | nameTooLong
  /-- No path has a character of code zero. -/
  | zeroInPath
  /-- The content is no text. -/
  | notText
  /-- Any other cause, in the words of the system. -/
  | other (message : String)
deriving DecidableEq, Repr

def FileFault.message : FileFault → String
  | .missing => "No such file or directory (os error 2)"
  | .directory => "Is a directory (os error 21)"
  | .notADirectory => "Not a directory (os error 20)"
  | .denied => "Permission denied (os error 13)"
  | .nameTooLong => "File name too long (os error 36)"
  | .zeroInPath => "file name contained an unexpected NUL byte"
  | .notText => "stream did not contain valid UTF-8"
  | .other message => message

/-- A view of the files: their contents, and why a path cannot be written to. -/
structure Files where
  read : String → Except FileFault ByteArray
  refusal : String → Option FileFault

namespace Files

/-- The text of a file. -/
def text (files : Files) (path : String) : Except FileFault String := do
  match String.fromUTF8? (← files.read path) with
  | some text => return text
  | none => throw .notText

/-- Whether a file or a directory is found at a path. -/
def isThere (files : Files) (path : String) : Bool :=
  match files.read path with
  | .ok _ | .error .directory | .error .denied => true
  | .error _ => false

end Files

end SchemaDeref
