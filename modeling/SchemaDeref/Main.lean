import SchemaDeref.Command.Program

/-!
# The executable

The only module that touches files. A run sees the files that have been looked up
before it; if it looked for others, these are looked up and the run is repeated.
-/

namespace SchemaDeref.Executable

/-- The fault of a failed operation on a file. -/
def faultOf : IO.Error → FileFault
  | .noFileOrDirectory .. => .missing
  | .inappropriateType _ 21 _ => .directory
  | .inappropriateType _ 20 _ => .notADirectory
  | .permissionDenied .. => .denied
  | .invalidArgument _ 36 _ => .nameTooLong
  | error => .other (toString error)

/-- Looks up the content of a file. -/
def lookUp (path : String) : IO (Except FileFault ByteArray) := do
  if path.toList.contains '\x00' then return .error .zeroInPath
  try return .ok (← IO.FS.readBinFile path)
  catch error => return .error (faultOf error)

/-- Files that have been looked up. -/
abbrev Known := List (String × Except FileFault ByteArray)

/-- The known files; all others are missing. -/
def filesOf (known : Known) (refusal : String → Option FileFault) : Files where
  read path := (known.lookup path).getD (.error .missing)
  refusal := refusal

/-- Repeats a run until it looks for no files but the known ones. -/
partial def settle (run : Files → Ending) (known : Known) :
    IO (Known × Ending) := do
  let ending := run (filesOf known fun _ => none)
  let others : List String :=
    ending.read.filter fun path => (known.lookup path).isNone
  if others.isEmpty then return (known, ending)
  let found ← others.mapM fun path => do return (path, ← lookUp path)
  settle run (found ++ known)

/-- Writes what a run wants to have written. If that fails, the run ends as one that
was refused to write. -/
def write (run : Files → Ending) (known : Known) (ending : Ending) :
    IO Ending := do
  match ending.written with
  | none => return ending
  | some (path, text) =>
    try
      IO.FS.writeFile path text
      return ending
    catch error => return run (filesOf known fun _ => some (faultOf error))

end SchemaDeref.Executable

open SchemaDeref in
/-- Runs the program and gives its exit status. -/
def main (words : List String) : IO UInt32 := do
  let values ← Settings.variableNames.mapM fun name =>
    do return (name, ← IO.getEnv name)
  let environment name := (values.lookup name).join
  let run files := Program.run files environment words
  let (known, ending) ← Executable.settle run []
  let ending ← Executable.write run known ending
  ending.log.forM fun line => IO.eprintln line
  IO.print ending.stdout
  return ending.status.toUInt32
